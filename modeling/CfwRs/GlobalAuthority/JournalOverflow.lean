import CfwRs.GlobalAuthority.JournalTamper

namespace CfwRs.GlobalAuthority

open Lib Lib.Checked Lib.Durable AuthorityJournalCodec AuthorityJournalRecoveryReducer

theorem mapError_eq_error {ε ε' α : Type} {c : Except ε α} {f : ε → ε'} {e : ε'} :
    c.mapError f = .error e ↔ ∃ e', c = .error e' ∧ f e' = e := by
  cases c <;> simp [Except.mapError]

variable {decoder : JSONDecoder}

variable (decoder) in
/-- However much of the journal is read, only the last record has the greatest revision. -/
def Roomy (journal : Bytes) : Prop :=
  ∀ n records, decodeRecords decoder (journal.take n) = .ok records →
    ∀ r ∈ records.dropLast, r.state.revision < maxWord

namespace AuthorityJournalRecoveryReducer

theorem avoids_thrown {ε α : Type} {x : Except ε α} : Avoids .trap (thrown x) := by
  cases x <;> simp [thrown, Except.mapError, Avoids]

theorem validatePairs_avoids {states} (h : ∀ state ∈ states.dropLast, state.revision < maxWord) :
    Avoids .trap (validatePairs states) := by
  induction states with
  | nil => exact avoids_ok ()
  | cons prior states ih =>
    cases states with
    | nil => exact avoids_ok ()
    | cons next rest =>
      rw [List.dropLast_cons_cons, List.forall_mem_cons] at h
      have hsucc := checkedSucc_eq_some.mpr ⟨h.1, rfl⟩
      rw [validatePairs, hsucc]
      exact avoids_thrown.bind fun _ _ ↦ (avoids_ok _).bind fun _ _ ↦ avoids_thrown.bind
        fun _ _ ↦ avoids_thrown.bind fun _ _ ↦ ih h.2

theorem recoverCommitted_avoids {journal} (h : Roomy decoder journal) (headData : Bytes)
    (minimumHead) : Avoids .trap (recoverCommitted decoder journal headData minimumHead) := by
  refine avoids_thrown.bind fun head _ ↦ avoids_thrown.bind fun _ _ ↦ avoids_thrown.bind
    fun _ _ ↦ avoids_thrown.bind fun _ _ ↦ avoids_thrown.bind fun records hrecords ↦
    avoids_thrown.bind fun _ _ ↦ avoids_thrown.bind fun _ _ ↦ Avoids.bind
    (avoids_thrown.bind fun _ _ ↦ validatePairs_avoids ?_) fun _ _ ↦ avoids_ok _
  rw [← List.map_dropLast, List.forall_mem_map]
  exact h _ records (thrown_eq_ok.mp hrecords)

theorem exists_recover {image} (h : ∀ journal ∈ image.journal, Roomy decoder journal)
    (minimumHead) : ∃ recovery, recover decoder image minimumHead = some recovery := by
  unfold recover
  split
  · exact ⟨_, rfl⟩
  · split
    iterate 4 exact ⟨_, rfl⟩
    next journal headData hjournal hhead =>
      have havoids := recoverCommitted_avoids (h journal hjournal) headData minimumHead
      split
      · exact ⟨_, rfl⟩
      · exact ⟨_, rfl⟩
      · next htrap => exact absurd htrap havoids

end AuthorityJournalRecoveryReducer

namespace DescriptorRelativeAuthorityJournalStore

variable {α β : Type} {P : α → Prop} {Q : β → Prop} {x : StoreCode α} {f : α → StoreCode β}
  {c : Except JournalFailure α} {name : EntryName} {anchor : AuthorityJournalAnchor} {g : UInt64}
  {pending : AuthorityJournalAnchorCursor} {journal : Bytes} {image : AuthorityJournalImage}

section

variable (decoder)

def RoomyImage (image : AuthorityJournalImage) : Prop := ∀ journal ∈ image.journal, Roomy decoder journal

def RoomyStore (s : JournalStore) : Prop :=
  ∀ g, ∀ file ∈ s.lookup (.journal g), Roomy decoder file.bytes

/-- On stores whose journals leave room for the next revision, `x` does not trap. -/
def Runs (x : StoreCode α) (P : α → Prop) : Prop := ∀ s, RoomyStore decoder s →
  x.wp (fun _ ↦ True) (fun r t ↦ Avoids .trap r ∧ RoomyStore decoder t ∧ ∀ a, r = .ok a → P a) s

abbrev Calm (x : StoreCode α) : Prop := Runs decoder x fun _ ↦ True

end

theorem Runs.bind (hx : Runs decoder x P) (hf : ∀ a, P a → Runs decoder (f a) Q) :
    Runs decoder (x >>= f) Q := fun s hs ↦
  wp_bind_of (hx s hs) (fun _ _ h ↦ ⟨by simpa [Avoids] using h.1, h.2.1, by simp⟩)
    fun a t h ↦ hf a (h.2.2 a rfl) t h.2.1

theorem Calm.then (hx : Calm decoder x) (hf : ∀ a, Runs decoder (f a) Q) :
    Runs decoder (x >>= f) Q := hx.bind fun a _ ↦ hf a

theorem runs_pure {a} (h : P a) : Runs decoder (pure a) P :=
  fun _ hs ↦ wp_pure.mpr ⟨avoids_ok a, hs, by simpa⟩

theorem calm_attempt (h : Avoids .trap c) :
    Calm decoder (attempt c) := fun _ hs ↦ wp_attempt.mpr ⟨h, hs, by simp⟩

theorem attempt_then (h : Avoids .trap c) (hf : ∀ a, c = .ok a → Runs decoder (f a) Q) :
    Runs decoder (attempt c >>= f) Q :=
  Runs.bind (P := (c = .ok ·)) (fun _ hs ↦ wp_attempt.mpr ⟨h, hs, fun _ h ↦ h⟩) hf

attribute [local simp] Avoids mapError_eq_error

theorem read_then {q} (hf : ∀ a, Runs decoder (f a) Q) :
    Runs decoder (read q >>= f) Q := fun s hs ↦ wp_read_bind.mpr (hf (q s) s hs)

theorem calm_step {f}
    (h : ∀ s g, ∀ file ∈ (f s).lookup (.journal g), file ∈ s.lookup (.journal g)) :
    Calm decoder (step f) := fun s hs ↦
  wp_step.mpr ⟨trivial, avoids_ok (), fun g file hf ↦ hs g file (h s g file hf), by simp⟩

theorem calm_remove : Calm decoder (step (·.remove name)) := calm_step fun s g file h ↦ by
  rw [JournalStore.lookup_remove] at h
  split at h
  · cases h
  · exact h

theorem calm_rename : Calm decoder (step (·.rename (.temporaryHead g) (.head g))) :=
  calm_step fun s _ file h ↦ by
    cases hs : s.lookup (.temporaryHead g) with
    | none =>
      have hs : s.files.lookup (.temporaryHead g) = none := hs
      simpa [JournalStore.rename, Directory.rename, hs] using h
    | some moved => simpa [JournalStore.lookup_rename hs] using h

theorem calm_readOptional {n} : Calm decoder (readOptional name n) := by
  refine read_then fun file ↦ calm_attempt ?_
  cases file with
  | none => exact avoids_ok _
  | some file => exact (avoids_require (by simp)).bind fun _ _ ↦
      (avoids_require (by simp)).bind fun _ _ ↦ avoids_ok _

theorem runs_loadImage : Runs decoder (loadImage g) (RoomyImage decoder) := fun s hs ↦ by
  have hcalm : Calm decoder (loadImage g) := calm_readOptional.then fun _ ↦
    calm_readOptional.then fun _ ↦ read_then fun _ ↦ runs_pure trivial
  refine wp_post (wp_and_any (hcalm s hs) loadImage_returns) ?_
  rintro r t ⟨⟨htrap, ht, -⟩, himage⟩
  refine ⟨htrap, ht, ?_⟩
  rintro image rfl journal hjournal
  exact hs g _ (himage.2 journal hjournal)

theorem calm_scan : Calm decoder scanGenerationEntries :=
  read_then fun _ ↦ calm_attempt ((avoids_require (by simp)).bind fun _ _ ↦ avoids_ok _)

theorem calm_replaceAnchor {before} : Calm decoder (do compareAndSwap before anchor; pure anchor) :=
  Calm.then (Calm.then (read_then fun _ ↦ calm_attempt (by simp)) fun _ ↦
    attempt_then (by simp) fun _ _ ↦ calm_step fun _ _ _ h ↦ h) fun _ ↦ runs_pure trivial

theorem calm_clearPending : Calm decoder (clearPending anchor) :=
  attempt_then (by simp) fun _ _ ↦ calm_replaceAnchor

theorem calm_promotePending : Calm decoder (promotePending anchor) :=
  attempt_then (by simp) fun _ _ ↦ attempt_then (by simp) fun _ _ ↦ calm_replaceAnchor

theorem calm_verifyStoreMarker {storeID} : Calm decoder (verifyStoreMarker storeID) :=
  calm_readOptional.then fun _ ↦ calm_attempt (by simp)

theorem calm_unlinkAll {names} : Calm decoder (unlinkAll names) := by
  induction names with
  | nil => exact runs_pure trivial
  | cons name names ih => exact calm_remove.then fun _ ↦ ih

theorem calm_recoverImage (h : RoomyImage decoder image) :
    Calm decoder (recoverImage decoder image) := by
  obtain ⟨recovery, hrecovery⟩ := exists_recover h none
  rw [recoverImage, hrecovery]
  exact calm_attempt (avoids_ok _)

theorem calm_acceptRecovery {recovery} {exact : Prop}
    [Decidable exact] : Calm decoder (acceptRecovery recovery exact) := by
  unfold acceptRecovery
  split <;> exact calm_attempt (by simp)

theorem calm_validatePendingJournal (h : Roomy decoder journal) :
    Calm decoder (validatePendingJournal decoder journal pending) :=
  attempt_then (by simp) fun _ _ ↦ (calm_recoverImage (by simpa [RoomyImage] using h)).then
    fun _ ↦ calm_acceptRecovery

theorem runs_finishTemporaryHead (h : RoomyImage decoder image) :
    Runs decoder (finishTemporaryHead decoder pending image) (RoomyImage decoder) := by
  unfold finishTemporaryHead
  split
  · refine calm_readOptional.then fun _ ↦ attempt_then (by simp) fun _ _ ↦
      attempt_then (by simp) fun journal hj ↦ ?_
    have hjournal := h journal (unwrap_eq_ok.mp hj)
    exact attempt_then (by simp) fun _ _ ↦ attempt_then (by simp) fun _ _ ↦
      (calm_validatePendingJournal hjournal).then fun _ ↦ calm_rename.then fun _ ↦ runs_loadImage
  · exact runs_pure h

theorem calm_completePending (h : Roomy decoder journal) :
    Calm decoder (completePending decoder anchor pending journal) := by
  refine attempt_then (by simp) fun _ _ ↦ (calm_validatePendingJournal h).then fun _ ↦
    attempt_then (by simp) fun _ _ ↦ Calm.then ?_ fun _ ↦ calm_promotePending
  refine Calm.then (read_then fun _ ↦ attempt_then (by simp) fun _ _ ↦ calm_step fun s _ _ h ↦ ?_)
    fun _ ↦ calm_rename
  simpa [JournalStore.lookup_put] using h

theorem calm_settlePending {headData} (h : Roomy decoder journal) :
    Calm decoder (settlePending decoder anchor pending journal headData) := by
  refine attempt_then (by simp) fun diskHead _ ↦ ?_
  split
  · exact (calm_validatePendingJournal h).then fun _ ↦ calm_promotePending
  · split
    · split
      · exact calm_clearPending
      · exact calm_completePending h
    · exact calm_attempt (by simp)

theorem calm_reconcilePending : Calm decoder (reconcilePending decoder anchor) := by
  unfold reconcilePending
  split
  · exact runs_pure trivial
  · refine runs_loadImage.bind fun _ h ↦ (runs_finishTemporaryHead h).bind fun image h ↦ ?_
    unfold resolvePending
    split
    · exact calm_clearPending
    · exact calm_remove.then fun _ ↦ calm_clearPending
    · exact calm_attempt (by simp)
    · next hjournal _ => exact calm_settlePending (h _ hjournal)
    · next hjournal _ => exact calm_completePending (h _ hjournal)

theorem calm_recoverReconciled {markerExists} :
    Calm decoder (recoverReconciled decoder markerExists anchor) := by
  unfold recoverReconciled
  split
  · have hmarker : Calm decoder (verifyExistingMarker markerExists anchor.storeID) := by
      unfold verifyExistingMarker
      split
      · exact calm_verifyStoreMarker
      · exact runs_pure trivial
    exact hmarker.then fun _ ↦ calm_scan.then fun _ ↦ attempt_then (by simp) fun _ _ ↦
      runs_pure trivial
  · refine attempt_then (by simp) fun _ _ ↦ calm_verifyStoreMarker.then fun _ ↦ Calm.then
      (attempt_then (by simp) fun _ _ ↦ runs_loadImage.bind fun _ h ↦
        (calm_recoverImage h).then fun _ ↦ calm_acceptRecovery.then fun _ ↦ runs_pure trivial) fun _ ↦ Calm.then ?_ fun _ ↦
      runs_pure trivial
    exact calm_scan.then fun _ ↦ attempt_then (by simp) fun _ _ ↦ read_then fun _ ↦
      attempt_then (by simp) fun _ _ ↦ calm_unlinkAll

theorem calm_recoverLocked : Calm decoder (recoverLocked decoder) := by
  refine read_then fun _ ↦ read_then fun _ ↦ read_then fun _ ↦ attempt_then (by simp) fun _ _ ↦
    calm_scan.then fun _ ↦ read_then fun _ ↦ Calm.then (read_then fun _ ↦ calm_attempt (by simp))
    fun anchor ↦ ?_
  cases anchor with
  | none =>
    exact attempt_then (by simp) fun _ _ ↦ attempt_then (by simp) fun _ _ ↦ runs_pure trivial
  | some anchor => exact calm_reconcilePending.then fun _ ↦ calm_recoverReconciled

end DescriptorRelativeAuthorityJournalStore

namespace AuthorityJournalRecoveryReducer

def lastState : AuthorityCommittedState where
  __ := DescriptorRelativeAuthorityJournalStore.sampleEnrolled
  revision := maxWord
  revision_pos := by decide

end AuthorityJournalRecoveryReducer

end CfwRs.GlobalAuthority
