import CfwRs.GlobalAuthority.JournalLayout

namespace CfwRs.GlobalAuthority

open Lib Lib.Checked Lib.Durable AuthorityJournalCodec AuthorityJournalAnchorCursor

namespace DescriptorRelativeAuthorityJournalStore

open AuthorityJournalRecoveryReducer

variable {decoder : JSONDecoder} {s : JournalStore} {C : JournalStore → Prop}
  {anchor : AuthorityJournalAnchor} {pending cursor : AuthorityJournalAnchorCursor}
  {storeID : AuthorityIdentifier} {journal : Bytes} {state : AuthorityCommittedState}
  {prior : Option AuthorityCommittedState} {old : Option (Bytes × AuthorityJournalHead)}
  {P : Option AuthorityCommittedState → Prop}

theorem new_settledAnchor {committed} :
    AuthorityJournalAnchor.new storeID committed none = .ok (settledAnchor storeID committed) :=
  AuthorityJournalAnchor.new_eq_ok.mpr ⟨rfl, rfl, rfl⟩

variable {Q : Except JournalFailure Unit → JournalStore → Prop}

theorem wp_compareAndSwap {expected replacement} (h : s.keychain = .ok expected) :
    (compareAndSwap expected replacement).wp C Q s ↔
      C (s.setAnchor replacement) ∧ Q (.ok ()) (s.setAnchor replacement) := by
  simp [compareAndSwap, wp_run, h, require]

theorem wp_clearPending {Q} (h : s.keychain = .ok (some anchor)) : (clearPending anchor).wp C Q s ↔
      C (s.setAnchor (settledAnchor anchor.storeID anchor.committed)) ∧
        Q (.ok (settledAnchor anchor.storeID anchor.committed))
          (s.setAnchor (settledAnchor anchor.storeID anchor.committed)) := by
  simp [clearPending, anchoring, new_settledAnchor, wp_run, wp_compareAndSwap h]

theorem wp_promotePending {Q}
    (h : s.keychain = .ok (some anchor)) (hp : anchor.pending = some pending) :
    (promotePending anchor).wp C Q s ↔
      C (s.setAnchor (settledAnchor anchor.storeID (some pending))) ∧
        Q (.ok (settledAnchor anchor.storeID (some pending)))
          (s.setAnchor (settledAnchor anchor.storeID (some pending))) := by
  simp [promotePending, hp, unwrap, anchoring, new_settledAnchor, wp_run, wp_compareAndSwap h]

variable {name : EntryName}

theorem wp_createExclusive {data} (h : s.lookup name = none) :
    (createExclusive name data).wp C Q s ↔
      C (s.put name ⟨data, true⟩) ∧ Q (.ok ()) (s.put name ⟨data, true⟩) := by
  simp [createExclusive, h, reject]

def recoveryAt (cursor : AuthorityJournalAnchorCursor) (state : AuthorityCommittedState) :
    AuthorityJournalRecovery where
  committedState := some state
  head := some cursor.head
  posture := restartPosture state

theorem wp_recoverImage (h : EndsAt decoder cursor journal state) {Q} :
    (recoverImage decoder (settled journal cursor.head)).wp C Q s ↔
      Q (.ok (recoveryAt cursor state)) s := by
  obtain ⟨records, hd⟩ := h.describes
  simp [recoverImage, recover_of_describes hd, unwrap, recoveryAt]

/-- How the validation of an intact history that ends with `state` ends. -/
def verdict (state : AuthorityCommittedState) : Except JournalFailure Unit :=
  match restartPosture state with
  | .recovering _ => .ok ()
  | .quarantined reason => .error (.validation reason)

theorem Restartable.ready (h : Restartable state) : ∀ x, some x = some state → Restartable x := by
  rintro _ ⟨⟩
  exact h

theorem verdict_of_restartable (h : Restartable state) : verdict state = .ok () := by
  obtain ⟨action, ha⟩ := h
  rw [verdict, ha]

theorem wp_acceptRecovery {exact : Prop} [Decidable exact] (hexact : exact) :
    (acceptRecovery (recoveryAt cursor state) exact).wp C Q s ↔ Q (verdict state) s := by
  simp only [acceptRecovery, recoveryAt, verdict]
  cases restartPosture state with
  | recovering action => simp only [wp_attempt, require, if_pos hexact]
  | quarantined reason => exact wp_attempt

theorem wp_validatePendingJournal (h : EndsAt decoder pending journal state) :
    (validatePendingJournal decoder journal pending).wp C Q s ↔ Q (verdict state) s := by
  simp only [validatePendingJournal, validating, encodeHead_eq, wp_run]
  refine (wp_recoverImage h).trans ?_
  exact wp_acceptRecovery ⟨⟨state, rfl, h.revision_eq⟩, rfl⟩

theorem wp_replaceHead {head : AuthorityJournalHead} {g} {old}
    {data} (h : Files s g data old none) :
    (replaceHead head.text g).wp C Q s ↔ let written := s.put (.temporaryHead g) ⟨head.text, true⟩
      let replaced := written.rename (.temporaryHead g) (.head g)
      C written ∧ C replaced ∧ Q (.ok ()) replaced := by
  simp [replaceHead, wp_createExclusive h.temporary_eq]

/-- What dealing with a pending record leaves: a settled store with the anchor that is returned. -/
def Resolved (decoder : JSONDecoder) (P : Option AuthorityCommittedState → Prop)
    (r : Except JournalFailure AuthorityJournalAnchor) (t : JournalStore) : Prop :=
  ∃ anchor prior, r = .ok anchor ∧ t.keychain = .ok (some anchor) ∧
    (t.lookup .storeMarker).isSome = true ∧ Settled decoder t prior ∧ P prior

/-- How a history in `P` is refused: no restart can act on its last state. -/
def Refused {α : Type} (decoder : JSONDecoder) (P : Option AuthorityCommittedState → Prop)
    (r : Except JournalFailure α) (t : JournalStore) : Prop :=
  ∃ state reason, r = .error (.validation reason) ∧ restartPosture state = .quarantined reason ∧
    P (some state) ∧ LeadsTo decoder P t

theorem Refused.elim {α : Type} {r : Except JournalFailure α} (h : Refused decoder P r s)
    (hP : ∀ state, P (some state) → Restartable state) : False := by
  obtain ⟨state, reason, -, hq, hs, -⟩ := h
  obtain ⟨action, ha⟩ := hP state hs
  cases ha.symm.trans hq

theorem after_verdict {α : Type} {f} {R : Except JournalFailure α → JournalStore → Prop}
    (hf : Restartable state → (f ()).wp C R s)
    (hq : ∀ reason, restartPosture state = .quarantined reason → R (.error (.validation reason)) s) :
    after f C R (verdict state) s := by
  cases hposture : restartPosture state with
  | recovering action =>
    rw [verdict_of_restartable ⟨action, hposture⟩]
    exact hf ⟨action, hposture⟩
  | quarantined reason =>
    rw [verdict, hposture]
    exact hq reason hposture

theorem LeadsTo.refused {α} (h : LeadsTo decoder P s) (hs : P (some state))
    (reason : AuthorityJournalValidationError) (hq : restartPosture state = .quarantined reason) :
    Refused decoder P (.error (.validation reason) : Except JournalFailure α) s :=
  ⟨state, reason, rfl, hq, hs, h⟩

section Resolution

variable (h : Pending decoder s anchor pending old journal prior state)
include h

theorem clearPending_wp (hp : P prior)
    (hf : Files s pending.generation (old.map (·.1)) (old.map (·.2.text)) none) :
    (clearPending anchor).wp (LeadsTo decoder P) (Resolved decoder P) s := by
  have hsettled := h.clear hf
  exact (wp_clearPending h.keychain_eq).mpr
    ⟨.settled hsettled hp, _, _, rfl, rfl, h.tidy.marker_isSome, hsettled, hp⟩

theorem promotePending_wp (hs : P (some state))
    (hf : Files s pending.generation (some journal) (some pending.head.text) none) :
    (promotePending anchor).wp (LeadsTo decoder P) (Resolved decoder P) s := by
  have hsettled : Settled decoder _ (some state) := .committed (h.promote hf)
  exact (wp_promotePending h.keychain_eq h.pending_eq).mpr
    ⟨.settled hsettled hs, _, _, rfl, rfl, h.tidy.marker_isSome, hsettled, hs⟩

theorem completePending_wp (hs : P (some state))
    (hf : Files s pending.generation (some journal) (old.map (·.2.text)) none) :
    (completePending decoder anchor pending journal).wp (LeadsTo decoder P)
      (fun r t ↦ Resolved decoder P r t ∨ Refused decoder P r t) s := by
  obtain ⟨records, hd⟩ := h.endsAt.describes
  have hlength : journal.length = pending.committedLength.toNat := hd.length_eq.symm
  have hwritten : Pending decoder
      (s.put (.temporaryHead pending.generation) ⟨pending.head.text, true⟩) anchor pending old journal
      prior state := h.put rfl
  have hfwritten := hf.put_temporaryHead pending.head
  have hreplaced := hwritten.rename hfwritten.temporary_eq
  have hfreplaced := hfwritten.rename_temporaryHead
  simp only [completePending, wp_bind, wp_attempt, require, if_pos hlength, after_ok,
    wp_validatePendingJournal h.endsAt]
  have hleads : LeadsTo decoder P s := .written h (.journalWritten hf) hs
  refine after_verdict (fun _ ↦ ?_) fun reason hq ↦ .inr (hleads.refused hs reason hq)
  simp only [validating, encodeHead_eq, wp_run, wp_replaceHead hf]
  exact ⟨.written hwritten (.headWritten hfwritten) hs, .written hreplaced (.headReplaced hfreplaced) hs,
    wp_post (promotePending_wp hreplaced hs hfreplaced) fun _ _ ↦ .inl⟩

theorem settlePending_wp_replaced (hs : P (some state))
    (hf : Files s pending.generation (some journal) (some pending.head.text) none) :
    (settlePending decoder anchor pending journal pending.head.text).wp (LeadsTo decoder P)
      (fun r t ↦ Resolved decoder P r t ∨ Refused decoder P r t) s := by
  have hdecode : decodeHead decoder pending.head.text = .ok pending.head :=
    decodeHead_eq_ok.mpr rfl
  have hmatches : pending.Matches pending.head := matches_iff.mpr rfl
  simp only [settlePending, validating, hdecode, wp_run, if_pos hmatches,
    wp_validatePendingJournal h.endsAt]
  have hleads : LeadsTo decoder P s := .written h (.headReplaced hf) hs
  exact after_verdict (fun _ ↦ wp_post (promotePending_wp h hs hf) fun _ _ ↦ .inl)
    fun reason hq ↦ .inr (hleads.refused hs reason hq)

variable {data : Bytes}
variable {head : AuthorityJournalHead} {oldJournal : Bytes} {t : Bool}

/-- With the old head still in place, the length of the journal tells whether the record has been
written. -/
theorem wp_settlePending_old (hold : old = some (oldJournal, head))
    {Q : Except JournalFailure AuthorityJournalAnchor → JournalStore → Prop} :
    (settlePending decoder anchor pending data head.text).wp C Q s ↔
      if data.length = oldJournal.length then (clearPending anchor).wp C Q s
      else (completePending decoder anchor pending data).wp C Q s := by
  subst hold
  obtain ⟨cursor, hcommitted, rfl, hsame, ⟨_, hends⟩, hseq, -, -⟩ := h.continued
  obtain ⟨_, hd⟩ := hends.describes
  have hdecode : decodeHead decoder cursor.head.text = .ok cursor.head :=
    decodeHead_eq_ok.mpr rfl
  have hne : ¬pending.Matches cursor.head := by
    intro hm
    obtain ⟨hmax, hnext⟩ := checkedSucc_eq_some.mp hseq
    exact UInt64.ne_of_lt (lt_add_one hmax) (hm.1.trans hnext.symm)
  have hmatches : ∃ committed ∈ anchor.committed, committed.generation = pending.generation ∧
      committed.Matches cursor.head :=
    ⟨cursor, hcommitted, hsame, matches_iff.mpr rfl⟩
  have hlength : cursor.committedLength.toNat = oldJournal.length := hd.length_eq
  simp only [settlePending, validating, hdecode, wp_run, if_neg hne, if_pos hmatches]
  simp only [hcommitted, Option.mem_some_iff, exists_eq_left', hlength]
  split <;> rfl

theorem length_lt_of_continued (hold : old = some (oldJournal, head)) :
    oldJournal.length < journal.length := by
  subst hold
  obtain ⟨cursor, -, -, -, ⟨_, hends⟩, -, -, hlt⟩ := h.continued
  obtain ⟨_, hd⟩ := hends.describes
  obtain ⟨_, hd'⟩ := h.endsAt.describes
  rw [← hd.length_eq, ← hd'.length_eq]
  exact UInt64.lt_iff_toNat_lt.mp hlt

omit h in
theorem resolvePending_eq_settle {head} :
    resolvePending decoder anchor pending ⟨some data, some head, t⟩ =
      settlePending decoder anchor pending data head := by
  cases data <;> rfl

omit h in
theorem resolvePending_eq_complete (hne : data ≠ []) :
    resolvePending decoder anchor pending ⟨some data, none, t⟩ =
      completePending decoder anchor pending data := by
  cases data with
  | nil => exact absurd rfl hne
  | cons => rfl

theorem wp_reconcilePending {data head} (hf : Files s pending.generation data head none) {Q} :
    (reconcilePending decoder anchor).wp C Q s ↔
      (resolvePending decoder anchor pending ⟨data, head, false⟩).wp C Q s := by
  simp [reconcilePending, h.pending_eq, wp_loadImage hf, finishTemporaryHead]

theorem reconcilePending_wp_announced (hp : P prior)
    (hf : Files s pending.generation (old.map (·.1)) (old.map (·.2.text)) none) :
    (reconcilePending decoder anchor).wp (LeadsTo decoder P) (Resolved decoder P) s := by
  rw [wp_reconcilePending h hf]
  cases old with
  | none => exact clearPending_wp h hp hf
  | some o =>
    rw [Option.map_some, Option.map_some, resolvePending_eq_settle, wp_settlePending_old h rfl,
      if_pos rfl]
    exact clearPending_wp h hp hf

theorem reconcilePending_wp_written (hs : P (some state))
    (progress : Progress s pending.generation old journal pending.head) :
    (reconcilePending decoder anchor).wp (LeadsTo decoder P)
      (fun r t ↦ Resolved decoder P r t ∨ Refused decoder P r t) s := by
  obtain ⟨_, hd⟩ := h.endsAt.describes
  cases progress with
  | journalWritten files =>
    rw [wp_reconcilePending h files]
    cases old with
    | none =>
      rw [Option.map_none, resolvePending_eq_complete hd.ne_nil]
      exact completePending_wp h hs files
    | some o =>
      have hlt := length_lt_of_continued h rfl
      rw [Option.map_some, resolvePending_eq_settle, wp_settlePending_old h rfl, if_neg hlt.ne']
      exact completePending_wp h hs files
  | headWritten files =>
    have hpending := h.rename files.temporary_eq
    have hreplaced := files.rename_temporaryHead
    have hdecode : decodeHead decoder pending.head.text = .ok pending.head :=
      decodeHead_eq_ok.mpr rfl
    have hmatches : pending.Matches pending.head := matches_iff.mpr rfl
    simp only [reconcilePending, h.pending_eq, wp_run, wp_loadImage files, Option.isSome_some,
      finishTemporaryHead, if_true, wp_readOptional, files.temporary_eq,
      checkFile_map files.temporary_small, unwrap, validating, hdecode, require, if_pos hmatches,
      wp_validatePendingJournal h.endsAt]
    have hleads : LeadsTo decoder P s := .written h (.headWritten files) hs
    refine after_verdict (fun _ ↦ ?_) fun reason hq ↦ .inr (hleads.refused hs reason hq)
    simp only [wp_run, wp_step, wp_loadImage hreplaced, resolvePending_eq_settle]
    exact ⟨.written hpending (.headReplaced hreplaced) hs, settlePending_wp_replaced hpending hs hreplaced⟩
  | headReplaced files =>
    rw [wp_reconcilePending h files, resolvePending_eq_settle]
    exact settlePending_wp_replaced h hs files

end Resolution

/-- What a recovery that is not interrupted returns, and in which store. -/
inductive Recovered (decoder : JSONDecoder) (s : JournalStore) : AuthorityJournalRecovery → Prop
  | vacant (h : Vacant s) : Recovered decoder s emptyRecovery
  | committed {storeID : AuthorityIdentifier} {cursor : AuthorityJournalAnchorCursor}
      {journal : Bytes} {state : AuthorityCommittedState}
      (h : Committed decoder s storeID cursor journal state) (hr : Restartable state) :
      Recovered decoder s (recoveryAt cursor state)

namespace Recovered

variable {recovery : AuthorityJournalRecovery} (h : Recovered decoder s recovery)
include h

theorem settled : Settled decoder s recovery.committedState := by
  cases h with
  | vacant h => exact .vacant h
  | committed h => exact .committed h

theorem recovering : ∃ action, recovery.posture = .recovering action := by
  cases h with
  | vacant => exact ⟨_, rfl⟩
  | committed _ hr => exact hr

theorem no_pending (hk : s.keychain = .ok (some anchor)) : anchor.pending = none := by
  cases h with
  | vacant h =>
    rcases h.anchor with ⟨hnone, -⟩ | ⟨storeID, hsome, -⟩
    · simp [hnone] at hk
    · cases hsome.symm.trans hk
      rfl
  | committed h =>
    cases h.keychain_eq.symm.trans hk
    rfl

end Recovered

theorem generationEntries_of_wellFormed
    (h : ∀ name file, s.lookup name = some file → name.wellFormed = true) :
    generationEntries s.files.keys =
      .ok (s.files.keys.filter fun name ↦ name.generation.isSome) := by
  have hall : ∀ name ∈ s.files.keys, name.wellFormed = true := fun name hn ↦
    (JournalStore.mem_keys.mp hn).elim (h name)
  simp [generationEntries, require, if_pos hall]

theorem Vacant.no_entries (h : Vacant s) : generationEntries s.files.keys = .ok [] := by
  rw [generationEntries_of_wellFormed h.wellFormed, List.filter_eq_nil_iff.mpr]
  intro name hn
  obtain ⟨file, hf⟩ := JournalStore.mem_keys.mp hn
  simp [h.entries name file hf]

theorem wp_verifyStoreMarker (h : s.lookup .storeMarker = some ⟨markerData storeID, true⟩) :
    (verifyStoreMarker storeID).wp C Q s ↔ Q (.ok ()) s := by
  have hcheck : checkFile .storeMarker 64 (some ⟨markerData storeID, true⟩) =
      .ok (some (markerData storeID)) := by
    have hlen : (markerData storeID).length ≤ 64 := by simp [markerData, length_uuidText]
    simp [checkFile, hlen, pure, Except.pure]
  simp [verifyStoreMarker, h, hcheck, require]

theorem wp_recoverEmpty (h : Vacant s) {Q} : recoverEmpty.wp C Q s ↔ Q (.ok emptyRecovery) s := by
  simp [recoverEmpty, h.no_entries, require]

variable (h : Committed decoder s storeID cursor journal state)

include h in
theorem wp_recoveryForCommittedAnchor {Q} :
    (recoveryForCommittedAnchor decoder (settledAnchor storeID (some cursor))).wp C Q s ↔
      after (fun _ ↦ pure (recoveryAt cursor state)) C Q (verdict state) s := by
  have hexact : ∃ head ∈ (recoveryAt cursor state).head,
      ∃ st ∈ (recoveryAt cursor state).committedState,
        cursor.Matches head ∧ st.revision = cursor.stateRevision :=
    ⟨_, rfl, _, rfl, matches_iff.mpr rfl, h.endsAt.revision_eq⟩
  simp only [recoveryForCommittedAnchor, settledAnchor, unwrap, wp_run, wp_loadImage h.files]
  refine (wp_recoverImage h.endsAt).trans ?_
  rw [after_ok, wp_bind, wp_acceptRecovery hexact]

include h in
theorem Committed.remove (hg : ∃ g ∈ name.generation, g ≠ cursor.generation) :
    Committed decoder (s.remove name) storeID cursor journal state := by
  obtain ⟨g, hg, hne⟩ := hg
  refine ⟨h.keychain_eq, h.tidy.remove (by simp [Option.mem_def.mp hg]),
    h.files.congr fun other ho ↦ ?_, h.endsAt⟩
  rw [JournalStore.lookup_remove, if_neg]
  rintro rfl
  exact hne (Option.some.inj (hg.symm.trans ho))

theorem unlinkAll_wp {names}
    (hnames : ∀ name ∈ names, ∃ g ∈ name.generation, g ≠ cursor.generation) (hs : P (some state))
    (h : Committed decoder s storeID cursor journal state) :
    (unlinkAll names).wp (LeadsTo decoder P)
      (fun r t ↦ r = .ok () ∧ Committed decoder t storeID cursor journal state) s := by
  induction names generalizing s with
  | nil => exact wp_pure.mpr ⟨rfl, h⟩
  | cons name names ih =>
    rw [List.forall_mem_cons] at hnames
    have hremoved := h.remove hnames.1
    rw [unlinkAll, wp_bind, wp_step]
    exact ⟨.settled (.committed hremoved) hs, ih hnames.2 hremoved⟩

theorem mem_obsoleteEntries {entries active} (h : name ∈ obsoleteEntries active entries) :
    name ∈ entries ∧ ∃ g ∈ name.generation, g ≠ active := by
  unfold obsoleteEntries at h
  split at h
  · next hactive =>
    rw [List.mem_mergeSort, List.mem_filter] at h
    obtain ⟨hmem, hlt⟩ := h
    simp only [decide_eq_true_eq] at hlt
    obtain ⟨g, hg, hlt⟩ := hlt
    refine ⟨hmem, g, hg, ?_⟩
    rintro rfl
    rw [UInt64.lt_iff_toNat_lt] at hactive hlt
    rw [UInt64.toNat_sub_of_le _ _ (UInt64.le_iff_toNat_le.mpr hactive.le)] at hlt
    omega
  · simp at h

include h in
theorem enforceGenerationRetention_wp (hs : P (some state)) :
    (enforceGenerationRetention cursor.generation).wp (LeadsTo decoder P)
      (fun r t ↦ r = .ok () ∧ Committed decoder t storeID cursor journal state) s := by
  have hentry : ∀ name ∈ s.files.keys.filter (fun name ↦ name.generation.isSome),
      ∀ g ∈ name.generation, g ≤ cursor.generation ∧ ∀ file ∈ s.lookup name, file.secure = true :=
    fun name hn g hg ↦ by
      obtain ⟨file, hf⟩ := JournalStore.mem_keys.mp (List.mem_of_mem_filter hn)
      obtain ⟨hle, hsecure⟩ := h.tidy.entries name file hf g hg
      refine ⟨hle, fun file' hf' ↦ ?_⟩
      cases hf.symm.trans hf'
      exact hsecure
  have hold : ¬∃ name ∈ s.files.keys.filter (fun name ↦ name.generation.isSome),
      ∃ g ∈ name.generation, cursor.generation < g := by
    rintro ⟨name, hn, g, hg, hlt⟩
    exact UInt64.not_lt.mpr (hentry name hn g hg).1 hlt
  have hsecure : ∀ name ∈ obsoleteEntries cursor.generation
      (s.files.keys.filter fun name ↦ name.generation.isSome),
      ∀ file ∈ s.files.lookup name, file.secure = true := fun name hn ↦ by
    obtain ⟨hmem, g, hg, -⟩ := mem_obsoleteEntries hn
    exact (hentry name hmem g hg).2
  simp only [enforceGenerationRetention, wp_run, wp_scanGenerationEntries,
    generationEntries_of_wellFormed h.tidy.wellFormed, reject, if_neg hold, require, if_pos hsecure]
  exact unlinkAll_wp (fun name hn ↦ (mem_obsoleteEntries hn).2) hs h

def Finished (decoder : JSONDecoder) (P : Option AuthorityCommittedState → Prop)
    (r : Except JournalFailure AuthorityJournalRecovery) (t : JournalStore) : Prop :=
  ∃ recovery, r = .ok recovery ∧ Recovered decoder t recovery ∧ P recovery.committedState

include h in
theorem recoverReconciled_wp_committed (hs : P (some state)) :
    (recoverReconciled decoder true (settledAnchor storeID (some cursor))).wp (LeadsTo decoder P)
      (fun r t ↦ (r = .ok (recoveryAt cursor state) ∧ Restartable state ∧
        Committed decoder t storeID cursor journal state) ∨ Refused decoder P r t) s := by
  have hleads : LeadsTo decoder P s := .settled (.committed h) hs
  have hrecovery := fun C Q ↦ wp_recoveryForCommittedAnchor (C := C) (Q := Q) h
  simp only [settledAnchor] at hrecovery
  simp only [recoverReconciled, settledAnchor, wp_run, require, if_true,
    wp_verifyStoreMarker h.tidy.marker, hrecovery]
  refine after_verdict (fun hr ↦ ?_) fun reason hq ↦ .inr (hleads.refused hs reason hq)
  rw [wp_pure, after_ok, wp_bind]
  refine wp_post (enforceGenerationRetention_wp h hs) ?_
  rintro r t ⟨rfl, ht⟩
  rw [after_ok, wp_pure]
  exact .inl ⟨rfl, hr, ht⟩

theorem recoverReconciled_wp (h : Settled decoder s prior) (hk : s.keychain = .ok (some anchor))
    (hp : P prior) :
    (recoverReconciled decoder (s.lookup .storeMarker).isSome anchor).wp (LeadsTo decoder P)
      (fun r t ↦ Finished decoder P r t ∨ Refused decoder P r t) s := by
  cases h with
  | vacant h =>
    rcases h.anchor with ⟨hnone, -⟩ | ⟨storeID, hsome, hmarker⟩
    · simp [hnone] at hk
    · cases hsome.symm.trans hk
      simp only [recoverReconciled, settledAnchor, wp_bind, verifyExistingMarker]
      cases hm : s.lookup .storeMarker with
      | none =>
        simp only [Option.isSome_none, Bool.false_eq_true, if_false, wp_run, wp_recoverEmpty h]
        exact .inl ⟨_, rfl, .vacant h, hp⟩
      | some file =>
        obtain rfl := hmarker file hm
        simp only [Option.isSome_some, if_true, wp_verifyStoreMarker hm, after_ok, wp_recoverEmpty h]
        exact .inl ⟨_, rfl, .vacant h, hp⟩
  | @committed storeID cursor journal state h =>
    cases h.keychain_eq.symm.trans hk
    rw [h.tidy.marker_isSome]
    refine wp_post (recoverReconciled_wp_committed h hp) ?_
    rintro r t (⟨rfl, hr, ht⟩ | hrefused)
    · exact .inl ⟨_, rfl, .committed ht hr, hp⟩
    · exact .inr hrefused

theorem recoverAnchored_wp (h : (reconcilePending decoder anchor).wp (LeadsTo decoder P)
      (fun r t ↦ Resolved decoder P r t ∨ Refused decoder P r t) s) :
    (recoverAnchored decoder true anchor).wp (LeadsTo decoder P)
      (fun r t ↦ Finished decoder P r t ∨ Refused decoder P r t) s := by
  rw [recoverAnchored, wp_bind]
  refine wp_post h ?_
  rintro r t (⟨anchor', prior', rfl, hk, hm, hsettled, hp'⟩ | ⟨state, reason, rfl, hrefused⟩)
  · rw [← hm]
    exact recoverReconciled_wp hsettled hk hp'
  · exact .inr ⟨state, reason, rfl, hrefused⟩

variable {name : EntryName}

theorem Settled.no_legacy (h : Settled decoder s prior) (hn : name ∈ legacyNames) :
    s.lookup name = none := by
  cases h with
  | vacant h => exact h.no_legacy name hn
  | committed h => exact h.tidy.no_legacy name hn

theorem LeadsTo.mono {P'} (h : LeadsTo decoder P s)
    (hP : ∀ o, P o → P' o) : LeadsTo decoder P' s := by
  cases h with
  | settled h hp => exact .settled h (hP _ hp)
  | announced h files hp => exact .announced h files (hP _ hp)
  | written h progress hs => exact .written h progress (hP _ hs)

theorem LeadsTo.no_legacy (h : LeadsTo decoder P s) (hn : name ∈ legacyNames) :
    s.lookup name = none := by
  cases h with
  | settled h => exact h.no_legacy hn
  | announced h => exact h.tidy.no_legacy name hn
  | written h => exact h.tidy.no_legacy name hn

theorem LeadsTo.wellFormed (h : LeadsTo decoder P s) {file}
    (hn : s.lookup name = some file) : name.wellFormed = true := by
  cases h with
  | settled h =>
    cases h with
    | vacant h => exact h.wellFormed name file hn
    | committed h => exact h.tidy.wellFormed name file hn
  | announced h => exact h.tidy.wellFormed name file hn
  | written h => exact h.tidy.wellFormed name file hn

theorem wp_recoverLocked (h : LeadsTo decoder P s) {Q} :
    (∀ anchor, s.keychain = .ok (some anchor) → ((recoverLocked decoder).wp C Q s ↔
      (recoverAnchored decoder (s.lookup .storeMarker).isSome anchor).wp C Q s)) ∧
    (Vacant s → s.keychain = .ok none → s.lookup .storeMarker = none →
      ((recoverLocked decoder).wp C Q s ↔ Q (.ok emptyRecovery) s)) := by
  have hlegacy : ∀ name ∈ legacyNames, (s.lookup name).isSome = false := fun name hn ↦ by
    simp [h.no_legacy hn]
  simp only [legacyNames, List.forall_mem_cons] at hlegacy
  obtain ⟨hjournal, hhead, htemporary, -⟩ := hlegacy
  simp only [recoverLocked, wp_run, wp_entryExists, hjournal, hhead, htemporary, reject,
    Bool.false_eq_true, or_self, if_false, wp_scanGenerationEntries,
    generationEntries_of_wellFormed fun _ _ ↦ h.wellFormed]
  constructor
  · intro anchor hk
    simp [hk, wp_run]
  · intro hvacant hk hm
    have hentries := hvacant.no_entries
    rw [generationEntries_of_wellFormed hvacant.wellFormed] at hentries
    simp [hk, hm, wp_run, Except.ok.inj hentries, require]

/-- Recovery ends well from every store that an interrupted operation may leave, and may itself be
interrupted. -/
theorem recoverLocked_wp (h : LeadsTo decoder P s) : (recoverLocked decoder).wp (LeadsTo decoder P)
      (fun r t ↦ Finished decoder P r t ∨ Refused decoder P r t) s := by
  obtain ⟨hanchored, hfresh⟩ := wp_recoverLocked h
  cases h with
  | announced h files hp =>
    rw [hanchored _ h.keychain_eq, h.tidy.marker_isSome]
    exact recoverAnchored_wp (wp_post (reconcilePending_wp_announced h hp files) fun _ _ ↦ .inl)
  | written h progress hs =>
    rw [hanchored _ h.keychain_eq, h.tidy.marker_isSome]
    exact recoverAnchored_wp (reconcilePending_wp_written h hs progress)
  | @settled prior h hp =>
    have hsettled : ∀ anchor, s.keychain = .ok (some anchor) → anchor.pending = none →
        (recoverLocked decoder).wp (LeadsTo decoder P)
          (fun r t ↦ Finished decoder P r t ∨ Refused decoder P r t) s := fun anchor hk hnone ↦ by
      simp only [hanchored anchor hk, recoverAnchored, reconcilePending, hnone]
      exact recoverReconciled_wp h hk hp
    cases h with
    | vacant h =>
      rcases h.anchor with ⟨hk, hm⟩ | ⟨storeID, hk, -⟩
      · exact (hfresh h hk hm).mpr (.inl ⟨_, rfl, .vacant h, hp⟩)
      · exact hsettled _ hk rfl
    | committed h => exact hsettled _ h.keychain_eq rfl

theorem recoverLocked_wp_restartable (h : LeadsTo decoder P s)
    (hP : ∀ state, P (some state) → Restartable state) :
    (recoverLocked decoder).wp (LeadsTo decoder P) (Finished decoder P) s :=
  wp_post (recoverLocked_wp h) fun _ _ hr ↦ hr.resolve_right fun hrefused ↦ hrefused.elim hP

theorem recover_wp (hP : ∀ state, P (some state) → Restartable state) (h : LeadsTo decoder P s) :
    (recover decoder).wp (LeadsTo decoder P) (Finished decoder P) s := by
  rw [recover, wp_handle]
  refine wp_post (recoverLocked_wp_restartable h hP) ?_
  rintro r t ⟨recovery, rfl, hr⟩
  exact ⟨recovery, rfl, hr⟩

include h in
theorem recoverLocked_wp_committed (hr : Restartable state) :
    (recoverLocked decoder).wp (LeadsTo decoder (· = some state))
      (fun r t ↦ r = .ok (recoveryAt cursor state) ∧
        Committed decoder t storeID cursor journal state) s := by
  have hleads : LeadsTo decoder (· = some state) s := .settled (.committed h) rfl
  rw [(wp_recoverLocked hleads).1 _ h.keychain_eq]
  simp only [h.tidy.marker_isSome]
  refine wp_post (recoverReconciled_wp_committed h rfl) ?_
  rintro r t (⟨hok, -, ht⟩ | hrefused)
  · exact ⟨hok, ht⟩
  · exact (hrefused.elim hr.ready).elim

include h in
theorem recover_committed (hr : Restartable state) :
    (recover decoder s).result = .ok (recoveryAt cursor state) ∧
      Committed decoder ((recover decoder).final s) storeID cursor journal state := by
  have hlocked : (recoverLocked decoder).wp _ _ s := recoverLocked_wp_committed h hr
  obtain ⟨-, hresult, hcommitted⟩ := hlocked
  refine ⟨?_, hcommitted⟩
  simp [recover, handle, hresult, handled]

theorem recoverLocked_wp_quarantined {reason}
    (hq : restartPosture state = .quarantined reason) (h : LeadsTo decoder (· = some state) s) :
    (recoverLocked decoder).wp (LeadsTo decoder (· = some state))
      (fun r t ↦ r = .error (.validation reason) ∧ LeadsTo decoder (· = some state) t) s := by
  refine wp_post (recoverLocked_wp h) ?_
  rintro r t (⟨recovery, rfl, hrecovered, hstate⟩ | ⟨state', reason', rfl, hq', hstate, ht⟩)
  · cases hrecovered with
    | vacant => cases hstate
    | committed _ hr =>
      obtain rfl := Option.some.inj hstate
      obtain ⟨action, ha⟩ := hr
      cases ha.symm.trans hq
  · obtain rfl := Option.some.inj hstate
    obtain rfl := AuthorityRecoveryPosture.quarantined.inj (hq'.symm.trans hq)
    exact ⟨rfl, ht⟩

theorem recover_quarantines {reason}
    (hq : restartPosture state = .quarantined reason) (h : LeadsTo decoder (· = some state) s) :
    (recover decoder s).result = .ok (quarantine reason) := by
  have hlocked : (recoverLocked decoder).wp _ _ s := recoverLocked_wp_quarantined hq h
  have hresult := hlocked.2.1
  simp [recover, handle, hresult, handled, recoveryFor]

end DescriptorRelativeAuthorityJournalStore

end CfwRs.GlobalAuthority
