import CfwRs.Profiles.Invariant

namespace CfwRs.Profiles

open Lib Lib.Checked Durable Function

variable {V P : Type}
variable {files : Files V} {name : EntryName}

theorem viewOf_insert {file} :
    viewOf (files.insert name file) = update (viewOf files) name (some file) := by
  funext other
  rw [update_apply]
  exact Directory.lookup_insert

theorem viewOf_erase : viewOf (files.erase name) = update (viewOf files) name none := by
  funext other
  rw [update_apply]
  exact Directory.lookup_erase

namespace ProfileRepository

variable {R : ProfileRepository V P} {view target : View V} {s : Disk V} {n : ℕ}
  {intent : SelectedProfileReplaceIntent} {state : SelectedReplaceState}

theorem conflict_eq_ok {α : Type} {context} {c : Except ProfileError α} {a} :
    R.conflict context c = .ok a ↔ c = .ok a := mapError_eq_ok

/-- The digests of the selected profile and its selection, in a phase that the intent allows. -/
structure InPhase (R : ProfileRepository V P) (view : View V)
    (intent : SelectedProfileReplaceIntent) (envelopeDigest profileDigest selectedDigest : String) :
    Prop where
  profile : ∃ file entry, view (.profile intent.profileId) = some file ∧
    R.decodeEntry intent.profileId file = .ok entry ∧
    R.entryEnvelopeDigest entry = .ok envelopeDigest ∧ entry.digest = profileDigest
  selection : ∃ file selection, view .selection = some file ∧
    R.decodeSelection file = .ok selection ∧ selection.profileId = intent.profileId ∧
    selection.profileDigest = selectedDigest

variable {d : Disk V} {envelopeDigest profileDigest selectedDigest : String} {file : StoredFile V}

theorem selectedReplaceState_of_inPhase
    (h : InPhase R view intent envelopeDigest profileDigest selectedDigest) :
    R.selectedReplaceState view intent =
      replacePhase intent envelopeDigest profileDigest selectedDigest := by
  obtain ⟨file, entry, hfile, hentry, henvelope, rfl⟩ := h.profile
  obtain ⟨file', selection, hfile', hselection, hid, rfl⟩ := h.selection
  simp [selectedReplaceState, conflict, View.openFile, hfile, hentry, henvelope, hfile', hselection,
    hid, unwrap, reject, Except.mapError, bind, Except.bind]

theorem exists_inPhase (h : R.selectedReplaceState view intent = .ok state) :
    ∃ envelopeDigest profileDigest selectedDigest,
      InPhase R view intent envelopeDigest profileDigest selectedDigest ∧
        replacePhase intent envelopeDigest profileDigest selectedDigest = .ok state := by
  simp only [selectedReplaceState, ok_iff, conflict_eq_ok, exists_const, View.openFile,
    not_not] at h
  obtain ⟨file, hfile, entry, hentry, file', hfile', selection, hselection, hid, digest, hdigest,
    hphase⟩ := h
  exact ⟨digest, entry.digest, selection.profileDigest,
    ⟨⟨file, entry, hfile, hentry, hdigest, rfl⟩, ⟨file', selection, hfile', hselection, hid, rfl⟩⟩,
    hphase⟩

variable {other : EntryName} {view' : View V}

theorem InPhase.congr (h : InPhase R view intent envelopeDigest profileDigest selectedDigest)
    (hprofile : view' (.profile intent.profileId) = view (.profile intent.profileId))
    (hselection : view' .selection = view .selection) :
    InPhase R view' intent envelopeDigest profileDigest selectedDigest := by
  refine ⟨?_, ?_⟩
  · rw [hprofile]
    exact h.profile
  · rw [hselection]
    exact h.selection

def rolledForward (intent : SelectedProfileReplaceIntent) : StoredFile V :=
  ⟨.selection intent.replacementSelection, true⟩

theorem InPhase.update_selection
    (h : InPhase R view intent envelopeDigest profileDigest selectedDigest)
    (hintent : intent.validate = .ok ()) :
    InPhase R (update view .selection (some (rolledForward intent))) intent envelopeDigest
      profileDigest intent.replacementProfileDigest := by
  refine ⟨?_, ?_⟩
  · exact h.profile
  · have hnew := SelectedProfileReplaceIntent.new_replacementSelection hintent
    refine ⟨rolledForward intent, intent.replacementSelection, update_self .., ?_, rfl, rfl⟩
    exact ProfileFormat.decodeSelection_eq_ok.mpr ⟨rfl, (ProfileSelection.encode_of_new hnew).1⟩

theorem of_replacePhase_middle
    (h : replacePhase intent envelopeDigest profileDigest selectedDigest =
      .ok .replacementProfileWithPreviousSelection) :
    envelopeDigest = intent.replacementEnvelopeDigest ∧
      profileDigest = intent.replacementProfileDigest := by
  unfold replacePhase at h
  split at h
  · cases h
  · split at h
    · next hphase => exact ⟨hphase.1, hphase.2.1⟩
    · split at h <;> cases h

theorem replacePhase_replacement (hintent : intent.validate = .ok ()) :
    replacePhase intent intent.replacementEnvelopeDigest intent.replacementProfileDigest
      intent.replacementProfileDigest = .ok .replacement := by
  obtain ⟨-, -, hprofile, -⟩ := SelectedProfileReplaceIntent.of_validateDigests
    (SelectedProfileReplaceIntent.validate_eq_ok.mp hintent).2
  unfold replacePhase
  rw [if_neg fun h ↦ hprofile h.2.1.symm, if_neg fun h ↦ hprofile h.2.2.symm,
    if_pos ⟨rfl, rfl, rfl⟩]

/-- What the files of an interrupted replacement stand for: the result of a recovery. -/
def settle (R : ProfileRepository V P) (view : View V) : Except ProfileError (View V) :=
  match view .selectedReplace with
  | none => .ok view
  | some file => do
    let intent ← R.decodeIntent file
    match ← R.selectedReplaceState view intent with
    | .previous => return update view .selectedReplace none
    | .replacementProfileWithPreviousSelection =>
      return update
        (update view .selection (some (rolledForward intent))) .selectedReplace none
    | .replacement => return update view .selectedReplace none

theorem settle_of_none (h : view .selectedReplace = none) : R.settle view = .ok view := by
  rw [settle, h]

theorem settle_of_state (hfile : view .selectedReplace = some file)
    (hintent : R.decodeIntent file = .ok intent)
    (hstate : R.selectedReplaceState view intent = .ok state)
    (hmiddle : state ≠ .replacementProfileWithPreviousSelection) :
    R.settle view = .ok (update view .selectedReplace none) := by
  rw [settle, hfile]
  refine bind_eq_ok.mpr ⟨intent, hintent, bind_eq_ok.mpr ⟨state, hstate, ?_⟩⟩
  cases state with
  | replacementProfileWithPreviousSelection => exact absurd rfl hmiddle
  | _ => rfl

theorem settle_of_middle (hfile : view .selectedReplace = some file)
    (hintent : R.decodeIntent file = .ok intent)
    (hstate : R.selectedReplaceState view intent = .ok .replacementProfileWithPreviousSelection) :
    R.settle view = .ok (update
      (update view .selection (some (rolledForward intent))) .selectedReplace none) := by
  rw [settle, hfile]
  exact bind_eq_ok.mpr ⟨intent, hintent, bind_eq_ok.mpr ⟨_, hstate, rfl⟩⟩

inductive RecoveryStep (R : ProfileRepository V P) : View V → View V → Prop
  | forward {view : View V} {file : StoredFile V} {intent : SelectedProfileReplaceIntent}
      (hfile : view .selectedReplace = some file) (hintent : R.decodeIntent file = .ok intent)
      (hstate : R.selectedReplaceState view intent =
        .ok .replacementProfileWithPreviousSelection) :
      RecoveryStep R view (update view .selection (some (rolledForward intent)))
  | finish {view : View V} {file : StoredFile V} {intent : SelectedProfileReplaceIntent}
      {state : SelectedReplaceState} (hfile : view .selectedReplace = some file)
      (hintent : R.decodeIntent file = .ok intent)
      (hstate : R.selectedReplaceState view intent = .ok state)
      (hmiddle : state ≠ .replacementProfileWithPreviousSelection) :
      RecoveryStep R view (update view .selectedReplace none)

theorem selectedReplaceState_rolledForward (hintent : intent.validate = .ok ())
    (h : R.selectedReplaceState view intent = .ok .replacementProfileWithPreviousSelection) :
    R.selectedReplaceState (update view .selection (some (rolledForward intent))) intent =
      .ok .replacement := by
  obtain ⟨envelopeDigest, profileDigest, selectedDigest, hphase, hmiddle⟩ := exists_inPhase h
  obtain ⟨rfl, rfl⟩ := of_replacePhase_middle hmiddle
  rw [selectedReplaceState_of_inPhase (hphase.update_selection hintent)]
  exact replacePhase_replacement hintent

theorem settle_of_step (h : RecoveryStep R view view') : R.settle view' = R.settle view := by
  cases h with
  | forward hfile hintent hstate =>
    rw [settle_of_middle hfile hintent hstate]
    have hvalid := (ProfileFormat.decodeIntent_eq_ok.mp hintent).2.2
    exact settle_of_state ((update_of_ne (by nofun) ..).trans hfile) hintent
      (selectedReplaceState_rolledForward hvalid hstate) nofun
  | finish hfile hintent hstate hmiddle =>
    rw [settle_of_state hfile hintent hstate hmiddle]
    exact settle_of_none (update_self ..)

/-- The files in `K` all stand for `target`, and a recovery does not leave `K`. -/
structure Recoverable (R : ProfileRepository V P) (target : View V) (K : View V → Prop) : Prop where
  settle {view : View V} : K view → R.settle view = .ok target
  step {view view' : View V} : K view → RecoveryStep R view view' → K view'

theorem recoverable_settle : Recoverable R target fun view ↦ R.settle view = .ok target :=
  ⟨fun h ↦ h, fun h hstep ↦ (settle_of_step hstep).trans h⟩

def Within (K : View V → Prop) (n : ℕ) (d : Disk V) : Prop := K d.view ∧ Tidy n d.temporaries

theorem Within.mono {K K' m} (h : Within K n d)
    (hK : ∀ view, K view → K' view) (hnm : n ≤ m) : Within K' m d := ⟨hK _ h.1, h.2.mono hnm⟩

theorem view_of_files_eq {d' : Disk V} (h : d.files = d'.files) : d.view = d'.view :=
  congrArg viewOf h

variable {K : View V → Prop} {name : EntryName} {content : Content V} {replace : Bool}

def written (view : View V) (name : EntryName) (content : Content V) : View V :=
  update view name (some ⟨content, true⟩)

@[simp] theorem written_self : written view name content name = some ⟨content, true⟩ :=
  update_self ..

theorem written_of_ne (h : other ≠ name) :
    written view name content other = view other := update_of_ne h ..

theorem written_eq_self (h : view name = some ⟨content, true⟩) : written view name content = view := by
  rw [written, ← h, update_eq_self]

theorem update_written {file} (h : other ≠ name) : update (written view name content) other file =
      written (update view other file) name content := update_comm h.symm ..

theorem view_of_insert (hd : d.files = s.files.insert name ⟨content, true⟩) :
    d.view = written s.view name content := by
  rw [Disk.view, hd, viewOf_insert]
  rfl

theorem within_of_writing (h : K s.view) (hwritten : K (written s.view name content))
    (hd : Writing s n name content d) : Within K (n + 1) d := by
  obtain ⟨hd | hd, htidy⟩ := hd
  · exact ⟨view_of_files_eq hd ▸ h, htidy⟩
  · exact ⟨view_of_insert hd ▸ hwritten, htidy⟩

theorem writeReplaceAtomic_within (hs : Within K n s) (hwritten : K (written s.view name content)) :
    (R.writeReplaceAtomic name content).wp (Within K (n + 1)) (ends (Within K (n + 1))
      fun _ d ↦ d.view = written s.view name content ∧ Tidy n d.temporaries) s := by
  refine wp_mono (writeAtomic_ends hs.2) (fun _ hd ↦ within_of_writing hs.1 hwritten hd)
    fun r d hr ↦ ?_
  cases r with
  | ok _ => exact ⟨view_of_insert hr.1, hr.2.1⟩
  | error e => exact within_of_writing hs.1 hwritten hr.1

theorem writeNewAtomic_within (hs : Within K n s)
    (hwritten : s.view name = none → K (written s.view name content)) :
    (R.writeNewAtomic name content).wp (Within K (n + 1)) (ends (Within K (n + 1))
      fun _ d ↦ d.view = written s.view name content ∧ Tidy n d.temporaries ∧
        s.view name = none) s := by
  have hwithin (d : Disk V) (hd : Writing s n name content d ∧
      (d.files = s.files ∨ s.view name = none)) : Within K (n + 1) d := by
    rcases hd with ⟨hd, hsame | hnone⟩
    · exact ⟨view_of_files_eq hsame ▸ hs.1, hd.2⟩
    · exact within_of_writing hs.1 (hwritten hnone) hd
  refine wp_mono (writeNewAtomic_ends hs.2) hwithin fun r d hr ↦ ?_
  cases r with
  | ok _ => exact ⟨view_of_insert hr.1, hr.2⟩
  | error e => exact hwithin d hr

theorem unlinkCommitted_within (hs : Within K n s) (hdone : K (update s.view name none)) :
    (R.unlinkCommitted name).wp (Within K n)
      (ends (fun d ↦ Within K n d ∧ ((s.view name).isSome = true → R.Faulty))
        fun _ d ↦ Within K n d ∧ d.view = update s.view name none) s := by
  have herased {d : Disk V} (hd : d.files = s.files.erase name) :
      d.view = update s.view name none := by
    rw [Disk.view, hd, viewOf_erase]
    rfl
  have hunlinking (d : Disk V) (hd : Unlinking s name d) : Within K n d := by
    obtain ⟨hd | hd, ht⟩ := hd
    · rw [Within, view_of_files_eq hd, ht]
      exact hs
    · rw [Within, herased hd, ht]
      exact ⟨hdone, hs.2⟩
  refine wp_mono unlinkCommitted_ends hunlinking fun r d hr ↦ ?_
  cases r with
  | ok _ => exact ⟨hunlinking d ⟨.inr hr.1, hr.2⟩, herased hr.1⟩
  | error e => exact ⟨hunlinking d hr.1, hr.2⟩

section

variable (hK : Recoverable R target K)
include hK

theorem finishing_ends {recovery : SelectedReplaceRecovery} (hs : Within K 0 s)
    (hfile : s.view .selectedReplace = some file) (hintent : R.decodeIntent file = .ok intent)
    (hstate : R.selectedReplaceState s.view intent = .ok state)
    (hmiddle : state ≠ .replacementProfileWithPreviousSelection) :
    (do R.finishSelectedReplace; return recovery).wp (Within K 1)
      (ends (fun d ↦ Within K 1 d ∧ R.Faulty) fun _ ↦ Within (fun view ↦ K view ∧ view = target) 0)
      s := by
  have hdone := hK.step hs.1 (.finish hfile hintent hstate hmiddle)
  have htarget : update s.view .selectedReplace none = target := by
    have hsettle := hK.settle hs.1
    rw [settle_of_state hfile hintent hstate hmiddle] at hsettle
    exact Except.ok.inj hsettle
  refine wp_bind_of (wp_mono (unlinkCommitted_within hs hdone)
    (fun _ h ↦ h.mono (fun _ h ↦ h) (Nat.zero_le 1)) fun _ _ h ↦ h) (fun _ _ h ↦ ?_)
    fun _ _ h ↦ wp_pure.mpr ?_
  · exact ⟨h.1.mono (fun _ h ↦ h) (Nat.zero_le 1), h.2 (Option.isSome_of_eq_some hfile)⟩
  · exact ⟨⟨h.1.1, h.2.trans htarget⟩, h.1.2⟩

theorem rollForward_ends (hs : Within K 0 s) (hfile : s.view .selectedReplace = some file)
    (hintent : R.decodeIntent file = .ok intent)
    (hstate : R.selectedReplaceState s.view intent = .ok .replacementProfileWithPreviousSelection) :
    (R.rollForward intent).wp (Within K 1) (ends (fun d ↦ Within K 1 d ∧ R.Faulty)
      fun _ d ↦ Within K 0 d ∧
        d.view = update s.view .selection (some (rolledForward intent))) s := by
  have hvalid := (ProfileFormat.decodeIntent_eq_ok.mp hintent).2.2
  have hnew := SelectedProfileReplaceIntent.new_replacementSelection hvalid
  have hforward := selectedReplaceState_rolledForward hvalid hstate
  have hafter := hK.step hs.1 (.forward hfile hintent hstate)
  have hwriting (d : Disk V)
      (hd : Writing s 0 .selection (.selection intent.replacementSelection) d) : Within K 1 d :=
    within_of_writing hs.1 hafter hd
  refine wp_bind.mpr (wp_attempt.mpr ?_)
  rw [hnew]
  refine wp_bind.mpr (wp_attempt.mpr ?_)
  rw [(ProfileSelection.encode_of_new hnew).2]
  refine wp_bind_of (wp_mono (writeAtomic_ends hs.2) hwriting (fun _ _ h ↦ h))
    (fun _ d h ↦ ⟨hwriting d h.1, h.2 rfl rfl⟩) fun _ d hd ↦ ?_
  have hview : d.view = update s.view .selection (some (rolledForward intent)) :=
    view_of_insert hd.1
  have hd' : Within K 0 d := ⟨hview ▸ hafter, hd.2.1⟩
  have hd'' : Within K 1 d := hd'.mono (fun _ h ↦ h) (Nat.zero_le 1)
  rw [← hview] at hforward
  refine wp_inspect_of_eq_bind hforward hd'' (fun hfault _ ↦ ⟨hd'', hfault⟩) ?_
  exact wp_attempt.mpr ⟨hd', hview⟩

/-- With no temporary left, the recovery of a replacement only fails with a call, and stays in `K`
wherever it stops. -/
theorem recoverSelectedReplace_ends (hs : Within K 0 s) :
    R.recoverSelectedReplace.wp (Within K 1) (ends (fun d ↦ Within K 1 d ∧ R.Faulty)
      fun _ ↦ Within (fun view ↦ K view ∧ view = target) 0) s := by
  have hstart : Within K 1 s := hs.mono (fun _ h ↦ h) (Nat.zero_le 1)
  have hsettle := hK.settle hs.1
  refine wp_inspect_of_eq_bind rfl hstart (fun hfault _ ↦ ⟨hstart, hfault⟩) ?_
  cases hfile : s.view .selectedReplace with
  | none =>
    rw [settle_of_none hfile] at hsettle
    exact wp_pure.mpr ⟨⟨hs.1, Except.ok.inj hsettle⟩, hs.2⟩
  | some file =>
    rw [settle, hfile] at hsettle
    obtain ⟨intent, hintent, hsettle⟩ := bind_eq_ok.mp hsettle
    obtain ⟨state, hstate, -⟩ := bind_eq_ok.mp hsettle
    have hopen : (do R.decodeIntent (← s.next.view.openFile .selectedReplace)) = .ok intent :=
      bind_eq_ok.mpr ⟨file, unwrap_eq_ok.mpr hfile, hintent⟩
    refine wp_inspect_of_eq_bind hopen hstart (fun hfault _ ↦ ⟨hstart, hfault⟩) ?_
    refine wp_inspect_of_eq_bind hstate hstart (fun hfault _ ↦ ⟨hstart, hfault⟩) ?_
    cases state with
    | previous => exact finishing_ends hK hs hfile hintent hstate nofun
    | replacement => exact finishing_ends hK hs hfile hintent hstate nofun
    | replacementProfileWithPreviousSelection =>
      refine wp_bind_ends (rollForward_ends hK hs hfile hintent hstate) fun _ d hd ↦ ?_
      have hvalid := (ProfileFormat.decodeIntent_eq_ok.mp hintent).2.2
      have hfile' : d.view .selectedReplace = some file := by
        rw [hd.2]
        exact hfile
      have hstate' : R.selectedReplaceState d.view intent = .ok .replacement := by
        rw [hd.2]
        exact selectedReplaceState_rolledForward hvalid hstate
      exact finishing_ends hK hd.1 hfile' hintent hstate' nofun

section

variable (hs : Within K (n + 1) s)
include hs

/-- A recovery can be interrupted and repeated. If the directory can be listed it only fails with a
call. -/
theorem recover_ends : R.recover.wp (Within K (n + 1))
      (ends (fun d ↦ Within K (n + 1) d ∧ (checkEntryCount s = .ok () → R.Faulty))
        fun _ ↦ Within (fun view ↦ K view ∧ view = target) 0) s := by
  have hcleaning {m : ℕ} {d : Disk V} (hd : Cleaning s m d) : Within K m d :=
    ⟨view_of_files_eq hd.1 ▸ hs.1, hd.2⟩
  refine wp_bind_of (wp_mono (recoverOwnedTemporaries_ends hs.2) (fun _ hd ↦ hcleaning hd)
    fun _ _ h ↦ h) (fun _ _ h ↦ ⟨hcleaning h.1, h.2⟩) fun _ d hd ↦ ?_
  refine wp_mono (recoverSelectedReplace_ends hK (hcleaning hd))
    (fun _ h ↦ h.mono (fun _ h ↦ h) (Nat.le_add_left 1 n)) fun r _ hr ↦ ?_
  cases r with
  | ok _ => exact hr
  | error e => exact ⟨hr.1.mono (fun _ h ↦ h) (Nat.le_add_left 1 n), fun _ ↦ hr.2⟩

theorem recover_stays : Stays (Within K (n + 1)) R.recover s :=
  stays_of_ends (recover_ends hK hs) (fun _ h ↦ h.1)
    fun _ _ h ↦ h.mono (fun _ h ↦ h.1) (Nat.zero_le _)

theorem recoverRepository_ends : R.recoverRepository.wp (Within K (n + 1))
      (ends (fun d ↦ Within K (n + 1) d ∧ (checkEntryCount s = .ok () → R.Faulty))
        fun _ ↦ Within (fun view ↦ K view ∧ view = target) 0) s :=
  wp_bind_ends (recover_ends hK hs) fun _ _ h ↦ wp_pure.mpr h

theorem recoverRepository_stays : Stays (Within K (n + 1)) R.recoverRepository s :=
  (recover_stays hK hs).bind fun _ _ h ↦ wp_pure.mpr h

end

end

theorem recoverRepository_idle (hfree : s.view .selectedReplace = none)
    (ht : Tidy 0 s.temporaries) : Stays (Cleaning s 0) R.recoverRepository s := by
  have hrecover : Stays (Cleaning s 0) R.recover s := by
    refine Stays.bind (stays_of_ends (recoverOwnedTemporaries_ends ht) (fun _ h ↦ h.1)
      fun _ _ h ↦ h) fun _ d hd ↦ ?_
    have hnone : d.view .selectedReplace = none := view_of_files_eq hd.1 ▸ hfree
    refine wp_inspect_of_eq_bind rfl hd (fun _ _ ↦ hd) ?_
    rw [hnone]
    exact wp_pure.mpr hd
  exact hrecover.bind fun _ _ h ↦ wp_pure.mpr h

end ProfileRepository

end CfwRs.Profiles
