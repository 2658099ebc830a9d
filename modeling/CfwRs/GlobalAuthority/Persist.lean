import CfwRs.GlobalAuthority.JournalCapacity
import CfwRs.GlobalAuthority.ReducerHistory

namespace CfwRs.GlobalAuthority

open Lib Lib.Checked Lib.History DescriptorRelativeAuthorityJournalStore

def journalTransition : AuthorityDurableMutationKind → AuthorityJournalTransition
  | .enrollOff => .enrollOff
  | .prepare => .prepare
  | .bindOwner => .bindOwner
  | .ready => .ready
  | .beginStop => .beginStop
  | .ownerStopped => .ownerStopped
  | .abortPrepared => .abortPrepared
  | .revokeForConsoleChange => .revokeForConsoleChange
  | .revokeForTimeout => .revokeForTimeout
  | .globalOff => .globalOff
  | .reconcileOff => .reconcileOff

theorem journalTransition_eq_enrollOff {m} : journalTransition m = .enrollOff ↔ m = .enrollOff := by
  cases m <;> simp [journalTransition]

namespace GlobalAuthorityReducer

section

variable (r : GlobalAuthorityReducer)

/-- The epoch and generation accepted last, zero before the first. -/
def root : UInt64 × UInt64 :=
  ((r.replayCursor.map (·.acceptedEpoch)).getD 0,
    (r.replayCursor.map (·.acceptedGeneration)).getD 0)

def operation : Option CommittedOperation := r.lease.map fun l ↦
  ⟨l.operation.operationID, l.operation.mode, l.operation.configSHA256, l.leaseID,
    l.operation.ownerUID⟩

/-- The record that `persist` hands to the journal. -/
def record : Checked AuthorityCommittedState := do
  let installationID ← unwrap r.installationID journalCorrupt
  let mutation ← unwrap r.lastMutation journalCorrupt
  (AuthorityCommittedState.new installationID r.root.1 r.root.2 r.revision
    (journalTransition mutation) r.state r.operation).mapError fun _ ↦ journalCorrupt

end

variable {r r' : GlobalAuthorityReducer} {op : ReducerOperation} {t older : List ReducerEntry}
  {m : AuthorityDurableMutationKind} {prior state : AuthorityCommittedState}

theorem record_eq_ok : r.record = .ok state ↔ r.installationID = some state.installationID ∧
    ∃ m, r.lastMutation = some m ∧ state.epoch = r.root.1 ∧ state.generation = r.root.2 ∧
      state.revision = r.revision ∧ state.transition = journalTransition m ∧
      state.state = r.state ∧ state.operation = r.operation := by
  simp only [record, ok_iff, Durable.mapError_eq_ok, AuthorityCommittedState.new_eq_ok]
  grind

/-- A reducer that has left Off has accepted a root. -/
def Live (r : GlobalAuthorityReducer) : Prop := r.state ≠ .off → r.replayCursor ≠ none

/-- A change that `persist` writes: the next revision of the same installation, with a root that
does not fall back and a state that a restart can act on. -/
structure Advances (r r' : GlobalAuthorityReducer) : Prop where
  not_last : r.revision < maxWord
  revision_eq : r'.revision = r.revision + 1
  installed : ∀ i ∈ r.installationID, r'.installationID = some i
  root_le : ¬PairLess r'.root r.root
  accepted : r'.replayCursor ≠ none
  mutation : ∃ m, r'.lastMutation = some m ∧ m ≠ .enrollOff ∧
    (r'.state = .quarantined → m = .reconcileOff)
  off_no_lease : r'.state = .off → r'.lease = none
  not_recovering : r'.state ≠ .recovering

theorem Advances.exists_record (h : r.Advances r') :
    ∃ state, r'.record = .ok state ∧ Restartable state := by
  obtain ⟨m, hm, hne, hquarantined⟩ := h.mutation
  obtain ⟨c, hc⟩ := Option.ne_none_iff_exists'.mp h.accepted
  have hpos : 0 < r'.revision := by
    rw [h.revision_eq]
    exact UInt64.lt_of_le_of_lt UInt64.zero_le (lt_add_one h.not_last)
  have hroot : 0 < r'.root.1 ∧ 0 < r'.root.2 := by
    simp only [root, hc, Option.map_some, Option.getD_some]
    exact ⟨c.epoch_pos, c.generation_pos⟩
  refine ⟨⟨c.installationID, r'.root.1, r'.root.2, r'.revision, journalTransition m, r'.state,
    r'.operation, hpos, fun hs ↦ by simp [operation, h.off_no_lease hs],
    fun ht ↦ absurd (journalTransition_eq_enrollOff.mp ht) hne, fun _ ↦ hroot⟩,
    record_eq_ok.mpr ⟨by simp [installationID, hc], m, hm, rfl, rfl, rfl, rfl, rfl, rfl⟩, ?_⟩
  rw [Restartable, restartPosture]
  split
  iterate 5 exact ⟨_, rfl⟩
  · next hs =>
    cases hquarantined hs
    exact ⟨_, if_pos (.inl rfl)⟩
  · next hs => exact absurd hs h.not_recovering

theorem Live.advance (h : r.Live) (hlive : r.state ≠ .off) (hmax : r.revision < maxWord)
    (hm : r'.lastMutation = some m) (hne : m ≠ .enrollOff)
    (hrevision : r'.revision = r.revision + 1 := by rfl)
    (hcursor : r'.replayCursor = r.replayCursor := by rfl)
    (henrolled : r'.enrolledInstallationID = r.enrolledInstallationID := by rfl)
    (hoff : r'.state = .off → r'.lease = none := by simp)
    (hrecovering : r'.state ≠ .recovering := by simp)
    (hquarantined : r'.state = .quarantined → m = .reconcileOff := by simp) : r.Advances r' := by
  have hid : r'.installationID = r.installationID := by
    rw [installationID, installationID, hcursor, henrolled]
  have hroot : r'.root = r.root := by rw [root, root, hcursor]
  exact ⟨hmax, hrevision, fun _ ↦ hid.trans, hroot ▸ PairLess.irrefl _,
    hcursor ▸ h hlive, ⟨m, hm, hne, hquarantined⟩, hoff, hrecovering⟩

theorem Prepares.advances {input} (hp : r.Prepares input r') : r.Advances r' := by
  obtain ⟨c, hc, hid, hepoch, hgeneration, -⟩ := hp.cursor_eq
  have hstate := hp.state_eq
  have hbefore := hp.after_cursor
  refine ⟨hp.not_last, hp.revision_eq, fun i hi ↦ ?_, ?_, by simp [hc],
    ⟨.prepare, hp.mutation_eq, by simp, by simp [hstate]⟩, by simp [hstate], by simp [hstate]⟩
  · have hsame := hp.same_installation i
    cases hcursor : r.replayCursor <;> simp_all [installationID]
  · cases hcursor : r.replayCursor with
    | none => simp [root, hcursor, PairLess]
    | some c₀ =>
      have hless := (hbefore c₀ hcursor).2
      simp only [root, hc, hcursor, hepoch, hgeneration, PairLess, Option.map_some,
        Option.getD_some] at hless ⊢
      grind

theorem Live.of_stops {leaseState n} (h : r.Live)
    (hs : n = r.revision ∧ r' = r ∨ r.Stops leaseState m n r') (hne : m ≠ .enrollOff) :
    r'.revision = r.revision ∧ r'.Live ∨ r.Advances r' := by
  rcases hs with ⟨-, rfl⟩ | ⟨hs, hmax, -, l, hl, rfl⟩
  · exact .inl ⟨rfl, h⟩
  · refine .inr (h.advance (by grind) hmax rfl hne rfl rfl rfl ?_ ?_ ?_) <;> simp [enterStopping]

/-- One case for each operation: it advances, or leaves the revision as it was. -/
theorem Live.step (h : r.Live) (happly : r.apply op = .ok r') :
    r'.revision = r.revision ∧ r'.Live ∨ r.Advances r' := by
  cases op with
  | enrollOff i =>
    obtain ⟨hs, -, -, -, rfl⟩ := enrollOff_cases happly
    exact .inl ⟨rfl, absurd hs⟩
  | prepare input =>
    obtain ⟨a, happly⟩ := map_snd_eq_ok.mp happly
    exact .inr (prepare_cases happly).advances
  | bindOwner b =>
    obtain ⟨n, happly⟩ := map_snd_eq_ok.mp happly
    obtain ⟨hs, hmax, -, l, hl, -, -, rfl⟩ := bindOwner_cases happly
    exact .inr (h.advance (by simp [hs]) hmax rfl (by simp))
  | attestReady a uid nonce =>
    obtain ⟨n, happly⟩ := map_snd_eq_ok.mp happly
    rcases attestReady_cases happly with ⟨-, rfl⟩ | ⟨hs, hmax, -, l, hl, rfl⟩
    · exact .inl ⟨rfl, h⟩
    · exact .inr (h.advance (by simp [hs]) hmax rfl (by simp))
  | abortPrepared operation n =>
    obtain ⟨n, happly⟩ := map_snd_eq_ok.mp happly
    obtain ⟨hs, hmax, -, l, hl, -, rfl⟩ := abortPrepared_cases happly
    exact .inr (h.advance (by simp [hs]) hmax rfl (by simp))
  | beginStop request =>
    obtain ⟨n, happly⟩ := map_snd_eq_ok.mp happly
    exact h.of_stops (beginStop_cases happly) (by simp)
  | revokeForConsoleChange uid nonce =>
    obtain ⟨n, happly⟩ := map_snd_eq_ok.mp happly
    exact h.of_stops (revokeForConsoleChange_cases happly) (by simp)
  | revokeForLiveness =>
    obtain ⟨n, happly⟩ := map_snd_eq_ok.mp happly
    exact h.of_stops (revokeForLiveness_cases happly) (by simp)
  | attestStopped a uid nonce =>
    obtain ⟨n, happly⟩ := map_snd_eq_ok.mp happly
    obtain ⟨hs, l, hl, -, -, -, -, ⟨-, -, rfl⟩ | hstops⟩ := attestStopped_cases happly
    · exact .inl ⟨rfl, h⟩
    · have hstate := hstops.state_eq
      refine .inr (h.advance (by grind) hstops.not_last hstops.mutation_eq (by simp)
        hstops.revision_eq hstops.cursor_eq hstops.enrolled_eq ?_ ?_ ?_) <;> simp [hstate]
  | applyOffProof proof n =>
    obtain ⟨n, happly⟩ := map_snd_eq_ok.mp happly
    obtain ⟨-, hs, hmax, ⟨-, -, rfl⟩ | ⟨-, -, rfl⟩⟩ := applyOffProof_cases happly
    · exact .inr (h.advance (by grind) hmax rfl (by split <;> simp))
    · exact .inr (h.advance (by grind) hmax rfl (by simp))
  | recordPersistedHead head =>
    rcases recordPersistedHead_cases happly with rfl | ⟨c, c', -, -, -, -, -, -, -, rfl⟩
    · exact .inl ⟨rfl, h⟩
    · exact .inl ⟨rfl, by simp [Live]⟩

theorem live_of_run (h : Run StartsOff Step t r) : r.Live := by
  refine h.invariant (fun r hr ↦ ?_) fun r op r' hr hs ↦ ?_
  · have hnew {i : Option AuthorityIdentifier} {n} (h : new .off n i = .ok r) : r.Live := by
      simp only [new, ok_iff] at h
      obtain ⟨-, -, -, -, -, -, -, -, -, -, rfl⟩ := h
      exact absurd rfl
    rcases hr with ⟨n, h⟩ | ⟨i, n, h⟩ <;> exact hnew h
  · rcases hs.cases with happly | ⟨rfl, -⟩
    · rcases hr.step happly with h | h
      · exact h.2
      · exact fun _ ↦ h.accepted
    · exact hr

theorem Advances.validateCommit (h : r.Advances r') (hprior : r.record = .ok prior)
    (hstate : r'.record = .ok state) : validateCommit state (some prior) = .ok () := by
  obtain ⟨hid, -, -, hepoch, hgeneration, hrevision, -⟩ := record_eq_ok.mp hprior
  obtain ⟨hid', -, -, hepoch', hgeneration', hrevision', -⟩ := record_eq_ok.mp hstate
  have hroot := h.root_le
  simp only [DescriptorRelativeAuthorityJournalStore.validateCommit, ok_iff, exists_const]
  refine ⟨Option.some.inj (hid'.symm.trans (h.installed _ hid)), _,
    checkedSucc_eq_some.mpr ⟨hrevision ▸ h.not_last, rfl⟩, ?_, ?_⟩
  · rw [hrevision', h.revision_eq, hrevision]
  · rwa [hepoch, hgeneration, hepoch', hgeneration']

/-- The record of every change in a run can be built, a restart from it is never quarantined, and
the journal takes it as the successor of the record before. -/
theorem own_records_taken {e : ReducerEntry} (h : Run StartsOff Step t r) (he : e :: older <:+ t)
    (hchanged : e.after.revision ≠ e.before.revision) :
    ∃ state, e.after.record = .ok state ∧ Restartable state ∧
      ∀ prior, e.before.record = .ok prior → validateCommit state (some prior) = .ok () := by
  obtain ⟨hrun, hs⟩ := h.of_suffix he
  rcases hs.cases with happly | ⟨heq, -⟩
  · have ha := ((live_of_run hrun).step happly).resolve_left (hchanged ·.1)
    obtain ⟨state, hstate, hrestart⟩ := ha.exists_record
    exact ⟨state, hstate, hrestart, fun prior hprior ↦ ha.validateCommit hprior hstate⟩
  · exact absurd (by rw [heq]) hchanged

theorem off_record_taken :
    ∃ e older, e :: older <:+ (execute next ([], sampleStart) sampleAbort).1 ∧
      ∃ state prior, e.before.record = .ok prior ∧ e.after.record = .ok state ∧
        Restartable state ∧ validateCommit state (some prior) = .ok () := by
  obtain ⟨state, hstate, hrestart, hprior⟩ :=
    own_records_taken sampleAbort_run (List.suffix_refl _) (by decide)
  exact ⟨_, _, List.suffix_refl _, state, _, rfl, hstate, hrestart, hprior _ rfl⟩

/-- The reducer that a restart makes of what the journal holds. -/
def reconciled (recovery : AuthorityJournalRecovery) : Checked GlobalAuthorityReducer :=
  match recovery.committedState, recovery.head, recovery.posture with
  | some state, some head, posture =>
    if state.transition = .enrollOff then
      match posture with
      | .recovering _ => enrolledOff state.installationID state.revision
      | .quarantined _ => new .quarantined state.revision (some state.installationID)
    else do
      let cursor ← ReplayCursor.new state.installationID state.epoch state.generation
        state.revision head.recordSHA256
      match posture with
      | .recovering _ => recovering state.revision (some cursor)
      | .quarantined _ => new .quarantined state.revision none (some cursor)
  | _, _, .recovering .restoreAnchorAccess => new .recovering 1
  | _, _, .recovering _ => unEnrolledOff
  | _, _, .quarantined _ => new .quarantined 1

/-- The reducer takes up the record, and is Off only if that is the enrollment. -/
def Restores (r : GlobalAuthorityReducer) (state : AuthorityCommittedState) : Prop :=
  r.installationID = some state.installationID ∧ r.revision = state.revision ∧
    r.root = (state.epoch, state.generation) ∧ (r.state = .off → state.transition = .enrollOff)

theorem reconciled_recoveryAt {cursor} (h : Restartable state) :
    ∃ r, reconciled (recoveryAt cursor state) = .ok r ∧ r.lease = none ∧ r.Restores state := by
  obtain ⟨action, haction⟩ := h
  by_cases ht : state.transition = .enrollOff
  · obtain ⟨hepoch, hgeneration, -⟩ := state.enroll_genesis ht
    simp [reconciled, recoveryAt, haction, ht, enrolledOff, new, StateShape, state.revision_pos,
      Restores, installationID, root, hepoch, hgeneration, require]
  · simp [reconciled, recoveryAt, haction, ht, recovering, new, StateShape, state.revision_pos,
      ReplayCursor.new, state.root_pos ht, Restores, installationID, root, require]

/-- Wherever the Authority was killed, it starts again, without a lease and from its last record. -/
theorem restart_keeps_root {decoder capacity s} (h : Reached decoder capacity s) :
    ∃ recovery r, (recover decoder s).result = .ok recovery ∧ reconciled recovery = .ok r ∧
      r.lease = none ∧ ∀ state ∈ recovery.committedState, r.Restores state := by
  obtain ⟨prior, hready, hleads⟩ := h.leadsTo
  obtain ⟨-, recovery, hresult, hrecovered, -⟩ := recover_wp hready.restartable hleads
  cases hrecovered with
  | vacant => exact ⟨_, _, hresult, rfl, rfl, by simp [emptyRecovery]⟩
  | committed _ hr =>
    obtain ⟨r, hreconciled, hlease, hrestores⟩ := reconciled_recoveryAt hr
    exact ⟨_, r, hresult, hreconciled, hlease, fun _ hs ↦ Option.some.inj hs ▸ hrestores⟩

theorem enrollment_restarted : ∃ recovery r,
    (recover .canonical enrolledStore).result = .ok recovery ∧ reconciled recovery = .ok r ∧
      r.lease = none ∧ r.Restores sampleEnrolled := by
  obtain ⟨_, _, _, h, -⟩ := appended_enrolledStore
  have hr : Restartable sampleEnrolled := ⟨_, rfl⟩
  have hreached : Reached .canonical .production _ := .settled (.committed h) fun _ hs ↦
    hr.ready _ hs.symm
  obtain ⟨_, r, hrecover, hreconciled, hlease, hrestores⟩ := restart_keeps_root hreached
  cases hrecover.symm.trans (recover_committed h hr).1
  exact ⟨_, r, hrecover, hreconciled, hlease, hrestores _ rfl⟩

end GlobalAuthorityReducer

end CfwRs.GlobalAuthority
