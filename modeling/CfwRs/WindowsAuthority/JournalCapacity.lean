import CfwRs.WindowsAuthority.Controller

namespace CfwRs.WindowsAuthority

open Lib Lib.Checked Lib.Durable

def JournalTransition.cleansUp : JournalTransition → Prop
  | .beginStop | .ownerStopped | .abortPrepared | .revokeForTimeout | .revokeForConsoleChange
  | .globalOff | .reconcileOff => True
  | _ => False

namespace WindowsAuthorityJournal

variable {j : WindowsAuthorityJournal} {s : Storage} {state next : AuthorityCommittedState}
  {cursor : JournalCursor} {storeId : Uuid} {recovery : JournalRecovery}

theorem not_begins_of_cleansUp (h : next.transition.cleansUp) : ¬Begins next := by
  rintro (hbegins | hbegins) <;> simp [hbegins, JournalTransition.cleansUp] at h

theorem append_result (storeId : Uuid) (h : Reached j s) (hrecovery : (j.recover s).result = .ok recovery)
    (hstate : recovery.committed = some state) (hcursor : recovery.cursor = some cursor)
    (hnext : next.validateSuccessor state = .ok ()) (hbegins : ¬Begins next) :
    (j.append storeId next s).result = .error .capacity ∧ j.recordCapacity ≤ cursor.sequence ∨
      (∃ c, (j.append storeId next s).result = .ok c) ∧ cursor.sequence < j.recordCapacity := by
  have hvalid := AuthorityCommittedState.valid_of_successor hnext
  have hlocked : j.recoverLocked.wp _ _ s := recoverLocked_wp h.leadsTo fun state hp ↦ hp state rfl
  have hwp : (j.append storeId next).wp (fun _ ↦ True) (fun r _ ↦
      r = .error .capacity ∧ j.recordCapacity ≤ cursor.sequence ∨
        (∃ c, r = .ok c) ∧ cursor.sequence < j.recordCapacity) s := by
    rw [append, validating, hvalid, wp_bind, wp_attempt, mapError_ok, after_ok, wp_bind]
    obtain ⟨-, found, w, hfound, hw, hrested, -, -⟩ := hlocked
    cases hrecovery.symm.trans hfound
    refine ⟨fun _ _ ↦ trivial, ?_⟩
    rw [hfound, after_ok, hstate]
    rw [hstate, hcursor] at hrested
    cases hrested with
    | committed hc =>
      refine wp_mono (C := Storage.On (LeadsTo j.serde fun _ ↦ True)) ?_ (fun _ _ ↦ trivial) fun _ _ h ↦ h
      refine appendNext_wp hw hc hnext trivial (fun _ _ ↦ trivial) trivial
        (fun hcompacts ↦ absurd hcompacts.1 hbegins) (fun hfull _ _ ↦ .inl ⟨rfl, hfull⟩)
        fun _ _ _ c _ _ _ hroom ↦ .inr ⟨⟨c, rfl⟩, ?_⟩
      exact (hroom.resolve_left fun hcompacts ↦ hbegins hcompacts.1).1
  exact hwp.2

theorem append_refused (h : Reached j s) (hrests : RestsAt j (some state) (some cursor) s)
    (hr : Restartable state) (hnext : next.validateSuccessor state = .ok ()) (hbegins : ¬Begins next)
    (hfull : j.recordCapacity ≤ cursor.sequence) :
    (j.append storeId next s).result = .error .capacity := by
  obtain ⟨recovery, hrecovery, hcommitted, hcursor⟩ := hrests.recover hr.ready
  obtain ⟨hrefused, -⟩ | ⟨-, hroom⟩ :=
    append_result storeId h hrecovery hcommitted hcursor hnext hbegins
  · exact hrefused
  · exact absurd hroom (UInt64.not_lt.mpr hfull)

end WindowsAuthorityJournal

namespace Controller

open WindowsAuthorityJournal

variable {j : WindowsAuthorityJournal} {a : Controller} {state next : AuthorityCommittedState}
  {cursor : JournalCursor} {storeId : Uuid} {recovery : JournalRecovery}

/-- Whatever has happened to the Authority, a record that cleans up is refused for want of capacity if
and only if its generation holds all the records that it may, and it is appended otherwise. -/
theorem cleanup_refused_iff_full {trace : List (History.Entry Controller (Uuid × Command))}
    (h : History.Run Fresh (Step j) trace a)
    (hrecovery : (j.recover a.storage).result = .ok recovery)
    (hstate : recovery.committed = some state) (hcursor : recovery.cursor = some cursor)
    (hnext : next.validateSuccessor state = .ok ()) (hcleanup : next.transition.cleansUp) :
    ((j.append storeId next a.storage).result = .error .capacity ↔
        j.recordCapacity ≤ cursor.sequence) ∧
      ((∃ c, (j.append storeId next a.storage).result = .ok c) ↔
        cursor.sequence < j.recordCapacity) := by
  have hresult : _ ∨ _ := append_result storeId (sound_of_run h).reached hrecovery hstate
    hcursor hnext (not_begins_of_cleansUp hcleanup)
  rcases hresult with ⟨hrefused, hfull⟩ | ⟨⟨c, hc⟩, hroom⟩
  · simp [hrefused, hfull]
  · simp [hc, hroom]

section Restarts

variable {op : MachineOperation} {m : Machine} {Q : Except ControlError Unit → Controller → Prop}

def recoveredMachine (state : AuthorityCommittedState) : Machine where
  phase := .recovering
  revision := state.revision
  durableKnown := true
  metadata := some state
  lease := none

theorem recover_at_rest (h : RestsAt j (some state) (some cursor) a.storage) (hr : Restartable state) :
    ∃ recovery, recovery.committed = some state ∧ state.restartAction = .ok recovery.action ∧
      Machine.recovering recovery = .ok (recoveredMachine state) ∧
      ∀ (m : Machine) (C : Controller → Prop) (Q : Except ControlError JournalRecovery → Controller → Prop),
        ((onJournal j.recover).wp C Q { a with machine := m } ↔ Q (.ok recovery) { a with machine := m }) ∧
        ((orSuspend j.recover).wp C Q { a with machine := m } ↔ Q (.ok recovery) { a with machine := m }) := by
  obtain ⟨v, hs, h⟩ := h
  obtain ⟨⟨committed, position, action⟩, rfl, rfl, haction, hwp⟩ := wp_recoverLocked_rested hs h hr.ready
  refine ⟨⟨some state, some cursor, action⟩, rfl, haction, ?_, fun m C Q ↦ ⟨?_, ?_⟩⟩
  · have hvalid : state.validate = .ok () ∧ cursor.stateRevision = state.revision := by
      cases h with
      | committed h => exact ⟨h.endsAt.state_valid, h.endsAt.revision_eq⟩
    have haction : state.restartAction = .ok action := haction
    simp [Machine.recovering, Machine.checkRecovery, hvalid.2, haction,
      AuthorityCommittedState.encode_eq hvalid.1, pure, Except.pure,
      recoveredMachine]
  · rw [wp_onJournal]
    exact hwp _ _
  · rw [wp_orSuspend]
    exact hwp _ _

theorem ne_of_validateSuccessor (h : next.validateSuccessor state = .ok ()) :
    some state ≠ some next := by
  rintro ⟨⟩
  obtain ⟨hmax, heq⟩ := checkedSucc_eq_some.mp (AuthorityCommittedState.checkedSucc_of_successor h)
  exact UInt64.ne_of_lt (lt_add_one hmax) heq.symm

theorem wp_operate_of_same (hcandidate : candidate op a.machine = .ok m)
    (hsame : m.metadata = a.machine.metadata) :
    (operate j storeId op).wp (fun _ ↦ True) Q a ↔ Q (.ok ()) { a with machine := m } := by
  simp [operate, policy, hcandidate, wp_run, commit, publishMetadata, if_pos hsame]

theorem wp_operate_of_changed (hcandidate : candidate op a.machine = .ok m)
    (hmetadata : m.metadata = some next) (hne : a.machine.metadata ≠ some next) :
    (operate j storeId op).wp (fun _ ↦ True) Q a ↔
      (j.append storeId next).wp (fun _ ↦ True) (fun r s ↦ match r with
        | .ok _ => Q (.ok ()) { storage := s, machine := m }
        | .error e => Q (.error (.journal e)) (suspended true (a.onStorage s))) a.storage := by
  have hpublish : publishMetadata j storeId m a.machine = (do
      let metadata ← policy (.ok next)
      let _ ← orSuspend (j.append storeId metadata)
      pure ()) := by
    rw [publishMetadata, hmetadata, if_neg hne.symm]
    rfl
  simp only [operate, policy, hcandidate, wp_run, commit, hpublish, wp_orSuspend]
  constructor
  all_goals
    refine fun h ↦ wp_post h fun r s hr ↦ ?_
    cases r with
    | ok v => simpa [suspending, onStorage] using hr
    | error e => simpa [suspending] using hr

section

variable (h : RestsAt j (some state) (some cursor) a.storage) (hr : Restartable state)
  (hm : a.machine.metadata = some state) (hcandidate : candidate op a.machine = .ok m)
  (hmetadata : m.metadata = some next) (hnext : next.validateSuccessor state = .ok ())
include h hr hm hcandidate hmetadata hnext

theorem operate_wp_of_room (hlt : cursor.sequence < j.recordCapacity) (hroom : Begins next →
      cursor.sequence.toNat + Limits.lifecycleFinishReserve ≤ j.recordCapacity.toNat)
    (hQ : ∀ b cursor', b.machine = m → RestsAt j (some next) (some cursor') b.storage →
      cursor'.sequence.toNat = cursor.sequence.toNat + 1 →
      cursor'.generation = cursor.generation → Q (.ok ()) b) :
    (operate j storeId op).wp (fun _ ↦ True) Q a := by
  obtain ⟨cursor', hresult, hsucc, hgeneration, hrests⟩ := append_returns storeId h hr hnext hlt hroom
  rw [wp_operate_of_changed hcandidate hmetadata (hm ▸ ne_of_validateSuccessor hnext)]
  refine ⟨fun _ _ ↦ trivial, ?_⟩
  rw [hresult]
  obtain ⟨hmax, heq⟩ := checkedSucc_eq_some.mp hsucc
  exact hQ _ cursor' rfl hrests (heq ▸ toNat_add_one hmax) hgeneration

theorem operate_wp_of_full (hs : Sound j a) (hfull : j.recordCapacity ≤ cursor.sequence)
    (hbegins : ¬Begins next) (hQ : ∀ b, Q (.error (.journal .capacity)) b) :
    (operate j storeId op).wp (fun _ ↦ True) Q a := by
  rw [wp_operate_of_changed hcandidate hmetadata (hm ▸ ne_of_validateSuccessor hnext)]
  refine ⟨fun _ _ ↦ trivial, ?_⟩
  rw [append_refused hs.reached h hr hnext hbegins hfull]
  exact hQ _

end

/-- The record of an Off that a start finds, with nothing to clean up. -/
structure RecordedOff (state : AuthorityCommittedState) : Prop where
  valid : state.validate = .ok ()
  off : state.state = .off
  operation_eq : state.operation = none

theorem RecordedOff.restartAction (h : RecordedOff state) : state.restartAction = .ok .verifyOff := by
  rw [AuthorityCommittedState.restartAction, h.valid, AuthorityCommittedState.action, h.off]
  rfl

theorem RecordedOff.target (h : RecordedOff state) :
    recordedOffTarget (recoveredMachine state) = .ok state := by
  simp [recordedOffTarget, recoveredMachine, h.valid, h.off, h.operation_eq, pure, Except.pure]

theorem wp_verifyRecordedOff (h : RestsAt j (some state) (some cursor) a.storage)
    (hoff : RecordedOff state) (ha : a.machine = recoveredMachine state) :
    (verifyRecordedOff j storeId ⟨true, true⟩).wp (fun _ ↦ True) Q a ↔
      (operate j storeId (.reconcile (recordedOffProof state))).wp (fun _ ↦ True) Q a := by
  have hr : Restartable state := ⟨.verifyOff, by simp [AuthorityCommittedState.action, hoff.off]⟩
  obtain ⟨recovery, hcommitted, haction, -, hwp⟩ := recover_at_rest h hr
  have hverify : recovery.action = .verifyOff := Except.ok.inj (haction.symm.trans hoff.restartAction)
  have hrecheck : ∀ Q' : Except ControlError Unit → Controller → Prop,
      (recheckRecordedOff j state).wp (fun _ ↦ True) Q' a ↔ Q' (.ok ()) a := by
    intro Q'
    rw [recheckRecordedOff, wp_bind]
    refine (hwp a.machine (fun _ ↦ True) _).2.trans ?_
    rw [after_ok, if_pos ⟨hcommitted, hverify⟩, wp_pure]
  have hknown : a.machine.durableKnown = true := by rw [ha]; rfl
  have htarget : recordedOffTarget a.machine = .ok state := by rw [ha]; exact hoff.target
  simp [verifyRecordedOff, observeRecordedOff, reconcileOff, policy, htarget, wp_run, hrecheck,
    hknown, require]

theorem wp_serve_of_recordedOff (h : RestsAt j (some state) (some cursor) a.storage)
    (hoff : RecordedOff state) (installation : Uuid) :
    (serve j storeId installation ⟨true, true⟩).wp (fun _ ↦ True) Q a ↔
      (operate j storeId (.reconcile (recordedOffProof state))).wp (fun _ ↦ True) Q
        { a with machine := recoveredMachine state } := by
  have hr : Restartable state := ⟨.verifyOff, by simp [AuthorityCommittedState.action, hoff.off]⟩
  obtain ⟨recovery, -, -, hmachine, hwp⟩ := recover_at_rest h hr
  have hfound : (recoveredMachine state).metadata = some state := rfl
  have hwp' := fun Q' ↦ (hwp a.machine (fun _ ↦ True) Q').1
  simp only [serve, fromJournal, wp_run, hwp', policy, hmachine, wp_step, enrollNew, hfound,
    Option.isNone_some, reject, Bool.false_eq_true, and_false, if_false, true_and]
  rw [if_pos ⟨state, rfl, hoff.off⟩]
  exact wp_verifyRecordedOff h hoff rfl

end Restarts

section Samples

open Machine

def offRecord (kind : JournalTransition) (revision : UInt64) : AuthorityCommittedState where
  schemaVersion := 6
  root := sampleRequest.root
  allocatedGeneration := 1
  revision := revision
  transition := kind
  state := .off
  operation := none

variable {kind : JournalTransition} {r r' : UInt64}

theorem recordedOff_offRecord (hk : kind = .globalOff ∨ kind = .reconcileOff) (hr : r ≠ 0) :
    RecordedOff (offRecord kind r) := by
  have hinstallation : ¬sampleRequest.root.installationId.isNil := by decide
  have hepoch : sampleRequest.root.epoch = 1 := rfl
  have hgeneration : sampleRequest.root.generation = 1 := rfl
  refine ⟨?_, rfl, rfl⟩
  rcases hk with rfl | rfl <;>
    simp [offRecord, AuthorityCommittedState.validate, AuthorityCommittedState.validateOperation, hr,
      hinstallation, hepoch, hgeneration]

/-- A recorded Off, and the revision of the record after it. -/
structure Verifies (kind : JournalTransition) (r r' : UInt64) : Prop where
  kind_eq : kind = .globalOff ∨ kind = .reconcileOff
  ne_zero : r ≠ 0
  succ : checkedSucc r = some r'

theorem Verifies.recordedOff (h : Verifies kind r r') :
    RecordedOff (offRecord kind r) ∧ RecordedOff (offRecord .reconcileOff r') := by
  refine ⟨recordedOff_offRecord h.kind_eq h.ne_zero, recordedOff_offRecord (.inr rfl) ?_⟩
  obtain ⟨hmax, rfl⟩ := checkedSucc_eq_some.mp h.succ
  exact (UInt64.ne_of_lt (UInt64.lt_of_le_of_lt UInt64.zero_le (lt_add_one hmax))).symm

theorem Verifies.follows (h : Verifies kind r r') :
    (offRecord .reconcileOff r').validateSuccessor (offRecord kind r) = .ok () := by
  obtain ⟨hbefore, hafter⟩ := h.recordedOff
  have hbefore := hbefore.valid
  have hafter := hafter.valid
  have hrevision : checkedSucc (offRecord kind r).revision = some (offRecord .reconcileOff r').revision :=
    h.succ
  simp only [AuthorityCommittedState.validateSuccessor, hbefore, hafter, hrevision, ok_iff]
  exact ⟨(), trivial, (), trivial, (), by simp [offRecord], (), by simp [offRecord], by
    simp [offRecord, AuthorityCommittedState.validateGeneration]⟩

def verifiedMachine (revision : UInt64) : Machine where
  phase := .off
  revision := revision
  durableKnown := true
  metadata := some (offRecord .reconcileOff revision)
  lease := none

theorem Verifies.transition (h : Verifies kind r r') :
    (transition .reconcileOff .off).run (recoveredMachine (offRecord kind r)) =
      .ok () (verifiedMachine r') := by
  have hnext : (offRecord kind r).transitionTo r' .reconcileOff .off none =
      .ok (offRecord .reconcileOff r') := by
    simp only [AuthorityCommittedState.transitionTo, ok_iff]
    exact ⟨(), h.follows, rfl⟩
  have hrevision : (recoveredMachine (offRecord kind r)).nextRevision = .ok r' :=
    unwrap_eq_ok.mpr h.succ
  simp only [Machine.transition, run_get_bind_eq_ok, run_check_bind_eq_ok, run_set_eq_ok]
  exact ⟨r', hrevision, _, rfl, none, rfl, _, journal_eq_ok.mpr hnext, rfl⟩

theorem Verifies.verified (h : Verifies kind r r') :
    candidate (.reconcile (recordedOffProof (offRecord kind r))) (recoveredMachine (offRecord kind r)) =
      .ok (verifiedMachine r') := by
  have hvalid := h.recordedOff.1.valid
  have hgenesis : ¬(recoveredMachine (offRecord kind r)).atGenesis := by
    intro h
    have hzero : sampleRequest.root.epoch = 0 := h _ rfl
    exact absurd hzero (by decide)
  have hscope : (recordedOffProof (offRecord kind r)).validateScope
      (recoveredMachine (offRecord kind r)).metadata = .ok () := by
    simp only [CleanupEvidence.validateScope, recordedOffProof, bind_eq_ok, journal_eq_ok, hvalid]
    exact ⟨(), trivial, by simp [offRecord, recoveredMachine]⟩
  have hrun : (Machine.perform (.reconcile (recordedOffProof (offRecord kind r)))).run
      (recoveredMachine (offRecord kind r)) = .ok () (verifiedMachine r') := by
    refine run_check_bind_eq_ok.mpr ⟨(), by simp [expectedRevision, recoveredMachine, recordedOffProof],
      run_check_bind_eq_ok.mpr ⟨(), hscope, run_check_bind_eq_ok.mpr ⟨(), by simp [recoveredMachine],
        run_check_bind_eq_ok.mpr ⟨(), by simp [recordedOffProof, metadataLeaseId, recoveredMachine, offRecord],
          ?_⟩⟩⟩⟩
    simp only [if_neg hgenesis]
    rw [run_bind_eq_ok]
    exact ⟨(), _, h.transition, rfl⟩
  unfold candidate
  rw [hrun]

def freshController : Controller where
  storage := freshStorage
  machine :=
    { phase := .recovering, revision := 1, durableKnown := true, metadata := none, lease := none }

noncomputable def sampleNext (a : Controller) (input : Uuid × Command) : Controller :=
  (perform sampleJournal input.1 input.2).final a

def sampleServe : Uuid × Command := (.fill 16 9, .serve sampleInstallation ⟨true, true⟩)

def sampleReserve : MachineOperation :=
  .reserveGeneration (fun _ ↦ true) sampleHost
    { installationId := sampleInstallation, configEpoch := 1, generation := 0 }

def samplePrepare : MachineOperation :=
  .prepare (fun _ ↦ true) sampleRequest sampleHost (.fill 16 6) { bytes := .fill 32 0, domain := [] } 0

def sampleLifecycle : List MachineOperation :=
  [sampleReserve, samplePrepare, .abortPrepared (fun _ ↦ true) none 3 1, .finishUnboundAbort]

def sampleAborted : List (Uuid × Command) :=
  sampleServe :: sampleLifecycle.map fun op ↦ (.fill 16 9, .operate op)

/-- The journal is at rest after `n` records in its first generation, and the machine is `m`. -/
def At (n : ℕ) (state : AuthorityCommittedState) (m : Machine) (a : Controller) : Prop :=
  a.machine = m ∧ ∃ cursor, RestsAt sampleJournal (some state) (some cursor) a.storage ∧
    cursor.sequence.toNat = n ∧ cursor.generation = 1

theorem recordedOff_enrollment : RecordedOff (.enrollment sampleInstallation) :=
  ⟨by decide, rfl, rfl⟩

theorem at_serve : At 1 (.enrollment sampleInstallation)
    { recoveredMachine (.enrollment sampleInstallation) with phase := .off }
    (sampleNext freshController sampleServe) := by
  have hwp : (serve sampleJournal (.fill 16 9) sampleInstallation ⟨true, true⟩).wp (fun _ ↦ True)
      (fun _ a ↦ At 1 (.enrollment sampleInstallation)
        { recoveredMachine (.enrollment sampleInstallation) with phase := .off } a) freshController := by
    obtain ⟨v, hs, h⟩ := restsAt_freshStorage (j := sampleJournal)
    obtain ⟨recovery, hcommitted, -, hempty, hrecover⟩ :=
      wp_recoverLocked_rested hs h (by rintro _ ⟨⟩)
    rw [Consistent, hcommitted] at hempty
    subst hempty
    obtain ⟨cursor, hresult, ⟨hone, hgeneration⟩, hrests⟩ := append_returns_first (.fill 16 9)
      (restsAt_freshStorage) recordedOff_enrollment.valid rfl
    have hstart := fun Q ↦ (wp_onJournal (a := freshController) (C := fun _ ↦ True) (Q := Q)).trans
      (hrecover _ _)
    have hmachine : Machine.recovering emptyRecovery = .ok freshController.machine := rfl
    have hcandidate : candidate (.enroll sampleInstallation) freshController.machine =
        .ok (recoveredMachine (.enrollment sampleInstallation)) := rfl
    have hverified : candidate (.reconcile (recordedOffProof (.enrollment sampleInstallation)))
        (recoveredMachine (.enrollment sampleInstallation)) =
          .ok { recoveredMachine (.enrollment sampleInstallation) with phase := .off } := rfl
    simp only [serve, fromJournal, wp_run, recover, hstart, policy, hmachine, reject,
      Bool.true_eq_false, false_and, if_false, wp_step, true_and]
    refine (wp_operate_of_changed hcandidate rfl (by simp [freshController])).mpr
      ⟨fun _ _ ↦ trivial, ?_⟩
    rw [freshController, hresult]
    simp only [wp_run]
    rw [if_pos ⟨_, rfl, rfl⟩, wp_verifyRecordedOff hrests recordedOff_enrollment rfl]
    refine (wp_operate_of_same hverified ?_).mpr ⟨rfl, cursor, hrests, ?_, hgeneration⟩
    · rfl
    · rw [hone]
      rfl
  exact hwp.2

variable {m : Machine} {n : ℕ}

section

variable {op : MachineOperation} {state next : AuthorityCommittedState} {m' : Machine}
  {a : Controller} (h : At n state m a) (hm : m.metadata = some state) (hr : Restartable state)
  (hcandidate : candidate op m = .ok m') (hmetadata : m'.metadata = some next)
  (hnext : next.validateSuccessor state = .ok ())
include h hm hr hcandidate hmetadata hnext

theorem operate_at (hlt : n < 4096)
    (hroom : Begins next → n + Limits.lifecycleFinishReserve ≤ 4096) :
    (operate sampleJournal (.fill 16 9) op).wp (fun _ ↦ True) (fun _ b ↦ At (n + 1) next m' b) a := by
  obtain ⟨hmachine, cursor, hrests, rfl, hgeneration⟩ := h
  exact operate_wp_of_room hrests hr (hmachine ▸ hm) (hmachine ▸ hcandidate) hmetadata hnext
    (UInt64.lt_iff_toNat_lt.mpr hlt) hroom fun b cursor' hb hb' hsequence hg ↦
      ⟨hb, cursor', hb', hsequence, hg.trans hgeneration⟩

variable (op next) in
theorem at_operate (hroom : n + Limits.lifecycleFinishReserve ≤ 4096) :
    At (n + 1) next m' (sampleNext a (.fill 16 9, .operate op)) := by
  have hreserve : Limits.lifecycleFinishReserve = 7 := rfl
  have hwp : (operate sampleJournal (.fill 16 9) op).wp (fun _ ↦ True) _ a :=
    operate_at h hm hr hcandidate hmetadata hnext (by omega) fun _ ↦ hroom
  exact hwp.2

end

theorem at_restart {a : Controller} (h : At n (offRecord kind r) m a) (hv : Verifies kind r r')
    (hroom : n < 4096) :
    At (n + 1) (offRecord .reconcileOff r') (verifiedMachine r') (sampleNext a sampleServe) := by
  obtain ⟨-, cursor, hrests, hn⟩ := h
  have hwp : (serve sampleJournal (.fill 16 9) sampleInstallation ⟨true, true⟩).wp (fun _ ↦ True)
      (fun _ b ↦ At (n + 1) (offRecord .reconcileOff r') (verifiedMachine r') b) a := by
    rw [wp_serve_of_recordedOff hrests hv.recordedOff.1]
    exact operate_at ⟨rfl, cursor, hrests, hn⟩ rfl ⟨.verifyOff, rfl⟩ hv.verified rfl hv.follows hroom
      fun hbegins ↦ by simp [Begins, offRecord] at hbegins
  exact hwp.2

def runRecord (kind : JournalTransition) (state : AuthorityState) (revision : UInt64) :
    AuthorityCommittedState :=
  { offRecord kind revision with
    state := state
    operation := some
      { operationId := sampleRequest.operationId, mode := sampleRequest.mode
        configSha256 := sampleRequest.configSha256, identitySha256 := sampleRequest.identitySha256
        leaseId := .fill 16 6, owner := sampleOwner } }

theorem at_aborted : ∃ m, At 5 (offRecord .globalOff 5) m
    (History.execute sampleNext ([], freshController) sampleAborted).2 := by
  have hreserved := at_operate sampleReserve sampleReserved at_serve rfl ⟨_, rfl⟩ rfl rfl
    (by decide) (by decide)
  have hprepared := at_operate samplePrepare (runRecord .prepare .preparing 3) hreserved rfl ⟨_, rfl⟩ rfl rfl
    (by decide) (by decide)
  have haborted := at_operate (.abortPrepared (fun _ ↦ true) none 3 1)
    (runRecord .abortPrepared .stopping 4) hprepared rfl ⟨_, rfl⟩ rfl rfl (by decide) (by decide)
  exact ⟨_, at_operate .finishUnboundAbort (offRecord .globalOff 5) haborted rfl ⟨_, rfl⟩ rfl rfl
    (by decide) (by decide)⟩

theorem at_restarts {p} (h : At 5 (offRecord .globalOff 5) m p.2) (n : ℕ) (hn : n ≤ 4091) :
    ∃ kind m, (kind = .globalOff ∨ kind = .reconcileOff) ∧
      At (5 + n) (offRecord kind (.ofNat (5 + n))) m
        (History.execute sampleNext p (List.replicate n sampleServe)).2 := by
  induction n with
  | zero => exact ⟨.globalOff, m, .inl rfl, h⟩
  | succ n ih =>
    obtain ⟨kind, m, hk, hat⟩ := ih (by omega)
    have hroom : 5 + n < 4096 := by omega
    rw [List.replicate_succ', History.execute_append]
    exact ⟨.reconcileOff, _, .inr rfl, at_restart hat
      ⟨hk, ofNat_ne_zero (by omega) (by omega), checkedSucc_ofNat (by omega)⟩ hroom⟩

theorem run_execute (inputs : List (Uuid × Command)) :
    History.Run Fresh (Step sampleJournal) (History.execute sampleNext ([], freshController) inputs).1
      (History.execute sampleNext ([], freshController) inputs).2 :=
  History.Run.execute (fun _ _ ↦ crash_final) inputs (.start ⟨rfl, rfl⟩)

/-- Wherever the service is killed, also while it recovers, the journal can be recovered again, to a
state that a restart acts on. -/
theorem restart_always_recovers {trace a s} (h : History.Run Fresh (Step j) trace a)
    (hs : Interrupted j.recover a.storage s) :
    ∃ recovery, (j.recover s).result = .ok recovery ∧ Ready recovery.committed := by
  have hreached : Reached j s := by
    induction hs with
    | refl => exact (sound_of_run h).reached
    | tail _ hcrash ih => exact ih.recover hcrash
  exact recovers hreached.leadsTo fun _ ↦ id

theorem served_store_recovers : ∃ recovery, (sampleJournal.recover
    (sampleNext freshController sampleServe).storage).result = .ok recovery ∧
      Ready recovery.committed := restart_always_recovers (run_execute [sampleServe]) .refl

theorem cleanup_after_abort : ∃ trace a recovery cursor,
    History.Run Fresh (Step sampleJournal) trace a ∧
      (sampleJournal.recover a.storage).result = .ok recovery ∧
      recovery.committed = some (offRecord .globalOff 5) ∧ recovery.cursor = some cursor ∧
      ∃ c, (sampleJournal.append (.fill 16 9) (offRecord .reconcileOff 6) a.storage).result = .ok c := by
  obtain ⟨m, hat⟩ := at_aborted
  obtain ⟨-, cursor, hrests, hn, -⟩ := hat
  obtain ⟨recovery, hrecovery, hcommitted, hcursor⟩ := hrests.recover (Restartable.ready ⟨_, rfl⟩)
  have hroom : cursor.sequence < sampleJournal.recordCapacity := by
    rw [UInt64.lt_iff_toNat_lt, hn]
    decide
  exact ⟨_, _, recovery, cursor, run_execute sampleAborted, hrecovery, hcommitted, hcursor,
    (cleanup_refused_iff_full (run_execute sampleAborted) hrecovery hcommitted hcursor
      (Verifies.follows ⟨.inl rfl, by decide, by decide⟩) trivial).2.mpr hroom⟩

theorem serve_refused {trace a}
    (hrun : History.Run Fresh (Step sampleJournal) trace a) (hat : At 4096 (offRecord kind r) m a)
    (hv : Verifies kind r r') : ∃ recovery state cursor next,
      (sampleJournal.recover a.storage).result = .ok recovery ∧
        recovery.committed = some state ∧ recovery.cursor = some cursor ∧ cursor.generation = 1 ∧
        next.validateSuccessor state = .ok () ∧ next.transition = .reconcileOff ∧
        (sampleJournal.append (.fill 16 9) next a.storage).result = .error .capacity ∧
        (perform sampleJournal sampleServe.1 sampleServe.2 a).result = .error (.journal .capacity) := by
  have hbegins : ¬Begins (offRecord .reconcileOff r') := not_begins_of_cleansUp trivial
  have hready : Restartable (offRecord kind r) := ⟨.verifyOff, rfl⟩
  obtain ⟨-, cursor, hrests, hn, hgeneration⟩ := hat
  obtain ⟨recovery, hrecovery, hcommitted, hcursor⟩ := hrests.recover hready.ready
  have hfull : sampleJournal.recordCapacity ≤ cursor.sequence := by
    rw [UInt64.le_iff_toNat_le, hn]
    decide
  refine ⟨recovery, _, cursor, offRecord .reconcileOff r', hrecovery, hcommitted, hcursor,
    hgeneration, hv.follows, rfl, ?_, ?_⟩
  · exact append_refused (sound_of_run hrun).reached hrests hready hv.follows hbegins hfull
  · have hwp : (serve sampleJournal (.fill 16 9) sampleInstallation ⟨true, true⟩).wp (fun _ ↦ True)
        (fun r _ ↦ r = .error (.journal .capacity)) a := by
      rw [wp_serve_of_recordedOff hrests hv.recordedOff.1]
      exact operate_wp_of_full hrests hready rfl hv.verified rfl hv.follows
        ((sound_of_run hrun).setMachine hready.ready) hfull hbegins fun _ ↦ rfl
    exact hwp.2

/-- Starts of the service fill the first generation of the journal: after 4091 of them, each of which
found a recorded Off, the next one is refused the record of its cleanup and fails. -/
theorem restarts_exhaust_generation :
    let p := History.execute sampleNext ([], freshController)
      (sampleAborted ++ List.replicate 4091 sampleServe)
    History.Run Fresh (Step sampleJournal) p.1 p.2 ∧ ∃ recovery state cursor next,
      (sampleJournal.recover p.2.storage).result = .ok recovery ∧
        recovery.committed = some state ∧ recovery.cursor = some cursor ∧ cursor.generation = 1 ∧
        next.validateSuccessor state = .ok () ∧ next.transition = .reconcileOff ∧
        (sampleJournal.append (.fill 16 9) next p.2.storage).result = .error .capacity ∧
        (perform sampleJournal sampleServe.1 sampleServe.2 p.2).result =
          .error (.journal .capacity) := by
  have hrun := run_execute (sampleAborted ++ List.replicate 4091 sampleServe)
  obtain ⟨m, haborted⟩ := at_aborted
  obtain ⟨kind, m, hk, hat⟩ := at_restarts haborted 4091 le_rfl
  rw [← History.execute_append] at hat
  exact ⟨hrun, serve_refused hrun hat ⟨hk, by decide, checkedSucc_ofNat (by decide)⟩⟩

end Samples

end Controller

end CfwRs.WindowsAuthority
