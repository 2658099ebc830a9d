import CfwRs.Lib.History
import CfwRs.GlobalAuthority.JournalCrash

namespace CfwRs.GlobalAuthority

open Lib Lib.Checked Lib.Durable

namespace DescriptorRelativeAuthorityJournalStore

open AuthorityJournalRecoveryReducer

variable {decoder : JSONDecoder} {capacity : RecordCapacity} {s : JournalStore}
  {next : AuthorityCommittedState} {prior : Option AuthorityCommittedState}

inductive Request
  | appendCommitted (freshID : AuthorityIdentifier) (state : AuthorityCommittedState)
  | recover

/-- What a request may leave, whether it completes or the process ends during it. -/
def Step (decoder : JSONDecoder) (capacity : RecordCapacity) (s : JournalStore) :
    Request → JournalStore → Prop
  | .appendCommitted freshID state, t => Crash (appendCommitted decoder capacity freshID state) s t
  | .recover, t => Crash (recover decoder) s t

theorem exists_quarantined (h : ¬Ready prior) :
    ∃ state reason, prior = some state ∧ restartPosture state = .quarantined reason := by
  rw [Ready] at h
  push Not at h
  obtain ⟨state, hstate, hr⟩ := h
  cases hposture : restartPosture state with
  | recovering action => exact absurd ⟨action, hposture⟩ hr
  | quarantined reason => exact ⟨state, reason, hstate, hposture⟩

theorem appendCommitted_wp_quarantined {state reason} (hq : restartPosture state = .quarantined reason)
    (h : LeadsTo decoder (· = some state) s) {freshID : AuthorityIdentifier} :
    (appendCommitted decoder capacity freshID next).wp (LeadsTo decoder (· = some state))
      (fun r t ↦ r = .error (.validation reason) ∧ LeadsTo decoder (· = some state) t) s := by
  rw [appendCommitted, wp_bind, wp_handle]
  refine wp_post (recoverLocked_wp_quarantined hq h) ?_
  rintro r t ⟨rfl, ht⟩
  exact ⟨rfl, ht⟩

theorem step_leadsTo (h : LeadsTo decoder (fun _ ↦ True) s) {request : Request} {t : JournalStore}
    (hstep : Step decoder capacity s request t) : LeadsTo decoder (fun _ ↦ True) t := by
  cases request with
  | recover =>
    have hrecover : (recover decoder).wp (LeadsTo decoder fun _ ↦ True) (fun _ _ ↦ True) s :=
      wp_handle.mpr (wp_post (recoverLocked_wp h) fun _ _ _ ↦ trivial)
    exact Crash.of_wp hstep h hrecover
  | appendCommitted freshID state =>
    obtain ⟨prior, -, hexact⟩ := h.exact
    by_cases hready : Ready prior
    · exact (Crash.of_wp hstep (hexact.mono fun o ho ↦ .inl ho) (appendCommitted_wp hexact hready)).mono
        fun _ _ ↦ trivial
    · obtain ⟨state, reason, rfl, hq⟩ := exists_quarantined hready
      exact (Crash.of_wp hstep hexact (appendCommitted_wp_quarantined hq hexact)).mono fun _ _ ↦ trivial

/-- How an append to a history that a restart can act on may end. -/
inductive Answer (decoder : JSONDecoder) (capacity : RecordCapacity) (next : AuthorityCommittedState)
    (t : JournalStore) (recovery : AuthorityJournalRecovery) :
    Except JournalFailure AuthorityJournalHead → Prop
  | invalid {failure}
      (h : validateCommit next recovery.committedState = .error failure) : Answer _ _ _ _ _ (.error failure)
  | appended (head : AuthorityJournalHead) : Answer _ _ _ _ _ (.ok head)
  | exhausted {storeID cursor state} (hr : recovery = recoveryAt cursor state)
      (hk : t.keychain = .ok (some (settledAnchor storeID (some cursor))))
      (he : Exhausted capacity cursor state next) : Answer _ _ _ _ _ (.error (.storage .capacityExhausted))

theorem appendCommitted_answer (capacity) (h : LeadsTo decoder (· = prior) s)
    (hready : Ready prior) (next : AuthorityCommittedState) (freshID : AuthorityIdentifier) :
    ∃ recovery action, (recover decoder s).result = .ok recovery ∧ recovery.posture = .recovering action ∧
      Answer decoder capacity next ((recover decoder).final s) recovery
        (appendCommitted decoder capacity freshID next s).result := by
  have hlocked : (recoverLocked decoder).wp _ _ s :=
    recoverLocked_wp_restartable h hready.restartable
  obtain ⟨-, recovery, hresult, hrecovered, -⟩ := hlocked
  obtain ⟨action, haction⟩ := hrecovered.recovering
  have hwp : (appendCommitted decoder capacity freshID next).wp (fun _ ↦ True)
      (fun r _ ↦ Answer decoder capacity next ((recover decoder).final s) recovery r) s := by
    rw [appendCommitted, wp_bind, wp_handle]
    refine ⟨fun _ _ ↦ trivial, ?_⟩
    have hrecovering : requireRecovering recovery = .ok () := by
      simp only [requireRecovering, haction]
      rfl
    simp only [hresult, handled, wp_run, hrecovering]
    cases hvalid : validateCommit next recovery.committedState with
    | error failure => exact .invalid hvalid
    | ok u =>
      rw [after_ok]
      have hany : ∀ t, LeadsTo decoder (fun _ ↦ True) t → True := fun _ _ ↦ trivial
      generalize hfinal : (recoverLocked decoder).final s = t at hrecovered
      cases hrecovered with
      | vacant hv =>
        refine wp_mono (appendFirst_wp hv trivial trivial) hany ?_
        rintro r u ⟨⟨head, rfl⟩, -⟩
        exact .appended head
      | committed hc hr =>
        refine wp_mono (appendNext_wp hc hr (validateCommit_some hvalid) trivial (fun _ _ ↦ trivial) trivial)
          hany ?_
        rintro r u (⟨rfl, -, hexhausted⟩ | ⟨⟨head, rfl⟩, -⟩)
        · exact .exhausted rfl (hfinal.symm ▸ hc.keychain_eq) hexhausted
        · exact .appended head
  refine ⟨recovery, action, ?_, haction, hwp.2⟩
  simp [recover, handle, hresult, handled]

theorem validateCommit_ne_exhausted (next) (prior) :
    validateCommit next prior ≠ .error (.storage .capacityExhausted) := by
  cases prior <;> simp [validateCommit, bind_eq_error]

/-- However the store has been used, an append is not refused for want of capacity as long as there is
another generation, and, if the last record is an enrollment, no reason to compact. What follows the
last record is then appended. -/
theorem successor_never_exhausted {trace : List (History.Entry JournalStore Request)}
    (h : History.Run Vacant (Step decoder capacity) trace s) (hgeneration : ∀ storeID cursor,
      ((recover decoder).final s).keychain = .ok (some (settledAnchor storeID (some cursor))) →
        cursor.generation < maxWord)
    (henrolled : ∀ recovery state, (recover decoder s).result = .ok recovery →
      recovery.committedState = some state → state.transition = .enrollOff →
        shouldCompact capacity next recovery = .ok false) (freshID : AuthorityIdentifier) :
    (appendCommitted decoder capacity freshID next s).result ≠ .error (.storage .capacityExhausted) ∧
      ∀ recovery action, (recover decoder s).result = .ok recovery →
        recovery.posture = .recovering action →
        validateCommit next recovery.committedState = .ok () →
          ∃ head, (appendCommitted decoder capacity freshID next s).result = .ok head := by
  have hleads : LeadsTo decoder (fun _ ↦ True) s :=
    h.invariant (fun _ hv ↦ .settled (.vacant hv) trivial) fun _ _ _ hs ↦ step_leadsTo hs
  obtain ⟨prior, -, hexact⟩ := hleads.exact
  by_cases hready : Ready prior
  · obtain ⟨recovery, action, hrecovery, haction, hanswer⟩ :=
      appendCommitted_answer capacity hexact hready next freshID
    generalize (appendCommitted decoder capacity freshID next s).result = r at hanswer ⊢
    cases hanswer with
    | invalid hinvalid =>
      refine ⟨?_, fun recovery' _ hrecovery' _ hvalid ↦ ?_⟩
      · rintro ⟨⟩
        exact validateCommit_ne_exhausted _ _ hinvalid
      · cases hrecovery.symm.trans hrecovery'
        cases hinvalid.symm.trans hvalid
    | appended head => exact ⟨by simp, fun _ _ _ _ _ ↦ ⟨head, rfl⟩⟩
    | exhausted hr hk he =>
      obtain ⟨hfull, hnot⟩ := he
      refine absurd ⟨hgeneration _ _ hk, fun henroll ↦ ?_⟩ hnot
      have hfalse := henrolled recovery _ hrecovery (by rw [hr]; rfl) henroll
      rw [hr, shouldCompact_eq_true _ hfull] at hfalse
      cases hfalse
  · obtain ⟨state, reason, rfl, hq⟩ := exists_quarantined hready
    have happend : (appendCommitted decoder capacity freshID next).wp _ _ s :=
      appendCommitted_wp_quarantined hq hexact
    have hrecover := recover_quarantines hq hexact
    rw [happend.2.1]
    refine ⟨by simp, fun recovery action hrecovery haction ↦ ?_⟩
    cases hrecover.symm.trans hrecovery
    cases haction

theorem run_enrolledStore : ∃ trace,
    History.Run Vacant (Step .canonical .production) trace enrolledStore :=
  have hstep : Step .canonical .production freshStore (.appendCommitted (.fill 16 2) sampleEnrolled)
    enrolledStore := crash_final
  ⟨_, .step (.start vacant_freshStore) hstep⟩

theorem successor_of_enrollment :
    ∃ head, (appendCommitted .canonical .production (.fill 16 2) sampleRecovering enrolledStore).result =
      .ok head := by
  obtain ⟨trace, hrun⟩ := run_enrolledStore
  obtain ⟨storeID, cursor, journal, h, hgeneration, hc⟩ := appended_enrolledStore
  have hfull : ¬Full .production cursor sampleRecovering := by
    rw [Full, hc.sequence_eq]
    decide
  obtain ⟨hrecover, hcommitted⟩ := recover_committed h ⟨_, rfl⟩
  refine (successor_never_exhausted hrun (fun storeID' cursor' hk ↦ ?_) (fun recovery state hr _ _ ↦ ?_)
    (.fill 16 2)).2 _ _ hrecover rfl rfl
  · have hsame := congrArg AuthorityJournalAnchor.committed
      (Option.some.inj (Except.ok.inj (hcommitted.keychain_eq.symm.trans hk)))
    obtain rfl := Option.some.inj hsame
    rw [hgeneration]
    decide
  · cases hrecover.symm.trans hr
    exact (shouldCompact_eq_false h.endsAt hfull).1

section Enrollments

def enrolledAgain (state : AuthorityCommittedState) (h : state.revision < maxWord) :
    AuthorityCommittedState where
  __ := state
  revision := state.revision + 1
  revision_pos := UInt64.lt_trans state.revision_pos (lt_add_one h)

variable {state : AuthorityCommittedState} (htransition : state.transition = .enrollOff)
  (hmax : state.revision < maxWord)

include htransition in
theorem restartable_enrollment : Restartable state := by
  obtain ⟨-, -, hoff⟩ := state.enroll_genesis htransition
  exact ⟨.verifyOff, by rw [restartPosture, hoff]⟩

theorem validateCommit_enrolledAgain : validateCommit (enrolledAgain state hmax) (some state) = .ok () := by
  have hsucc := checkedSucc_eq_some.mpr ⟨hmax, rfl⟩
  simp only [validateCommit, hsucc, ok_iff]
  exact ⟨(), rfl, _, rfl, (), rfl, PairLess.irrefl _⟩

include htransition in
theorem append_enrolledAgain {s storeID cursor journal}
    (h : Committed .canonical s storeID cursor journal state) :
    (appendCommitted .canonical .production (.fill 16 2) (enrolledAgain state hmax)).wp (fun _ ↦ True)
      (fun r t ↦ if 4096 ≤ cursor.sequence.toNat then r = .error (.storage .capacityExhausted)
        else Appended .canonical storeID cursor.generation (some (journal, cursor.head))
          (enrolledAgain state hmax) t) s := by
  have hprepare : ¬(enrolledAgain state hmax).transition = .prepare := by
    simp [enrolledAgain, htransition]
  have hfull : Full .production cursor (enrolledAgain state hmax) ↔ 4096 ≤ cursor.sequence.toNat := by
    rw [Full, or_iff_left fun h ↦ hprepare h.1]
    rfl
  refine wp_mono (appendCommitted_wp_of_committed h (restartable_enrollment htransition)
    (validateCommit_enrolledAgain hmax)) (fun _ _ ↦ trivial) ?_
  rintro r t (⟨rfl, hexhausted⟩ | ⟨-, hnot, -, happended⟩)
  · rw [if_pos (hfull.mp hexhausted.1)]
  · have hroom : ¬4096 ≤ cursor.sequence.toNat := fun hle ↦
      hnot ⟨hfull.mpr hle, fun hcompactable ↦ hcompactable.2 htransition⟩
    rw [if_neg hroom]
    exact happended fun h ↦ hroom (hfull.mp h)

theorem exists_enrollments (n : ℕ) (hn : n < 4096) :
    ∃ trace s storeID cursor journal state, History.Run Vacant (Step .canonical .production) trace s ∧
      Committed .canonical s storeID cursor journal state ∧ state.transition = .enrollOff ∧
      state.revision.toNat = n + 1 ∧ cursor.sequence.toNat = n + 1 ∧ cursor.generation = 1 := by
  induction n with
  | zero =>
    obtain ⟨trace, hrun⟩ := run_enrolledStore
    obtain ⟨storeID, cursor, journal, h, hgeneration, hc⟩ := appended_enrolledStore
    exact ⟨trace, _, storeID, cursor, journal, _, hrun, h, rfl, rfl, by rw [hc.sequence_eq]; rfl, hgeneration⟩
  | succ n ih =>
    obtain ⟨trace, s, storeID, cursor, journal, state, hrun, h, htransition, hrevision, hsequence,
      hgeneration⟩ := ih (by omega)
    have hmax : state.revision < maxWord := lt_maxWord_iff.mpr (by omega)
    have happend := append_enrolledAgain htransition hmax h
    obtain ⟨-, hend⟩ := happend
    rw [if_neg (by omega)] at hend
    obtain ⟨cursor', journal', h', hgeneration', hc⟩ := hend
    obtain ⟨hlt, hnext⟩ := checkedSucc_eq_some.mp hc.checkedSucc_priorSequence
    have hstep : Step .canonical .production s (.appendCommitted (.fill 16 2) (enrolledAgain state hmax))
      _ := crash_final
    refine ⟨_, _, storeID, cursor', journal', _, hrun.step hstep, h', htransition, ?_, ?_,
      hgeneration'.trans hgeneration⟩
    · rw [enrolledAgain, toNat_add_one hmax, hrevision]
    · rw [← hnext, toNat_add_one hlt]
      exact congrArg (· + 1) hsequence

/-- A first generation full of enrollments has no checkpoint: the next record, which follows the last
one, is refused although there are other generations. -/
theorem enrollments_exhaust_generation :
    ∃ trace s recovery next, History.Run Vacant (Step .canonical .production) trace s ∧
      (recover .canonical s).result = .ok recovery ∧
      (∃ storeID cursor, ((recover .canonical).final s).keychain =
        .ok (some (settledAnchor storeID (some cursor))) ∧ cursor.generation = 1) ∧
      validateCommit next recovery.committedState = .ok () ∧
      (appendCommitted .canonical .production (.fill 16 2) next s).result =
        .error (.storage .capacityExhausted) := by
  obtain ⟨trace, s, storeID, cursor, journal, state, hrun, h, htransition, hrevision, hsequence,
    hgeneration⟩ := exists_enrollments 4095 (by omega)
  have hmax : state.revision < maxWord := lt_maxWord_iff.mpr (by omega)
  obtain ⟨-, hend⟩ := append_enrolledAgain htransition hmax h
  rw [if_pos (by omega)] at hend
  obtain ⟨hrecover, hcommitted⟩ := recover_committed h (restartable_enrollment htransition)
  exact ⟨trace, s, _, enrolledAgain state hmax, hrun, hrecover,
    ⟨storeID, cursor, hcommitted.keychain_eq, hgeneration⟩, validateCommit_enrolledAgain hmax, hend⟩

end Enrollments

end DescriptorRelativeAuthorityJournalStore

end CfwRs.GlobalAuthority
