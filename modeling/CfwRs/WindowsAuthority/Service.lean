import CfwRs.WindowsAuthority.MachineHistory

namespace CfwRs.WindowsAuthority

open Lib Lib.Checked AuthorityCommittedState Machine

/-- What anyone may observe of the Authority. No revision means that a publication is uncertain. -/
structure AuthoritySnapshot where
  state : AuthorityState
  revision : Option UInt64
  root : Option RootContext
deriving DecidableEq

/-- The committed identity of the run and the phase of the machine. -/
structure RecordedRuntimeScope where
  snapshot : AuthoritySnapshot
  operation : Option JournalOperation
deriving DecidableEq

namespace Machine

variable (m : Machine)

def snapshot : AuthoritySnapshot where
  state := m.phase
  revision := if m.durableKnown then some m.revision else none
  root := if m.durableKnown then m.metadata.map (·.root) else none

def recordedRuntimeScope : Outcome RecordedRuntimeScope := do
  reject (¬m.durableKnown) .recovering
  let metadata ← unwrap m.metadata .recovering
  return ⟨m.snapshot, metadata.operation⟩

end Machine

/-- The Authority with its journal, of which only the last committed state matters here. -/
structure Service where
  machine : Machine
  durable : Option AuthorityCommittedState
deriving DecidableEq

namespace Service

/-- The answer to a dashboard of an account, which may also be told of an earlier logon's run. -/
def recordedRuntimeScope (s : Service) (sid : Bytes) : Outcome RecordedRuntimeScope := do
  let scope ← s.machine.recordedRuntimeScope
  reject (∃ operation ∈ scope.operation, operation.owner.sid ≠ sid) .identity
  return scope

/-- An operation on a copy of the machine, which takes its place once its record is published. A
publication that fails leaves it open whether the record is in the journal. -/
inductive Performs (op : MachineOperation) : Service → Service → Prop
  | refused {s} (h : ∀ m, (perform op).run s.machine ≠ .ok () m) :
      Performs op s s
  | unrecorded {s m} (h : (perform op).run s.machine = .ok () m)
      (hsame : m.metadata = s.machine.metadata) : Performs op s { s with machine := m }
  | published {s m} (h : (perform op).run s.machine = .ok () m)
      (hchanged : m.metadata ≠ s.machine.metadata) : Performs op s ⟨m, m.metadata⟩
  | unpublished {s m} (h : (perform op).run s.machine = .ok () m)
      (hchanged : m.metadata ≠ s.machine.metadata) {durable : Option AuthorityCommittedState}
      (hdurable : durable = s.durable ∨ durable = m.metadata) :
      Performs op s ⟨s.machine.suspended true, durable⟩

/-- The ways in which the service gives up its lease and starts again from its journal. -/
inductive Restarts : Service → Service → Prop
  | suspends (s : Service) (uncertain : Bool) :
      Restarts s { s with machine := s.machine.suspended uncertain }
  | recovers {s recovery m}
      (hcommitted : recovery.committed = s.durable) (h : recovering recovery = .ok m) :
      Restarts s { s with machine := m }

def start : Service := ⟨⟨.recovering, 1, true, none, none⟩, none⟩

end Service

namespace Machine

/-- What always holds of the machine: an uncertain publication stops it, Off has no operation, and
the operation of a lease is recorded. -/
structure Sound (m : Machine) : Prop where
  unknown : m.durableKnown = false → m.phase = .recovering ∧ m.lease = none
  revision : ∀ md, m.metadata = some md → md.revision = m.revision
  valid : ∀ md, m.metadata = some md → md.validate = .ok ()
  off : m.phase = .off → m.lease = none ∧ ∃ md, m.metadata = some md ∧ md.operation = none
  leased : ∀ l, m.lease = some l → ∃ md operation, m.metadata = some md ∧
    l.context.recorded = .ok operation ∧ md.operation = some operation

variable {m m' : Machine} {op : MachineOperation}

theorem Sound.known (h : m.Sound) (hphase : m.phase ≠ .recovering) : m.durableKnown = true := by
  by_contra hunknown
  exact hphase (h.unknown (by simpa using hunknown)).1

theorem Sound.suspended (h : m.Sound) (uncertain : Bool) : (m.suspended uncertain).Sound where
  unknown _ := ⟨rfl, rfl⟩
  revision := h.revision
  valid := h.valid
  off hoff := by cases hoff
  leased _ hl := by cases hl

theorem checkRecovery_valid {recovery u} (h : checkRecovery recovery = .ok u) {md}
    (hmd : recovery.committed = some md) : md.validate = .ok () := by
  unfold checkRecovery at h
  rw [hmd] at h
  split at h
  · next hnone _ => cases hnone
  · next hsome _ =>
    cases hsome
    simp only [bind_eq_ok, journal_eq_ok, restartAction] at h
    obtain ⟨_, -, _, ⟨_, hvalid, -⟩, -⟩ := h
    exact hvalid
  · cases h

theorem Sound.recovered {recovery} (h : recovering recovery = .ok m) :
    m.Sound ∧ m.metadata = recovery.committed := by
  simp only [recovering, ok_iff] at h
  obtain ⟨_, hcheck, rfl⟩ := h
  refine ⟨{ unknown := ?_, revision := ?_, valid := ?_, off := ?_, leased := ?_ }, rfl⟩
  · intro hunknown
    simp at hunknown
  · intro md hmd
    simp only at hmd ⊢
    rw [hmd]
    rfl
  · intro md hmd
    exact checkRecovery_valid hcheck hmd
  · intro hoff
    simp at hoff
  · intro l hl
    simp at hl

variable {metadata prior : AuthorityCommittedState}

theorem Sound.inherited (h : m.Sound) {lease} (hlease : m.Inherits lease)
    (hprior : m.metadata = some prior) (hoperation : metadata.operation = prior.operation) :
    ∀ l, lease = some l →
      ∃ operation, l.context.recorded = .ok operation ∧ metadata.operation = some operation := by
  intro l' hl'
  obtain ⟨l, hl, hcontext⟩ := hlease l' hl'
  obtain ⟨md, operation, hmd, hrecorded, hop⟩ := h.leased l hl
  cases hprior.symm.trans hmd
  exact ⟨operation, hcontext ▸ hrecorded, hoperation.trans hop⟩

theorem Sound.records (h : m.Sound) {kind} {phase}
    {lease} (hrecords : m.Records kind phase prior metadata)
    (hknown : m.durableKnown = true ∨ m.phase ≠ .recovering)
    (hphase : phase ≠ .preparing ∧ phase ≠ .recovering) (hlease : m.Inherits lease)
    (hoff : phase = .off → lease = none) : Sound { m.entered phase metadata with lease } where
  unknown hunknown := by
    have hunknown : m.durableKnown = false := hunknown
    rw [hknown.elim id h.known] at hunknown
    cases hunknown
  revision := by
    rintro _ ⟨⟩
    exact hrecords.revision_eq
  valid := by
    rintro _ ⟨⟩
    exact valid_of_successor hrecords.successor
  off hphase' := by
    refine ⟨hoff hphase', metadata, rfl, ?_⟩
    exact operation_of_off
      (valid_of_successor hrecords.successor)
      (hrecords.state_eq.trans hphase')
  leased l hl := by
    have hne : phase ≠ .off := by
      intro hphase'
      rw [hoff hphase'] at hl
      cases hl
    have hoperation : metadata.operation = prior.operation :=
      operation_of_successor hrecords.successor
        (hrecords.state_eq ▸ hphase.1) (hrecords.state_eq ▸ hne)
    obtain ⟨operation, hrecorded, hop⟩ := h.inherited hlease hrecords.prior_eq hoperation l hl
    exact ⟨metadata, operation, rfl, hrecorded, hop⟩

theorem reserveNextGeneration_ok {next} (h : prior.reserveNextGeneration = .ok next) :
    next.validateSuccessor prior = .ok () ∧ next.state = .off := by
  simp only [reserveNextGeneration, ok_iff, not_or, not_not] at h
  obtain ⟨_, -, _, ⟨hoff, -⟩, _, -, _, -, _, hsuccessor, rfl⟩ := h
  exact ⟨hsuccessor, hoff⟩

theorem Prepares.metadata_eq {input host leaseId ticket now}
    (h : m.Prepares input host leaseId ticket now prior metadata m') :
    metadata.revision = m.revision + 1 ∧ ∃ operation,
      (m.issuedContext input host leaseId).recorded = .ok operation ∧
        metadata.operation = some operation := by
  obtain ⟨operation, hrecorded, hnew⟩ := h.recorded
  simp only [new, ok_iff] at hnew
  obtain ⟨_, -, rfl⟩ := hnew
  exact ⟨rfl, operation, hrecorded, rfl⟩

theorem Sound.move (h : m.Sound) (hmove : m.Move op m') : m'.Sound := by
  cases hmove with
  | keeps lease hlease hafter =>
    subst hafter
    refine ⟨fun hunknown ↦ ?_, h.revision, h.valid, fun hoff ↦ ?_, fun l hl ↦ ?_⟩
    · obtain ⟨hphase, hnone⟩ := h.unknown hunknown
      refine ⟨hphase, Option.eq_none_iff_forall_ne_some.mpr fun l hl ↦ ?_⟩
      obtain ⟨_, hl, -⟩ := hlease l hl
      simp [hnone] at hl
    · obtain ⟨hnone, hmetadata⟩ := h.off hoff
      refine ⟨Option.eq_none_iff_forall_ne_some.mpr fun l hl ↦ ?_, hmetadata⟩
      obtain ⟨_, hl, -⟩ := hlease l hl
      simp [hnone] at hl
    · obtain ⟨l₀, hl₀, -⟩ := hlease l hl
      obtain ⟨md, -, hmd, -, -⟩ := h.leased l₀ hl₀
      obtain ⟨operation, hrecorded, hop⟩ := h.inherited hlease hmd rfl l hl
      exact ⟨md, operation, hmd, hrecorded, hop⟩
  | suspends uncertain hafter => exact hafter ▸ h.suspended uncertain
  | enrolls installation hnil hknown hnone hlease hrevision hafter =>
    subst hafter
    refine ⟨fun hunknown ↦ ?_, fun md hmd ↦ ?_, fun md hmd ↦ ?_, fun hoff ↦ ?_, fun l hl ↦ ?_⟩
    · rw [hknown] at hunknown
      cases hunknown
    · cases hmd
      exact hrevision.symm
    · cases hmd
      simp [validate, enrollment, validateOperation, hnil]
    · obtain ⟨-, md, hmd, -⟩ := h.off hoff
      simp [hnone] at hmd
    · simp [hlease] at hl
  | reserves prior next hoff hprior hnext hafter =>
    subst hafter
    obtain ⟨hsuccessor, hstate⟩ := reserveNextGeneration_ok hnext
    have hvalid := valid_of_successor hsuccessor
    obtain ⟨hnone, -⟩ := h.off hoff
    refine ⟨fun hunknown ↦ ?_, fun md hmd ↦ ?_, fun md hmd ↦ ?_, fun _ ↦ ?_, fun l hl ↦ ?_⟩
    · rw [h.known (by simp [hoff])] at hunknown
      cases hunknown
    · cases hmd
      rfl
    · cases hmd
      exact hvalid
    · exact ⟨hnone, next, rfl, operation_of_off hvalid hstate⟩
    · simp [hnone] at hl
  | prepares isOpen input host leaseId ticket now prior metadata hop hprepares =>
    have hvalid := valid_of_successor hprepares.successor
    obtain ⟨hrevision, operation, hrecorded, hoperation⟩ := hprepares.metadata_eq
    rw [hprepares.after_eq]
    refine ⟨fun hunknown ↦ ?_, fun md hmd ↦ ?_, fun md hmd ↦ ?_, fun hoff ↦ ?_, fun l hl ↦ ?_⟩
    · have hunknown : m.durableKnown = false := hunknown
      rw [h.known (by simp [hprepares.off])] at hunknown
      cases hunknown
    · cases hmd
      exact hrevision
    · cases hmd
      exact hvalid
    · cases hoff
    · cases hl
      exact ⟨metadata, operation, rfl, hrecorded, hoperation⟩
  | settles phase prior hknown hprior hepoch hlease hafter =>
    subst hafter
    refine ⟨fun hunknown ↦ ?_, h.revision, h.valid, fun _ ↦ ?_, h.leased⟩
    · rw [hknown] at hunknown
      cases hunknown
    · exact ⟨hlease, prior, hprior,
        operation_of_genesis (h.valid prior hprior) hepoch⟩
  | records kind phase prior metadata lease hrecords hknown hphase hquarantined hlease hoff hafter =>
    rw [hafter]
    exact h.records hrecords hknown hphase hlease hoff

theorem Move.durableKnown (hmove : m.Move op m') (h : m'.durableKnown = true) :
    m.durableKnown = true := by
  cases hmove with
  | suspends uncertain hafter =>
    subst hafter
    simp only [suspended, Bool.and_eq_true] at h
    exact h.1
  | prepares _ _ _ _ _ _ _ _ _ hprepares =>
    rw [hprepares.after_eq] at h
    exact h
  | keeps _ _ hafter | enrolls _ _ _ _ _ _ hafter | reserves _ _ _ _ _ hafter
  | settles _ _ _ _ _ _ hafter | records _ _ _ _ _ _ _ _ _ _ _ hafter =>
    subst hafter
    exact h

theorem Move.recorded (h : m.Sound) (hmove : m.Move op m') (hchanged : m'.metadata ≠ m.metadata) :
    m.durableKnown = true ∧ ∃ md, m'.metadata = some md ∧
      ∀ prior, m.metadata = some prior → prior.revision < md.revision := by
  have hsuccessor {prior next : AuthorityCommittedState} (hprior : m.metadata = some prior)
      (hnext : next.validateSuccessor prior = .ok ()) :
      ∀ prior, m.metadata = some prior → prior.revision < next.revision := by
    intro prior' hprior'
    cases hprior.symm.trans hprior'
    obtain ⟨hlast, hrevision⟩ :=
      checkedSucc_eq_some.mp (checkedSucc_of_successor hnext)
    rw [← hrevision]
    exact lt_add_one hlast
  cases hmove with
  | keeps lease hlease hafter => exact absurd (by rw [hafter]) hchanged
  | suspends uncertain hafter => exact absurd (by rw [hafter]; rfl) hchanged
  | enrolls installation hnil hknown hnone hlease hrevision hafter =>
    subst hafter
    refine ⟨hknown, _, rfl, fun prior hprior ↦ ?_⟩
    simp [hnone] at hprior
  | reserves prior next hoff hprior hnext hafter =>
    subst hafter
    exact ⟨h.known (by simp [hoff]), next, rfl, hsuccessor hprior (reserveNextGeneration_ok hnext).1⟩
  | prepares isOpen input host leaseId ticket now prior metadata hop hprepares =>
    rw [hprepares.after_eq]
    exact ⟨h.known (by simp [hprepares.off]), metadata, rfl,
      hsuccessor hprepares.prior_eq hprepares.successor⟩
  | settles phase prior hknown hprior hepoch hlease hafter => exact absurd (by rw [hafter]) hchanged
  | records kind phase prior metadata lease hrecords hknown hphase hquarantined hlease hoff hafter =>
    subst hafter
    exact ⟨hknown.elim id h.known, metadata, rfl, hsuccessor hrecords.prior_eq hrecords.successor⟩

/-- A lease was there before, or it was prepared for the current revision of Off. -/
theorem Move.lease (hmove : m.Move op m') {l'} (hl' : m'.lease = some l') :
    (∃ l, m.lease = some l ∧ l'.context = l.context) ∨
      ∃ isOpen input host leaseId ticket now, op = .prepare isOpen input host leaseId ticket now ∧
        m.phase = .off ∧ input.expectedRevision = m.revision ∧
        l'.context.operation.operationId = input.operationId := by
  cases hmove with
  | keeps lease hlease hafter =>
    subst hafter
    exact .inl (hlease l' hl')
  | suspends uncertain hafter =>
    subst hafter
    cases hl'
  | enrolls installation hnil hknown hnone hlease hrevision hafter =>
    subst hafter
    exact .inl ⟨l', hl', rfl⟩
  | reserves prior next hoff hprior hnext hafter =>
    subst hafter
    exact .inl ⟨l', hl', rfl⟩
  | prepares isOpen input host leaseId ticket now prior metadata hop hprepares =>
    rw [hprepares.after_eq] at hl'
    cases hl'
    exact .inr ⟨isOpen, input, host, leaseId, ticket, now, hop, hprepares.off, hprepares.expected,
      rfl⟩
  | settles phase prior hknown hprior hepoch hlease hafter =>
    subst hafter
    exact .inl ⟨l', hl', rfl⟩
  | records kind phase prior metadata lease hrecords hknown hphase hquarantined hlease hoff hafter =>
    subst hafter
    exact .inl (hlease l' hl')

end Machine

namespace Service

variable {s s' : Service} {op : MachineOperation}

/-- The machine is sound, and it has the last record unless a publication is uncertain. -/
structure Sound (s : Service) : Prop where
  machine : s.machine.Sound
  durable : s.machine.durableKnown = true → s.machine.metadata = s.durable

theorem sound_start : start.Sound := by
  refine ⟨⟨?_, ?_, ?_, ?_, ?_⟩, fun _ ↦ rfl⟩
  all_goals simp [start]

def level (s : Service) : ℕ := (s.durable.map (·.revision.toNat)).getD 0

theorem Sound.level_eq (h : s.Sound) (hknown : s.machine.durableKnown = true)
    {md} (hmd : s.machine.metadata = some md) : s.level = s.machine.revision.toNat := by
  rw [level, ← h.durable hknown, hmd, ← h.machine.revision md hmd]
  rfl

def Grows (s s' : Service) : Prop := s'.durable = s.durable ∨ s.level < s'.level

theorem grows_of_recorded (h : s.Sound) {m} (hmove : s.machine.Move op m)
    (hchanged : m.metadata ≠ s.machine.metadata) (hdurable : s'.durable = m.metadata) :
    Grows s s' := by
  obtain ⟨hknown, md, hmd, hlater⟩ := hmove.recorded h.machine hchanged
  right
  rw [level, level, hdurable, hmd, ← h.durable hknown]
  cases hprior : s.machine.metadata with
  | none =>
    have hpos := (h.machine.move hmove).valid md hmd
    simp only [validate, ok_iff, not_or] at hpos
    obtain ⟨_, -, _, ⟨hrevision, -⟩, -⟩ := hpos
    exact Nat.pos_of_ne_zero fun hzero ↦ hrevision (UInt64.toNat_inj.mp hzero)
  | some prior => exact UInt64.lt_iff_toNat_lt.mp (hlater prior hprior)

theorem Performs.step (h : s.Sound) (hstep : Performs op s s') : s'.Sound ∧ Grows s s' := by
  cases hstep with
  | refused => exact ⟨h, .inl rfl⟩
  | unrecorded hperform hsame =>
    have hmove := (performed hperform).move
    refine ⟨⟨h.machine.move hmove, fun hknown ↦ ?_⟩, .inl rfl⟩
    exact hsame.trans (h.durable (hmove.durableKnown hknown))
  | published hperform hchanged =>
    have hmove := (performed hperform).move
    exact ⟨⟨h.machine.move hmove, fun _ ↦ rfl⟩, grows_of_recorded h hmove hchanged rfl⟩
  | unpublished hperform hchanged hdurable =>
    refine ⟨⟨h.machine.suspended true, fun hknown ↦ ?_⟩, ?_⟩
    · simp [suspended] at hknown
    · rcases hdurable with hold | hnew
      · exact .inl hold
      · exact grows_of_recorded h (performed hperform).move hchanged hnew

theorem Restarts.step (h : s.Sound) (hstep : Restarts s s') : s'.Sound ∧ Grows s s' := by
  cases hstep with
  | suspends uncertain =>
    refine ⟨⟨h.machine.suspended uncertain, fun hknown ↦ ?_⟩, .inl rfl⟩
    simp only [suspended, Bool.and_eq_true] at hknown
    exact h.durable hknown.1
  | recovers hcommitted hm =>
    obtain ⟨hsound, hmetadata⟩ := Machine.Sound.recovered hm
    exact ⟨⟨hsound, fun _ ↦ hmetadata.trans hcommitted⟩, .inl rfl⟩

theorem Restarts.no_lease (hstep : Restarts s s') : s'.machine.lease = none := by
  cases hstep with
  | suspends uncertain => rfl
  | recovers hcommitted hm =>
    simp only [recovering, ok_iff] at hm
    obtain ⟨_, -, rfl⟩ := hm
    rfl

theorem Performs.lease (hstep : Performs op s s') {l'} (hl' : s'.machine.lease = some l') :
    (∃ l, s.machine.lease = some l ∧ l'.context = l.context) ∨
      ∃ isOpen input host leaseId ticket now, op = .prepare isOpen input host leaseId ticket now ∧
        s.machine.phase = .off ∧ input.expectedRevision = s.machine.revision ∧
        l'.context.operation.operationId = input.operationId := by
  cases hstep with
  | refused => exact .inl ⟨l', hl', rfl⟩
  | unrecorded hperform hsame => exact (performed hperform).move.lease hl'
  | published hperform hchanged => exact (performed hperform).move.lease hl'
  | unpublished hperform hchanged hdurable => cases hl'

def Step (s : Service) : Option MachineOperation → Service → Prop
  | some op => Performs op s
  | none => Restarts s

end Service

end CfwRs.WindowsAuthority
