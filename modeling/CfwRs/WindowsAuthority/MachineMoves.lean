import CfwRs.WindowsAuthority.MachineCases

namespace CfwRs.WindowsAuthority

open Lib Lib.Checked

namespace AuthorityCommittedState

variable {s prior : AuthorityCommittedState}

theorem operation_of_off (h : s.validate = .ok ()) (hoff : s.state = .off) :
    s.operation = none := by
  simp only [validate, ok_iff] at h
  obtain ⟨_, -, _, -, _, -, _, hnone, -⟩ := h
  simpa [hoff] using hnone

theorem operation_of_successor (h : s.validateSuccessor prior = .ok ())
    (hpreparing : s.state ≠ .preparing) (hoff : s.state ≠ .off) :
    s.operation = prior.operation := by
  simp only [validateSuccessor, ok_iff] at h
  obtain ⟨_, -, _, -, _, -, _, hsame, hgeneration⟩ := h
  have hkind : s.transition ≠ .prepare := by
    intro hkind
    simp only [validateGeneration, hkind, reduceCtorEq, if_false] at hgeneration
    split at hgeneration
    · cases hgeneration
    · simp [hpreparing] at hgeneration
  simpa [hkind, hoff] using hsame

theorem operation_of_genesis (h : s.validate = .ok ()) (hepoch : s.root.epoch = 0) :
    s.operation = none := by
  refine operation_of_off h ?_
  by_cases henroll : s.transition = .enrollOff
  · simp only [validate, henroll, if_true, ok_iff, not_or, not_not] at h
    obtain ⟨_, -, _, -, _, -, _, -, _, -, _, -, _, ⟨-, -, -, hoff, -⟩, -⟩ := h
    exact hoff
  · simp only [validate, henroll, if_false, ok_iff, hepoch, true_or, true_and, not_not] at h
    obtain ⟨_, -, _, -, _, -, _, -, _, -, _, -, _, ⟨-, -, hoff, -⟩, -⟩ := h
    exact hoff

end AuthorityCommittedState

inductive MachineOperation
  | enterRecovery (uncertain : Bool)
  | enroll (installation : Uuid)
  | reserveGeneration (isOpen : OpenConnections) (host : Peer) (expected : AuthorityLineage)
  | prepare (isOpen : OpenConnections) (input : PrepareRequest) (host : Peer) (leaseId : Uuid)
      (ticket : TicketDigest) (now : Instant)
  | bind (isOpen : OpenConnections) (peer : Peer) (context : LeaseContext) (ticket : Bytes)
      (now : Instant)
  | ready (isOpen : OpenConnections) (peer : Peer) (report : ReadyReport) (now : Instant)
  | heartbeat (isOpen : OpenConnections) (peer : Peer) (context : LeaseContext) (now : Instant)
  | beginStop (isOpen : OpenConnections) (peer : Peer) (context : LeaseContext)
      (expected : UInt64) (now : Instant)
  | abortPrepared (isOpen : OpenConnections) (peer : Option Peer) (expected : UInt64)
      (now : Instant)
  | finishUnboundAbort
  | revoke (consoleChange : Bool) (now : Instant)
  | stopped (isOpen : OpenConnections) (peer : Peer) (report : StoppedReport) (now : Instant)
  | reconcile (evidence : CleanupEvidence)
  | quarantineExpiredStop

namespace Machine

def perform : MachineOperation → MachineAction Unit
  | .enterRecovery uncertain => enterRecovery uncertain
  | .enroll installation => enroll installation
  | .reserveGeneration isOpen host expected => do let _ ← reserveGeneration isOpen host expected
  | .prepare isOpen input host leaseId ticket now => do
    let _ ← prepare isOpen input host leaseId ticket now
  | .bind isOpen peer context ticket now => bind isOpen peer context ticket now
  | .ready isOpen peer report now => ready isOpen peer report now
  | .heartbeat isOpen peer context now => heartbeat isOpen peer context now
  | .beginStop isOpen peer context expected now => beginStop isOpen peer context expected now
  | .abortPrepared isOpen peer expected now => abortPrepared isOpen peer expected now
  | .finishUnboundAbort => finishUnboundAbort
  | .revoke consoleChange now => revoke consoleChange now
  | .stopped isOpen peer report now => stopped isOpen peer report now
  | .reconcile evidence => reconcile evidence
  | .quarantineExpiredStop => quarantineExpiredStop

/-- The machine after an operation: a failed one has kept whatever it had done by then. -/
def next (m : Machine) (op : MachineOperation) : Machine :=
  match (perform op).run m with
  | .ok _ m' => m'
  | .error _ m' => m'

def Step (m : Machine) (op : MachineOperation) (m' : Machine) : Prop := m' = m.next op

theorem step_next (m : Machine) (op) : m.Step op (m.next op) := rfl

def Recovers (m : Machine) : Prop := ∃ recovery, recovering recovery = .ok m

variable {m m' : Machine} {op : MachineOperation}

theorem perform_atomic (op) : AtomicAt m (perform op) := by
  cases op with
  | enterRecovery uncertain => exact enterRecovery_atomic uncertain
  | enroll installation => exact enroll_atomic installation
  | reserveGeneration isOpen host expected =>
    exact .bind (reserveGeneration_atomic host expected) fun _ _ _ _ _ ↦ run_pure_ne_error
  | prepare isOpen input host leaseId ticket now =>
    exact .bind (prepare_atomic input host leaseId ticket) fun _ _ _ _ _ ↦ run_pure_ne_error
  | bind isOpen peer context ticket now => exact bind_atomic ticket
  | ready isOpen peer report now => exact ready_atomic report
  | heartbeat isOpen peer context now => exact heartbeat_atomic
  | beginStop isOpen peer context expected now => exact beginStop_atomic expected
  | abortPrepared isOpen peer expected now => exact abortPrepared_atomic peer expected
  | finishUnboundAbort => exact finishUnboundAbort_atomic
  | revoke consoleChange now => exact revoke_atomic consoleChange
  | stopped isOpen peer report now => exact stopped_atomic report
  | reconcile evidence => exact reconcile_atomic evidence
  | quarantineExpiredStop => exact quarantineExpiredStop_atomic

theorem Step.cases (h : m.Step op m') :
    (perform op).run m = .ok () m' ∨ m' = m ∧ ∀ s, (perform op).run m ≠ .ok () s := by
  unfold Step next at h
  split at h
  · next s hs => exact .inl (h ▸ hs)
  · next e s hs =>
    rw [h, perform_atomic op e s hs]
    exact .inr ⟨rfl, fun t ht ↦ by rw [hs] at ht; cases ht⟩

def Live (phase : AuthorityState) : Prop :=
  phase = .preparing ∨ phase = .starting ∨ phase = .active ∨ phase = .stopping

/-- What a successful operation can do to the lease and its runtime. -/
inductive Effect (m : Machine) (op : MachineOperation) (m' : Machine) : Prop
  | releases (hafter : m'.lease = none)
  | creates (hbefore : m.lease = none) (hphase : m'.phase = .preparing)
  | keeps (l l' : Lease) (hbefore : m.lease = some l) (hafter : m'.lease = some l')
      (hcontext : l'.context = l.context)
      (hlive : Live m'.phase → Live m.phase ∧ l'.runtime = l.runtime)
      (hpreparing : m'.phase = .preparing → m.phase = .preparing)
      (hstopped : m'.phase = .stopping → l'.ownerStopped = true →
        m.phase = .stopping ∧ l.ownerStopped = true)
      (hop : ∀ isOpen peer context ticket now, op ≠ .bind isOpen peer context ticket now)
  | binds (isOpen : OpenConnections) (peer : Peer) (context : LeaseContext) (ticket : Bytes)
      (now : Instant) (hop : op = .bind isOpen peer context ticket now) (l l' : Lease)
      (hbefore : m.lease = some l) (hpreparing : m.phase = .preparing)
      (hafter : m'.lease = some l') (hruntime : l'.runtime = some peer)
      (hphase : m'.phase = .starting)
  | stops (isOpen : OpenConnections) (peer : Peer) (report : StoppedReport) (now : Instant)
      (hop : op = .stopped isOpen peer report now) (l l' : Lease) (hbefore : m.lease = some l)
      (hcontext : l.context = report.context) (hlive : Live m.phase)
      (hruntime : l.runtime = some peer) (hafter : m'.lease = some l')
      (hkept : l'.context = l.context ∧ l'.runtime = l.runtime) (hphase : m'.phase = .stopping)
  | aborts (isOpen : OpenConnections) (peer : Option Peer) (expected : UInt64) (now : Instant)
      (hop : op = .abortPrepared isOpen peer expected now) (l l' : Lease)
      (hbefore : m.lease = some l) (hpreparing : m.phase = .preparing)
      (hafter : m'.lease = some l') (hruntime : l'.runtime = none) (hphase : m'.phase = .stopping)

theorem Effect.unchanged
    (hop : ∀ isOpen peer context ticket now, op ≠ .bind isOpen peer context ticket now) :
    Effect m op m := by
  cases hl : m.lease with
  | none => exact .releases hl
  | some l => exact .keeps l l hl hl rfl (fun h ↦ ⟨h, rfl⟩) id (fun h h' ↦ ⟨h, h'⟩) hop

variable {l : Lease}

theorem Effect.of_stopping {kind now metadata} (hl : m.lease = some l)
    (hphase : m.phase = .preparing ∨ m.phase = .starting ∨ m.phase = .active)
    (hop : ∀ isOpen peer context ticket now, op ≠ .bind isOpen peer context ticket now) :
    Effect m op { m.entered .stopping metadata with lease := some (stopping kind now l) } := by
  refine .keeps l _ hl rfl rfl (fun _ ↦ ⟨?_, rfl⟩) (by simp [entered]) (by simp [stopping]) hop
  tauto

def suspended (m : Machine) (uncertain : Bool) : Machine :=
  { m with phase := .recovering, durableKnown := m.durableKnown && !uncertain, lease := none }

def Inherits (m : Machine) (lease : Option Lease) : Prop :=
  ∀ l', lease = some l' → ∃ l, m.lease = some l ∧ l'.context = l.context

theorem inherits_none : m.Inherits none := by
  intro l h
  cases h

theorem inherits_some {l l'} (hl : m.lease = some l) (hcontext : l'.context = l.context) :
    m.Inherits (some l') := by
  rintro _ ⟨⟩
  exact ⟨l, hl, hcontext⟩

inductive Move (m : Machine) (op : MachineOperation) (m' : Machine) : Prop
  | keeps (lease : Option Lease) (hlease : m.Inherits lease) (hafter : m' = { m with lease })
  | suspends (uncertain : Bool) (hafter : m' = m.suspended uncertain)
  | enrolls (installation : Uuid) (hnil : ¬installation.isNil) (hknown : m.durableKnown = true)
      (hnone : m.metadata = none) (hlease : m.lease = none) (hrevision : m.revision = 1)
      (hafter : m' = { m with metadata := some (.enrollment installation) })
  | reserves (prior next : AuthorityCommittedState) (hoff : m.phase = .off)
      (hprior : m.metadata = some prior) (hnext : prior.reserveNextGeneration = .ok next)
      (hafter : m' = { m with revision := next.revision, metadata := some next })
  | prepares (isOpen : OpenConnections) (input : PrepareRequest) (host : Peer) (leaseId : Uuid)
      (ticket : TicketDigest) (now : Instant) (prior metadata : AuthorityCommittedState)
      (hop : op = .prepare isOpen input host leaseId ticket now)
      (hprepares : m.Prepares input host leaseId ticket now prior metadata m')
  | settles (phase : AuthorityState) (prior : AuthorityCommittedState)
      (hknown : m.durableKnown = true) (hprior : m.metadata = some prior)
      (hepoch : prior.root.epoch = 0) (hlease : m.lease = none) (hafter : m' = { m with phase })
  | records (kind : JournalTransition) (phase : AuthorityState)
      (prior metadata : AuthorityCommittedState) (lease : Option Lease)
      (hrecords : m.Records kind phase prior metadata)
      (hknown : m.durableKnown = true ∨ m.phase ≠ .recovering)
      (hphase : phase ≠ .preparing ∧ phase ≠ .recovering)
      (hquarantined : phase = .quarantined → kind = .reconcileOff)
      (hlease : m.Inherits lease) (hoff : phase = .off → lease = none)
      (hafter : m' = { m.entered phase metadata with lease })

theorem reconcile_checked {evidence} {u} (h : (reconcile evidence).run m = .ok u m') :
    m.durableKnown = true ∧ (m.atGenesis ∨ m'.revision = m.revision + 1) := by
  simp only [reconcile, run_get_bind_eq_ok, run_check_bind_eq_ok, expectedRevision, ok_iff,
    not_not] at h
  obtain ⟨_, ⟨_, hknown, -⟩, _, -, _, -, _, -, h⟩ := h
  refine ⟨hknown, ?_⟩
  by_cases hgenesis : m.atGenesis
  · exact .inl hgenesis
  · rw [if_neg hgenesis] at h
    obtain ⟨_, _, ht, h⟩ := run_bind_eq_ok.mp h
    obtain ⟨_, _, -, rfl⟩ := transition_ok ht
    rw [run_get_bind_eq_ok] at h
    split at h
    · rw [← run_set_eq_ok.mp h]
      exact .inr rfl
    · rw [← run_set_eq_ok.mp h]
      exact .inr rfl

theorem Move.of_records {kind phase prior metadata l l'}
    (hrecords : m.Records kind phase prior metadata) (hl : m.lease = some l)
    (hcontext : l'.context = l.context) (hbefore : m.phase ≠ .recovering)
    (hphase : phase = .starting ∨ phase = .active ∨ phase = .stopping) :
    Move m op { m.entered phase metadata with lease := some l' } := by
  refine .records kind phase prior metadata _ hrecords (.inr hbefore) ?_ ?_
    (inherits_some hl hcontext) ?_ rfl
  all_goals rcases hphase with rfl | rfl | rfl
  all_goals simp

theorem Move.unchanged : Move m op m :=
  .keeps m.lease (fun l hl ↦ ⟨l, hl, rfl⟩) rfl

/-- What the machine holds while a run is under way: the lease, and the record about it. -/
structure Tracks (m : Machine) (l : Lease) (s : AuthorityCommittedState) : Prop where
  lease_eq : m.lease = some l
  metadata_eq : m.metadata = some s
  state_eq : s.state = m.phase
  revision_eq : s.revision = m.revision
  root_eq : s.root = l.context.operation.root
  operation_eq : ∃ operation, l.context.recorded = .ok operation ∧ s.operation = some operation
  bound : m.phase = .starting ∨ m.phase = .active → l.runtime ≠ none ∧ l.ticket = none

def InLockstep (m : Machine) : Prop := Live m.phase → ∃ l s, m.Tracks l s

theorem InLockstep.records {kind phase prior metadata l l'} (h : m.InLockstep)
    (hlive : Live m.phase) (hl : m.lease = some l) (hr : m.Records kind phase prior metadata)
    (hphase : phase = .starting ∨ phase = .active ∨ phase = .stopping)
    (hcontext : l'.context = l.context)
    (hbound : (m.phase = .starting → l.ticket = none) → phase = .starting ∨ phase = .active →
      l'.runtime ≠ none ∧ l'.ticket = none) :
    InLockstep { m.entered phase metadata with lease := some l' } := by
  obtain ⟨k, s, ht⟩ := h hlive
  cases hl.symm.trans ht.lease_eq
  cases hr.prior_eq.symm.trans ht.metadata_eq
  have hoperation : metadata.operation = prior.operation := by
    refine AuthorityCommittedState.operation_of_successor hr.successor ?_ ?_
    all_goals rw [hr.state_eq]
    all_goals rcases hphase with rfl | rfl | rfl
    all_goals simp
  refine fun _ ↦ ⟨l', metadata, rfl, rfl, hr.state_eq, hr.revision_eq, ?_, ?_,
    hbound fun hs ↦ (ht.bound (.inl hs)).2⟩
  · rw [hr.root_eq, ht.root_eq, hcontext]
  · rw [hoperation, hcontext]
    exact ht.operation_eq

/-- What can make the Authority turn Off. -/
def TurnsOff (m : Machine) (op : MachineOperation) : Prop :=
  (op = .finishUnboundAbort ∧ ∃ l, m.lease = some l ∧ l.runtime = none ∧ m.phase = .stopping) ∨
    ∃ evidence prior, op = .reconcile evidence ∧ m.Proves evidence ∧ m.InScope evidence prior

/-- What a successful operation did: to the lease, to the record, and to both together. -/
structure Performed (m : Machine) (op : MachineOperation) (m' : Machine) : Prop where
  effect : Effect m op m'
  move : Move m op m'
  lockstep : m.InLockstep → m'.InLockstep
  off : m.phase ≠ .off → m'.phase = .off → TurnsOff m op

theorem Performed.unchanged
    (hop : ∀ isOpen peer context ticket now, op ≠ .bind isOpen peer context ticket now) :
    Performed m op m :=
  ⟨.unchanged hop, .unchanged, id, fun hbefore hafter ↦ absurd hafter hbefore⟩

theorem Performed.of_stopping {kind now prior metadata} (hr : m.Records kind .stopping prior metadata)
    (hl : m.lease = some l)
    (hphase : m.phase = .preparing ∨ m.phase = .starting ∨ m.phase = .active)
    (hop : ∀ isOpen peer context ticket now, op ≠ .bind isOpen peer context ticket now) :
    Performed m op { m.entered .stopping metadata with lease := some (stopping kind now l) } where
  effect := .of_stopping hl hphase hop
  move := .of_records hr hl rfl (by rcases hphase with h | h | h <;> simp [h]) (by simp)
  lockstep hi := hi.records (by unfold Live; tauto) hl hr (by simp) rfl (by simp)
  off _ := nofun

theorem Performed.of_quarantine {prior metadata keep}
    (hr : m.Records .reconcileOff .quarantined prior metadata)
    (hknown : m.durableKnown = true ∨ m.phase ≠ .recovering)
    (hkeep : ∀ l, (keep l).context = l.context)
    (hop : ∀ isOpen peer context ticket now, op ≠ .bind isOpen peer context ticket now) :
    Performed m op ((m.entered .quarantined metadata).mapLease keep) where
  effect := by
    cases hl : m.lease with
    | none => exact .releases (by simp [mapLease, entered, hl])
    | some l =>
      exact .keeps l (keep l) hl (by simp [mapLease, entered, hl]) (hkeep l)
        (by simp [Live, mapLease, entered]) (by simp [mapLease, entered])
        (by simp [mapLease, entered]) hop
  move := by
    refine .records _ _ prior metadata (m.lease.map keep) hr hknown (by simp) (fun _ ↦ rfl)
      (fun l' hl' ↦ ?_) (by simp) rfl
    obtain ⟨l, hl, rfl⟩ := Option.map_eq_some_iff.mp hl'
    exact ⟨l, hl, hkeep l⟩
  lockstep _ := by simp [InLockstep, Live, entered, mapLease]
  off _ := nofun

theorem performed (h : (perform op).run m = .ok () m') : Performed m op m' := by
  cases op with
  | enterRecovery uncertain =>
    obtain rfl := enterRecovery_ok h
    exact ⟨.releases rfl, .suspends uncertain rfl, fun _ ↦ by simp [InLockstep, Live], fun _ ↦ nofun⟩
  | enroll installation =>
    obtain ⟨hphase, hknown, hnone, hl, hrevision, hnil, rfl⟩ := enroll_ok h
    refine ⟨.releases hl, .enrolls installation hnil hknown hnone hl hrevision rfl, fun _ hlive ↦ ?_,
      fun hbefore hafter ↦ absurd hafter hbefore⟩
    rcases hphase with hphase | hphase
    all_goals simp [Live, hphase] at hlive
  | reserveGeneration isOpen host expected =>
    obtain ⟨_, hreserve⟩ := run_discard_eq_ok.mp h
    obtain ⟨-, hoff, -, prior, next, hprior, hnext, rfl⟩ := reserveGeneration_ok hreserve
    refine ⟨?_, .reserves prior next hoff hprior hnext rfl, fun _ ↦ by simp [InLockstep, Live, hoff],
      fun hbefore ↦ absurd hoff hbefore⟩
    cases hl : m.lease with
    | none => exact .releases rfl
    | some l =>
      exact .keeps l l hl rfl rfl (by simp) (by simp) (by simp [hoff]) (by simp)
  | prepare isOpen input host leaseId ticket now =>
    obtain ⟨_, hprepare⟩ := run_discard_eq_ok.mp h
    obtain ⟨prior, metadata, hp⟩ := prepare_ok hprepare
    refine ⟨.creates hp.no_lease (by rw [hp.after_eq]; rfl),
      .prepares isOpen input host leaseId ticket now prior metadata rfl hp, fun _ ↦ ?_,
      fun hbefore ↦ absurd hp.off hbefore⟩
    obtain ⟨operation, hrecorded, hnew⟩ := hp.recorded
    simp only [AuthorityCommittedState.new, ok_iff] at hnew
    obtain ⟨-, -, rfl⟩ := hnew
    rw [hp.after_eq]
    exact fun _ ↦ ⟨_, _, rfl, rfl, rfl, rfl, rfl, ⟨operation, hrecorded, rfl⟩, by simp [entered]⟩
  | bind isOpen peer context ticket now =>
    obtain ⟨hphase, -, -, prior, metadata, l, expected, hr, hl, -, -, -, -, rfl⟩ := bind_ok h
    exact ⟨.binds isOpen peer context ticket now rfl l _ hl hphase rfl rfl rfl,
      .of_records hr hl rfl (by simp [hphase]) (by simp),
      fun hi ↦ hi.records (by simp [Live, hphase]) hl hr (by simp) rfl (by simp), fun _ ↦ nofun⟩
  | ready isOpen peer report now =>
    obtain ⟨l, hl, -, hruntime, ⟨-, -, rfl⟩ | ⟨hphase, prior, metadata, hr, rfl⟩⟩ := ready_ok h
    · exact .unchanged (by simp)
    · exact ⟨.keeps l _ hl rfl rfl (fun _ ↦ ⟨by simp [Live, hphase], rfl⟩) (by simp [entered])
          (by simp [entered]) (by simp), .of_records hr hl rfl (by simp [hphase]) (by simp),
        fun hi ↦ hi.records (by simp [Live, hphase]) hl hr (by simp) rfl
          fun hticket _ ↦ ⟨by simp [hruntime], hticket hphase⟩, fun _ ↦ nofun⟩
  | heartbeat isOpen peer context now =>
    obtain ⟨-, l, hl, -, -, rfl⟩ := heartbeat_ok h
    refine ⟨.keeps l _ hl rfl rfl (fun h ↦ ⟨h, rfl⟩) id (fun h h' ↦ ⟨h, h'⟩) (by simp),
      .keeps (some { l with heartbeat := some now }) (inherits_some hl rfl) rfl, fun hi hlive ↦ ?_,
      fun hbefore hafter ↦ absurd hafter hbefore⟩
    obtain ⟨k, s, ht⟩ := hi hlive
    cases hl.symm.trans ht.lease_eq
    exact ⟨_, s, rfl, ht.metadata_eq, ht.state_eq, ht.revision_eq, ht.root_eq, ht.operation_eq,
      ht.bound⟩
  | beginStop isOpen peer context expected now =>
    obtain ⟨l, hl, -, -, ⟨-, rfl⟩ | ⟨hphase, -, prior, metadata, hr, rfl⟩⟩ := beginStop_ok h
    · exact .unchanged (by simp)
    · exact .of_stopping hr hl hphase (by simp)
  | abortPrepared isOpen peer expected now =>
    obtain ⟨hphase, -, prior, metadata, l, hr, hl, hruntime, rfl⟩ := abortPrepared_ok h
    exact ⟨.aborts isOpen peer expected now rfl l _ hl hphase rfl hruntime rfl,
      .of_records hr hl rfl (by simp [hphase]) (by simp),
      fun hi ↦ hi.records (by simp [Live, hphase]) hl hr (by simp) rfl (by simp), fun _ ↦ nofun⟩
  | finishUnboundAbort =>
    obtain ⟨hphase, prior, metadata, l, hr, hl, -, hruntime, -, -, rfl⟩ := finishUnboundAbort_ok h
    exact ⟨.releases rfl, .records _ _ prior metadata none hr (.inr (by simp [hphase])) (by simp)
        (by simp) inherits_none (fun _ ↦ rfl) rfl, fun _ ↦ by simp [InLockstep, Live, entered],
      fun _ _ ↦ .inl ⟨rfl, l, hl, hruntime, hphase⟩⟩
  | revoke consoleChange now =>
    obtain ⟨-, rfl⟩ | ⟨hphase, kind, prior, metadata, l, hr, hl, rfl⟩ := revoke_ok h
    · exact .unchanged (by simp)
    · exact .of_stopping hr hl hphase (by simp)
  | stopped isOpen peer report now =>
    obtain ⟨hphase, l, hl, hc, hruntime, ⟨-, rfl⟩ | ⟨-, prior, metadata, hr, rfl⟩⟩ := stopped_ok h
    · exact .unchanged (by simp)
    · have hlive : Live m.phase := .inr hphase
      exact ⟨.stops isOpen peer report now rfl l _ hl hc hlive hruntime rfl ⟨rfl, rfl⟩ rfl,
        .of_records hr hl rfl (by rcases hphase with h | h | h <;> simp [h]) (by simp),
        fun hi ↦ hi.records hlive hl hr (by simp) rfl (by simp), fun _ ↦ nofun⟩
  | reconcile evidence =>
    obtain ⟨hknown, hgenesis⟩ := reconcile_checked h
    obtain ⟨prior, hscope, ⟨hnone, rfl⟩ | ⟨metadata, ⟨hproves, hr, rfl⟩ | ⟨-, hr, rfl⟩⟩⟩ :=
      reconcile_ok h
    · have hepoch : prior.root.epoch = 0 := by
        rcases hgenesis with hgenesis | hrevision
        · exact hgenesis prior hscope.prior_eq
        · simp at hrevision
      refine ⟨.releases hnone, .settles _ prior hknown hscope.prior_eq hepoch hnone rfl, fun _ ↦ ?_,
        fun _ hafter ↦ .inr ⟨evidence, prior, rfl, ?_, hscope⟩⟩
      · by_cases hproves : m.Proves evidence
        all_goals simp [InLockstep, Live, hproves]
      · by_contra hproves
        simp [hproves] at hafter
    · exact ⟨.releases rfl, .records _ _ prior metadata none hr (.inl hknown) (by simp) (by simp)
          inherits_none (fun _ ↦ rfl) rfl, fun _ ↦ by simp [InLockstep, Live, entered],
        fun _ _ ↦ .inr ⟨evidence, prior, rfl, hproves, hscope⟩⟩
    · exact .of_quarantine hr (.inl hknown) (keptForCleanup_context evidence) (by simp)
  | quarantineExpiredStop =>
    obtain ⟨hphase, prior, metadata, hr, rfl⟩ := quarantineExpiredStop_ok h
    exact .of_quarantine hr (.inr (by simp [hphase])) (fun _ ↦ rfl) (by simp)

theorem successor_of_move (h : Move m op m') (hne : m'.metadata ≠ m.metadata) :
    ∃ s', m'.metadata = some s' ∧ ∀ s, m.metadata = some s → s'.validateSuccessor s = .ok () := by
  cases h with
  | keeps lease hlease hafter => exact absurd (hafter ▸ rfl) hne
  | suspends uncertain hafter => exact absurd (hafter ▸ rfl) hne
  | settles phase prior hknown hprior hepoch hlease hafter => exact absurd (hafter ▸ rfl) hne
  | enrolls installation hnil hknown hnone hlease hrevision hafter =>
    subst hafter
    exact ⟨_, rfl, by simp [hnone]⟩
  | reserves prior next hoff hprior hnext hafter =>
    refine ⟨next, hafter ▸ rfl, fun s hs ↦ ?_⟩
    cases hprior.symm.trans hs
    simp only [AuthorityCommittedState.reserveNextGeneration, ok_iff] at hnext
    obtain ⟨_, -, _, -, _, -, _, -, _, hsuccessor, rfl⟩ := hnext
    exact hsuccessor
  | prepares isOpen input host leaseId ticket now prior metadata hop hp =>
    refine ⟨metadata, hp.after_eq ▸ rfl, fun s hs ↦ ?_⟩
    exact Option.some.inj (hp.prior_eq.symm.trans hs) ▸ hp.successor
  | records kind phase prior metadata lease hr hknown hphase hquarantined hlease hoff hafter =>
    refine ⟨metadata, hafter ▸ rfl, fun s hs ↦ ?_⟩
    exact Option.some.inj (hr.prior_eq.symm.trans hs) ▸ hr.successor

end Machine

end CfwRs.WindowsAuthority
