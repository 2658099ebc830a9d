import CfwRs.WindowsAuthority.Machine

namespace CfwRs.WindowsAuthority

open Lib Lib.Checked

theorem Peer.same_iff {p q : Peer} : p.same q ↔ p = q := by
  obtain ⟨o, c, r⟩ := p
  obtain ⟨o', c', r'⟩ := q
  simp [Peer.same]

namespace Machine

variable {m m' : Machine} {u : Unit} {e : AuthorityError} {isOpen : OpenConnections} {peer : Peer}
  {context : LeaseContext} {now : Instant}

structure Records (m : Machine) (kind : JournalTransition) (phase : AuthorityState)
    (prior metadata : AuthorityCommittedState) : Prop where
  prior_eq : m.metadata = some prior
  not_last : m.revision < maxWord
  successor : metadata.validateSuccessor prior = .ok ()
  root_eq : metadata.root = prior.root
  allocated_eq : metadata.allocatedGeneration = prior.allocatedGeneration
  revision_eq : metadata.revision = m.revision + 1
  transition_eq : metadata.transition = kind
  state_eq : metadata.state = phase

def entered (m : Machine) (phase : AuthorityState) (metadata : AuthorityCommittedState) : Machine :=
  { m with metadata := some metadata, revision := m.revision + 1, phase }

variable {phase : AuthorityState}
variable {evidence : CleanupEvidence} {expected : UInt64} {host : Peer} {kind : JournalTransition}
  {lease : Lease} {update : Lease → Lease}

theorem transition_ok (h : (transition kind phase).run m = .ok u m') :
    ∃ prior metadata, m.Records kind phase prior metadata ∧ m' = m.entered phase metadata := by
  simp only [transition, run_get_bind_eq_ok, run_check_bind_eq_ok, run_set_eq_ok, nextRevision,
    ok_iff, checkedSucc_eq_some, journal_eq_ok, AuthorityCommittedState.transitionTo] at h
  obtain ⟨n, ⟨hmax, rfl⟩, prior, hprior, operation, -, metadata, ⟨_, hsucc, rfl⟩, rfl⟩ := h
  exact ⟨prior, _, ⟨hprior, hmax, hsucc, rfl, rfl, rfl, rfl, rfl⟩, rfl⟩

theorem transition_atomic (kind) (phase) : AtomicAt m (transition kind phase) :=
  .get_bind (.check_bind fun _ _ ↦ .check_bind fun _ _ ↦ .check_bind fun _ _ ↦
    .check_bind fun _ _ ↦ .of_set)

theorem updateLease_ok (h : (updateLease update).run m = .ok u m') :
    ∃ lease, m.lease = some lease ∧ m' = { m with lease := some (update lease) } := by
  simp only [updateLease, run_get_bind_eq_ok, run_check_bind_eq_ok, run_set_eq_ok,
    unwrap_eq_ok] at h
  obtain ⟨lease, hl, rfl⟩ := h
  exact ⟨lease, hl, rfl⟩

theorem updateLease_ne_error (hl : m.lease = some lease) :
    (updateLease update).run m ≠ .error e m' := by
  simp only [updateLease, ne_eq, run_bind_eq_error, run_get_ne_error,
    run_check_eq_error, unwrap_eq_error, run_set_ne_error, and_false, exists_false, or_false,
    false_or]
  rintro ⟨_, _, ⟨rfl, rfl⟩, ⟨hnone, -⟩, -⟩
  simp [hl] at hnone

theorem transition_updateLease_ok
    (h : (do transition kind phase; updateLease update : MachineAction Unit).run m = .ok u m') :
    ∃ prior metadata lease, m.Records kind phase prior metadata ∧ m.lease = some lease ∧
      m' = { m.entered phase metadata with lease := some (update lease) } := by
  obtain ⟨_, _, ht, hu⟩ := run_bind_eq_ok.mp h
  obtain ⟨prior, metadata, hr, rfl⟩ := transition_ok ht
  obtain ⟨lease, hl, rfl⟩ := updateLease_ok hu
  exact ⟨prior, metadata, lease, hr, hl, rfl⟩

theorem transition_updateLease_atomic (hl : m.lease = some lease) :
    AtomicAt m (do transition kind phase; updateLease update : MachineAction Unit) := by
  refine .bind (transition_atomic kind phase) fun _ t ht _ _ ↦ ?_
  obtain ⟨_, _, _, rfl⟩ := transition_ok ht
  exact updateLease_ne_error hl

theorem leaseExact_eq_ok :
    m.leaseExact context = .ok lease ↔ m.lease = some lease ∧ lease.context = context := by
  simp only [leaseExact, ok_iff, not_not]
  constructor
  · rintro ⟨l, hl, _, hc, rfl⟩
    exact ⟨hl, hc⟩
  · rintro ⟨hl, hc⟩
    exact ⟨lease, hl, ⟨⟩, hc, rfl⟩

theorem hostExact_ok {u : Unit} (h : m.hostExact isOpen peer context = .ok u) :
    ∃ lease, m.lease = some lease ∧ lease.context = context ∧ peer = lease.host := by
  simp only [hostExact, ok_iff, leaseExact_eq_ok, not_or, not_not, Peer.same_iff] at h
  obtain ⟨_, _, lease, ⟨hl, hc⟩, _, hs⟩ := h
  exact ⟨lease, hl, hc, hs⟩

theorem runtimeExact_ok {u : Unit} (h : m.runtimeExact isOpen peer context = .ok u) :
    ∃ lease, m.lease = some lease ∧ lease.context = context ∧ lease.runtime = some peer := by
  simp only [runtimeExact, ok_iff, leaseExact_eq_ok, not_or, not_not, not_forall,
    Peer.same_iff] at h
  obtain ⟨_, _, lease, ⟨hl, hc⟩, _, bound, hb, rfl⟩ := h
  exact ⟨lease, hl, hc, hb⟩

theorem requirePhaseOff_ok {u} (h : m.requirePhaseOff = .ok u) : m.phase = .off := by
  unfold requirePhaseOff at h
  split at h
  · assumption
  all_goals simp at h

theorem enterRecovery_ok {uncertain} (h : (enterRecovery uncertain).run m = .ok u m') :
    m' = { m with
      phase := .recovering, durableKnown := m.durableKnown && !uncertain, lease := none } := by
  simp only [enterRecovery, run_get_bind_eq_ok, run_set_eq_ok] at h
  exact h.symm

theorem enroll_ok {installation} (h : (enroll installation).run m = .ok u m') :
    (m.phase = .off ∨ m.phase = .recovering) ∧ m.durableKnown = true ∧ m.metadata = none ∧
      m.lease = none ∧ m.revision = 1 ∧ ¬installation.isNil ∧
      m' = { m with metadata := some (.enrollment installation) } := by
  simp only [enroll, run_get_bind_eq_ok, run_check_bind_eq_ok, run_set_eq_ok, reject_eq_ok,
    not_or, not_not, Bool.not_eq_true, Option.isSome_eq_false_iff, Option.isNone_iff_eq_none] at h
  obtain ⟨_, ⟨hphase, hknown, hmeta, hlease, hrev, hnil⟩, rfl⟩ := h
  exact ⟨by tauto, by simpa using hknown, hmeta, hlease, hrev, by simp [hnil], rfl⟩

theorem reserveGeneration_ok {expected lineage}
    (h : (reserveGeneration isOpen host expected).run m = .ok lineage m') :
    host.role = .desktop ∧ m.phase = .off ∧ m.lineage = .ok expected ∧
      ∃ prior next, m.metadata = some prior ∧ prior.reserveNextGeneration = .ok next ∧
        m' = { m with revision := next.revision, metadata := some next } := by
  simp only [reserveGeneration, run_get_bind_eq_ok, run_check_bind_eq_ok, run_set_bind_eq_ok,
    run_check_eq_ok, ok_iff, journal_eq_ok, not_not] at h
  obtain ⟨_, -, _, -, _, hrole, _, hoff, l, hl, _, rfl, _, -, prior, hprior, next, hnext, -,
    rfl⟩ := h
  exact ⟨hrole, requirePhaseOff_ok hoff, hl, prior, next, hprior, hnext, rfl⟩

def issuedContext (m : Machine) (input : PrepareRequest) (host : Peer) (leaseId : Uuid) :
    LeaseContext where
  operation :=
    { root := input.root, operationId := input.operationId, mode := input.mode
      configSha256 := input.configSha256, identitySha256 := input.identitySha256
      owner := host.owner, preparedRevision := m.revision + 1 }
  leaseId := leaseId

/-- What a successful `prepare` checked and what it left. -/
structure Prepares (m : Machine) (input : PrepareRequest) (host : Peer) (leaseId : Uuid)
    (ticket : TicketDigest) (now : Instant) (prior metadata : AuthorityCommittedState)
    (m' : Machine) : Prop where
  off : m.phase = .off
  no_lease : m.lease = none
  expected : input.expectedRevision = m.revision
  host_role : host.role = .desktop
  prior_eq : m.metadata = some prior
  installation_eq : prior.root.installationId = input.root.installationId
  epoch_eq : input.root.epoch = max prior.root.epoch 1
  generation_eq : input.root.generation = prior.allocatedGeneration
  advances : PairLess (prior.root.epoch, prior.root.generation)
    (input.root.epoch, input.root.generation)
  successor : metadata.validateSuccessor prior = .ok ()
  recorded : ∃ operation, (m.issuedContext input host leaseId).recorded = .ok operation ∧
    AuthorityCommittedState.new input.root (m.revision + 1) .prepare .preparing (some operation) =
      .ok metadata
  after_eq : m' = { m.entered .preparing metadata with
    lease := some
      { context := m.issuedContext input host leaseId, state := .prepared, host := host
        runtime := none, ticket := some ticket, expires := now + preparationLifetime
        heartbeat := none, stopDeadline := none, ownerStopped := false, acceptedReady := none } }

theorem checkedAdd_eq_some {duration sum} :
    now.checkedAdd duration = some sum ↔ now + duration < Instant.limit ∧ now + duration = sum := by
  simp [Instant.checkedAdd]

theorem prepare_ok {input leaseId ticket}
    (h : (prepare isOpen input host leaseId ticket now).run m = .ok context m') :
    ∃ prior metadata, m.Prepares input host leaseId ticket now prior metadata m' := by
  simp only [prepare, run_get_bind_eq_ok, run_check_bind_eq_ok,
    ok_iff, journal_eq_ok, not_not, not_or, nextRevision, checkedSucc_eq_some,
    checkedAdd_eq_some, expectedRevision] at h
  obtain ⟨_, -, _, -, _, ⟨_, -, hrev⟩, _, hoff, _, hrole, _, ⟨hnone, -⟩, prior, hprior, _,
    ⟨hinst, hepoch, hgen, hless⟩, n, ⟨-, rfl⟩, expires, ⟨-, rfl⟩, recorded, hrec, metadata, hnew,
    _, hsucc, -, rfl⟩ := h
  exact ⟨prior, metadata, requirePhaseOff_ok hoff, by simpa using hnone, hrev, hrole, hprior,
    hinst, hepoch, hgen, hless, hsucc, ⟨recorded, hrec, hnew⟩, rfl⟩

theorem bind_ok {ticket} (h : (bind isOpen peer context ticket now).run m = .ok u m') :
    m.phase = .preparing ∧ peer.role = .userAgent ∧ peer.owner = context.operation.owner ∧
      ∃ prior metadata lease expected, m.Records .bindOwner .starting prior metadata ∧
        m.lease = some lease ∧ lease.context = context ∧ now < lease.expires ∧
        lease.ticket = some expected ∧ expected.accepts ticket = true ∧
        m' = { m.entered .starting metadata with lease := some { lease with
            ticket := none, runtime := some peer, state := .starting, heartbeat := some now } } := by
  simp only [bind, run_get_bind_eq_ok, run_check_bind_eq_ok, leaseExact_eq_ok, reject_eq_ok,
    not_not, not_or, not_forall, not_le] at h
  obtain ⟨_, -, lease, ⟨hl, hc⟩, _, hphase, _, hexpires, _, ⟨howner, hrole⟩, _,
    ⟨expected, hticket, haccepts⟩, h⟩ := h
  obtain ⟨prior, metadata, l, hr, hl', rfl⟩ := transition_updateLease_ok h
  cases hl.symm.trans hl'
  exact ⟨hphase, hrole, howner, prior, metadata, lease, expected, hr, hl, hc, hexpires, hticket,
    haccepts, rfl⟩

theorem ready_ok {report} (h : (ready isOpen peer report now).run m = .ok u m') :
    ∃ lease, m.lease = some lease ∧ lease.context = report.context ∧ lease.runtime = some peer ∧
      (m.phase = .active ∧ lease.acceptedReady = some report ∧ m' = m ∨
        m.phase = .starting ∧ ∃ prior metadata, m.Records .ready .active prior metadata ∧
          m' = { m.entered .active metadata with lease := some { lease with
              state := .active, acceptedReady := some report, heartbeat := some now } }) := by
  simp only [ready, run_get_bind_eq_ok, run_check_bind_eq_ok, leaseExact_eq_ok] at h
  obtain ⟨_, -, _, hexact, lease, ⟨hl, hc⟩, h⟩ := h
  obtain ⟨l, hl', -, hruntime⟩ := runtimeExact_ok hexact
  cases hl.symm.trans hl'
  refine ⟨lease, hl, hc, hruntime, ?_⟩
  by_cases hactive : m.phase = .active
  · simp only [hactive, if_true, run_check_eq_ok, require_eq_ok] at h
    exact .inl ⟨hactive, h.1.2, h.2.symm⟩
  · simp only [hactive, if_false, run_check_bind_eq_ok, reject_eq_ok, not_not] at h
    obtain ⟨_, hstarting, h⟩ := h
    obtain ⟨prior, metadata, l, hr, hl', rfl⟩ := transition_updateLease_ok h
    cases hl.symm.trans hl'
    exact .inr ⟨hstarting, prior, metadata, hr, rfl⟩

theorem heartbeat_ok (h : (heartbeat isOpen peer context now).run m = .ok u m') :
    (m.phase = .starting ∨ m.phase = .active ∨ m.phase = .stopping) ∧
      ∃ lease, m.lease = some lease ∧ lease.context = context ∧ lease.runtime = some peer ∧
        m' = { m with lease := some { lease with heartbeat := some now } } := by
  simp only [heartbeat, run_get_bind_eq_ok, run_check_bind_eq_ok, run_set_eq_ok, ok_iff,
    not_not] at h
  obtain ⟨_, hexact, _, hphase, lease, hl, _, -, rfl⟩ := h
  obtain ⟨l, hl', hc, hruntime⟩ := runtimeExact_ok hexact
  cases hl.symm.trans hl'
  exact ⟨hphase, lease, hl, hc, hruntime, rfl⟩

def stopping (kind : JournalTransition) (now : Instant) (lease : Lease) : Lease :=
  { lease with
    ticket := none, acceptedReady := none, ownerStopped := false
    stopDeadline := some (now + stopTimeout), state := stoppedLeaseState kind }

theorem stop_ok (h : (stop kind now).run m = .ok u m') :
    ∃ prior metadata lease, m.Records kind .stopping prior metadata ∧ m.lease = some lease ∧
      m' = { m.entered .stopping metadata with lease := some (stopping kind now lease) } := by
  simp only [stop, run_check_bind_eq_ok, unwrap_eq_ok, checkedAdd_eq_some] at h
  obtain ⟨deadline, ⟨-, rfl⟩, h⟩ := h
  exact transition_updateLease_ok h

theorem stop_atomic (hl : m.lease = some lease) : AtomicAt m (stop kind now) :=
  .check_bind fun _ _ ↦ transition_updateLease_atomic hl

theorem beginStop_ok (h : (beginStop isOpen peer context expected now).run m = .ok u m') :
    ∃ lease, m.lease = some lease ∧ lease.context = context ∧ peer = lease.host ∧
      (m.phase = .stopping ∧ m' = m ∨
        (m.phase = .preparing ∨ m.phase = .starting ∨ m.phase = .active) ∧
        expected = m.revision ∧ ∃ prior metadata, m.Records .beginStop .stopping prior metadata ∧
          m' = { m.entered .stopping metadata with
            lease := some (stopping .beginStop now lease) }) := by
  simp only [beginStop, run_get_bind_eq_ok, run_check_bind_eq_ok] at h
  obtain ⟨_, hexact, h⟩ := h
  obtain ⟨lease, hl, hc, hhost⟩ := hostExact_ok hexact
  refine ⟨lease, hl, hc, hhost, ?_⟩
  by_cases hstopping : m.phase = .stopping
  · simp only [hstopping, if_true, run_check_eq_ok] at h
    exact .inl ⟨hstopping, h.2.symm⟩
  · simp only [hstopping, if_false, run_check_bind_eq_ok, ok_iff, not_not, expectedRevision] at h
    obtain ⟨_, ⟨_, -, hrev⟩, _, hphase, h⟩ := h
    obtain ⟨prior, metadata, l, hr, hl', rfl⟩ := stop_ok h
    cases hl.symm.trans hl'
    exact .inr ⟨hphase, hrev, prior, metadata, hr, rfl⟩

theorem abortPrepared_ok {peer} (h : (abortPrepared isOpen peer expected now).run m = .ok u m') :
    m.phase = .preparing ∧ expected = m.revision ∧
      ∃ prior metadata lease, m.Records .abortPrepared .stopping prior metadata ∧
        m.lease = some lease ∧ lease.runtime = none ∧ m' = { m.entered .stopping metadata with
          lease := some { stopping .abortPrepared now lease with ownerStopped := true } } := by
  simp only [abortPrepared, run_get_bind_eq_ok, run_check_bind_eq_ok, ok_iff, not_or, not_not,
    expectedRevision] at h
  obtain ⟨_, ⟨_, -, hrev⟩, lease, hl, _, -, _, ⟨hphase, hbound⟩, h⟩ := h
  obtain ⟨_, _, hstop, h⟩ := run_bind_eq_ok.mp h
  obtain ⟨prior, metadata, l, hr, hl', rfl⟩ := stop_ok hstop
  cases hl.symm.trans hl'
  obtain ⟨l, hl', rfl⟩ := updateLease_ok h
  obtain rfl := Option.some.inj hl'
  have hruntime : lease.runtime = none := by simpa [isBound, hl] using hbound
  exact ⟨hphase, hrev, prior, metadata, lease, hr, hl, hruntime, rfl⟩

theorem finishUnboundAbort_ok (h : finishUnboundAbort.run m = .ok u m') :
    m.phase = .stopping ∧ ∃ prior metadata lease, m.Records .globalOff .off prior metadata ∧
      m.lease = some lease ∧ lease.ownerStopped = true ∧ lease.runtime = none ∧
      lease.ticket = none ∧ prior.transition = .abortPrepared ∧
      m' = { m.entered .off metadata with lease := none } := by
  simp only [finishUnboundAbort, run_get_bind_eq_ok, run_check_bind_eq_ok, ok_iff, not_or, not_not,
    not_forall] at h
  obtain ⟨lease, hl, _, ⟨hphase, hstopped, hruntime, hticket, s, hs, hkind⟩, h⟩ := h
  obtain ⟨_, _, ht, h⟩ := run_bind_eq_ok.mp h
  obtain ⟨prior, metadata, hr, rfl⟩ := transition_ok ht
  simp only [run_get_bind_eq_ok, run_set_eq_ok] at h
  cases hr.prior_eq.symm.trans hs
  exact ⟨hphase, _, metadata, lease, hr, hl, hstopped, by simpa using hruntime,
    by simpa using hticket, hkind, h.symm⟩

theorem revoke_ok {consoleChange} (h : (revoke consoleChange now).run m = .ok u m') :
    (m.lease = none ∨ m.phase = .stopping ∨ m.phase = .quarantined) ∧ m' = m ∨
      (m.phase = .preparing ∨ m.phase = .starting ∨ m.phase = .active) ∧
      ∃ kind prior metadata lease, m.Records kind .stopping prior metadata ∧ m.lease = some lease ∧
        m' = { m.entered .stopping metadata with lease := some (stopping kind now lease) } := by
  simp only [revoke, run_get_bind_eq_ok, Option.isNone_iff_eq_none] at h
  by_cases hdone : m.lease = none ∨ m.phase = .stopping ∨ m.phase = .quarantined
  · rw [if_pos hdone, run_pure_eq_ok] at h
    exact .inl ⟨hdone, h.2.symm⟩
  · rw [if_neg hdone] at h
    simp only [run_check_bind_eq_ok, reject_eq_ok, not_not] at h
    obtain ⟨_, hphase, h⟩ := h
    obtain ⟨prior, metadata, lease, hr, hl, rfl⟩ := stop_ok h
    exact .inr ⟨hphase, _, prior, metadata, lease, hr, hl, rfl⟩

theorem stopped_ok {report} (h : (stopped isOpen peer report now).run m = .ok u m') :
    (m.phase = .starting ∨ m.phase = .active ∨ m.phase = .stopping) ∧
      ∃ lease, m.lease = some lease ∧ lease.context = report.context ∧ lease.runtime = some peer ∧
        (lease.ownerStopped = true ∧ m' = m ∨ lease.ownerStopped = false ∧
            ∃ prior metadata, m.Records .ownerStopped .stopping prior metadata ∧
              m' = { m.entered .stopping metadata with lease := some { lease with
                  ticket := none, acceptedReady := none, state := .stopping, ownerStopped := true
                  stopDeadline := some (now + stopTimeout) } }) := by
  simp only [stopped, run_get_bind_eq_ok, run_check_bind_eq_ok, leaseExact_eq_ok, reject_eq_ok,
    not_not] at h
  obtain ⟨_, -, _, hexact, _, hphase, lease, ⟨hl, hc⟩, h⟩ := h
  obtain ⟨l, hl', -, hruntime⟩ := runtimeExact_ok hexact
  cases hl.symm.trans hl'
  refine ⟨hphase, lease, hl, hc, hruntime, ?_⟩
  by_cases hstopped : lease.ownerStopped = true
  · rw [if_pos hstopped, run_pure_eq_ok] at h
    exact .inl ⟨hstopped, h.2.symm⟩
  · rw [if_neg hstopped] at h
    simp only [run_check_bind_eq_ok, unwrap_eq_ok, checkedAdd_eq_some] at h
    obtain ⟨deadline, ⟨-, rfl⟩, h⟩ := h
    obtain ⟨prior, metadata, l, hr, hl', rfl⟩ := transition_updateLease_ok h
    cases hl.symm.trans hl'
    exact .inr ⟨by simpa using hstopped, prior, metadata, hr, rfl⟩

def keptForCleanup (evidence : CleanupEvidence) (lease : Lease) : Lease :=
  if evidence.endpointsClosed then { lease.quarantined with runtime := none } else lease.quarantined

theorem keptForCleanup_context (evidence) (lease : Lease) :
    (keptForCleanup evidence lease).context = lease.context := by
  unfold keptForCleanup
  split <;> rfl

theorem validateScope_ok {metadata u} (h : evidence.validateScope metadata = .ok u) :
    ∃ s, metadata = some s ∧ evidence.revision = s.revision ∧ evidence.root = s.root := by
  have hruntime {mode : AuthorityMode} {target : AuthorityCommittedState} {v : Unit}
      (h : evidence.validateRuntime metadata mode target = .ok v) :
      metadata = some target ∧ evidence.revision = target.revision := by
    simp only [CleanupEvidence.validateRuntime, ok_iff, not_or, not_not] at h
    obtain ⟨-, -, -, -, -, -, hmeta, hrev, -⟩ := h
    exact ⟨hmeta, hrev⟩
  unfold CleanupEvidence.validateScope at h
  split at h
  · next target hb =>
    obtain ⟨hmeta, hrev⟩ := hruntime h
    exact ⟨target, hmeta, hrev, by simp [CleanupEvidence.root, hb]⟩
  · next target hb =>
    obtain ⟨hmeta, hrev⟩ := hruntime h
    exact ⟨target, hmeta, hrev, by simp [CleanupEvidence.root, hb]⟩
  · next target hb =>
    simp only [ok_iff, not_or, not_not] at h
    obtain ⟨-, -, -, -, hmeta, hrev, -⟩ := h
    exact ⟨target, hmeta, hrev, by simp [CleanupEvidence.root, hb]⟩
  · next target hb =>
    simp only [ok_iff, not_or, not_not] at h
    obtain ⟨-, -, s, hmeta, hrev, hrev', hroot, -⟩ := h
    exact ⟨s, hmeta, hrev.symm.trans hrev', by simp [CleanupEvidence.root, hb, hroot]⟩

/-- What `reconcile` has checked about its evidence, whatever it decides. -/
structure InScope (m : Machine) (evidence : CleanupEvidence) (prior : AuthorityCommittedState) :
    Prop where
  phase : m.phase = .recovering ∨ m.phase = .stopping ∨ m.phase = .quarantined
  prior_eq : m.metadata = some prior
  revision_eq : evidence.revision = prior.revision
  root_eq : evidence.root = prior.root
  leaseId_eq : evidence.leaseId = prior.operation.map (·.leaseId)

theorem reconcile_ok (h : (reconcile evidence).run m = .ok u m') :
    ∃ prior, m.InScope evidence prior ∧ (m.lease = none ∧ m' = { m with
          phase := if m.Proves evidence then .off else .quarantined } ∨
        ∃ metadata, m.Proves evidence ∧
            m.Records (if m.phase = .stopping then .globalOff else .reconcileOff) .off prior
              metadata ∧
            m' = { m.entered .off metadata with lease := none } ∨
          ¬m.Proves evidence ∧ m.Records .reconcileOff .quarantined prior metadata ∧
            m' = (m.entered .quarantined metadata).mapLease (keptForCleanup evidence)) := by
  simp only [reconcile, run_get_bind_eq_ok, run_check_bind_eq_ok, reject_eq_ok, not_not] at h
  obtain ⟨_, -, _, hscope, _, hphase, _, hid, h⟩ := h
  obtain ⟨prior, hprior, hrev, hroot⟩ := validateScope_ok hscope
  refine ⟨prior, ⟨hphase, hprior, hrev, hroot, by simpa [metadataLeaseId, hprior] using hid⟩, ?_⟩
  by_cases hgenesis : m.atGenesis
  · simp only [hgenesis, if_true, run_check_bind_eq_ok, run_set_eq_ok] at h
    obtain ⟨_, hnone, h⟩ := h
    exact .inl ⟨by simpa using hnone, h.symm⟩
  · rw [if_neg hgenesis] at h
    obtain ⟨_, _, ht, h⟩ := run_bind_eq_ok.mp h
    obtain ⟨prior', metadata, hr, rfl⟩ := transition_ok ht
    cases hr.prior_eq.symm.trans hprior
    rw [run_get_bind_eq_ok] at h
    refine .inr ⟨metadata, ?_⟩
    by_cases hproves : m.Proves evidence
    · simp only [hproves, and_true, if_true, run_set_eq_ok] at h hr
      exact .inl ⟨hproves, hr, h.symm⟩
    · simp only [hproves, and_false, if_false, run_set_eq_ok] at h hr
      exact .inr ⟨hproves, hr, h.symm⟩

theorem quarantineExpiredStop_ok (h : quarantineExpiredStop.run m = .ok u m') :
    m.phase = .stopping ∧ ∃ prior metadata, m.Records .reconcileOff .quarantined prior metadata ∧
      m' = (m.entered .quarantined metadata).mapLease Lease.quarantined := by
  simp only [quarantineExpiredStop, run_get_bind_eq_ok, run_check_bind_eq_ok, reject_eq_ok, not_not] at h
  obtain ⟨_, hphase, h⟩ := h
  obtain ⟨_, _, ht, h⟩ := run_bind_eq_ok.mp h
  obtain ⟨prior, metadata, hr, rfl⟩ := transition_ok ht
  rw [run_get_bind_eq_ok, run_set_eq_ok] at h
  exact ⟨hphase, prior, metadata, hr, h.symm⟩

theorem enterRecovery_atomic (uncertain : Bool) : AtomicAt m (enterRecovery uncertain) :=
  .get_bind .of_set

theorem enroll_atomic (installation : Uuid) : AtomicAt m (enroll installation) :=
  .get_bind (.check_bind fun _ _ ↦ .of_set)

theorem reserveGeneration_atomic (host : Peer) (expected) :
    AtomicAt m (reserveGeneration isOpen host expected) := by
  refine .check_bind fun _ _ ↦ .check_bind fun _ _ ↦ .check_bind fun _ _ ↦ .get_bind <|
    .check_bind fun _ _ ↦ .check_bind fun l hl ↦ .check_bind fun _ _ ↦ .check_bind fun _ _ ↦
    .check_bind fun _ _ ↦ .check_bind fun next _ ↦ .bind .of_set fun _ t ht e s' he ↦ ?_
  -- The lineage was readable before, and the reservation keeps it so.
  obtain rfl := run_set_eq_ok.mp ht
  simp only [lineage, ok_iff] at hl
  obtain ⟨_, hknown, -⟩ := hl
  simp only [run_bind_eq_error, run_get_eq_ok] at he
  simp [lineage, reject, hknown, unwrap, Bind.bind, Except.bind, pure, Except.pure] at he

theorem prepare_atomic (input) (host : Peer) (leaseId : Uuid)
    (ticket) : AtomicAt m (prepare isOpen input host leaseId ticket now) :=
  .check_bind fun _ _ ↦ .check_bind fun _ _ ↦ .get_bind <| .check_bind fun _ _ ↦
    .check_bind fun _ _ ↦ .check_bind fun _ _ ↦ .check_bind fun _ _ ↦ .check_bind fun _ _ ↦
    .check_bind fun _ _ ↦ .check_bind fun _ _ ↦ .check_bind fun _ _ ↦ .check_bind fun _ _ ↦
    .check_bind fun _ _ ↦ .check_bind fun _ _ ↦ .bind .of_set fun _ _ _ _ _ ↦ run_pure_ne_error

theorem bind_atomic (ticket : Bytes) : AtomicAt m (bind isOpen peer context ticket now) :=
  .check_bind fun _ _ ↦ .get_bind <| .check_bind fun _ hl ↦ .check_bind fun _ _ ↦
    .check_bind fun _ _ ↦ .check_bind fun _ _ ↦ .check_bind fun _ _ ↦
    transition_updateLease_atomic (leaseExact_eq_ok.mp hl).1

theorem ready_atomic (report) : AtomicAt m (ready isOpen peer report now) :=
  .check_bind fun _ _ ↦ .get_bind <| .check_bind fun _ _ ↦ .check_bind fun _ hl ↦
    .ite .of_check <| .check_bind fun _ _ ↦
      transition_updateLease_atomic (leaseExact_eq_ok.mp hl).1

theorem heartbeat_atomic : AtomicAt m (heartbeat isOpen peer context now) :=
  .get_bind <| .check_bind fun _ _ ↦ .check_bind fun _ _ ↦ .check_bind fun _ _ ↦
    .check_bind fun _ _ ↦ .of_set

theorem beginStop_atomic (expected : UInt64) :
    AtomicAt m (beginStop isOpen peer context expected now) := by
  refine .get_bind <| .check_bind fun _ hexact ↦ .ite .of_check <| .check_bind fun _ _ ↦
    .check_bind fun _ _ ↦ ?_
  obtain ⟨_, hl, -⟩ := hostExact_ok hexact
  exact stop_atomic hl

theorem abortPrepared_atomic (peer) (expected : UInt64) :
    AtomicAt m (abortPrepared isOpen peer expected now) := by
  refine .get_bind <| .check_bind fun _ _ ↦ .check_bind fun _ hl ↦ .check_bind fun _ _ ↦
    .check_bind fun _ _ ↦ .bind (stop_atomic (unwrap_eq_ok.mp hl)) fun _ t ht _ _ ↦ ?_
  obtain ⟨_, _, _, _, _, rfl⟩ := stop_ok ht
  exact updateLease_ne_error rfl

theorem finishUnboundAbort_atomic : AtomicAt m finishUnboundAbort :=
  .get_bind <| .check_bind fun _ _ ↦ .check_bind fun _ _ ↦
    .bind (transition_atomic _ _) fun _ _ _ _ _ ↦ by simp

theorem revoke_atomic (consoleChange : Bool) : AtomicAt m (revoke consoleChange now) := by
  refine .get_bind ?_
  by_cases hdone : m.lease.isNone = true ∨ m.phase = .stopping ∨ m.phase = .quarantined
  · rw [if_pos hdone]
    exact .of_pure
  · rw [if_neg hdone]
    obtain ⟨lease, hl⟩ : ∃ lease, m.lease = some lease := by
      simpa [Option.ne_none_iff_exists'] using fun h ↦ hdone (.inl h)
    exact .check_bind fun _ _ ↦ stop_atomic hl

theorem stopped_atomic (report) : AtomicAt m (stopped isOpen peer report now) :=
  .check_bind fun _ _ ↦ .get_bind <| .check_bind fun _ _ ↦ .check_bind fun _ _ ↦
    .check_bind fun _ hl ↦ .ite .of_pure <| .check_bind fun _ _ ↦
      transition_updateLease_atomic (leaseExact_eq_ok.mp hl).1

theorem reconcile_atomic (evidence) : AtomicAt m (reconcile evidence) := by
  refine .get_bind <| .check_bind fun _ _ ↦ .check_bind fun _ _ ↦ .check_bind fun _ _ ↦
    .check_bind fun _ _ ↦ .ite (.check_bind fun _ _ ↦ .of_set) <|
    .bind (transition_atomic _ _) fun _ t _ e s' he ↦ ?_
  simp only [run_bind_eq_error, run_get_ne_error, false_or] at he
  obtain ⟨_, _, -, he⟩ := he
  split at he
  all_goals exact run_set_ne_error he

theorem quarantineExpiredStop_atomic : AtomicAt m quarantineExpiredStop :=
  .get_bind <| .check_bind fun _ _ ↦ .bind (transition_atomic _ _) fun _ _ _ _ _ ↦ by simp

end Machine

end CfwRs.WindowsAuthority
