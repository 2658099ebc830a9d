import CfwRs.Lib.Action
import CfwRs.Lib.Sha256
import CfwRs.WindowsAuthority.JournalModel

namespace CfwRs.WindowsAuthority

open Lib Lib.Checked

inductive AuthorityError
  | recovering | quarantined | leaseConflict | stale | identity | invalid | replay
  | generationExhausted | ticket | expired | cleanupUnproven
  | journalValidation (error : JournalValidationError)
deriving DecidableEq, Repr

abbrev Outcome (α : Type) := Except AuthorityError α

def journal {α : Type} (v : Validated α) : Outcome α := v.mapError .journalValidation

@[simp] theorem journal_eq_ok {α : Type} {v : Validated α} {a : α} :
    journal v = .ok a ↔ v = .ok a := by
  cases v <;> simp [journal, Except.mapError]

/-- Monotonic time in nanoseconds. -/
abbrev Instant := ℕ

namespace Instant

/-- The largest instant: its seconds fill a 64-bit word. -/
def limit : ℕ := 2 ^ 64 * 10 ^ 9

def checkedAdd (now : Instant) (duration : ℕ) : Option Instant :=
  if now + duration < limit then some (now + duration) else none

end Instant

def preparationLifetime : ℕ := 10000 * 10 ^ 6

def heartbeatTimeout : ℕ := 5000 * 10 ^ 6

def stopTimeout : ℕ := 5000 * 10 ^ 6

structure AuthorityLineage where
  installationId : Uuid
  configEpoch : UInt64
  generation : UInt64
deriving DecidableEq

def AuthorityLineage.validate (l : AuthorityLineage) : Outcome Unit :=
  reject (l.installationId.isNil ∨ l.configEpoch = 0) .invalid

structure PrepareRequest where
  root : RootContext
  operationId : Uuid
  mode : AuthorityMode
  configSha256 : Digest
  identitySha256 : Digest
  expectedRevision : UInt64
deriving DecidableEq

def PrepareRequest.validate (input : PrepareRequest) : Outcome Unit :=
  reject (input.root.installationId.isNil ∨ input.operationId.isNil ∨
    input.expectedRevision = 0 ∨ ¬input.root.validate) .invalid

structure OperationContext where
  root : RootContext
  operationId : Uuid
  mode : AuthorityMode
  configSha256 : Digest
  identitySha256 : Digest
  owner : RecordedOwner
  preparedRevision : UInt64
deriving DecidableEq

structure LeaseContext where
  operation : OperationContext
  leaseId : Uuid
deriving DecidableEq

def LeaseContext.recorded (c : LeaseContext) : Outcome JournalOperation :=
  journal (JournalOperation.new c.operation.operationId c.operation.mode c.operation.configSha256
    c.operation.identitySha256 c.leaseId c.operation.owner)

structure PacketPumpLimits where
  maximumPacketBytes : UInt16
  maximumQueuedBytes : UInt32
  maximumQueuedPackets : UInt16
  maximumReadBatch : UInt8
deriving DecidableEq

def PacketPumpLimits.validate (l : PacketPumpLimits) : Prop :=
  (1 ≤ l.maximumQueuedPackets ∧ l.maximumQueuedPackets ≤ 1024) ∧
    (1 ≤ l.maximumQueuedBytes ∧ l.maximumQueuedBytes ≤ 4 * 1048576) ∧
    (1280 ≤ l.maximumPacketBytes ∧ l.maximumPacketBytes ≤ 1500) ∧
    (1 ≤ l.maximumReadBatch ∧ l.maximumReadBatch ≤ 64)

instance (l : PacketPumpLimits) : Decidable l.validate := inferInstanceAs (Decidable (_ ∧ _))

structure ReadyReport where
  context : LeaseContext
  runtimeDigest : Digest
  readyFlags : UInt8
  packetPumpLimits : Option PacketPumpLimits
  observedMillis : UInt64
deriving DecidableEq

def ReadyReport.validate (report : ReadyReport) : Outcome Unit :=
  let mode := report.context.operation.mode
  reject (report.observedMillis = 0 ∨
    report.runtimeDigest ≠ report.context.operation.identitySha256 ∨
    report.readyFlags ≠ (if mode = .localProxy then 3 else 7) ∨
    ¬(mode = .tunnel ↔ report.packetPumpLimits ≠ none) ∨
    (∃ limits ∈ report.packetPumpLimits, ¬limits.validate)) .invalid

structure StoppedReport where
  context : LeaseContext
  engineStopped : Bool
  transportClosed : Bool
  osRestored : Bool
  observedMillis : UInt64
deriving DecidableEq

def StoppedReport.validate (report : StoppedReport) : Outcome Unit :=
  reject (report.observedMillis = 0 ∨ ¬report.engineStopped ∨ ¬report.transportClosed ∨
    ¬report.osRestored) .invalid

inductive Role
  | desktop | userAgent
deriving DecidableEq, Repr

/-- A connection's identity; two bindings are equal when they share one lifetime. -/
structure ConnectionBinding where
  lifetime : ℕ
deriving DecidableEq

/-- Which connections are open at the moment an operation looks. -/
abbrev OpenConnections := ConnectionBinding → Bool

structure Peer where
  owner : RecordedOwner
  connection : ConnectionBinding
  role : Role
deriving DecidableEq

namespace Peer

def same (p q : Peer) : Prop :=
  p.owner = q.owner ∧ p.connection = q.connection ∧ p.role = q.role

instance (p q : Peer) : Decidable (p.same q) := inferInstanceAs (Decidable (_ ∧ _))

def live (isOpen : OpenConnections) (p : Peer) : Outcome Unit := do
  journal p.owner.validate
  reject (¬isOpen p.connection) .identity

end Peer

structure TicketDigest where
  bytes : Digest
  domain : Bytes
deriving DecidableEq

def TicketDigest.accepts (t : TicketDigest) (ticket : Bytes) : Bool :=
  ticket.length = 32 ∧ Sha256.hash (t.domain ++ ticket) = t.bytes

/-- The durable operation that a proxy recovery names. -/
structure ProxyRecoveryTarget where
  root : RootContext
  revision : UInt64
  operation : JournalOperation
deriving DecidableEq

def ProxyRecoveryTarget.validate (t : ProxyRecoveryTarget) : Outcome Unit := do
  journal t.operation.validate
  reject (t.root.installationId.isNil ∨ ¬t.root.validate ∨ t.revision < 2 ∨
    t.operation.mode ≠ .systemProxy) .invalid

inductive CleanupBinding
  | runtime (target : ProxyRecoveryTarget)
  | recordedOff (target : AuthorityCommittedState)
  | localRuntime (target : AuthorityCommittedState)
  | tunnelRuntime (target : AuthorityCommittedState)
deriving DecidableEq

/-- Independent observations that the operating system was cleaned up. -/
structure CleanupEvidence where
  binding : CleanupBinding
  revision : UInt64
  leaseId : Option Uuid
  proxyListenerClosed : Bool
  systemProxyRestored : Bool
  tunnelEngineStopped : Bool
  packetPumpClosed : Bool
  managedTunnelOff : Bool
  endpointsClosed : Bool
  secretBuffersCleared : Bool
deriving DecidableEq

namespace CleanupEvidence

variable (evidence : CleanupEvidence) (metadata : Option AuthorityCommittedState)

def validateRuntime (mode : AuthorityMode) (target : AuthorityCommittedState) : Outcome Unit := do
  journal target.validate
  let operation ← unwrap target.operation .cleanupUnproven
  reject (¬(target.state = .preparing ∨ target.state = .starting ∨ target.state = .active ∨
      target.state = .stopping ∨ target.state = .quarantined) ∨
    operation.mode ≠ mode ∨ metadata ≠ some target ∨ evidence.revision ≠ target.revision ∨
    evidence.leaseId ≠ some operation.leaseId) .stale

def validateScope : Outcome Unit :=
  match evidence.binding with
  | .localRuntime target => evidence.validateRuntime metadata .localProxy target
  | .tunnelRuntime target => evidence.validateRuntime metadata .tunnel target
  | .recordedOff target => do
    journal target.validate
    reject (target.state ≠ .off ∨ target.operation.isSome ∨ metadata ≠ some target ∨
      evidence.revision ≠ target.revision ∨ evidence.leaseId.isSome) .stale
  | .runtime target => do
    target.validate
    let metadata ← unwrap metadata .recovering
    reject (target.revision ≠ evidence.revision ∨ target.revision ≠ metadata.revision ∨
      target.root ≠ metadata.root ∨ some target.operation ≠ metadata.operation ∨
      some target.operation.leaseId ≠ evidence.leaseId) .stale

def exact : Bool :=
  evidence.proxyListenerClosed && evidence.systemProxyRestored && evidence.tunnelEngineStopped &&
    evidence.packetPumpClosed && evidence.managedTunnelOff && evidence.endpointsClosed &&
    evidence.secretBuffersCleared

def root : RootContext :=
  match evidence.binding with
  | .runtime target => target.root
  | .recordedOff target | .localRuntime target | .tunnelRuntime target => target.root

end CleanupEvidence

def metadataLeaseId (metadata : Option AuthorityCommittedState) : Option Uuid :=
  metadata.bind fun s ↦ s.operation.map (·.leaseId)

structure Lease where
  context : LeaseContext
  state : LeaseState
  host : Peer
  runtime : Option Peer
  ticket : Option TicketDigest
  expires : Instant
  heartbeat : Option Instant
  stopDeadline : Option Instant
  ownerStopped : Bool
  acceptedReady : Option ReadyReport
deriving DecidableEq

def Lease.quarantined (lease : Lease) : Lease :=
  { lease with ticket := none, state := .revoked, acceptedReady := none }

structure Machine where
  phase : AuthorityState
  revision : UInt64
  durableKnown : Bool
  metadata : Option AuthorityCommittedState
  lease : Option Lease
deriving DecidableEq

namespace Machine

def checkRecovery (recovery : JournalRecovery) : Outcome Unit :=
  match recovery.committed, recovery.cursor with
  | none, none => require (recovery.action = .verifyOff) .invalid
  | some state, some cursor => do
    require (state.revision = cursor.stateRevision) .invalid
    let action ← journal state.restartAction
    require (action = recovery.action) .invalid
    let _ ← journal state.encode
    pure ()
  | _, _ => .error .invalid

def recovering (recovery : JournalRecovery) : Outcome Machine := do
  checkRecovery recovery
  pure
    { phase := .recovering
      revision := (recovery.committed.map (·.revision)).getD 1
      durableKnown := true
      metadata := recovery.committed
      lease := none }

variable (m : Machine)

def isBound : Prop := ∃ lease ∈ m.lease, lease.runtime.isSome

instance : Decidable m.isBound := inferInstanceAs (Decidable (∃ lease ∈ m.lease, _))

def expectedRevision (expected : UInt64) : Outcome Unit := do
  reject (¬m.durableKnown) .recovering
  reject (expected ≠ m.revision) .stale

def nextRevision : Outcome UInt64 := unwrap (checkedSucc m.revision) .invalid

def requirePhaseOff : Outcome Unit :=
  match m.phase with
  | .off => .ok ()
  | .recovering => .error .recovering
  | .quarantined => .error .quarantined
  | _ => .error .leaseConflict

def lineage : Outcome AuthorityLineage := do
  reject (¬m.durableKnown) .recovering
  let state ← unwrap m.metadata .recovering
  pure
    { installationId := state.root.installationId
      configEpoch := max state.root.epoch 1
      generation := state.allocatedGeneration }

def leaseExact (context : LeaseContext) : Outcome Lease := do
  let lease ← unwrap m.lease .stale
  reject (lease.context ≠ context) .stale
  pure lease

def hostExact (isOpen : OpenConnections) (peer : Peer) (context : LeaseContext) : Outcome Unit := do
  peer.live isOpen
  let lease ← m.leaseExact context
  reject (peer.role ≠ .desktop ∨ ¬peer.same lease.host) .identity

def runtimeExact (isOpen : OpenConnections) (peer : Peer) (context : LeaseContext) :
    Outcome Unit := do
  peer.live isOpen
  let lease ← m.leaseExact context
  reject (peer.role ≠ .userAgent ∨ ∀ bound ∈ lease.runtime, ¬peer.same bound) .identity

def mapLease (update : Lease → Lease) : Machine := { m with lease := m.lease.map update }

/-- The operation that a transition into `phase` records. -/
def operationFor (phase : AuthorityState) (previous : AuthorityCommittedState) :
    Outcome (Option JournalOperation) :=
  if phase = .off then pure none
  else
    match m.lease with
    | some lease => do
      let recorded ← lease.context.recorded
      pure (some recorded)
    | none => pure previous.operation

end Machine

abbrev MachineAction (α : Type) := Action Machine AuthorityError α

namespace Machine

def transition (kind : JournalTransition) (phase : AuthorityState) : MachineAction Unit := do
  let m ← get
  let revision ← check m.nextRevision
  let previous ← check (unwrap m.metadata .recovering)
  let operation ← check (m.operationFor phase previous)
  let metadata ← check (journal (previous.transitionTo revision kind phase operation))
  set { m with metadata := some metadata, revision, phase }

def updateLease (update : Lease → Lease) : MachineAction Unit := do
  let m ← get
  let lease ← check (unwrap m.lease .stale)
  set { m with lease := some (update lease) }

/-- Keeps the last metadata for cleanup, but hides its revision after an uncertain write. -/
def enterRecovery (uncertain : Bool) : MachineAction Unit := do
  let m ← get
  set { m with phase := .recovering, durableKnown := m.durableKnown && !uncertain, lease := none }

def enroll (installation : Uuid) : MachineAction Unit := do
  let m ← get
  check (reject (¬(m.phase = .off ∨ m.phase = .recovering) ∨ ¬m.durableKnown ∨
    m.metadata.isSome ∨ m.lease.isSome ∨ m.revision ≠ 1 ∨ installation.isNil) .replay)
  set { m with metadata := some (.enrollment installation) }

variable (isOpen : OpenConnections)

def reserveGeneration (host : Peer) (expected : AuthorityLineage) :
    MachineAction AuthorityLineage := do
  check expected.validate
  check (host.live isOpen)
  check (reject (host.role ≠ .desktop) .identity)
  let m ← get
  check m.requirePhaseOff
  let lineage ← check m.lineage
  check (reject (lineage ≠ expected) .stale)
  check (reject (expected.generation = maxWord) .generationExhausted)
  let metadata ← check (unwrap m.metadata .recovering)
  let next ← check (journal metadata.reserveNextGeneration)
  set { m with revision := next.revision, metadata := some next }
  let m ← get
  check m.lineage

def prepare (input : PrepareRequest) (host : Peer) (leaseId : Uuid) (ticket : TicketDigest)
    (now : Instant) : MachineAction LeaseContext := do
  check input.validate
  check (host.live isOpen)
  let m ← get
  check (m.expectedRevision input.expectedRevision)
  check m.requirePhaseOff
  check (reject (host.role ≠ .desktop) .identity)
  check (reject (m.lease.isSome ∨ leaseId.isNil) .leaseConflict)
  let prior ← check (unwrap m.metadata .recovering)
  check (reject (prior.root.installationId ≠ input.root.installationId ∨
    input.root.epoch ≠ max prior.root.epoch 1 ∨
    input.root.generation ≠ prior.allocatedGeneration ∨
    ¬PairLess (prior.root.epoch, prior.root.generation)
      (input.root.epoch, input.root.generation)) .replay)
  let revision ← check m.nextRevision
  let context : LeaseContext :=
    { operation :=
        { root := input.root, operationId := input.operationId, mode := input.mode
          configSha256 := input.configSha256, identitySha256 := input.identitySha256
          owner := host.owner, preparedRevision := revision }
      leaseId := leaseId }
  let expires ← check (unwrap (now.checkedAdd preparationLifetime) .invalid)
  let recorded ← check context.recorded
  let metadata ← check (journal (AuthorityCommittedState.new input.root revision .prepare
    .preparing (some recorded)))
  check (journal (metadata.validateSuccessor prior))
  set { m with
    metadata := some metadata
    revision := revision
    phase := .preparing
    lease := some
      { context := context, state := .prepared, host := host, runtime := none
        ticket := some ticket, expires := expires, heartbeat := none, stopDeadline := none
        ownerStopped := false, acceptedReady := none } }
  pure context

def bind (peer : Peer) (context : LeaseContext) (ticket : Bytes) (now : Instant) :
    MachineAction Unit := do
  check (peer.live isOpen)
  let m ← get
  let lease ← check (m.leaseExact context)
  check (reject (m.phase ≠ .preparing) .ticket)
  check (reject (lease.expires ≤ now) .expired)
  check (reject (peer.owner ≠ context.operation.owner ∨ peer.role ≠ .userAgent) .identity)
  check (reject (∀ expected ∈ lease.ticket, ¬expected.accepts ticket) .ticket)
  transition .bindOwner .starting
  updateLease fun lease ↦
    { lease with
      ticket := none, runtime := some peer, state := .starting, heartbeat := some now }

def ready (peer : Peer) (report : ReadyReport) (now : Instant) : MachineAction Unit := do
  check report.validate
  let m ← get
  check (m.runtimeExact isOpen peer report.context)
  let lease ← check (m.leaseExact report.context)
  if m.phase = .active then
    check (require (lease.state = .active ∧ lease.acceptedReady = some report) .stale)
  else
    check (reject (m.phase ≠ .starting) .stale)
    transition .ready .active
    updateLease fun lease ↦
      { lease with state := .active, acceptedReady := some report, heartbeat := some now }

def heartbeat (isOpen : OpenConnections) (peer : Peer) (context : LeaseContext) (now : Instant) :
    MachineAction Unit := do
  let m ← get
  check (m.runtimeExact isOpen peer context)
  check (reject (¬(m.phase = .starting ∨ m.phase = .active ∨ m.phase = .stopping)) .stale)
  let lease ← check (unwrap m.lease .stale)
  check (reject (∃ prior ∈ lease.heartbeat, now < prior) .invalid)
  set { m with lease := some { lease with heartbeat := some now } }

/-- The state a lease keeps while it stops: the two revocations leave it revoked. -/
def stoppedLeaseState (transition : JournalTransition) : LeaseState :=
  if transition = .revokeForTimeout ∨ transition = .revokeForConsoleChange then .revoked
  else .stopping

def stop (kind : JournalTransition) (now : Instant) : MachineAction Unit := do
  let deadline ← check (unwrap (now.checkedAdd stopTimeout) .invalid)
  transition kind .stopping
  updateLease fun lease ↦
    { lease with
      ticket := none, acceptedReady := none, ownerStopped := false
      stopDeadline := some deadline, state := stoppedLeaseState kind }

def beginStop (peer : Peer) (context : LeaseContext) (expected : UInt64) (now : Instant) :
    MachineAction Unit := do
  let m ← get
  check (m.hostExact isOpen peer context)
  if m.phase = .stopping then
    check (require (expected = m.revision ∨ checkedSucc expected = some m.revision ∧
      ∃ s ∈ m.metadata, s.transition = .beginStop) .stale)
  else
    check (m.expectedRevision expected)
    check (reject (¬(m.phase = .preparing ∨ m.phase = .starting ∨ m.phase = .active)) .stale)
    stop .beginStop now

def checkAbortPeer (m : Machine) (context : LeaseContext) :
    Option Peer → Outcome Unit
  | some peer => m.hostExact isOpen peer context
  | none => pure ()

def abortPrepared (peer : Option Peer) (expected : UInt64) (now : Instant) :
    MachineAction Unit := do
  let m ← get
  check (m.expectedRevision expected)
  let lease ← check (unwrap m.lease .stale)
  check (checkAbortPeer isOpen m lease.context peer)
  check (reject (m.phase ≠ .preparing ∨ m.isBound) .stale)
  stop .abortPrepared now
  updateLease fun lease ↦ { lease with ownerStopped := true }

/-- No runtime was authorized, so the preparation changed nothing outside the Authority. -/
def finishUnboundAbort : MachineAction Unit := do
  let m ← get
  let lease ← check (unwrap m.lease .stale)
  check (reject (m.phase ≠ .stopping ∨ ¬lease.ownerStopped ∨ lease.runtime.isSome ∨
    lease.ticket.isSome ∨ ∀ s ∈ m.metadata, s.transition ≠ .abortPrepared) .cleanupUnproven)
  transition .globalOff .off
  let m ← get
  set { m with lease := none }

def revoke (consoleChange : Bool) (now : Instant) : MachineAction Unit := do
  let m ← get
  if m.lease.isNone ∨ m.phase = .stopping ∨ m.phase = .quarantined then pure ()
  else
    check (reject (¬(m.phase = .preparing ∨ m.phase = .starting ∨ m.phase = .active)) .stale)
    stop (if consoleChange then .revokeForConsoleChange else .revokeForTimeout) now

def stopped (peer : Peer) (report : StoppedReport) (now : Instant) : MachineAction Unit := do
  check report.validate
  let m ← get
  check (m.runtimeExact isOpen peer report.context)
  check (reject (¬(m.phase = .starting ∨ m.phase = .active ∨ m.phase = .stopping)) .stale)
  let lease ← check (m.leaseExact report.context)
  if lease.ownerStopped then pure ()
  else
    let deadline ← check (unwrap (now.checkedAdd stopTimeout) .invalid)
    transition .ownerStopped .stopping
    updateLease fun lease ↦
      { lease with
        ticket := none, acceptedReady := none, state := .stopping, ownerStopped := true
        stopDeadline := some deadline }

def Proves (m : Machine) (evidence : CleanupEvidence) : Prop :=
  evidence.exact = true ∧ (∀ lease ∈ m.lease, lease.ticket = none) ∧
    (m.phase ≠ .stopping ∨ ∃ lease ∈ m.lease, lease.ownerStopped = true)

instance (m : Machine) (evidence : CleanupEvidence) : Decidable (m.Proves evidence) :=
  inferInstanceAs (Decidable (_ ∧ _))

/-- Before the first preparation there is no run that a record could be about. -/
def atGenesis (m : Machine) : Prop := ∀ s ∈ m.metadata, s.root.epoch = 0

instance (m : Machine) : Decidable m.atGenesis := inferInstanceAs (Decidable (∀ s ∈ m.metadata, _))

def reconcile (evidence : CleanupEvidence) : MachineAction Unit := do
  let m ← get
  check (m.expectedRevision evidence.revision)
  check (evidence.validateScope m.metadata)
  check (reject (¬(m.phase = .recovering ∨ m.phase = .stopping ∨ m.phase = .quarantined))
    .cleanupUnproven)
  check (reject (evidence.leaseId ≠ metadataLeaseId m.metadata) .stale)
  let phase := if m.Proves evidence then .off else .quarantined
  if m.atGenesis then
    check (reject m.lease.isSome .invalid)
    set { m with phase := phase }
  else
    transition (if m.phase = .stopping ∧ m.Proves evidence then .globalOff else .reconcileOff) phase
    let m' ← get
    if m.Proves evidence then set { m' with lease := none }
    else
      set (m'.mapLease fun lease ↦
        if evidence.endpointsClosed then { lease.quarantined with runtime := none }
        else lease.quarantined)

def quarantineExpiredStop : MachineAction Unit := do
  let m ← get
  check (reject (m.phase ≠ .stopping) .stale)
  transition .reconcileOff .quarantined
  let m ← get
  set (m.mapLease Lease.quarantined)

end Machine

end CfwRs.WindowsAuthority
