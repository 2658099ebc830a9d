import CfwRs.GlobalAuthority.Protocol
import CfwRs.Lib.Checked
import CfwRs.Lib.Moves

namespace CfwRs.NativeBridge

open Lib Lib.Checked GlobalAuthority

/-- The codes that the coordinator itself reports. What `map` makes of other errors may carry any
other code of the protocol, by its raw value. -/
inductive NativeBridgeErrorCode
  | busy | configurationRejected | globalAuthorityRecovering | cleanupUnproven | quarantined
  | identityRejected | unavailable | timeout | other (rawValue : String)
deriving DecidableEq, Repr

structure NativeBridgeFailure where
  code : NativeBridgeErrorCode
  message : String
deriving DecidableEq, Repr

inductive ErrorKind
  | execution
  | authority (code : AuthorityErrorCode)
  | stopWithoutSession
  | staleStopRequest
  | cancellation
  | systemExtensionInstallationTimedOut
  | other
deriving DecidableEq

/-- An error with its `localizedDescription` and with what `map` makes of it. -/
structure Thrown where
  kind : ErrorKind
  mapped : NativeBridgeFailure
  localizedDescription : String
deriving DecidableEq

/-- `NativeBridgeExecutionError.failure`, which `map` leaves as it is. -/
def failure (code : NativeBridgeErrorCode) (message : String) : Thrown :=
  ⟨.execution, ⟨code, message⟩, message⟩

def Thrown.map (e : Thrown) : Thrown := failure e.mapped.code e.mapped.message

inductive EngineMode
  | off | localProxy | systemProxy | tunnel
deriving DecidableEq, Repr

def EngineMode.rawValue : EngineMode → String
  | off => "off"
  | localProxy => "localProxy"
  | systemProxy => "systemProxy"
  | tunnel => "tunnel"

inductive EngineStateKind
  | off | proxyStarting | proxyActive | proxyStopping | tunnelInstalling | awaitingApproval
  | tunnelStarting | tunnelActive | tunnelStopping | failed
deriving DecidableEq, Repr

def EngineStateKind.rawValue : EngineStateKind → String
  | off => "off"
  | proxyStarting => "proxyStarting"
  | proxyActive => "proxyActive"
  | proxyStopping => "proxyStopping"
  | tunnelInstalling => "tunnelInstalling"
  | awaitingApproval => "awaitingApproval"
  | tunnelStarting => "tunnelStarting"
  | tunnelActive => "tunnelActive"
  | tunnelStopping => "tunnelStopping"
  | failed => "failed"

inductive ConfigurationSlot
  | localProxy | systemProxy | tunnel
deriving DecidableEq, Repr

namespace ConfigurationSlot

def engineMode : ConfigurationSlot → EngineMode
  | localProxy => .localProxy
  | systemProxy => .systemProxy
  | tunnel => .tunnel

def authorityMode : ConfigurationSlot → AuthorityMode
  | localProxy => .localProxy
  | systemProxy => .systemProxy
  | tunnel => .tunnel

def isProxyAgent (slot : ConfigurationSlot) : Bool := slot = .localProxy ∨ slot = .systemProxy

end ConfigurationSlot

structure EngineCommandContext where
  installationID : AuthorityIdentifier
  configEpoch : UInt64
  generation : UInt64
deriving DecidableEq

/-- Nothing looks into the network options, the credential slots, the audience and the byte count
of a descriptor, they only count when descriptors are compared: `remainder` stands for them. -/
structure ConfigurationDescriptor where
  slot : ConfigurationSlot
  installationID : AuthorityIdentifier
  epoch : UInt64
  generation : UInt64
  sha256 : SHA256Digest
  identitySHA256 : SHA256Digest
  remainder : String
deriving DecidableEq

def ConfigurationDescriptor.context (d : ConfigurationDescriptor) : EngineCommandContext :=
  ⟨d.installationID, d.epoch, d.generation⟩

inductive NativeStartMode
  | localProxy | systemProxy | tunnel | tunnelSystemProxy
deriving DecidableEq, Repr

def NativeStartMode.slot : NativeStartMode → ConfigurationSlot
  | localProxy => .localProxy
  | systemProxy => .systemProxy
  | tunnel | tunnelSystemProxy => .tunnel

structure EngineStartRequest where
  mode : NativeStartMode
  context : EngineCommandContext
  hasTunnelOptions : Bool
  configContentDigest : SHA256Digest
  configDigest : SHA256Digest
  remainder : String

/-- The descriptor of a request in its own slot. Another slot is an invalid command, of which the
system words the description. -/
def EngineStartRequest.descriptor (r : EngineStartRequest) (slot : ConfigurationSlot)
    (invalidCommand : Thrown) : Except Thrown ConfigurationDescriptor :=
  if slot = r.mode.slot then
    .ok { slot, installationID := r.context.installationID, epoch := r.context.configEpoch,
          generation := r.context.generation, sha256 := r.configContentDigest,
          identitySHA256 := r.configDigest, remainder := r.remainder }
  else .error invalidCommand

/-- A snapshot of an endpoint. The failure of a failed state stands as `map` reports it. -/
structure EngineSnapshot where
  mode : EngineMode
  kind : EngineStateKind
  failure : Option NativeBridgeFailure
  configuration : Option ConfigurationDescriptor

def EngineSnapshot.isStableOff (s : EngineSnapshot) : Prop :=
  s.mode = .off ∧ s.kind = .off ∧ s.configuration = none

instance (s : EngineSnapshot) : Decidable s.isStableOff :=
  inferInstanceAs (Decidable (_ ∧ _))

structure AuthorityLeaseAgreement where
  installationID : AuthorityIdentifier
  epoch : UInt64
  generation : UInt64
  ownerUID : UInt32
  mode : AuthorityMode
  configSHA256 : SHA256Digest
  identitySHA256 : SHA256Digest
  leaseState : AuthorityLeaseState
deriving DecidableEq

structure AuthorityOwnershipObservation where
  state : AuthorityState
  lease : Option AuthorityLeaseAgreement

structure NativeAuthorityStopContext where
  operation : OperationContext
  leaseID : AuthorityIdentifier
deriving DecidableEq

inductive NativeStopOwner
  | localProxy | systemProxy | tunnel
deriving DecidableEq, Repr

def NativeStopOwner.engineMode : NativeStopOwner → EngineMode
  | localProxy => .localProxy
  | systemProxy => .systemProxy
  | tunnel => .tunnel

def NativeStopOwner.ofMode : AuthorityMode → NativeStopOwner
  | .localProxy => .localProxy
  | .systemProxy => .systemProxy
  | .tunnel => .tunnel

structure NativeRecoveredStop where
  owner : NativeStopOwner
  commandContext : EngineCommandContext
  authorityContext : NativeAuthorityStopContext

inductive NativeStopAuthorityPhase
  | unordered
  | ordered (context : NativeAuthorityStopContext)
  | completed (context : NativeAuthorityStopContext)
  | released
deriving DecidableEq

structure NativeStopTransaction where
  owner : NativeStopOwner
  commandContext : EngineCommandContext
  descriptor : ConfigurationDescriptor
  authority : NativeStopAuthorityPhase := .unordered
  ownerStopped : Bool := false
  preferenceCompensated : Bool := false

structure NativeStartCleanupReceipt where
  owner : NativeStopOwner
  commandContext : EngineCommandContext
  descriptor : ConfigurationDescriptor

inductive NativeStopResolution
  | completed | superseded | unresolved
deriving DecidableEq, Repr

inductive SystemExtensionInstallResult
  | completed | awaitingApproval | requiresRestart
deriving DecidableEq, Repr

inductive RecoveryManagedTunnelStatus
  | disconnected | invalid | connecting | connected | unknown
deriving DecidableEq, Repr

inductive NativeEngineOwner
  | proxyAgent | packetTunnelSystemExtension
deriving DecidableEq, Repr

structure NativeRuntimeIdentity where
  owner : NativeEngineOwner
  context : EngineCommandContext
  configDigest : SHA256Digest
  ready : Bool

inductive NativeEngineStatus
  | off
  | localProxy (runtime : NativeRuntimeIdentity)
  | systemProxy (runtime : NativeRuntimeIdentity)
  | tunnel (runtime : NativeRuntimeIdentity)

/-- What a command asks of the ProxyAgent, the Authority's preparer, the tunnel, the Authority, the
credential vault, the services and the runtime of its task. -/
inductive Request
  | ensureRegistered
  | proxySnapshot
  | proxyStart (descriptor : ConfigurationDescriptor)
  | proxyStop (configuration : ConfigurationDescriptor)
  | restoreSettingsBeforeStop (configuration : ConfigurationDescriptor)
  | prepareSystemProxyStart (descriptor : ConfigurationDescriptor)
  | cancelSystemProxyStart (descriptor : ConfigurationDescriptor)
  | installTunnel
  | cancelTunnelInstallationWait
  | authorizeTunnelConfiguration (descriptor : ConfigurationDescriptor)
  | startTunnel (descriptor : ConfigurationDescriptor)
  | stopTunnel (expectedConfiguration : ConfigurationDescriptor)
  | tunnelSnapshot
  | recoveryManagedTunnelStatus
  | pendingPreferenceMutationConfiguration
  | pendingReceipt (expectedConfiguration : ConfigurationDescriptor)
  | restorePreferences (expectedConfiguration : ConfigurationDescriptor)
  | finishPreferenceCompensation (expectedConfiguration : ConfigurationDescriptor)
  | completePreferenceMutation (expectedConfiguration : ConfigurationDescriptor)
  | authorityOwnership
  | reconcileOff (managedTunnel : RecoveryManagedTunnelStatus)
  | recoverStoppingLease
  | cancelPreparedStart (descriptor : ConfigurationDescriptor)
  | beginStop (descriptor : ConfigurationDescriptor)
  | completeStop (context : NativeAuthorityStopContext)
  | stopResolution (context : EngineCommandContext)
  | resolveCredentials
  | useCredentialVault
  | checkConfiguration
  | inspectServiceBuilds
  | requireCurrentServiceBuilds
  | acquireHostOperationLease
  | checkCancellation
  | sleep

abbrev Request.Success : Request → Type
  | proxySnapshot | tunnelSnapshot => EngineSnapshot
  | installTunnel => SystemExtensionInstallResult
  | recoveryManagedTunnelStatus => RecoveryManagedTunnelStatus
  | pendingPreferenceMutationConfiguration => Option ConfigurationDescriptor
  | pendingReceipt _ | cancelPreparedStart _ | inspectServiceBuilds => Bool
  | authorityOwnership | reconcileOff _ => AuthorityOwnershipObservation
  | recoverStoppingLease => Option NativeRecoveredStop
  | beginStop _ => NativeAuthorityStopContext
  | stopResolution _ => NativeStopResolution
  | _ => Unit

def Request.isStart : Request → Prop
  | proxyStart _ | prepareSystemProxyStart _ | authorizeTunnelConfiguration _ | startTunnel _ => True
  | _ => False

structure Slots where
  pendingStop : Option NativeStopTransaction := none
  pendingStartCleanup : Option NativeStopTransaction := none
  pendingFailedStartOff : Option NativeStopTransaction := none
  completedStartCleanup : Option NativeStartCleanupReceipt := none

/-- What happens in a command: a call with the transactions retained when it was made, or a change
of the retained transactions. -/
inductive Event
  | called (slots : Slots) (request : Request) (answer : Except Thrown request.Success)
  | wrote (before after : Slots)

inductive NativeTunnelInstallationState
  | waiting | retryable | terminalReceipt
deriving DecidableEq, Repr

structure NativePendingTunnelInstallation where
  context : EngineCommandContext
  state : NativeTunnelInstallationState

/-- The coordinator, with what happened in the current command, the newest first. -/
structure Bridge where
  slots : Slots := {}
  startupPreferenceRecoveryComplete : Bool := false
  pendingTunnelInstallation : Option NativePendingTunnelInstallation := none
  log : List Event := []

/-- The surroundings of one command. They answer calls as they like, looking at all that happened
in the command. A status read that takes no operation may end the startup recovery meanwhile, and
the deadline of a tunnel start passes after some number of polls. -/
structure World where
  answer : List Event → (request : Request) → Except Thrown request.Success
  endsRecovery : List Event → Request → Bool
  polls : ℕ
  invalidCommand : Thrown

abbrev Task (α : Type) := Durable Bridge Thrown α

namespace Bridge

def record (b : Bridge) (request : Request) (answer : Except Thrown request.Success)
    (endsRecovery : Bool) : Bridge :=
  { b with
    startupPreferenceRecoveryComplete := b.startupPreferenceRecoveryComplete || endsRecovery
    log := .called b.slots request answer :: b.log }

def write (f : Slots → Slots) (b : Bridge) : Bridge :=
  { b with slots := f b.slots, log := .wrote b.slots (f b.slots) :: b.log }

end Bridge

variable {α β : Type}

def ask (w : World) (request : Request) : Task (Except Thrown request.Success) :=
  Durable.exchange fun b ↦
    let answer := w.answer b.log request
    (b.record request answer (w.endsRecovery b.log request), answer)

def call (w : World) (request : Request) : Task request.Success := do
  let answer ← ask w request
  Durable.attempt answer

def throwing (e : Thrown) : Task α := Durable.attempt (.error e)

def mapping (x : Task α) : Task α := x.handle fun e ↦ .error e.map

def onlyIf (p : Prop) [Decidable p] (x : Task Unit) : Task Unit := if p then x else pure ()

def slots : Task Slots := Durable.read Bridge.slots

def write (f : Slots → Slots) : Task Unit := Durable.step (Bridge.write f)

def endRecovery : Task Unit :=
  Durable.step fun b ↦ { b with startupPreferenceRecoveryComplete := true }

def setInstallation (pending : Option NativePendingTunnelInstallation) : Task Unit :=
  Durable.step fun b ↦ { b with pendingTunnelInstallation := pending }

def requireObservation (observation : Except Thrown EngineSnapshot) (component : String) :
    Except Thrown EngineSnapshot :=
  match observation with
  | .ok value => .ok value
  | .error e =>
    .error (failure .unavailable (component ++ " state query failed: " ++ e.localizedDescription))

def activeDescriptor (snapshot : EngineSnapshot) (expectedMode : EngineMode) :
    Except Thrown (Option ConfigurationDescriptor) :=
  if snapshot.kind = .off ∧ snapshot.mode = .off ∧ snapshot.configuration = none then .ok none
  else if snapshot.kind = (if expectedMode = .tunnel then .tunnelActive else .proxyActive) ∧
      snapshot.mode = expectedMode ∧ snapshot.configuration.isSome then .ok snapshot.configuration
  else if snapshot.kind = .failed then
    .error (failure .unavailable
      (expectedMode.rawValue ++ " endpoint retained a failed native state."))
  else
    .error (failure .busy (expectedMode.rawValue ++ " endpoint is in transitional state " ++
      snapshot.kind.rawValue ++ "."))

def runtime (descriptor : ConfigurationDescriptor) (proxy : Bool) : NativeRuntimeIdentity :=
  { owner := if proxy then .proxyAgent else .packetTunnelSystemExtension
    context := descriptor.context
    configDigest := descriptor.identitySHA256
    ready := true }

def describes (descriptor : ConfigurationDescriptor) (context : EngineCommandContext) : Prop :=
  descriptor.installationID = context.installationID ∧ descriptor.epoch = context.configEpoch ∧
    descriptor.generation = context.generation

instance (d : ConfigurationDescriptor) (c : EngineCommandContext) : Decidable (describes d c) :=
  inferInstanceAs (Decidable (_ ∧ _))

end CfwRs.NativeBridge
