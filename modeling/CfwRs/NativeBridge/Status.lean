import CfwRs.NativeBridge.Coordinator

namespace CfwRs.NativeBridge

open Lib Lib.Checked GlobalAuthority

def requireActiveAgreement (descriptor : ConfigurationDescriptor) (mode : EngineMode)
    (ownership : AuthorityOwnershipObservation) : Except Thrown Unit := do
  match ownership.state with
  | .active => .ok ()
  | .recovering =>
    .error (failure .globalAuthorityRecovering
      "Global Authority is recovering; owner activation is not proven.")
  | .quarantined =>
    .error (failure .quarantined
      "Global Authority is quarantined; owner activation is not proven.")
  | .off =>
    .error (failure .quarantined
      "An owner reported active while the Authority proves global Off.")
  | .preparing => .error (failure .busy "Global Authority is in transitional state preparing.")
  | .starting => .error (failure .busy "Global Authority is in transitional state starting.")
  | .stopping => .error (failure .busy "Global Authority is in transitional state stopping.")
  let lease ← unwrap ownership.lease
    (failure .quarantined "Global Authority reported Active without a bound lease.")
  require (descriptor.slot.engineMode = mode)
    (failure .identityRejected "Native mode differs from its descriptor.")
  require (lease.leaseState = .active ∧ lease.mode = descriptor.slot.authorityMode ∧
      lease.installationID = descriptor.installationID ∧ lease.epoch = descriptor.epoch ∧
      lease.generation = descriptor.generation ∧ lease.configSHA256 = descriptor.sha256 ∧
      lease.identitySHA256 = descriptor.identitySHA256)
    (failure .identityRejected
      "Global Authority lease does not exactly match the active owner context.")

def requireGlobalOff (ownership : AuthorityOwnershipObservation) : Except Thrown Unit :=
  match ownership.state with
  | .off => .ok ()
  | .recovering =>
    .error (failure .globalAuthorityRecovering
      "Global Authority is recovering; the Off barrier is not proven.")
  | .quarantined =>
    .error (failure .quarantined
      "Global Authority is quarantined; the Off barrier is not proven.")
  | .preparing | .starting | .active | .stopping =>
    .error (failure .busy
      "Another user or native engine process holds the machine-wide engine lease.")

def NativeRecoveredStop.names (recovered : NativeRecoveredStop) (lease : AuthorityLeaseAgreement) :
    Prop :=
  (lease.leaseState = .stopping ∨ lease.leaseState = .revoked) ∧
    recovered.authorityContext.operation.mode = lease.mode ∧
    recovered.owner = .ofMode lease.mode ∧
    recovered.commandContext.installationID = lease.installationID ∧
    recovered.commandContext.configEpoch = lease.epoch ∧
    recovered.commandContext.generation = lease.generation ∧
    recovered.authorityContext.operation.root.installationID = lease.installationID ∧
    recovered.authorityContext.operation.root.epoch = lease.epoch ∧
    recovered.authorityContext.operation.root.generation = lease.generation ∧
    recovered.authorityContext.operation.ownerUID = lease.ownerUID ∧
    recovered.authorityContext.operation.configSHA256 = lease.configSHA256 ∧
    recovered.authorityContext.operation.identitySHA256 = lease.identitySHA256

instance (recovered : NativeRecoveredStop) (lease : AuthorityLeaseAgreement) :
    Decidable (recovered.names lease) :=
  inferInstanceAs (Decidable (_ ∧ _))

/-- The private `matches`: the recovered lease is the one that the Authority is stopping. -/
def NativeRecoveredStop.agrees (recovered : NativeRecoveredStop)
    (ownership : AuthorityOwnershipObservation) : Bool :=
  ownership.state = .stopping ∧ ownership.lease.any fun lease ↦ recovered.names lease

variable (w : World)

/-- The part of `queryStatus` that a preference mutation which is still pending ends. -/
def preferenceBarrier : Task Unit := do
  let pending ← call w .pendingPreferenceMutationConfiguration
  Durable.attempt (require (pending = none) (failure .cleanupUnproven
    "A durable Tunnel preference mutation must be recovered before status can be projected."))
  endRecovery

def observeOwnership : Task AuthorityOwnershipObservation :=
  (call w .authorityOwnership).handle fun e ↦
    if e.kind = .authority .globalLeaseConflict then
      .error (failure .busy "Another user's connection holds the Global Authority.")
    else .error e.map

def reconcileRecovering (ownership : AuthorityOwnershipObservation) :
    Task AuthorityOwnershipObservation :=
  if ownership.state = .recovering then
    mapping do
      let managedTunnel ← call w .recoveryManagedTunnelStatus
      call w (.reconcileOff managedTunnel)
  else pure ownership

def completeStopping (ownership : AuthorityOwnershipObservation) :
    Task AuthorityOwnershipObservation :=
  if ownership.state = .stopping then
    mapping do
      let recovered ← call w .recoverStoppingLease
      let recovered ← Durable.attempt (unwrap (recovered.filter (·.agrees ownership)) cleanupUnproven)
      call w (.completeStop recovered.authorityContext)
      call w .authorityOwnership
  else pure ownership
where
  /-- `AuthorityDomainError(code: .cleanupUnproven)`, which is mapped at once. -/
  cleanupUnproven : Thrown :=
    ⟨.authority .cleanupUnproven, ⟨.cleanupUnproven, "cleanup_unproven"⟩, "cleanup_unproven"⟩

def settleOff (proxySnapshot tunnelSnapshot : EngineSnapshot)
    (ownership : AuthorityOwnershipObservation) : Task NativeEngineStatus := do
  Durable.attempt (require (proxySnapshot.isStableOff ∧ tunnelSnapshot.isStableOff)
    (failure .busy "A native endpoint is not at the stable Off barrier."))
  let ownership ← reconcileRecovering w ownership
  let ownership ← completeStopping w ownership
  Durable.attempt (requireGlobalOff ownership)
  return .off

def activeProxy (descriptor : ConfigurationDescriptor) (proxyMode : EngineMode)
    (tunnelDescriptor : Option ConfigurationDescriptor) (tunnelSnapshot : EngineSnapshot)
    (ownership : AuthorityOwnershipObservation) : Except Thrown NativeEngineStatus := do
  require (tunnelDescriptor = none ∧ tunnelSnapshot.isStableOff) (failure .identityRejected
    "ProxyAgent readiness does not match machine-wide engine ownership.")
  requireActiveAgreement descriptor proxyMode ownership
  let identity := runtime descriptor true
  return if proxyMode = .localProxy then .localProxy identity else .systemProxy identity

def activeTunnel (descriptor : ConfigurationDescriptor) (proxySnapshot : EngineSnapshot)
    (ownership : AuthorityOwnershipObservation) : Except Thrown NativeEngineStatus := do
  require proxySnapshot.isStableOff (failure .identityRejected
    "Packet Tunnel readiness does not match machine-wide engine ownership.")
  requireActiveAgreement descriptor .tunnel ownership
  return .tunnel (runtime descriptor false)

def classify (proxySnapshot tunnelSnapshot : EngineSnapshot) : Task NativeEngineStatus := do
  let proxyMode := if proxySnapshot.mode = .localProxy then .localProxy else .systemProxy
  let proxyDescriptor ← Durable.attempt (activeDescriptor proxySnapshot proxyMode)
  let tunnelDescriptor ← Durable.attempt (activeDescriptor tunnelSnapshot .tunnel)
  Durable.attempt (require (proxyDescriptor = none ∨ tunnelDescriptor = none) (failure .busy
    "ProxyAgent and Packet Tunnel both reported active ownership."))
  let ownership ← observeOwnership w
  match proxyDescriptor, tunnelDescriptor with
  | some descriptor, _ =>
    Durable.attempt (activeProxy descriptor proxyMode tunnelDescriptor tunnelSnapshot ownership)
  | none, some descriptor => Durable.attempt (activeTunnel descriptor proxySnapshot ownership)
  | none, none => settleOff w proxySnapshot tunnelSnapshot ownership

def queryStatus (enforcePreferenceBarrier : Bool) : Task NativeEngineStatus := do
  onlyIf enforcePreferenceBarrier (preferenceBarrier w)
  mapping (call w .ensureRegistered)
  let proxyObservation ← (call w .proxySnapshot).catching
  let tunnelObservation ← (call w .tunnelSnapshot).catching
  let proxySnapshot ← Durable.attempt (requireObservation proxyObservation "ProxyAgent")
  let tunnelSnapshot ← Durable.attempt (requireObservation tunnelObservation "Packet Tunnel")
  classify w proxySnapshot tunnelSnapshot

end CfwRs.NativeBridge
