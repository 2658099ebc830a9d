import CfwRs.NativeBridge.Starts

namespace CfwRs.NativeBridge

open Lib Lib.Checked GlobalAuthority Durable

variable {α : Type} (w : World)

/-- Recovery of a preference mutation that an earlier Host left: its cleanup is retained unless it
is already, and nothing else may be. -/
def retainRecoveredCleanup (recovered : NativeStopTransaction) : Task Unit := do
  let s ← slots
  match s.pendingStartCleanup with
  | some pending => attempt (require (pending.Same recovered ∧
        s.pendingFailedStartOff.isNone ∧ s.completedStartCleanup.isNone) conflict)
  | none => do
    attempt (require (s.pendingStop.isNone ∧ s.pendingFailedStartOff.isNone ∧
      s.completedStartCleanup.isNone) conflict)
    write (Slots.setPendingStartCleanup (some recovered))
where
  conflict : Thrown := failure .cleanupUnproven
    "Startup Tunnel preference recovery conflicts with another cleanup transaction."

def recoverStartupPreferenceMutationIfNeeded : Task Unit := do
  let complete ← read Bridge.startupPreferenceRecoveryComplete
  if complete then return ()
  else do
    let descriptor ← call w .pendingPreferenceMutationConfiguration
    match descriptor with
    | none => endRecovery
    | some descriptor => do
      retainRecoveredCleanup { owner := .tunnel, commandContext := descriptor.context, descriptor }
      reconcilePendingTunnelStartCleanup w false
      endRecovery

/-- Commands run one at a time: one that finds another active is refused before it does anything,
so that only the recovery is left of the beginning of a mutation. -/
def beginMutation : Task Unit := mapping (recoverStartupPreferenceMutationIfNeeded w)

def cancelSystemProxyPreparation (t : NativeStopTransaction) (originalError : Thrown) : Task α := do
  (call w (.cancelSystemProxyStart t.descriptor)).handle fun e ↦ .error (failure .cleanupUnproven
    ("System Proxy credential preflight failed and Authority cancellation is unproven: " ++
      e.mapped.message))
  proveFailedStartOff w t
  throwing originalError.map

variable (request : EngineStartRequest)

def requireReady (message : String) (identity : NativeRuntimeIdentity) :
    Except Thrown NativeRuntimeIdentity := do
  require (identity.context = request.context ∧ identity.configDigest = request.configDigest ∧
    identity.ready = true) (failure .identityRejected message)
  return identity

variable (expectedMode : NativeStartMode)

def proxyRuntime :
    NativeEngineStatus → Except Thrown NativeRuntimeIdentity
  | .localProxy identity =>
    if expectedMode = .localProxy then .ok identity else .error wrongMode
  | .systemProxy identity =>
    if expectedMode = .systemProxy then .ok identity else .error wrongMode
  | _ => .error wrongMode
where
  wrongMode : Thrown := failure .identityRejected "ProxyAgent reported the wrong mode."

def confirmProxyReady : Task NativeRuntimeIdentity := do
  call w .checkCancellation
  let status ← queryStatus w true
  let identity ← attempt (proxyRuntime expectedMode status)
  let identity ← attempt (requireReady request
    "ProxyAgent did not return readiness for the exact start request." identity)
  call w .checkCancellation
  return identity

variable (t : NativeStopTransaction)

def abandonStartedProxy (originalError : Thrown) : Task α := do
  let cancelled ← (call w (.cancelSystemProxyStart t.descriptor)).catching
  match cancelled with
  | .error e => rollbackStartedOwner w t originalError (some e)
  | .ok () => do
    proveFailedStartOff w t
    throwing originalError.map

def preflightCredentials : Task Unit := do
  call w .checkCancellation
  mapping (call w .resolveCredentials)

def runProxyStart : Task NativeRuntimeIdentity := do
  let prepared ← (call w (.prepareSystemProxyStart t.descriptor)).catching
  match prepared with
  | .error e => do
    proveFailedStartOff w t
    throwing e.map
  | .ok () => do
    let preflight ← (preflightCredentials w).catching
    match preflight with
    | .error e => cancelSystemProxyPreparation w t e
    | .ok () => do
      let started ← (call w (.proxyStart t.descriptor)).catching
      match started with
      | .error e => abandonStartedProxy w t e
      | .ok () => do
        let confirmed ← (confirmProxyReady w request expectedMode).catching
        match confirmed with
        | .ok identity => return identity
        | .error e => rollbackStartedOwner w t e none

def startProxy : Task NativeRuntimeIdentity := do
  beginMutation w
  call w .checkCancellation
  requireNoPendingStopBeforeStart
  attempt (require (request.mode = expectedMode ∧ expectedMode.slot.isProxyAgent ∧
      request.hasTunnelOptions = false)
    (failure .configurationRejected "Proxy start mode does not match the requested entry point."))
  mapping (call w .ensureRegistered)
  call w .checkCancellation
  let descriptor ← attempt (request.descriptor expectedMode.slot w.invalidCommand)
  runProxyStart w request expectedMode
    { owner := .ofMode descriptor.slot.authorityMode, commandContext := request.context, descriptor }

def startSystemProxy : Task NativeRuntimeIdentity :=
  startProxy w request .systemProxy

def startLocalProxy : Task NativeRuntimeIdentity :=
  startProxy w request .localProxy

def explicitStop (owner : NativeStopOwner) (context : EngineCommandContext)
    (restoringSettingsFirst : Bool) : Task Unit := do
  let prepared ← prepareExplicitStop w owner context
  if prepared then drivePendingStop w restoringSettingsFirst else return ()

variable (context : EngineCommandContext)

def stopProxy (owner : NativeStopOwner) : Task Unit := do
  beginMutation w
  let acknowledged ← acknowledgeCompletedStartCleanup w owner context
  if acknowledged then return ()
  else do
    let resumed ← resumePendingFailedStartOff w owner context
    if resumed then return ()
    else explicitStop w owner context (owner = .systemProxy)

def stopSystemProxy : Task Unit := stopProxy w context .systemProxy

def stopLocalProxy : Task Unit := stopProxy w context .localProxy

def requireOffForAuthorization : Task Unit := mapping do
  call w .ensureRegistered
  let ownership ← call w .authorityOwnership
  attempt (require (ownership.state = .off ∧ ownership.lease = none) busy)
  let snapshot ← call w .proxySnapshot
  attempt (require (snapshot.kind = .off) busy)
where
  busy : Thrown := failure .busy "VPN authorization requires global Off."

def authorizeDescriptor (descriptor : ConfigurationDescriptor) : Task Unit := do
  call w (.authorizeTunnelConfiguration descriptor)
  call w .checkCancellation

def cleanUpAuthorization : Task Unit := do
  write (Slots.setPendingStartCleanup (some t))
  (do reconcilePendingTunnelStartCleanup w false; proveFailedStartOff w t).handle fun _ ↦
    .error (failure .cleanupUnproven
      "VPN configuration authorization failed and its preference cleanup is unproven.")

def authorizeTunnelConfiguration : Task Unit := do
  beginMutation w
  requireNoPendingStopBeforeStart
  let descriptor ← attempt (request.descriptor .tunnel w.invalidCommand)
  requireOffForAuthorization w
  let authorized ← (authorizeDescriptor w descriptor).catching
  match authorized with
  | .ok () => return ()
  | .error e => do
    cleanUpAuthorization w { owner := .tunnel, commandContext := request.context, descriptor }
    throwing e.map

def confirmTunnelReady (descriptor : ConfigurationDescriptor) : Task NativeRuntimeIdentity := do
  let status ← queryStatus w false
  match status with
  | .tunnel identity => do
    let identity ← attempt (requireReady request
      "Packet Tunnel readiness does not match the exact start request." identity)
    mapping (call w (.completePreferenceMutation descriptor))
    call w .checkCancellation
    return identity
  | _ => throwing (failure .identityRejected
      "Packet Tunnel provider was ready without matching global ownership.")

def providerFailure (snapshot : EngineSnapshot) : Thrown :=
  match snapshot.failure with
  | some reported => failure reported.code reported.message
  | none => failure .identityRejected
      "Packet Tunnel returned a failed state without a typed failure."

def awaitTunnelReady (request : EngineStartRequest) (descriptor : ConfigurationDescriptor) :
    ℕ → Task NativeRuntimeIdentity
  | 0 => throwing (failure .timeout "Packet Tunnel did not provide bounded ready attestation.")
  | n + 1 => do
    let snapshot ← mapping (call w .tunnelSnapshot)
    if snapshot.kind = .tunnelActive then confirmTunnelReady w request descriptor
    else if snapshot.kind = .failed then throwing (providerFailure snapshot)
    else do
      call w .sleep
      awaitTunnelReady request descriptor n

def verifyTunnelStart (descriptor : ConfigurationDescriptor) : Task NativeRuntimeIdentity := do
  call w .checkCancellation
  awaitTunnelReady w request descriptor w.polls

def cleanUpTunnelStart (originalError : Thrown) : Task α := do
  write (Slots.setPendingStartCleanup (some t))
  (reconcilePendingTunnelStartCleanup w false).handle fun e ↦ .error (failure .cleanupUnproven
    ("Tunnel start failed and exact preparation cleanup remains unproven: " ++ e.mapped.message))
  proveFailedStartOff w t
  throwing originalError.map

def runTunnelStart : Task NativeRuntimeIdentity := do
  let started ← (call w (.startTunnel t.descriptor)).catching
  match started with
  | .error e => cleanUpTunnelStart w t e
  | .ok () => do
    let confirmed ← (verifyTunnelStart w request t.descriptor).catching
    match confirmed with
    | .ok identity => return identity
    | .error e => rollbackStartedOwner w t e none

def startTunnel : Task NativeRuntimeIdentity := do
  beginMutation w
  call w .checkCancellation
  requireNoPendingStopBeforeStart
  attempt (require (request.hasTunnelOptions = true) (failure .configurationRejected
    "Tunnel start omits required network options."))
  mapping (call w .ensureRegistered)
  call w .checkCancellation
  mapping (call w .resolveCredentials)
  let descriptor ← attempt (request.descriptor .tunnel w.invalidCommand)
  call w .checkCancellation
  runTunnelStart w request { owner := .tunnel, commandContext := request.context, descriptor }

def resumeTunnelCleanup (t : NativeStopTransaction) : Task Unit := do
  attempt (require (t.owner = .tunnel ∧ t.commandContext = context)
    (failure .identityRejected
      "Tunnel cleanup retry does not match the failed start generation."))
  mapping (reconcilePendingTunnelStartCleanup w false)
  proveFailedStartOff w t
  let acknowledged ← acknowledgeCompletedStartCleanup w .tunnel context
  attempt (require (acknowledged = true) (failure .cleanupUnproven
    "Tunnel failed-start cleanup completed without an exact receipt."))

def stopTunnel : Task Unit := do
  beginMutation w
  let acknowledged ← acknowledgeCompletedStartCleanup w .tunnel context
  if acknowledged then return ()
  else do
    let resumed ← resumePendingFailedStartOff w .tunnel context
    if resumed then return ()
    else do
      let s ← slots
      match s.pendingStartCleanup with
      | some t => resumeTunnelCleanup w context t
      | none => explicitStop w .tunnel context false

def isRetryableInstallationWaitError (e : Thrown) : Prop :=
  e.kind = .cancellation ∨ e.kind = .systemExtensionInstallationTimedOut

instance (e : Thrown) : Decidable (isRetryableInstallationWaitError e) :=
  inferInstanceAs (Decidable (_ ∨ _))

/-- An installation that is still pending is only taken up again by its own generation. -/
def requireInstallable :
    Option NativePendingTunnelInstallation → Except Thrown Unit
  | none => .ok ()
  | some pending => do
    require (pending.context = context) (failure .busy
      "A different System Extension installation generation is still pending.")
    require (pending.state = .retryable) (failure .busy
      "The pending System Extension installation requires exact cancellation before retry.")

def awaitTunnelInstallation : Task SystemExtensionInstallResult := do
  let pending ← read Bridge.pendingTunnelInstallation
  attempt (requireInstallable context pending)
  setInstallation (some ⟨context, .waiting⟩)
  let result ← (call w .installTunnel).catching
  match result with
  | .ok .completed => do
    setInstallation none
    return .completed
  | .ok .awaitingApproval => do
    setInstallation (some ⟨context, .retryable⟩)
    return .awaitingApproval
  | .ok .requiresRestart => do
    setInstallation (some ⟨context, .terminalReceipt⟩)
    return .requiresRestart
  | .error e => do
    setInstallation (some ⟨context,
      if isRetryableInstallationWaitError e then .retryable else .terminalReceipt⟩)
    throwing e

inductive NativeTunnelInstallOutcome
  | ready | awaitingApproval
deriving DecidableEq, Repr

def installTunnel : Task NativeTunnelInstallOutcome := do
  beginMutation w
  call w .checkCancellation
  let result ← mapping do
    let result ← awaitTunnelInstallation w context
    call w .checkCancellation
    return result
  match result with
  | .completed => return .ready
  | .awaitingApproval => return .awaitingApproval
  | .requiresRestart => throwing (failure .unavailable
      "System Extension activation requires a restart before Tunnel can start.")

def cancelTunnelInstall : Task Unit := do
  beginMutation w
  let pending ← read Bridge.pendingTunnelInstallation
  attempt (require (pending.map (·.context) = some context) (failure .identityRejected
    "Tunnel installation cancellation does not match the pending generation."))
  let _ ← (call w .cancelTunnelInstallationWait).catching
  setInstallation none

/-- A preflight towards the tunnel takes up a pending installation, every other one drops it. -/
def prepareInstallation (towardsTunnel : Bool) : Task Unit := do
  let pending ← read Bridge.pendingTunnelInstallation
  match pending with
  | none => return ()
  | some pending => do
    attempt (require (pending.context = context) (failure .busy
      "A different System Extension approval request is still pending."))
    if towardsTunnel then
      attempt (require (pending.state = .retryable) (failure .busy
        "The pending System Extension installation requires exact cancellation before retry."))
    else do
      let _ ← (call w .cancelTunnelInstallationWait).catching
      setInstallation none

def requireOff (code : NativeBridgeErrorCode) (message : String) : Task Unit := do
  let status ← queryStatus w true
  match status with
  | .off => return ()
  | _ => throwing (failure code message)

inductive CutoverPreflightOutcome
  | ready | awaitingApproval
deriving DecidableEq, Repr

def finishPreflight : Task CutoverPreflightOutcome := do
  requireOff w .identityRejected
    "System Extension preparation changed replacement engine ownership."
  return .ready

def preflightCutover (towardsTunnel : Bool) : Task CutoverPreflightOutcome := do
  beginMutation w
  prepareInstallation w context towardsTunnel
  requireOff w .busy "Cutover preflight requires the replacement engine to be globally Off."
  call w .checkConfiguration
  call w .checkConfiguration
  if towardsTunnel then do
    let installed ← mapping (awaitTunnelInstallation w context)
    match installed with
    | .awaitingApproval => return .awaitingApproval
    | .requiresRestart => throwing (failure .unavailable
        "System Extension activation requires a restart before cutover.")
    | .completed => finishPreflight w
  else finishPreflight w

def mutateCredentials : Task Unit := do
  beginMutation w
  mapping (call w .useCredentialVault)

inductive NativeBridgeCommand
  | queryStatus
  | startSystemProxy (request : EngineStartRequest)
  | startLocalProxy (request : EngineStartRequest)
  | stopLocalProxy (context : EngineCommandContext)
  | stopSystemProxy (context : EngineCommandContext)
  | installTunnel (context : EngineCommandContext)
  | cancelTunnelInstall (context : EngineCommandContext)
  | authorizeTunnelConfiguration (request : EngineStartRequest)
  | startTunnel (request : EngineStartRequest)
  | stopTunnel (context : EngineCommandContext)
  | preflightCutover (context : EngineCommandContext) (towardsTunnel : Bool)
  | mutateCredentials

inductive NativeBridgeResult
  | status (status : NativeEngineStatus)
  | runtime (identity : NativeRuntimeIdentity)
  | tunnelInstall (outcome : NativeTunnelInstallOutcome)
  | cutoverPreflight (outcome : CutoverPreflightOutcome)
  | acknowledged

def requiresCurrentServices : NativeBridgeCommand → Bool
  | .startSystemProxy _ | .startLocalProxy _ | .startTunnel _ | .installTunnel _
  | .authorizeTunnelConfiguration _ | .preflightCutover _ _ => true
  | _ => false

def dispatch : NativeBridgeCommand → Task NativeBridgeResult
  | .queryStatus => return .status (← queryStatus w true)
  | .startSystemProxy request => return .runtime (← startSystemProxy w request)
  | .startLocalProxy request => return .runtime (← startLocalProxy w request)
  | .stopLocalProxy context => do
    stopLocalProxy w context
    return .acknowledged
  | .stopSystemProxy context => do
    stopSystemProxy w context
    return .acknowledged
  | .installTunnel context => return .tunnelInstall (← installTunnel w context)
  | .cancelTunnelInstall context => do
    cancelTunnelInstall w context
    return .acknowledged
  | .authorizeTunnelConfiguration request => do
    authorizeTunnelConfiguration w request
    return .acknowledged
  | .startTunnel request => return .runtime (← startTunnel w request)
  | .stopTunnel context => do
    stopTunnel w context
    return .acknowledged
  | .preflightCutover context towardsTunnel =>
    return .cutoverPreflight (← preflightCutover w context towardsTunnel)
  | .mutateCredentials => do
    mutateCredentials w
    return .acknowledged

/-- The check of the running services may itself query the status, which only ends the recovery. -/
def execute (command : NativeBridgeCommand) : Task NativeBridgeResult := do
  call w .checkCancellation
  call w .acquireHostOperationLease
  onlyIf (requiresCurrentServices command) (mapping (call w .requireCurrentServiceBuilds))
  dispatch w command

end CfwRs.NativeBridge
