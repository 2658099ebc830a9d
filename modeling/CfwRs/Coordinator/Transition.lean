import CfwRs.Coordinator.Runtime

namespace CfwRs.Coordinator

open Lib Lib.Checked SingBox

variable {Profile ε α : Type}

def EngineMode.projection? : EngineMode → Option ProjectionMode
  | off => none
  | localProxy => some .localProxy
  | systemProxy => some .systemProxy
  | tunnel => some .tunnel
  | tunnelSystemProxy => some .tunnelSystemProxy

def startRequest (projected : ProjectedConfig) (settings : EngineSettings)
    (context : EngineCommandContext) : EngineStartRequest where
  context := context
  mode := projected.mode
  credentialAudience := projected.credentialAudience
  configJson := projected.json
  configContentDigest := projected.configurationDigest
  configDigest := projected.digest
  credentialSlots := projected.credentialSlots
  tunnelOptions :=
    if projected.mode.hasTunnel then
      some {
        ipv6Enabled := settings.enableIpv6
        bypassPrivateNetworks := settings.bypassPrivateNetworks
        directIpv4Hosts := projected.directIpv4Hosts
        mtu := settings.tunnelMtu
        systemProxyPort :=
          if projected.mode = .tunnelSystemProxy then some settings.mixedPort else none }
    else none

variable (env : Environment Profile)

def restoreProxySelections (profile : Profile) (settings : EngineSettings) :
    Task Profile EngineCoordinatorError Unit :=
  if (env.proxySelections profile).isEmpty then pure ()
  else do
    let endpoint ← Durable.lifted .invalidConfiguration
      (settings.clashApiEndpoint env.processSecret)
    match ← ask env (.selectProxies endpoint (env.proxySelections profile)) with
    | none => fail (.proxySelectionInitialization "controller initialization timed out")
    | some (.error reason) => fail (.proxySelectionInitialization reason)
    | some (.ok ()) => pure ()

def NativeLeaseKind.stopOperation : NativeLeaseKind → EngineOperation
  | localProxy => .stopLocalProxy
  | systemProxy => .stopSystemProxy
  | tunnelInstallation => .cancelTunnelInstall
  | tunnelRuntime => .stopTunnel

variable (lease : NativeLease)

/-- The state that is published before a lease is given up; a pending installation has none. -/
def NativeLease.stopping? : Option EngineState :=
  match lease.kind with
  | .localProxy => some (.localProxyStopping lease.context.generation)
  | .systemProxy => some (.proxyStopping lease.context.generation)
  | .tunnelInstallation => none
  | .tunnelRuntime => some (.tunnelStopping lease.context.generation)

def announceStop : Task Profile ε Unit :=
  match lease.stopping? with
  | some stopping =>
    publishing fun s ↦ { s with snapshot := { s.snapshot with state := stopping } }
  | none => pure ()

def callStop : Task Profile ε (Except BackendError Unit) :=
  match lease.kind with
  | .localProxy => callBackend env env.operationTimeout (.stopLocalProxy lease.context)
  | .systemProxy => callBackend env env.operationTimeout (.stopSystemProxy lease.context)
  | .tunnelInstallation =>
    callBackend env env.operationTimeout (.cancelTunnelInstall lease.context)
  | .tunnelRuntime => callBackend env env.operationTimeout (.stopTunnel lease.context)

def NativeLease.stopCall : BackendCall :=
  match lease.kind with
  | .localProxy => .stopLocalProxy lease.context
  | .systemProxy => .stopSystemProxy lease.context
  | .tunnelInstallation => .cancelTunnelInstall lease.context
  | .tunnelRuntime => .stopTunnel lease.context

theorem wp_callStop {env} {C} {a}
    {lease} {Q : Except ε (Except BackendError Unit) → Actor Profile → Prop}
    (h : ∀ x r, x.request = .backend lease.stopCall → C (a.record x) ∧ Q (.ok r) (a.record x)) :
    (callStop env lease).wp C Q a := by
  rcases lease with ⟨kind, context⟩
  cases kind <;> exact wp_callBackend fun answer ↦ h ⟨_, answer⟩ _ rfl

def stopOwnedRuntime : Task Profile EngineCoordinatorError Unit := do
  let s ← state
  match s.nativeLease with
  | none => pure ()
  | some lease => do
    announceStop lease
    match ← callStop env lease with
    | .error source =>
      let error := .backend lease.kind.stopOperation source
      -- a cleanup that cannot be proven keeps the lease and is quarantined
      if requiresExplicitReconciliation source.kind then
        quarantineWith env s.snapshot.desiredMode s.snapshot.generation error
      else failWith env s.snapshot.desiredMode s.snapshot.generation error
    | .ok () => update fun s ↦ { s with nativeLease := none }

def endpointConflict (operation : EngineOperation) (kind : BackendErrorKind)
    (target : EngineMode) : Bool :=
  (operation = .startLocalProxy || operation = .startSystemProxy || operation = .startTunnel) &&
    (kind = .mixedEndpointInUse || kind = .controllerEndpointInUse) &&
    (kind ≠ .mixedEndpointInUse ||
      (target = .localProxy || target = .systemProxy || target = .tunnelSystemProxy))

/-- A start that failed: stops what may have been started, proves Off and reports the failure. -/
def failBackend (operation : EngineOperation) (source : BackendError) :
    Task Profile EngineCoordinatorError α := do
  let s ← state
  let target := s.snapshot.desiredMode
  let generation := s.snapshot.generation
  if requiresExplicitReconciliation source.kind then
    quarantineWith env target generation (.backend operation source)
  else do
    match ← (stopOwnedRuntime env).catching with
    | .error (.backend cleanupOperation cleanupError) =>
      failWith env target generation
        (.startAndCleanupFailed operation source cleanupOperation cleanupError)
    | .error unexpected => failWith env target generation unexpected
    | .ok () => do
      match ← (proveGlobalOff env).catching with
      | .error proofError =>
        failWith env target generation (.startAndOffProofFailed operation source proofError)
      | .ok () =>
        if endpointConflict operation source.kind target then
          setOff
          fail (.startEndpointConflictAfterOff operation source.kind)
        else if operation = .startTunnel && source.kind = .ticketExpired then
          setOff
          fail .startTicketExpiredAfterOff
        else failWith env target generation (.backend operation source)

def failIdentity (error : EngineCoordinatorError) : Task Profile EngineCoordinatorError α := do
  let s ← state
  let target := s.snapshot.desiredMode
  let generation := s.snapshot.generation
  match ← (stopOwnedRuntime env).catching with
  | .error (.backend cleanupOperation cleanupError) =>
    failWith env target generation
      (.validationAndCleanupFailed error cleanupOperation cleanupError)
  | .error unexpected => failWith env target generation unexpected
  | .ok () => do
    match ← (proveGlobalOff env).catching with
    | .error proofError =>
      failWith env target generation (.validationAndOffProofFailed error proofError)
    | .ok () => failWith env target generation error

def acquire (kind : NativeLeaseKind) (starting : EngineState) (request : EngineStartRequest) :
    Task Profile ε Unit :=
  publishing fun s ↦ { s with
    nativeLease := some ⟨kind, request.context⟩
    snapshot := { s.snapshot with state := starting, configDigest := some request.configDigest } }

def enter (entered : EngineState) : Task Profile ε Unit :=
  update fun s ↦ { s with snapshot := { s.snapshot with state := entered } }

def adopt (owner : EngineOwner) (request : EngineStartRequest)
    (active : RuntimeIdentity → EngineState) (runtime : RuntimeIdentity) :
    Task Profile EngineCoordinatorError Unit :=
  match validateRuntime runtime owner request.context request.configDigest with
  | .error error => failIdentity env error
  | .ok () => enter (active runtime)

def callStart (localOnly : Bool) (request : EngineStartRequest) :
    Task Profile ε (Except BackendError RuntimeIdentity) :=
  if localOnly then callBackend env env.operationTimeout (.startLocalProxy request)
  else callBackend env env.operationTimeout (.startSystemProxy request)

def startProxy (localOnly : Bool) (request : EngineStartRequest) :
    Task Profile EngineCoordinatorError Bool := do
  let s ← state
  let generation := request.context.generation
  acquire (if localOnly then .localProxy else .systemProxy)
    (if localOnly then .localProxyStarting generation else .proxyStarting generation) request
  match ← callStart env localOnly request with
  | .error source =>
    failBackend env (if localOnly then .startLocalProxy else .startSystemProxy) source
  | .ok runtime =>
    adopt env s.runtimePlatform.proxyOwner request
      (if localOnly then .localProxyActive else .proxyActive) runtime
    return true

def startInstalledTunnel (active : RuntimeIdentity → EngineState) (request : EngineStartRequest) :
    Task Profile EngineCoordinatorError Bool := do
  let s ← state
  let generation := request.context.generation
  publishing fun s ↦ { s with
    nativeLease := some ⟨.tunnelRuntime, request.context⟩
    snapshot := { s.snapshot with
      state := if s.runtimePlatform.tunnelAuthorizationAwaitsConsent
        then .awaitingApproval generation else .tunnelStarting generation } }
  match ← callBackend env env.authorizationTimeout (.authorizeTunnelConfiguration request) with
  | .error source => failBackend env .authorizeTunnelConfiguration source
  | .ok () =>
    publishing fun s ↦ { s with
      snapshot := { s.snapshot with state := .tunnelStarting generation } }
    match ← callBackend env env.operationTimeout (.startTunnel request) with
    | .error source => failBackend env .startTunnel source
    | .ok runtime =>
      adopt env s.runtimePlatform.tunnelOwner request active runtime
      return true

def startTunnel (active : RuntimeIdentity → EngineState) (request : EngineStartRequest) :
    Task Profile EngineCoordinatorError Bool := do
  let generation := request.context.generation
  acquire .tunnelInstallation (.tunnelInstalling generation) request
  match ← callBackend env env.operationTimeout (.installTunnel request.context) with
  | .error source => failBackend env .installTunnel source
  | .ok .awaitingApproval =>
    publishing fun s ↦ { s with
      snapshot := { s.snapshot with state := .awaitingApproval generation } }
    return false
  | .ok .ready => startInstalledTunnel env active request

/-- The native start of a mode; `false` when it still waits for an approval. -/
def startNative (mode : ProjectionMode) (request : EngineStartRequest) :
    Task Profile EngineCoordinatorError Bool :=
  match mode with
  | .localProxy => startProxy env true request
  | .systemProxy => startProxy env false request
  | .tunnel => startTunnel env .tunnelActive request
  | .tunnelSystemProxy => startTunnel env .tunnelSystemProxyActive request

def finishStart (profile : Profile) (settings : EngineSettings) :
    Task Profile EngineCoordinatorError EngineSnapshot := do
  match ← (restoreProxySelections env profile settings).catching with
  | .error error => failIdentity env error
  | .ok () =>
    publish
    currentSnapshot

def proveIf (required : Bool) : Task Profile EngineCoordinatorError Unit :=
  if required then proveGlobalOff env else pure ()

/-- Stops what runs, proves Off and only then starts the projected configuration with a new
generation. -/
def switchRuntime (target : EngineMode) (mode : ProjectionMode) (projected : ProjectedConfig)
    (profile : Profile) (settings : EngineSettings) :
    Task Profile EngineCoordinatorError EngineSnapshot := do
  update fun s ↦ { s with snapshot := { s.snapshot with desiredMode := target } }
  let s ← state
  stopOwnedRuntime env
  proveIf env s.nativeLease.isSome
  setOff
  let generation ← reserveNextGeneration env
  update fun s ↦ { s with snapshot := { s.snapshot with generation := generation } }
  let started ← startNative env mode
    (startRequest projected settings (.new env.session generation))
  if started then finishStart env profile settings else currentSnapshot

def keepRuntime (target : EngineMode) : Task Profile EngineCoordinatorError EngineSnapshot := do
  reconcileActiveRuntime env
  publishing fun s ↦ { s with snapshot := { s.snapshot with desiredMode := target } }
  currentSnapshot

def isSameActiveRuntime (snapshot : EngineSnapshot) (target : EngineMode) (digest : String) :
    Bool :=
  match snapshot.state.runtime? with
  | some runtime =>
    target = snapshot.state.activeMode && runtime.configDigest = digest && runtime.ready
  | none => false

def validateMtu (platform : EngineRuntimePlatform) (target : EngineMode)
    (settings : EngineSettings) : Except EngineCoordinatorError Unit :=
  if target.tunnelEnabled then
    (platform.tunnelMtuLimits.validate settings.tunnelMtu).mapError .invalidTunnelMtu
  else .ok ()

def transitionToOff : Task Profile EngineCoordinatorError EngineSnapshot := do
  let s ← state
  update fun s ↦ { s with snapshot := { s.snapshot with desiredMode := .off } }
  stopOwnedRuntime env
  proveIf env (s.nativeLease.isSome || s.quarantine.isSome)
  publishing fun s ↦ CoordinatorState.off { s with quarantine := none }
  if s.nativeLease.isNone && s.quarantine.isNone && s.snapshot.state = .off then currentSnapshot
  else
    let generation ← reserveNextGeneration env
    publishing fun s ↦ { s with snapshot := { s.snapshot with generation := generation } }
    currentSnapshot

def transition (target : EngineMode) (profileId : String) (profile : Profile)
    (settings : EngineSettings) : Task Profile EngineCoordinatorError EngineSnapshot :=
  match target.projection? with
  | none => transitionToOff env
  | some mode => do
    let s ← state
    match s.quarantine with
    | some quarantine => fail quarantine
    | none =>
      Durable.attempt (validateMtu s.runtimePlatform target settings)
      let projected ← Durable.lifted .invalidConfiguration
        (env.project profile profileId mode settings s.runtimePlatform.tunnelStack)
      if isSameActiveRuntime s.snapshot target projected.digest then keepRuntime env target
      else switchRuntime env target mode projected profile settings

end CfwRs.Coordinator
