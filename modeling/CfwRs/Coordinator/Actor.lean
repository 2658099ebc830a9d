import CfwRs.Coordinator.ProfileChange
import CfwRs.Lib.History

namespace CfwRs.Coordinator

open Lib Lib.Checked SingBox

variable {Profile : Type}

/-- A failed status query that may be repeated at an explicit command. -/
def ReconciliationFailure.allowsExplicitRetry (failure : ReconciliationFailure) : Bool :=
  match failure.error with
  | .backend .queryStatus source =>
    source.kind.allowsReadOnlyRecheck || source.kind.retryDirective = .registrationStatusChange
  | _ => false

def isCleanupUnprovenQuery : EngineCoordinatorError → Bool
  | .backend .queryStatus source => source.kind = .cleanupUnproven
  | _ => false

def isFailedOff : EngineState → Bool
  | .failed _ .off _ _ => true
  | _ => false

def ReconciliationFailure.allowsServiceReconciliation (failure : ReconciliationFailure)
    (s : CoordinatorState Profile) (policy : StartupReconciliation) : Bool :=
  policy = .cleanupKnownLineage && !failure.safelyOff && s.snapshot.desiredMode = .off &&
    isFailedOff s.snapshot.state && s.nativeLease.isNone && s.quarantine.isNone &&
    (isCleanupUnprovenQuery failure.error || failure.allowsExplicitRetry)

structure RecoveredRuntimeKind where
  mode : EngineMode
  owner : EngineOwner
  leaseKind : NativeLeaseKind

def CoordinatorState.recovered (kind : RecoveredRuntimeKind) (runtime : RuntimeIdentity)
    (s : CoordinatorState Profile) : CoordinatorState Profile :=
  { s with
    nativeLease := some ⟨kind.leaseKind, runtime.context⟩
    snapshot := { s.snapshot with
      desiredMode := .off
      generation := runtime.context.generation
      configDigest := some runtime.configDigest } }

def CoordinatorState.settledOff (s : CoordinatorState Profile) : CoordinatorState Profile :=
  CoordinatorState.off { s with snapshot := { s.snapshot with desiredMode := .off } }

variable (env : Environment Profile)

def failStartup (kind : RecoveredRuntimeKind) (runtime : RuntimeIdentity)
    (failure : ReconciliationFailure) :
    Task Profile ReconciliationFailure Unit := do
  setFailed env kind.mode runtime.context.generation failure.error
  fail failure

/-- Stops a runtime that was found at startup and proves Off, whether or not it was expected. -/
def cleanupRuntime (kind : RecoveredRuntimeKind) (runtime : RuntimeIdentity)
    (validation : Except EngineCoordinatorError Unit) :
    Task Profile ReconciliationFailure Unit := do
  update (CoordinatorState.recovered kind runtime)
  match ← (stopOwnedRuntime env).catching with
  | .error cleanup =>
    match validation, cleanup with
    | .error validationError, .backend operation source =>
      failStartup env kind runtime
        ⟨.validationAndCleanupFailed validationError operation source, false⟩
    | _, error => failStartup env kind runtime ⟨error, false⟩
  | .ok () => do
    match ← (proveGlobalOff env).catching with
    | .ok () =>
      match validation with
      | .ok () => setOff
      | .error error => failStartup env kind runtime ⟨error, true⟩
    | .error proofError =>
      match validation with
      | .ok () => fail ⟨proofError, false⟩
      | .error validationError =>
        failStartup env kind runtime
          ⟨.validationAndOffProofFailed validationError proofError, false⟩

def cleanupRuntimeWithoutLineage (kind : RecoveredRuntimeKind) (runtime : RuntimeIdentity) :
    Task Profile ReconciliationFailure Unit :=
  cleanupRuntime env kind runtime (validateCleanupRuntime runtime kind.mode kind.owner)

def cleanupRecoveredRuntime (expectedGeneration : UInt64) (kind : RecoveredRuntimeKind)
    (runtime : RuntimeIdentity) : Task Profile ReconciliationFailure Unit :=
  cleanupRuntime env kind runtime
    (validateRecoveredRuntime runtime kind.mode kind.owner env.session expectedGeneration)

def cleanupObserved (expectedGeneration : UInt64) (kind : RecoveredRuntimeKind)
    (runtime : RuntimeIdentity) : Task Profile ReconciliationFailure Unit :=
  match env.startupReconciliation with
  | .cleanupWithoutLineage => cleanupRuntimeWithoutLineage env kind runtime
  | .cleanupKnownLineage => cleanupRecoveredRuntime env expectedGeneration kind runtime

def reconcileInitialState : Task Profile ReconciliationFailure Unit := do
  let s ← state
  let platform := s.runtimePlatform
  match ← callBackend env env.operationTimeout .queryStatus with
  | .error source =>
    setFailed env .off s.snapshot.generation (.backend .queryStatus source)
    fail ⟨.backend .queryStatus source, false⟩
  | .ok .off => publishing CoordinatorState.settledOff
  | .ok (.localProxy runtime) =>
    cleanupObserved env s.snapshot.generation ⟨.localProxy, platform.proxyOwner, .localProxy⟩
      runtime
  | .ok (.systemProxy runtime) =>
    cleanupObserved env s.snapshot.generation ⟨.systemProxy, platform.proxyOwner, .systemProxy⟩
      runtime
  | .ok (.tunnel runtime) =>
    cleanupObserved env s.snapshot.generation ⟨.tunnel, platform.tunnelOwner, .tunnelRuntime⟩
      runtime

def sameReferences (l r : List CredentialSlot) : Bool :=
  l.all (fun slot ↦ (r.map CredentialSlot.reference).contains slot.reference) &&
    r.all (fun slot ↦ (l.map CredentialSlot.reference).contains slot.reference)

def CutoverPreflightRequest.new (target : EngineMode) (systemProxy tunnel : EngineStartRequest) :
    Except CutoverPreflightRequestError CutoverPreflightRequest := do
  require (target = .systemProxy ∨ target = .tunnel) .activeTargetRequired
  reject (systemProxy.mode ≠ .systemProxy ∨ tunnel.mode ≠ .tunnel ∨
    systemProxy.tunnelOptions.isSome ∨ tunnel.tunnelOptions.isNone) .projectionModeMismatch
  reject (systemProxy.context ≠ tunnel.context ∨ systemProxy.context.configEpoch = 0 ∨
    systemProxy.context.generation = 0) .invalidContext
  reject (systemProxy.credentialAudience ≠ tunnel.credentialAudience) .credentialAudienceMismatch
  require (sameReferences systemProxy.credentialSlots tunnel.credentialSlots)
    .credentialReferenceMismatch
  return ⟨target, systemProxy, tunnel⟩

def prepareCutoverRequest (s : CoordinatorState Profile) (target : EngineMode) (profileId : String)
    (profile : Profile) (settings : EngineSettings) :
    Except EngineCoordinatorError CutoverPreflightRequest := do
  reject (target = .off) (.invalidCutoverPreparation .activeTargetRequired)
  reject (s.snapshot.desiredMode ≠ .off ∨ s.snapshot.state ≠ .off ∨ s.nativeLease.isSome)
    .cutoverRequiresOff
  require (env.routesThroughRemote profile) .cutoverRequiresRemoteOutbound
  (s.runtimePlatform.tunnelMtuLimits.validate settings.tunnelMtu).mapError .invalidTunnelMtu
  let generation ← unwrap (checkedSucc s.snapshot.generation) .generationExhausted
  let context := .new env.session generation
  let stack := s.runtimePlatform.tunnelStack
  let systemProxy ← (env.project profile profileId .systemProxy settings stack).mapError
    .invalidConfiguration
  let tunnel ← (env.project profile profileId .tunnel settings stack).mapError
    .invalidConfiguration
  (CutoverPreflightRequest.new target (startRequest systemProxy settings context)
    (startRequest tunnel settings context)).mapError .invalidCutoverPreparation

inductive Command (Profile : Type)
  | reconcileStartup (expectedFailure : Option ℕ)
  | setMode (target : EngineMode) (profileId : String) (profile : Profile)
      (settings : EngineSettings) (expectedSnapshot : Option EngineSnapshot)
  | changeProfile (settings : EngineSettings)
      (prepared : Except EngineCoordinatorError (ProfileChange Profile))
  | prepareCutover (target : EngineMode) (profileId : String) (profile : Profile)
      (settings : EngineSettings)
  | restartSpec
  | pendingTunnelApproval (observed : EngineSnapshot)
  | quarantineReleaseEvidenceRestore
  | shutdown

inductive Reply (Profile : Type)
  | snapshot (result : Except EngineCoordinatorError EngineSnapshot)
  | cutover (result : Except EngineCoordinatorError CutoverPreflightRequest)
  | restartSpec (spec : Option (EngineRestartSpec Profile))
  | pendingTunnelApproval (context : Option EngineCommandContext)

/-- Reconciles with the native side and remembers how that ended. -/
def startup : Task Profile Empty Unit := do
  match ← (reconcileInitialState env).catching with
  | .ok () => Durable.step fun a ↦ { a with startupFailure := none }
  | .error failure =>
    Durable.step fun a ↦ { a with
      startupFailure := some (a.attempts, failure)
      attempts := a.attempts + 1 }

def close : Task Profile Empty Unit := Durable.step fun a ↦ { a with closed := true }

def Command.leavesStartup : Command Profile → Bool
  | restartSpec | shutdown => true
  | _ => false

def retryStartup (command : Command Profile) : Task Profile Empty Unit := do
  let failure ← Durable.read Actor.startupFailure
  if !command.leavesStartup && failure.any (·.2.allowsExplicitRetry) then startup env else pure ()

def isQueryStatusFailure : EngineCoordinatorError → Bool
  | .backend .queryStatus _ => true
  | _ => false

def settleOff : Task Profile Empty (Reply Profile) := do
  publishing CoordinatorState.settledOff
  return .snapshot (.ok (← currentSnapshot))

def serveFailed (failure : ReconciliationFailure) (command : Command Profile) :
    Task Profile Empty (Reply Profile) := do
  let s ← state
  match command with
  | .setMode target _ _ _ _ =>
    if target = .off && failure.safelyOff then settleOff
    else return .snapshot (.error failure.error)
  | .prepareCutover _ _ _ _ => return .cutover (.error failure.error)
  | .restartSpec => return .restartSpec s.restartSpec
  | .pendingTunnelApproval observed =>
    return .pendingTunnelApproval (Coordinator.pendingTunnelApproval s observed)
  | .shutdown =>
    if failure.safelyOff || (s.nativeLease.isNone && s.quarantine.isNone &&
        isQueryStatusFailure failure.error) then
      let reply ← settleOff
      close
      return reply
    else return .snapshot (.error failure.error)
  | .reconcileStartup _ | .changeProfile _ _ | .quarantineReleaseEvidenceRestore =>
    return .snapshot (.error failure.error)

def setMode (target : EngineMode) (profileId : String) (profile : Profile)
    (settings : EngineSettings) (expected : Option EngineSnapshot) :
    Task Profile EngineCoordinatorError EngineSnapshot := do
  let s ← state
  if expected.any (· ≠ s.snapshot) then fail .snapshotPreconditionChanged
  else
    let snapshot ← transition env target profileId profile settings
    update fun s ↦ { s with
      restartSpec := some (.accepted target profileId profile settings snapshot) }
    return snapshot

def quarantineReleaseEvidenceRestore : Task Profile Empty (Reply Profile) := do
  let s ← state
  let error := s.quarantine.getD .releaseEvidenceRestoreUnproven
  publishing fun s ↦ CoordinatorState.failed env.display s.snapshot.desiredMode
    s.snapshot.generation error { s with quarantine := some error }
  return .snapshot (.ok (← currentSnapshot))

def shutdown : Task Profile Empty (Reply Profile) := do
  let result ← (transitionToOff env).catching
  let s ← state
  if s.nativeLease.isNone && s.snapshot.state = .off then
    close
    return .snapshot result
  else return .snapshot result

def serveReady (command : Command Profile) : Task Profile Empty (Reply Profile) :=
  match command with
  | .reconcileStartup _ => return .snapshot (.error .snapshotPreconditionChanged)
  | .setMode target profileId profile settings expected => do
    return .snapshot (← (setMode env target profileId profile settings expected).catching)
  | .changeProfile settings prepared => do
    return .snapshot (← (apply env settings prepared).catching)
  | .prepareCutover target profileId profile settings => do
    return .cutover (prepareCutoverRequest env (← state) target profileId profile settings)
  | .restartSpec => do return .restartSpec (← state).restartSpec
  | .pendingTunnelApproval observed => do
    return .pendingTunnelApproval (Coordinator.pendingTunnelApproval (← state) observed)
  | .quarantineReleaseEvidenceRestore => quarantineReleaseEvidenceRestore env
  | .shutdown => shutdown env

def reconcileStartup (expected : Option ℕ) : Task Profile Empty (Reply Profile) := do
  let a ← Durable.read id
  match a.startupFailure with
  | none => return .snapshot (.error .snapshotPreconditionChanged)
  | some (offer, failure) =>
    if expected = some offer &&
        failure.allowsServiceReconciliation a.state env.startupReconciliation then
      startup env
      match ← Durable.read Actor.startupFailure with
      | none => return .snapshot (.ok (← currentSnapshot))
      | some (_, failure) => return .snapshot (.error failure.error)
    else return .snapshot (.error failure.error)

def serveCommand (command : Command Profile) : Task Profile Empty (Reply Profile) :=
  match command with
  | .reconcileStartup expected => reconcileStartup env expected
  | command => do
    retryStartup env command
    match ← Durable.read Actor.startupFailure with
    | some (_, failure) => serveFailed failure command
    | none => serveReady env command

def poll : Task Profile Empty Unit := do
  match ← Durable.read Actor.startupFailure with
  | some _ => pure ()
  | none => do
    let _ ← (reconcileActiveRuntime env).catching
    pure ()

def hangUp : Task Profile Empty Unit := do
  match ← Durable.read Actor.startupFailure with
  | some _ => close
  | none => do
    match ← (transitionToOff env).catching with
    | .ok _ => close
    | .error error => do
      setFailed env .off (← state).snapshot.generation error
      close

inductive Input (Profile : Type)
  | command (command : Command Profile)
  | tick
  | hangup

def serve : Input Profile → Task Profile Empty Unit
  | .command command => do
    let _ ← serveCommand env command
    pure ()
  | .tick => poll env
  | .hangup => hangUp env

def initialSnapshot (generation : UInt64) : EngineSnapshot where
  desiredMode := .off
  state := .failed generation .off "native startup reconciliation is pending" false
  generation := generation
  configDigest := none

def initial (platform : EngineRuntimePlatform) (generation : UInt64) : Actor Profile where
  state := {
    runtimePlatform := platform
    snapshot := initialSnapshot generation
    nativeLease := none
    quarantine := none
    restartSpec := none
    statusRecheck := none
    missedObservations := 0 }
  published := initialSnapshot generation
  history := []
  startupFailure := none
  attempts := 0
  closed := false

def Input.repeatsStartup (i : Input Profile) (policy : StartupReconciliation)
    (a : Actor Profile) : Bool :=
  match i, a.startupFailure with
  | .command (.reconcileStartup expected), some (offer, failure) =>
    expected = some offer && failure.allowsServiceReconciliation a.state policy
  | .command c, some (_, failure) => !c.leavesStartup && failure.allowsExplicitRetry
  | _, _ => false

def Started (platform : EngineRuntimePlatform) (generation : UInt64) (a : Actor Profile) : Prop :=
  a = (startup env).final (initial platform generation)

def Step (a : Actor Profile) (i : Input Profile) (a' : Actor Profile) : Prop :=
  a.closed = false ∧ a' = (serve env i).final a

variable (platform : EngineRuntimePlatform) (generation : UInt64)

/-- The states that a coordinator comes to, those at which it awaits an answer included, as long
as its inputs are `allowed`. -/
inductive ReachedBy (allowed : Actor Profile → Input Profile → Prop) : Actor Profile → Prop
  | startup {a} :
      Durable.Crash (startup env) (initial platform generation) a → ReachedBy allowed a
  | serving {t s a} (i : Input Profile) :
      History.Run (Started env platform generation)
        (fun a i a' ↦ allowed a i ∧ Step env a i a') t s →
      s.closed = false → allowed s i → Durable.Crash (serve env i) s a → ReachedBy allowed a

def Reached (a : Actor Profile) : Prop := ReachedBy env platform generation (fun _ _ ↦ True) a

end CfwRs.Coordinator
