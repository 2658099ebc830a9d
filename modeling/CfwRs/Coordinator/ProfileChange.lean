import CfwRs.Coordinator.Transition

namespace CfwRs.Coordinator

open Lib Lib.Checked SingBox

variable {Profile : Type}

namespace EngineRestartSpec

def replaceSavedSelections (spec : EngineRestartSpec Profile) (profile : Profile) :
    EngineRestartSpec Profile := { spec with profile := profile }

def accepted (mode : EngineMode) (profileId : String) (profile : Profile)
    (settings : EngineSettings) (snapshot : EngineSnapshot) : EngineRestartSpec Profile where
  mode := mode
  profileId := profileId
  profile := profile
  settings := settings
  generation := snapshot.generation
  configDigest := snapshot.configDigest
  runtime := snapshot.state.runtime?

def matchesReadySnapshot (spec : EngineRestartSpec Profile) (snapshot : EngineSnapshot) : Bool :=
  snapshot.desiredMode = spec.mode && snapshot.generation = spec.generation &&
    snapshot.configDigest = spec.configDigest &&
    match snapshot.state.runtime? with
    | none => snapshot.state = .off && spec.mode = .off && spec.configDigest = none
    | some runtime =>
      snapshot.state.activeMode = spec.mode && runtime.ready &&
        runtime.owner.supportsMode spec.mode && spec.runtime = some runtime &&
        runtime.context.generation = spec.generation &&
        some runtime.configDigest = spec.configDigest

end EngineRestartSpec

structure ProfileChange (Profile : Type) where
  profileId : String
  profile : Profile
  activate : Bool
  previousProfile : Option (String × Profile)

variable (env : Environment Profile)

def commit : Task Profile EngineCoordinatorError Unit := do
  match ← ask env .commit with
  | .error reason => fail (.profileCommit reason)
  | .ok () => pure ()

def commitInPlace : Task Profile EngineCoordinatorError EngineSnapshot := do
  commit env
  currentSnapshot

def acceptSpec (mode : EngineMode) (profileId : String) (profile : Profile)
    (settings : EngineSettings) : Task Profile EngineCoordinatorError EngineSnapshot := do
  update fun s ↦ { s with
    restartSpec := some (.accepted mode profileId profile settings s.snapshot) }
  currentSnapshot

def readySpec (s : CoordinatorState Profile) :
    Except EngineCoordinatorError (EngineRestartSpec Profile) :=
  unwrap (s.restartSpec.filter (·.matchesReadySnapshot s.snapshot)) (.profilePreparation
    "the current runtime is not ready for an online change; cancel or recover the pending operation first")

def withSavedSelections (prior : EngineRestartSpec Profile) :
    Option (String × Profile) → Except EngineCoordinatorError (EngineRestartSpec Profile)
  | none => .ok prior
  | some (id, profile) => do
    reject (id ≠ prior.profileId ∨ env.digest profile ≠ env.digest prior.profile)
      (.profilePreparation
        "the selected profile differs from the active runtime; no change was applied")
    return prior.replaceSavedSelections profile

def isUnchanged (prior : EngineRestartSpec Profile) (candidate : ProfileChange Profile)
    (settings : EngineSettings) : Bool :=
  prior.profileId = candidate.profileId && env.digest prior.profile = env.digest candidate.profile &&
    env.proxySelections prior.profile = env.proxySelections candidate.profile &&
    prior.settings = settings

/-- After a failed change: restarts the previous specification where cleanup was proven. -/
def restore (previous : EngineRestartSpec Profile) (source : EngineCoordinatorError)
    (candidateStarted : Bool) :
    Task Profile EngineCoordinatorError EngineSnapshot := do
  let s ← state
  if previous.matchesReadySnapshot s.snapshot then fail source
  else if s.quarantine.isSome || (!candidateStarted && s.nativeLease.isSome) then
    fail (.profileChangeRecoveryRequired source)
  else do
    match ← (transition env previous.mode previous.profileId previous.profile
        previous.settings).catching with
    | .error rollback => fail (.profileChangeRollbackFailed source rollback)
    | .ok snapshot =>
      update fun s ↦ { s with restartSpec := some (.accepted previous.mode previous.profileId
        previous.profile previous.settings snapshot) }
      fail (.profileChangeRolledBack source)

/-- Checks the candidate, starts it and commits it; restores the previous runtime on failure. -/
def replaceRuntime (mode : EngineMode) (previous : EngineRestartSpec Profile)
    (candidate : ProfileChange Profile) (settings : EngineSettings) (projectedMode : ProjectionMode) :
    Task Profile EngineCoordinatorError EngineSnapshot := do
  let s ← state
  let projected ← Durable.lifted .invalidConfiguration
    (env.project candidate.profile candidate.profileId projectedMode settings
      s.runtimePlatform.tunnelStack)
  let nextGeneration ← Durable.attempt
    (unwrap (checkedSucc s.snapshot.generation) .generationExhausted)
  let checked ← callBackend env env.operationTimeout (.checkConfiguration
    (startRequest projected settings (.new env.session nextGeneration)))
  Durable.lifted (.backend .checkConfiguration) checked
  match ← (transition env mode candidate.profileId candidate.profile settings).catching with
  | .error error => restore env previous error false
  | .ok _ => do
    match ← (commit env).catching with
    | .error error => restore env previous error true
    | .ok () => acceptSpec mode candidate.profileId candidate.profile settings

def applyOnline (mode : EngineMode) (projectedMode : ProjectionMode) (settings : EngineSettings)
    (candidate : ProfileChange Profile) :
    Task Profile EngineCoordinatorError EngineSnapshot := do
  let s ← state
  Durable.attempt (validateMtu s.runtimePlatform mode settings)
  let prior ← Durable.attempt (readySpec s)
  let previous ← Durable.attempt (withSavedSelections env prior candidate.previousProfile)
  if isUnchanged env previous candidate settings then
    commit env
    acceptSpec mode candidate.profileId candidate.profile settings
  else replaceRuntime env mode previous candidate settings projectedMode

def apply (settings : EngineSettings)
    (prepared : Except EngineCoordinatorError (ProfileChange Profile)) :
    Task Profile EngineCoordinatorError EngineSnapshot := do
  let s ← state
  let candidate ← Durable.attempt prepared
  match s.snapshot.desiredMode.projection? with
  | none => commitInPlace env
  | some projectedMode =>
    if candidate.activate then
      applyOnline env s.snapshot.desiredMode projectedMode settings candidate
    else commitInPlace env

end CfwRs.Coordinator
