import CfwRs.Coordinator.EngineApi
import CfwRs.Lib.Durable

namespace CfwRs.Coordinator

open Lib Lib.Checked SingBox

inductive BackendCall
  | queryStatus
  | checkConfiguration (request : EngineStartRequest)
  | startLocalProxy (request : EngineStartRequest)
  | stopLocalProxy (context : EngineCommandContext)
  | startSystemProxy (request : EngineStartRequest)
  | stopSystemProxy (context : EngineCommandContext)
  | installTunnel (context : EngineCommandContext)
  | cancelTunnelInstall (context : EngineCommandContext)
  | authorizeTunnelConfiguration (request : EngineStartRequest)
  | startTunnel (request : EngineStartRequest)
  | stopTunnel (context : EngineCommandContext)

namespace BackendCall

def operation : BackendCall → EngineOperation
  | queryStatus => .queryStatus
  | checkConfiguration _ => .checkConfiguration
  | startLocalProxy _ => .startLocalProxy
  | stopLocalProxy _ => .stopLocalProxy
  | startSystemProxy _ => .startSystemProxy
  | stopSystemProxy _ => .stopSystemProxy
  | installTunnel _ => .installTunnel
  | cancelTunnelInstall _ => .cancelTunnelInstall
  | authorizeTunnelConfiguration _ => .authorizeTunnelConfiguration
  | startTunnel _ => .startTunnel
  | stopTunnel _ => .stopTunnel

abbrev Success : BackendCall → Type
  | queryStatus => NativeEngineStatus
  | startLocalProxy _ | startSystemProxy _ | startTunnel _ => RuntimeIdentity
  | installTunnel _ => TunnelInstallOutcome
  | checkConfiguration _ | stopLocalProxy _ | stopSystemProxy _ | cancelTunnelInstall _
  | authorizeTunnelConfiguration _ | stopTunnel _ => Unit

end BackendCall

/-- What the coordinator asks of the world: a call of the native backend, the next generation of
the lineage journal, saved selections for a controller, the commit of a prepared profile change. -/
inductive Request
  | backend (call : BackendCall)
  | reserveNext (expected : UInt64)
  | selectProxies (endpoint : ClashApiEndpoint) (selections : List (String × String))
  | commit

/-- The possible answers. Nothing is the answer of a call that its timeout ended. -/
abbrev Request.Answer : Request → Type
  | backend call => Option (Except BackendError call.Success)
  | reserveNext _ => Except String UInt64
  | selectProxies _ _ => Option (Except String Unit)
  | commit => Except String Unit

structure Exchange where
  request : Request
  answer : request.Answer

inductive StartupReconciliation
  | cleanupKnownLineage | cleanupWithoutLineage
deriving DecidableEq, Repr

/-- What a coordinator runs with. The world answers as it likes, and may look at all that was asked
before (the newest first). Timeouts only occur in messages and stand here as they are printed. -/
structure Environment (Profile : Type) where
  world : List Exchange → (r : Request) → r.Answer
  session : EngineSessionIdentity
  hasGenerationStore : Bool
  operationTimeout : String
  authorizationTimeout : String
  statusQueryTimeout : String
  startupReconciliation : StartupReconciliation
  processSecret : String
  display : EngineCoordinatorError → String
  digest : Profile → String
  proxySelections : Profile → List (String × String)
  routesThroughRemote : Profile → Bool
  project : Profile → String → ProjectionMode → EngineSettings → TunnelStack →
    Except ConfigError ProjectedConfig

inductive NativeLeaseKind
  | localProxy | systemProxy | tunnelInstallation | tunnelRuntime
deriving DecidableEq, Repr

structure NativeLease where
  kind : NativeLeaseKind
  context : EngineCommandContext

/-- The source inputs that the coordinator accepted last. -/
structure EngineRestartSpec (Profile : Type) where
  mode : EngineMode
  profileId : String
  profile : Profile
  settings : EngineSettings
  generation : UInt64
  configDigest : Option String
  runtime : Option RuntimeIdentity

structure CoordinatorState (Profile : Type) where
  runtimePlatform : EngineRuntimePlatform
  snapshot : EngineSnapshot
  nativeLease : Option NativeLease
  quarantine : Option EngineCoordinatorError
  restartSpec : Option (EngineRestartSpec Profile)
  statusRecheck : Option EngineSnapshot
  missedObservations : UInt32

structure ReconciliationFailure where
  error : EngineCoordinatorError
  safelyOff : Bool

/-- The coordinator with the snapshot that it published last and all that it asked of the world.
A failed startup is kept with the number of its attempt, which identifies the offer to retry. -/
structure Actor (Profile : Type) where
  state : CoordinatorState Profile
  published : EngineSnapshot
  history : List Exchange
  startupFailure : Option (ℕ × ReconciliationFailure)
  attempts : ℕ
  closed : Bool

/-- Code of the coordinator. Its steps are what happens between two awaits. -/
abbrev Task (Profile ε α : Type) := Durable (Actor Profile) ε α

variable {Profile ε α : Type}

namespace Actor

def record (x : Exchange) (a : Actor Profile) : Actor Profile :=
  { a with history := x :: a.history }

def update (f : CoordinatorState Profile → CoordinatorState Profile) (a : Actor Profile) :
    Actor Profile := { a with state := f a.state }

def publish (a : Actor Profile) : Actor Profile := { a with published := a.state.snapshot }

/-- Changes the state and publishes its snapshot before anyone else runs. -/
def publishing (f : CoordinatorState Profile → CoordinatorState Profile) (a : Actor Profile) :
    Actor Profile := (a.update f).publish

end Actor

def state : Task Profile ε (CoordinatorState Profile) := Durable.read Actor.state

def update (f : CoordinatorState Profile → CoordinatorState Profile) : Task Profile ε Unit :=
  Durable.step (Actor.update f)

def publishing (f : CoordinatorState Profile → CoordinatorState Profile) : Task Profile ε Unit :=
  Durable.step (Actor.publishing f)

def publish : Task Profile ε Unit := Durable.step Actor.publish

def currentSnapshot : Task Profile ε EngineSnapshot := Durable.read fun a ↦ a.state.snapshot

variable (env : Environment Profile)

def ask (request : Request) : Task Profile ε request.Answer :=
  Durable.exchange fun a ↦
    let answer := env.world a.history request
    (a.record ⟨request, answer⟩, answer)

/-- The result of a call, where a call that was ended counts as timed out. -/
def settled (timeout : String) (call : BackendCall) :
    Option (Except BackendError call.Success) → Except BackendError call.Success
  | some result => result
  | none => .error ⟨.timeout, call.operation.name ++ " exceeded " ++ timeout⟩

def callBackend (timeout : String) (call : BackendCall) :
    Task Profile ε (Except BackendError call.Success) := do
  let answer ← ask env (.backend call)
  return settled timeout call answer

def fail (e : ε) : Task Profile ε α := Durable.attempt (.error e)

namespace CoordinatorState

def off (s : CoordinatorState Profile) : CoordinatorState Profile :=
  { s with
    statusRecheck := none
    missedObservations := 0
    snapshot := { s.snapshot with state := .off, configDigest := none } }

def failed (display : EngineCoordinatorError → String) (target : EngineMode) (generation : UInt64)
    (error : EngineCoordinatorError) (s : CoordinatorState Profile) : CoordinatorState Profile :=
  { s with
    statusRecheck := none
    missedObservations := 0
    snapshot := { s.snapshot with state := .failed generation target (display error) false } }

def unobserved (display : EngineCoordinatorError → String) (target : EngineMode)
    (generation : UInt64) (error : EngineCoordinatorError) (baseline : EngineSnapshot)
    (s : CoordinatorState Profile) : CoordinatorState Profile :=
  { s with
    statusRecheck := some baseline
    snapshot := { s.snapshot with state := .failed generation target (display error) true } }

end CoordinatorState

open CoordinatorState

def setOff : Task Profile ε Unit := publishing off

def setFailed (target : EngineMode) (generation : UInt64) (error : EngineCoordinatorError) :
    Task Profile ε Unit :=
  publishing (failed env.display target generation error)

/-- The state after an unproven cleanup, which only an explicit Off can leave. -/
def CoordinatorState.quarantined (display : EngineCoordinatorError → String) (target : EngineMode)
    (generation : UInt64) (error : EngineCoordinatorError) (s : CoordinatorState Profile) :
    CoordinatorState Profile :=
  failed display target generation error { s with quarantine := some error }

def failWith (target : EngineMode) (generation : UInt64) (error : EngineCoordinatorError) :
    Task Profile EngineCoordinatorError α := do
  setFailed env target generation error
  fail error

def quarantineWith (target : EngineMode) (generation : UInt64) (error : EngineCoordinatorError) :
    Task Profile EngineCoordinatorError α := do
  publishing (quarantined env.display target generation error)
  fail error

section Rules

open Durable

variable {env : Environment Profile} {C : Actor Profile → Prop} {a : Actor Profile}
  {f : CoordinatorState Profile → CoordinatorState Profile} {target : EngineMode}
  {generation : UInt64} {error : EngineCoordinatorError}
variable {Q : Except ε Unit → Actor Profile → Prop}

@[simp] theorem wp_state {Q : Except ε (CoordinatorState Profile) → Actor Profile → Prop} :
    state.wp C Q a ↔ Q (.ok a.state) a := wp_read

theorem wp_state_bind {f}
    {Q : Except ε α → Actor Profile → Prop} : (state >>= f).wp C Q a ↔ (f a.state).wp C Q a :=
  wp_read_bind

@[simp] theorem wp_currentSnapshot {Q : Except ε EngineSnapshot → Actor Profile → Prop} :
    currentSnapshot.wp C Q a ↔ Q (.ok a.state.snapshot) a := wp_read

@[simp] theorem wp_update :
    (update f).wp C Q a ↔ C (a.update f) ∧ Q (.ok ()) (a.update f) := wp_step

@[simp] theorem wp_publishing :
    (publishing f).wp C Q a ↔ C (a.publishing f) ∧ Q (.ok ()) (a.publishing f) := wp_step

@[simp] theorem wp_publish : publish.wp C Q a ↔ C a.publish ∧ Q (.ok ()) a.publish := wp_step

@[simp] theorem wp_fail {e} {Q : Except ε α → Actor Profile → Prop} :
    (fail e).wp C Q a ↔ Q (.error e) a := wp_attempt

theorem wp_ask {request} {Q : Except ε request.Answer → Actor Profile → Prop}
    (h : ∀ answer, C (a.record ⟨request, answer⟩) ∧ Q (.ok answer) (a.record ⟨request, answer⟩)) :
    (ask env request).wp C Q a := wp_exchange.mpr (h _)

theorem wp_callBackend {timeout} {call}
    {Q : Except ε (Except BackendError call.Success) → Actor Profile → Prop}
    (h : ∀ answer, C (a.record ⟨.backend call, answer⟩) ∧
      Q (.ok (settled timeout call answer)) (a.record ⟨.backend call, answer⟩)) :
    (callBackend env timeout call).wp C Q a := by
  refine wp_bind.mpr (wp_ask fun answer ↦ ⟨(h answer).1, ?_⟩)
  exact wp_pure.mpr (h answer).2

@[simp] theorem wp_failWith {Q : Except EngineCoordinatorError α → Actor Profile → Prop} :
    (failWith env target generation error).wp C Q a ↔
      C (a.publishing (failed env.display target generation error)) ∧ Q (.error error)
          (a.publishing (failed env.display target generation error)) := by
  simp [failWith, setFailed]

@[simp] theorem wp_quarantineWith {Q : Except EngineCoordinatorError α → Actor Profile → Prop} :
    (quarantineWith env target generation error).wp C Q a ↔
      C (a.publishing (quarantined env.display target generation error)) ∧ Q (.error error)
          (a.publishing (quarantined env.display target generation error)) := by
  simp [quarantineWith]

end Rules

def requiresExplicitReconciliation (kind : BackendErrorKind) : Bool :=
  kind.retryDirective = .explicitReconciliation || kind.retryDirective = .maintenanceRequired

def pendingTunnelApproval (s : CoordinatorState Profile) (observed : EngineSnapshot) :
    Option EngineCommandContext :=
  if s.snapshot ≠ observed then none
  else match s.snapshot.state, s.nativeLease with
    | .awaitingApproval generation, some ⟨.tunnelInstallation, context⟩ =>
      if context.generation = generation then some context else none
    | _, _ => none

variable (runtime : RuntimeIdentity)

def validateRuntime (expectedOwner : EngineOwner) (expectedContext : EngineCommandContext)
    (expectedDigest : String) : Except EngineCoordinatorError Unit :=
  require (runtime.owner = expectedOwner ∧ runtime.context = expectedContext ∧
      runtime.configDigest = expectedDigest ∧ runtime.ready = true)
    (.runtimeIdentityMismatch expectedOwner expectedContext expectedDigest runtime)

def observationGraceMisses : UInt32 := 3

def expectedRuntime (platform : EngineRuntimePlatform) :
    EngineState → Option (EngineOwner × RuntimeIdentity)
  | .localProxyActive runtime | .proxyActive runtime => some (platform.proxyOwner, runtime)
  | .tunnelActive runtime | .tunnelSystemProxyActive runtime => some (platform.tunnelOwner, runtime)
  | _ => none

def observedRuntime : NativeEngineStatus → EngineMode → Option RuntimeIdentity
  | .localProxy runtime, .localProxy => some runtime
  | .systemProxy runtime, .systemProxy => some runtime
  | .tunnel runtime, .tunnel | .tunnel runtime, .tunnelSystemProxy => some runtime
  | _, _ => none

def nextMiss (missed : UInt32) : UInt32 := if missed = 4294967295 then missed else missed + 1

/-- A status query that failed. A transient failure is published only after some misses. -/
def missObservation (env : Environment Profile) (recovering : Bool) (baseline : EngineSnapshot)
    (source : BackendError) : Task Profile EngineCoordinatorError Unit := do
  let s ← state
  let error := .backend .queryStatus source
  if source.kind.allowsReadOnlyRecheck then
    if !recovering && nextMiss s.missedObservations < observationGraceMisses then
      update fun s ↦ { s with missedObservations := nextMiss s.missedObservations }
      fail error
    else
      publishing fun s ↦ unobserved env.display baseline.state.activeMode
        s.snapshot.generation error baseline
        { s with missedObservations := nextMiss s.missedObservations }
      fail error
  else failWith env baseline.state.activeMode s.snapshot.generation error

/-- What a status query found is compared with the runtime that was attested. -/
def settleObservation (env : Environment Profile) (recovering : Bool) (baseline : EngineSnapshot)
    (owner : EngineOwner) (expected : RuntimeIdentity) (observation : NativeEngineStatus) :
    Task Profile EngineCoordinatorError Unit := do
  -- a native Off proves that the owner is gone, so its lease is retired with it
  update fun s ↦ { s with
    missedObservations := 0
    nativeLease := if observation = .off then none else s.nativeLease }
  let s ← state
  match observedRuntime observation baseline.state.activeMode with
  | none =>
    failWith env baseline.state.activeMode s.snapshot.generation
      (.activeRuntimeStatusMismatch baseline.state.activeMode observation)
  | some runtime =>
    match validateRuntime runtime owner expected.context expected.configDigest with
    | .error error => failWith env baseline.state.activeMode s.snapshot.generation error
    | .ok () =>
      if recovering then
        publishing fun s ↦ { s with snapshot := { s.snapshot with state := baseline.state } }
      else pure ()

def observeRuntime (env : Environment Profile) (recovering : Bool) (baseline : EngineSnapshot) :
    Task Profile EngineCoordinatorError Unit := do
  let s ← state
  match expectedRuntime s.runtimePlatform baseline.state with
  | none => pure ()
  | some (owner, expected) =>
    if recovering && !s.nativeLease.any (·.context = expected.context) then pure ()
    else do
      match ← callBackend env env.statusQueryTimeout .queryStatus with
      | .error source => missObservation env recovering baseline source
      | .ok observation => settleObservation env recovering baseline owner expected observation

def reconcileActiveRuntime (env : Environment Profile) :
    Task Profile EngineCoordinatorError Unit := do
  let s ← state
  update fun s ↦ { s with statusRecheck := none }
  if s.quarantine.isSome then pure ()
  else if s.snapshot.state.isFailed then
    match s.statusRecheck with
    | none => pure ()
    | some previous =>
      if previous.generation ≠ s.snapshot.generation ∨
          previous.desiredMode ≠ s.snapshot.desiredMode ∨
          previous.configDigest ≠ s.snapshot.configDigest then pure ()
      else observeRuntime env true previous
  else observeRuntime env false s.snapshot

/-- Proves the global Off barrier with an observation of its own. Anything but Off is
quarantined. -/
def proveGlobalOff (env : Environment Profile) : Task Profile EngineCoordinatorError Unit := do
  let s ← state
  match ← callBackend env env.operationTimeout .queryStatus with
  | .error source =>
    quarantineWith env s.snapshot.desiredMode s.snapshot.generation (.backend .queryStatus source)
  | .ok .off => pure ()
  | .ok observed =>
    quarantineWith env s.snapshot.desiredMode s.snapshot.generation (.globalOffUnproven observed)

def mismatched :
    Option RecoveredRuntimeMismatch → Except EngineCoordinatorError Unit
  | some mismatch => .error (.recoveredRuntimeMismatch mismatch runtime)
  | none => .ok ()

def validateRecoveredRuntime (mode : EngineMode) (expectedOwner : EngineOwner)
    (session : EngineSessionIdentity) (expectedGeneration : UInt64) :
    Except EngineCoordinatorError Unit :=
  mismatched runtime <|
    if runtime.owner ≠ expectedOwner then some (.owner mode expectedOwner runtime.owner)
    else if runtime.context.installationId ≠ session.installationId then some .installation
    else if runtime.context.configEpoch ≠ session.configEpoch then some .epoch
    else if runtime.context.generation ≠ expectedGeneration then
      some (.generation expectedGeneration runtime.context.generation)
    else if !isLowercaseSha256 runtime.configDigest then some .digest
    else if !runtime.ready then some .notReady
    else none

def validateCleanupRuntime (mode : EngineMode) (expectedOwner : EngineOwner) :
    Except EngineCoordinatorError Unit :=
  mismatched runtime <|
    if runtime.owner ≠ expectedOwner then some (.owner mode expectedOwner runtime.owner)
    else if !isCanonicalUuid runtime.context.installationId then some .invalidInstallation
    else if runtime.context.configEpoch = 0 then some .invalidEpoch
    else if runtime.context.generation = 0 then some .invalidGeneration
    else if !isLowercaseSha256 runtime.configDigest then some .digest
    else if !runtime.ready then some .notReady
    else none

def reserveNextGeneration (env : Environment Profile) :
    Task Profile EngineCoordinatorError UInt64 := do
  let s ← state
  match checkedSucc s.snapshot.generation with
  | none => fail .generationExhausted
  | some expected =>
    if env.hasGenerationStore then
      match ← ask env (.reserveNext s.snapshot.generation) with
      | .error reason => fail (.journal reason)
      | .ok actual =>
        if actual ≠ expected then fail (.journalGenerationMismatch expected actual)
        else return actual
    else return expected

end CfwRs.Coordinator
