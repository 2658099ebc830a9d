import CfwRs.Lib.Durable
import CfwRs.MacProxy.Restoration

namespace CfwRs.ProxySession

open Lib Lib.Durable MacProxy

/-- `ProxySessionLifecycleError`. A failed close of libbox is the text that names it. -/
inductive SessionError
  | invalidConfigurationSlot
  | lifecycleConflict
  | startupCancelled
  | staleStopRequest
  | stopWithoutSession
  | recoveryBlocked (detail : String)
  | authorizationRequired
  | engineLease (detail : String)
  | configuration (detail : String)
  | engineCreation (detail : String)
  | engineStart (detail : String)
  | engineStartTimedOut
  | endpointConflict (role : String) (port : UInt16)
  | listenerReadinessTimedOut
  | engineUnclosable (failure : String)
  | engineFailed (code message : String)
  | preferences (detail : String)
  | existingSystemProxy
  | ownershipJournal (detail : String)
  | ownershipConflict (conflicts : List ProxyOwnershipConflict)
  | cleanupFailed (original : String) (cleanup : List String)
  | agentEnding
deriving DecidableEq, Repr

abbrev SessionID := ℕ

/-- A completion handler, by the number of those created before. -/
abbrev Completion := ℕ

structure Session where
  id : SessionID
  configuration : ConfigurationDescriptor
  /-- Whether the session refers to an engine. -/
  engine : Bool
  /-- Whether the session refers to a lease. -/
  lease : Bool
  journal : Option ProxyOwnershipJournal
deriving DecidableEq, Repr

inductive Lifecycle
  | idle
  | starting (id : SessionID)
  | active (id : SessionID)
  | failed (id : SessionID)
  | spent (failure : String)
deriving DecidableEq, Repr

inductive EngineSnapshot
  | off
  | starting (configuration : ConfigurationDescriptor)
  | active (configuration : ConfigurationDescriptor)
  | stopping (configuration : ConfigurationDescriptor)
  | failed (error : SessionError) (configuration : Option ConfigurationDescriptor)
deriving DecidableEq, Repr

inductive LibboxAccess
  | «open»
  | spent
  | retired (failure : String)
deriving DecidableEq, Repr

structure Agent where
  lifecycle : Lifecycle
  session : Option Session
  startCompletion : Option Completion
  currentSnapshot : EngineSnapshot
  sequence : UInt64
  recoveryBlock : Option SessionError
  lastStoppedConfiguration : Option ConfigurationDescriptor
  lastFailedConfiguration : Option ConfigurationDescriptor
  processEndScheduled : Bool
  libboxAccess : LibboxAccess
  /-- The handlers that were not called yet. -/
  handlers : List Completion
deriving DecidableEq, Repr

def Agent.new : Agent where
  lifecycle := .idle
  session := none
  startCompletion := none
  currentSnapshot := .off
  sequence := 0
  recoveryBlock := none
  lastStoppedConfiguration := none
  lastFailedConfiguration := none
  processEndScheduled := false
  libboxAccess := .open
  handlers := []

/-- A release of a lease, with the engines that ran and the journal that was stored then. -/
structure Release where
  running : List SessionID
  journal : Option ProxyOwnershipJournal
deriving DecidableEq, Repr

structure Proxy where
  agent : Agent
  /-- The stored journal. -/
  journal : Option ProxyOwnershipJournal
  /-- The journal of the system settings that were applied and not restored since. -/
  applied : Option ProxyOwnershipJournal
  /-- The sessions whose engine was started and has neither stopped nor failed. -/
  running : List SessionID
  /-- How many leases were given to this process and not released. -/
  leases : ℕ
  nextSession : SessionID
  nextCompletion : Completion
  /-- The calls of completion handlers, the newest first. -/
  calls : List (Completion × Except SessionError Unit)
  releases : List Release

/-- The errors of the preferences that are told apart. -/
inductive PreferencesFault
  | authorizationDenied (detail : String)
  | existingProxyConfiguration (detail : String)
  | other (detail : String)

def PreferencesFault.detail : PreferencesFault → String
  | authorizationDenied detail | existingProxyConfiguration detail | other detail => detail

/-- The errors of an engine's start that are told apart. -/
inductive ProxyEngineError
  | endpointConflict (role : String) (port : UInt16)
  | startTimedOut
  | other (detail : String)

/-- How the dependencies answer while one operation runs on the state queue. A call that throws may
have taken effect where the answer says so; a store operation that throws has none, since each is
one transaction of the Keychain. -/
structure Dependencies where
  requireAuthorization : Except PreferencesFault Unit
  prepareOwnership : Except String Unit
  resolveConfiguration : Except String Unit
  makeEngine : Except String Unit
  startEngine : Except ProxyEngineError Unit
  stopEngine : Except String Unit
  healthCheck : Except String Unit
  prepareJournal : Except PreferencesFault ProxyOwnershipJournal
  apply : Except PreferencesFault Unit
  /-- Whether settings were written by an `apply` that throws. -/
  applies : Bool
  restore : Except String ProxyRestoreResult
  /-- Whether the settings were restored by a `restore` that throws or is incomplete. -/
  restores : Bool
  loadJournal : Except String Unit
  savePrepared : Except String Unit
  saveApplied : Except String Unit
  removeJournal : Except String Unit
  releaseLease : Except String Unit
  recoverCleanupLease : Except String Unit
  describing : SessionError → String
  journalInvalid : String

/-- Whether a journal records the settings that were applied for another one. -/
def records (journal settings : ProxyOwnershipJournal) : Bool :=
  decide (journal = settings) ||
    match settings.markingApplied with
    | .ok marked => decide (journal = marked)
    | .error _ => false

abbrev Work (α : Type) := Durable Proxy SessionError α

section Effects

def onAgent (f : Agent → Agent) : Work Unit := step fun s ↦ { s with agent := f s.agent }

def onSession (f : Session → Session) : Work Unit :=
  onAgent fun a ↦ { a with session := a.session.map f }

def finish (completion : Completion) (result : Except SessionError Unit) : Work Unit :=
  step fun s ↦
    if completion ∈ s.agent.handlers then
      { s with
        agent := { s.agent with handlers := s.agent.handlers.erase completion }
        calls := (completion, result) :: s.calls }
    else s

def finishOptional (completion : Option Completion) (result : Except SessionError Unit) :
    Work Unit :=
  match completion with
  | some completion => finish completion result
  | none => pure ()

def publish (snapshot : EngineSnapshot) : Work Unit :=
  onAgent fun a ↦ { a with currentSnapshot := snapshot, sequence := a.sequence + 1 }

def takeStartCompletion : Work (Option Completion) :=
  exchange fun s ↦ ({ s with agent := { s.agent with startCompletion := none } },
    s.agent.startCompletion)

/-- An effect of a dependency that throws `error` when it answers so. -/
def effect {α : Type} (answer : Except String α) (error : String → SessionError)
    (f : Proxy → Proxy) : Work α :=
  match answer with
  | .ok a => do
    step f
    return a
  | .error detail => attempt (.error (error detail))

end Effects

section Cleanup

variable (deps : Dependencies)

/-- The settings that are still applied after a restore, whose answer is taken as truthful. -/
def settingsAfterRestore (journal : ProxyOwnershipJournal) (applied : Option ProxyOwnershipJournal) :
    Option ProxyOwnershipJournal :=
  let restores :=
    match deps.restore with
    | .ok result => result.isComplete || deps.restores
    | .error _ => deps.restores
  if restores && applied.any (records journal) then none else applied

def restorePreferences (journal : ProxyOwnershipJournal) : Work (Except String ProxyRestoreResult) :=
  exchange fun s ↦ ({ s with applied := settingsAfterRestore deps journal s.applied }, deps.restore)

def removeJournal : Work (List SessionError) :=
  match deps.removeJournal with
  | .ok () => do
    step fun s ↦ { s with journal := none }
    onSession fun session ↦ { session with journal := none }
    return []
  | .error detail => return [.ownershipJournal detail]

def restoreOwnedPreferences : Work (List SessionError) := do
  let session ← read (·.agent.session)
  match session.bind (·.journal) with
  | none => return []
  | some journal => do
    let answer ← restorePreferences deps journal
    match answer with
    | .error detail => return [.preferences detail]
    | .ok result =>
      if result.isComplete then removeJournal deps
      else return [.ownershipConflict result.conflicts]

def acquireCleanupLeaseIfNeeded : Work (List SessionError) := do
  let session ← read (·.agent.session)
  match session with
  | none => return []
  | some session =>
    if session.journal.isSome && !session.lease then
      match deps.recoverCleanupLease with
      | .ok () => do
        step fun s ↦ { s with
          leases := s.leases + 1
          agent := { s.agent with session := s.agent.session.map ({ · with lease := true }) } }
        return []
      | .error detail => return [.recoveryBlocked
          ("Cannot acquire the shared engine lease for proxy cleanup: " ++ detail)]
    else return []

def releaseLeaseIfFullyClean : Work (List SessionError) := do
  let session ← read (·.agent.session)
  match session with
  | none => return []
  | some session =>
    if !session.engine && session.journal.isNone && session.lease then
      match deps.releaseLease with
      | .ok () => do
        step fun s ↦ { s with
          leases := s.leases - 1
          releases := ⟨s.running, s.journal⟩ :: s.releases }
        onSession fun session ↦ { session with lease := false }
        return []
      | .error detail => return [.engineLease detail]
    else return []

def combinedError (original : SessionError) (cleanup : List SessionError) : SessionError :=
  if cleanup.isEmpty then original
  else .cleanupFailed (deps.describing original) (cleanup.map deps.describing)

/-- The engine of the session, when it has one; an answer is the failure that leaves it spent. -/
def stopEngine : Work (Option String) := do
  let session ← read (·.agent.session)
  match session with
  | none => return none
  | some session =>
    if session.engine then
      match deps.stopEngine with
      | .ok () => do
        step fun s ↦ { s with running := s.running.erase session.id }
        onSession fun session ↦ { session with engine := false }
        return none
      | .error failure => return some failure
    else return none

def scheduleProcessEnd : Work Unit := onAgent ({ · with processEndScheduled := true })

def endProcessUnlessSettingsRemain : Work Unit := do
  let session ← read (·.agent.session)
  match session.bind (·.journal) with
  | some _ => return ()
  | none => scheduleProcessEnd

def becomeSpent (failure : String) (configuration : ConfigurationDescriptor)
    (stopCompletion : Option Completion) : Work Unit := do
  onAgent ({ · with
    lifecycle := .spent failure
    libboxAccess := .spent
    lastFailedConfiguration := some configuration })
  publish (.failed (.engineUnclosable failure) (some configuration))
  let pendingStart ← takeStartCompletion
  finishOptional pendingStart (.error (.engineUnclosable failure))
  finishOptional stopCompletion (.error (.engineUnclosable failure))
  endProcessUnlessSettingsRemain

variable (session : Session)

def isClean : Bool := !session.engine && session.journal.isNone && !session.lease

def dropIfClean : Work Unit :=
  onAgent fun a ↦
    if a.session.all isClean then { a with session := none, lifecycle := .idle }
    else { a with lifecycle := .failed session.id }

def finishOwnedSessionFailure (originalError : SessionError) (cleanupErrors : List SessionError) :
    Work Unit := do
  let terminalError := combinedError deps originalError cleanupErrors
  dropIfClean session
  onAgent ({ · with lastFailedConfiguration := some session.configuration })
  publish (.failed terminalError (some session.configuration))
  let completion ← takeStartCompletion
  finishOptional completion (.error terminalError)

def failOwnedSession (originalError : SessionError) : Work Unit := do
  let restoreErrors ← restoreOwnedPreferences deps
  let unclosable ← stopEngine deps
  match unclosable with
  | some failure => becomeSpent failure session.configuration none
  | none => do
    let leaseErrors ← releaseLeaseIfFullyClean deps
    finishOwnedSessionFailure deps session originalError (restoreErrors ++ leaseErrors)

def handleEngineFailure (code message : String) : Work Unit := do
  onSession fun session ↦ { session with engine := false }
  let restoreErrors ← restoreOwnedPreferences deps
  let leaseErrors ← releaseLeaseIfFullyClean deps
  finishOwnedSessionFailure deps session (.engineFailed code message) (restoreErrors ++ leaseErrors)

def endCleanup (owned : Session) (cleanupErrors : List SessionError) : Work Unit := do
  let session ← read (·.agent.session)
  if cleanupErrors.isEmpty && session.all fun s ↦ s.journal.isNone && !s.lease then do
    onAgent ({ · with
      session := none
      lifecycle := .idle
      lastStoppedConfiguration := some owned.configuration
      lastFailedConfiguration := none })
    publish .off
  else do
    onAgent ({ · with
      lifecycle := .failed owned.id
      recoveryBlock := none
      lastFailedConfiguration := some owned.configuration })
    publish (.failed (combinedError deps
      (cleanupErrors.headD (.recoveryBlocked "Unknown ownership recovery error."))
      cleanupErrors.tail) (some owned.configuration))

def restoreUnlessFailed (cleanupErrors : List SessionError) : Work (List SessionError) :=
  if cleanupErrors.isEmpty then restoreOwnedPreferences deps else return cleanupErrors

def cleanUpSessionWithoutEngine (owned : Session) : Work Unit := do
  let acquireErrors ← acquireCleanupLeaseIfNeeded deps
  let restoreErrors ← restoreUnlessFailed deps acquireErrors
  let leaseErrors ← releaseLeaseIfFullyClean deps
  endCleanup deps owned (restoreErrors ++ leaseErrors)

end Cleanup

section Start

variable (deps : Dependencies)

def ConfigurationSlot.isProxyAgent (slot : ConfigurationSlot) : Bool :=
  slot = .localProxy || slot = .systemProxy

def failStartWithoutOwnedSession (error : SessionError) (configuration : ConfigurationDescriptor)
    (completion : Completion) : Work Unit := do
  onAgent ({ · with
    lifecycle := .idle
    startCompletion := none
    lastFailedConfiguration := some configuration })
  publish (.failed error (some configuration))
  finish completion (.error error)

def admitStart (a : Agent) (descriptor : ConfigurationDescriptor) : Except SessionError Unit :=
  if !ConfigurationSlot.isProxyAgent descriptor.slot then .error .invalidConfigurationSlot
  else
    match a.lifecycle, a.recoveryBlock with
    | .spent failure, _ => .error (.engineUnclosable failure)
    | _, some block => .error block
    | _, none => if a.session.isNone then .ok () else .error .lifecycleConflict

def prepareStart (descriptor : ConfigurationDescriptor) : Work Unit := do
  attempt (if descriptor.slot = .systemProxy then
      match deps.requireAuthorization with
      | .ok () => .ok ()
      | .error (.authorizationDenied _) => .error .authorizationRequired
      | .error fault => .error (.preferences fault.detail)
    else .ok ())
  effect deps.prepareOwnership .engineLease fun s ↦ { s with leases := s.leases + 1 }

def startSessionEngine (session : Session) : Work Unit := do
  attempt (deps.resolveConfiguration.mapError .configuration)
  attempt (deps.makeEngine.mapError .engineCreation)
  onSession fun session ↦ { session with engine := true }
  step fun s ↦ { s with running := session.id :: s.running }
  attempt (match deps.startEngine with
    | .ok () => .ok ()
    | .error (.endpointConflict role port) => .error (.endpointConflict role port)
    | .error .startTimedOut => .error .engineStartTimedOut
    | .error (.other detail) => .error (.engineStart detail))

def runStart (descriptor : ConfigurationDescriptor) (completion : Completion) : Work Unit := do
  let id ← exchange fun s ↦ ({ s with
    nextSession := s.nextSession + 1
    agent := { s.agent with
      lifecycle := .starting s.nextSession
      startCompletion := some completion
      lastStoppedConfiguration := none
      lastFailedConfiguration := none } }, s.nextSession)
  publish (.starting descriptor)
  let prepared ← (prepareStart deps descriptor).catching
  match prepared with
  | .error error => failStartWithoutOwnedSession error descriptor completion
  | .ok () => do
    let session : Session := ⟨id, descriptor, false, true, none⟩
    onAgent ({ · with session := some session })
    let started ← (startSessionEngine deps session).catching
    match started with
    | .error error => failOwnedSession deps session error
    | .ok () => return ()

def beginStart (descriptor : ConfigurationDescriptor) (completion : Completion) : Work Unit := do
  let agent ← read (·.agent)
  match admitStart agent descriptor with
  | .error error => finish completion (.error error)
  | .ok () =>
    match agent.libboxAccess with
    | .retired _ => failStartWithoutOwnedSession .agentEnding descriptor completion
    | _ => runStart deps descriptor completion

end Start

section Events

variable (deps : Dependencies)

def completeActivation (session : Session) : Work Unit := do
  onAgent ({ · with lifecycle := .active session.id })
  publish (.active session.configuration)
  let completion ← takeStartCompletion
  finishOptional completion (.ok ())

def preferencesError : PreferencesFault → SessionError
  | .existingProxyConfiguration _ => .existingSystemProxy
  | fault => .preferences fault.detail

/-- The system settings for the listener: journalled, applied and journalled as applied. -/
def applySystemProxy : Work Unit := do
  let prepared ← attempt (deps.prepareJournal.mapError preferencesError)
  effect deps.savePrepared .ownershipJournal fun s ↦ { s with journal := some prepared }
  onSession fun session ↦ { session with journal := some prepared }
  step fun s ↦ { s with
    applied := if deps.apply.isOk || deps.applies then some prepared else s.applied }
  attempt (deps.apply.mapError preferencesError)
  let marked ← attempt (prepared.markingApplied.mapError fun _ ↦ .preferences deps.journalInvalid)
  effect deps.saveApplied .ownershipJournal fun s ↦ { s with journal := some marked }
  onSession fun session ↦ { session with journal := some marked }

def activateSystemProxy (session : Session) : Work Unit := do
  let applied ← (applySystemProxy deps).catching
  match applied with
  | .error error => failOwnedSession deps session error
  | .ok () => completeActivation session

inductive ProxyEngineEvent
  | mixedListenerReady
  | failed (code message : String)

def currentSession (a : Agent) (id : SessionID) : Option Session :=
  match a.lifecycle with
  | .spent _ => none
  | _ => a.session.filter (·.id = id)

def handleEngineEvent (event : ProxyEngineEvent) (id : SessionID) : Work Unit := do
  let agent ← read (·.agent)
  match currentSession agent id, event with
  | none, _ => return ()
  | some session, .mixedListenerReady =>
    if agent.lifecycle = .starting id then
      if session.configuration.slot = .localProxy then completeActivation session
      else activateSystemProxy deps session
    else return ()
  | some session, .failed code message =>
    if session.engine then handleEngineFailure deps session code message else return ()

def readinessTimedOut (id : SessionID) : Work Unit := do
  let agent ← read (·.agent)
  match agent.session.filter (·.id = id) with
  | some session =>
    if agent.lifecycle = .starting id then
      failOwnedSession deps session .listenerReadinessTimedOut
    else return ()
  | none => return ()

def observeHealth : Work Unit := do
  let agent ← read (·.agent)
  match agent.session with
  | some session =>
    if agent.lifecycle = .active session.id && session.engine then
      match deps.healthCheck with
      | .ok () => return ()
      | .error detail =>
        failOwnedSession deps session (.engineStart ("Runtime health check failed: " ++ detail))
    else return ()
  | none => return ()

end Events

section Stop

variable (deps : Dependencies)

def stopWhileSpent (failure : String) (completion : Completion) : Work Unit := do
  let _ ← restoreOwnedPreferences deps
  finish completion (.error (.engineUnclosable failure))
  let session ← read (·.agent.session)
  match session with
  | some _ => endProcessUnlessSettingsRemain
  | none => return ()

def stopWithoutSession (expected : ConfigurationDescriptor) (completion : Completion) :
    Work Unit := do
  let agent ← read (·.agent)
  if some expected = agent.lastStoppedConfiguration ∨
      some expected = agent.lastFailedConfiguration then do
    publish .off
    finish completion (.ok ())
  else finish completion (.error .stopWithoutSession)

def endStop (session : Session) (cleanupErrors : List SessionError) (completion : Completion) :
    Work Unit := do
  let current ← read (·.agent.session)
  if cleanupErrors.isEmpty && current.all isClean then do
    onAgent ({ · with
      session := none
      lifecycle := .idle
      lastStoppedConfiguration := some session.configuration
      lastFailedConfiguration := none })
    publish .off
    finish completion (.ok ())
  else do
    let terminalError := combinedError deps
      (cleanupErrors.headD (.recoveryBlocked "Proxy cleanup remains incomplete."))
      cleanupErrors.tail
    onAgent ({ · with
      lifecycle := .failed session.id
      lastFailedConfiguration := some session.configuration })
    publish (.failed terminalError (some session.configuration))
    finish completion (.error terminalError)

def stopSession (session : Session) (completion : Completion) : Work Unit := do
  onAgent ({ · with lifecycle := .failed session.id })
  publish (.stopping session.configuration)
  let pendingStart ← takeStartCompletion
  finishOptional pendingStart (.error .startupCancelled)
  let acquireErrors ← acquireCleanupLeaseIfNeeded deps
  let restoreErrors ← restoreUnlessFailed deps acquireErrors
  let unclosable ← stopEngine deps
  match unclosable with
  | some failure => becomeSpent failure session.configuration (some completion)
  | none => do
    let leaseErrors ← releaseLeaseIfFullyClean deps
    endStop deps session (restoreErrors ++ leaseErrors) completion

def performStop (expected : ConfigurationDescriptor) (completion : Completion) : Work Unit := do
  let agent ← read (·.agent)
  if ConfigurationSlot.isProxyAgent expected.slot then
    match agent.lifecycle, agent.session with
    | .spent failure, _ => stopWhileSpent deps failure completion
    | _, none => stopWithoutSession expected completion
    | _, some session =>
      if session.configuration = expected then stopSession deps session completion
      else finish completion (.error .staleStopRequest)
  else finish completion (.error .invalidConfigurationSlot)

def restoreSettingsBeforeStop (expected : ConfigurationDescriptor) (completion : Completion) :
    Work Unit := do
  let session ← read (·.agent.session)
  if session.any (·.configuration = expected) then do
    let errors ← restoreOwnedPreferences deps
    match errors.find? fun error ↦ match error with | .preferences _ => true | _ => false with
    | some error => finish completion (.error error)
    | none => finish completion (.ok ())
  else finish completion (.ok ())

def restoreSettingsAfterAuthorization : Work Unit := do
  let agent ← read (·.agent)
  match agent.session with
  | none => return ()
  | some session =>
    if session.journal.isSome then
      match agent.lifecycle with
      | .spent _ => do
        let _ ← restoreOwnedPreferences deps
        endProcessUnlessSettingsRemain
      | .failed id =>
        if id = session.id && !session.engine then cleanUpSessionWithoutEngine deps session
        else return ()
      | _ => return ()
    else return ()

def endProcessIfIdle : Work Unit := do
  let agent ← read (·.agent)
  match agent.session with
  | none => scheduleProcessEnd
  | some _ => return ()

def retire (failure : String) : Work Unit :=
  onAgent fun a ↦
    if a.libboxAccess = .open then { a with libboxAccess := .retired failure } else a

def recoverPersistedOwnership : Work Unit := do
  match deps.loadJournal with
  | .error detail => do
    onAgent ({ · with recoveryBlock := some (.recoveryBlocked detail) })
    publish (.failed (.recoveryBlocked detail) none)
  | .ok () => do
    let stored ← read (·.journal)
    match stored with
    | none => return ()
    | some journal => do
      let id ← exchange fun s ↦ ({ s with nextSession := s.nextSession + 1 }, s.nextSession)
      let session : Session := ⟨id, journal.configuration, false, false, some journal⟩
      onAgent ({ · with session := some session })
      cleanUpSessionWithoutEngine deps session

end Stop

inductive Operation
  | start (descriptor : ConfigurationDescriptor)
  | stop (expected : ConfigurationDescriptor)
  | restoreSettingsBeforeStop (expected : ConfigurationDescriptor)
  | restoreSettingsAfterAuthorization
  | snapshot
  | engineEvent (event : ProxyEngineEvent) (id : SessionID)
  | readinessTimeout (id : SessionID)
  | retire (failure : String)
  | endProcess

def newCompletion : Work Completion :=
  exchange fun s ↦ ({ s with
    nextCompletion := s.nextCompletion + 1
    agent := { s.agent with handlers := s.nextCompletion :: s.agent.handlers } }, s.nextCompletion)

def perform (deps : Dependencies) : Operation → Work Unit
  | .start descriptor => do
    let completion ← newCompletion
    beginStart deps descriptor completion
  | .stop expected => do
    let completion ← newCompletion
    performStop deps expected completion
  | .restoreSettingsBeforeStop expected => do
    let completion ← newCompletion
    restoreSettingsBeforeStop deps expected completion
  | .restoreSettingsAfterAuthorization => restoreSettingsAfterAuthorization deps
  | .snapshot => observeHealth deps
  | .engineEvent event id => do
    -- An engine that reports its failure has ended.
    step fun s ↦ match event with
      | .failed _ _ => { s with running := s.running.erase id }
      | .mixedListenerReady => s
    handleEngineEvent deps event id
  | .readinessTimeout id => readinessTimedOut deps id
  | .retire failure => retire failure
  | .endProcess => endProcessIfIdle

/-- The process has ended, and with it its engine, its lease and its handlers. -/
def Proxy.restarted (s : Proxy) : Proxy := { s with agent := .new, running := [], leases := 0 }

/-- An agent process, before or after its `ProxySessionLifecycle` was initialised. -/
inductive Process
  | launching (s : Proxy)
  | serving (s : Proxy)

/-- What one turn of the state queue can do, or the end of the process in the middle of one. -/
inductive Turn : Process → Process → Prop
  | launch {s} (deps : Dependencies) :
      Turn (.launching s) (.serving ((recoverPersistedOwnership deps).final s))
  | perform {s} (deps : Dependencies) (operation : Operation) :
      Turn (.serving s) (.serving ((ProxySession.perform deps operation).final s))
  | crashLaunching {s t} (deps : Dependencies)
      (hcrash : Crash (recoverPersistedOwnership deps) s t) :
      Turn (.launching s) (.launching t.restarted)
  | crash {s t} (deps : Dependencies) (operation : Operation)
      (hcrash : Crash (ProxySession.perform deps operation) s t) :
      Turn (.serving s) (.launching t.restarted)

def Proxy.start : Proxy where
  agent := .new
  journal := none
  applied := none
  running := []
  leases := 0
  nextSession := 0
  nextCompletion := 0
  calls := []
  releases := []

end CfwRs.ProxySession
