import CfwRs.NativeBridge.Status

namespace CfwRs.NativeBridge

open Lib Lib.Checked GlobalAuthority

variable {α : Type}

namespace Slots

def setPendingStop (t : Option NativeStopTransaction) (s : Slots) : Slots :=
  { s with pendingStop := t }

def setPendingStartCleanup (t : Option NativeStopTransaction) (s : Slots) : Slots :=
  { s with pendingStartCleanup := t }

def setPendingFailedStartOff (t : Option NativeStopTransaction) (s : Slots) : Slots :=
  { s with pendingFailedStartOff := t }

def setCompletedStartCleanup (r : Option NativeStartCleanupReceipt) (s : Slots) : Slots :=
  { s with completedStartCleanup := r }

def Clear (s : Slots) : Prop :=
  s.pendingStop.isNone ∧ s.pendingStartCleanup.isNone ∧ s.pendingFailedStartOff.isNone ∧
    s.completedStartCleanup.isNone

instance (s : Slots) : Decidable s.Clear := inferInstanceAs (Decidable (_ ∧ _))

end Slots

def NativeStopTransaction.Same (a b : NativeStopTransaction) : Prop :=
  a.owner = b.owner ∧ a.commandContext = b.commandContext ∧ a.descriptor = b.descriptor

instance (a b : NativeStopTransaction) : Decidable (a.Same b) :=
  inferInstanceAs (Decidable (_ ∧ _))

def requireNoPendingStopBeforeStart : Task Unit := do
  let s ← slots
  Durable.attempt (require s.Clear (failure .cleanupUnproven
    "A prior native stop transaction has not reached the global Off barrier."))

variable (w : World)

def ownerSnapshot : NativeStopOwner → Task EngineSnapshot
  | .localProxy | .systemProxy => call w .proxySnapshot
  | .tunnel => call w .tunnelSnapshot

variable (t : NativeStopTransaction)

def stopOwner : Task Unit :=
  match t.owner with
  | .localProxy | .systemProxy => call w (.proxyStop t.descriptor)
  | .tunnel => call w (.stopTunnel t.descriptor)

def EngineSnapshot.isLaterThan (snapshot : EngineSnapshot) (context : EngineCommandContext) : Bool :=
  snapshot.configuration.any fun configuration ↦
    configuration.installationID = context.installationID ∧
      (context.configEpoch < configuration.epoch ∨
        context.configEpoch = configuration.epoch ∧ context.generation < configuration.generation)

def requireNoPreferenceMutation : Task Unit := do
  let pendingMutation ← mapping (call w .pendingPreferenceMutationConfiguration)
  Durable.attempt (require (pendingMutation = none) (failure .cleanupUnproven
    "A durable Tunnel preference mutation must be recovered before the stop can end."))

def requireOwnerOffAfterSupersededStop (owner : NativeStopOwner) (context : EngineCommandContext) :
    Task Unit := do
  let snapshot ← mapping (ownerSnapshot w owner)
  Durable.attempt (require snapshot.isStableOff
    (if snapshot.isLaterThan context then
      failure .busy "A later start holds the owner of this stop."
    else failure .cleanupUnproven "The owner of a stop the Authority passed is not Off."))
  let s ← slots
  onlyIf (owner = .tunnel ∧ s.pendingStartCleanup.isNone) (requireNoPreferenceMutation w)

/-- The owner is Off already: the stop ends if the Authority passed its generation, or reached Off
at it. -/
def confirmCompletedStop (owner : NativeStopOwner) (context : EngineCommandContext) : Task Unit := do
  let resolution ← call w (.stopResolution context)
  if resolution = .superseded then requireOwnerOffAfterSupersededStop w owner context
  else do
    let recovered ← call w .recoverStoppingLease
    Durable.attempt (require (recovered.all fun r ↦ r.commandContext = context ∧ r.owner = owner)
      (failure .identityRejected
        "The stop request does not match the released owner generation."))
    let status ← queryStatus w true
    match status with
    | .off => do
      let resolution ← call w (.stopResolution context)
      Durable.attempt (require (resolution ≠ .unresolved) (failure .identityRejected
        "The stop request has no matching completed generation."))
    | _ => throwing (completeStopping.cleanupUnproven)

def stopDescriptor (snapshot : EngineSnapshot) (owner : NativeStopOwner) :
    Except Thrown (Option ConfigurationDescriptor) :=
  if snapshot.kind = .failed ∧ snapshot.mode = owner.engineMode ∧
      snapshot.configuration.any (·.slot.engineMode = owner.engineMode) then
    .ok snapshot.configuration
  else activeDescriptor snapshot owner.engineMode

def prepareExplicitStop (owner : NativeStopOwner) (context : EngineCommandContext) : Task Bool := do
  let s ← slots
  match s.pendingStop with
  | some pendingStop => do
    Durable.attempt (require (pendingStop.owner = owner ∧ pendingStop.commandContext = context)
      (failure .identityRejected
        "The stop retry does not match the pending native stop transaction."))
    return true
  | none => do
    let snapshot ← mapping (ownerSnapshot w owner)
    if snapshot.isStableOff then do
      mapping (confirmCompletedStop w owner context)
      return false
    else do
      let descriptor ← Durable.attempt (stopDescriptor snapshot owner)
      let descriptor ← Durable.attempt (unwrap (descriptor.filter (describes · context))
        (failure .identityRejected "The native owner stop does not match the active generation."))
      write (Slots.setPendingStop (some { owner, commandContext := context, descriptor }))
      return true

def orderStop : Task NativeStopAuthorityPhase := do
  let answer ← (call w (.beginStop t.descriptor)).catching
  match answer with
  | .ok context => return .ordered context
  | .error e =>
    match e.kind with
    | .authority .globalAuthorityRecovering => return .released
    | .authority .staleOperation => do
      let resolution ← mapping (call w (.stopResolution t.commandContext))
      Durable.attempt (require (resolution ≠ .unresolved) e.map)
      return .released
    | _ => throwing e.map

def beginPendingStopAtAuthority : Task Unit := do
  let s ← slots
  match s.pendingStop with
  | none => throwing (failure .cleanupUnproven
      "No native stop transaction is available to continue.")
  | some transaction =>
    match transaction.authority with
    | .unordered => do
      let authority ← orderStop w transaction
      write (Slots.setPendingStop (some { transaction with authority }))
    | _ => return ()

def restoreSystemProxySettingsBeforeStop (descriptor : ConfigurationDescriptor) : Task Bool := do
  let inspection ← (call w .inspectServiceBuilds).catching
  match inspection with
  | .ok true => do
    mapping (call w (.restoreSettingsBeforeStop descriptor))
    return true
  | _ => return false

/-- Returns the message of the failure, if there is one. -/
def attemptLocalStopAfterOrderingFailure : Task (Option String) := do
  let s ← slots
  match s.pendingStop with
  | none => return none
  | some transaction =>
    if transaction.ownerStopped then return none
    else do
      let stopped ← (stopOwner w transaction).catching
      match stopped with
      | .ok () => do
        write (Slots.setPendingStop (some { transaction with ownerStopped := true }))
        return none
      | .error e => return some e.mapped.message

/-- Asks the owner to stop. A ProxyAgent without a session, and a tunnel of another generation of
which the Authority holds no lease, have nothing left to stop. -/
def stopPendingOwner : Task Unit := do
  let s ← slots
  match s.pendingStop with
  | none => throwing (failure .cleanupUnproven
      "The native stop transaction disappeared after Authority ordering.")
  | some transaction =>
    if transaction.ownerStopped then return ()
    else do
      (stopOwner w transaction).handle fun e ↦
        if e.kind = .stopWithoutSession ∨ e.kind = .staleStopRequest ∧
            transaction.owner = .tunnel ∧ transaction.authority = .released then .ok ()
        else .error e.map
      write (Slots.setPendingStop (some { transaction with ownerStopped := true }))

def restoreSettingsFirst (restoringSettingsFirst : Bool) : Task Bool := do
  let s ← slots
  match s.pendingStop with
  | none => return false
  | some transaction =>
    if restoringSettingsFirst ∧ transaction.authority = .unordered ∧
        transaction.owner = .systemProxy ∧ transaction.ownerStopped = false then
      restoreSystemProxySettingsBeforeStop w transaction.descriptor
    else return false

def drivePendingStopToOwnerStopped (restoringSettingsFirst : Bool) : Task Unit := do
  let settingsRestored ← restoreSettingsFirst w restoringSettingsFirst
  let ordered ← (beginPendingStopAtAuthority w).catching
  match ordered with
  | .ok () => stopPendingOwner w
  | .error orderingError =>
    if settingsRestored then do
      let localFailure ← attemptLocalStopAfterOrderingFailure w
      match localFailure with
      | none => throwing orderingError.map
      | some message => throwing (failure orderingError.mapped.code
          (orderingError.mapped.message ++ " Local stop also failed: " ++ message))
    else throwing orderingError

def commitStop (context : NativeAuthorityStopContext) : Task NativeStopAuthorityPhase := do
  let answer ← (call w (.completeStop context)).catching
  match answer with
  | .ok () => return .completed context
  | .error e =>
    match e.kind with
    | .authority .globalAuthorityRecovering => return .released
    | .authority _ => do
      let resolution ← mapping (call w (.stopResolution t.commandContext))
      Durable.attempt (require (resolution = .superseded) e.map)
      return .released
    | _ => throwing e.map

def completeAtAuthority : Task NativeStopTransaction :=
  match t.authority with
  | .unordered => throwing (failure .cleanupUnproven
      "The Authority stop context was lost before completion.")
  | .ordered context => do
    let authority ← commitStop w t context
    write (Slots.setPendingStop (some { t with authority }))
    return { t with authority }
  | .completed _ | .released => return t

def supersededStop : Task Bool :=
  if t.authority = .released then do
    let resolution ← mapping (call w (.stopResolution t.commandContext))
    return resolution = .superseded
  else return false

def requireResolvedRelease : Task Unit :=
  if t.authority = .released then do
    let resolution ← mapping (call w (.stopResolution t.commandContext))
    Durable.attempt (require (resolution ≠ .unresolved) (failure .cleanupUnproven
      "The Authority reached Off for another generation than this stop's."))
  else return ()

def completePendingStopAfterOwnerStopped : Task Unit := do
  let s ← slots
  let transaction ← Durable.attempt (unwrap (s.pendingStop.filter (·.ownerStopped))
    (failure .cleanupUnproven "The owner is not proven stopped before Authority completion."))
  let transaction ← completeAtAuthority w transaction
  let superseded ← supersededStop w transaction
  if superseded then do
    requireOwnerOffAfterSupersededStop w transaction.owner transaction.commandContext
    write (Slots.setPendingStop none)
  else do
    let status ← queryStatus w false
    match status with
    | .off => do
      requireResolvedRelease w transaction
      write (Slots.setPendingStop none)
    | _ => throwing (failure .cleanupUnproven
        "The native stop transaction did not reach the global Off barrier.")

def drivePendingStop (restoringSettingsFirst : Bool) : Task Unit := do
  drivePendingStopToOwnerStopped w restoringSettingsFirst
  completePendingStopAfterOwnerStopped w

end CfwRs.NativeBridge
