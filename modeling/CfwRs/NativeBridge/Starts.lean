import CfwRs.NativeBridge.Stops

namespace CfwRs.NativeBridge

open Lib Lib.Checked GlobalAuthority Durable

variable {α : Type} (w : World)

def requireFailedStartGlobalOff (context : String) : Task Unit := do
  let status ← (queryStatus w false).handle fun e ↦
    .error (failure .cleanupUnproven (context ++ " Observation failed: " ++ e.mapped.message))
  match status with
  | .off => return ()
  | _ => throwing (failure .cleanupUnproven context)

variable (t : NativeStopTransaction)

def rememberCompletedStartCleanup : Task Unit :=
  write (Slots.setCompletedStartCleanup (some ⟨t.owner, t.commandContext, t.descriptor⟩))

def acknowledgeCompletedStartCleanup (owner : NativeStopOwner) (context : EngineCommandContext) :
    Task Bool := do
  let s ← slots
  match s.completedStartCleanup with
  | none => return false
  | some receipt => do
    attempt (require (receipt.owner = owner ∧ receipt.commandContext = context)
      (failure .identityRejected
        "The cleanup acknowledgement does not match the failed start generation."))
    requireFailedStartGlobalOff w
      "The failed-start cleanup receipt no longer has a fresh global Off proof."
    write (Slots.setCompletedStartCleanup none)
    return true

def retainPendingFailedStartOff : Task Unit := do
  let s ← slots
  match s.pendingFailedStartOff with
  | some pending => attempt (require (pending.Same t) (failure .cleanupUnproven
      "Failed-start Off proof conflicts with another cleanup transaction."))
  | none => do
    attempt (require s.completedStartCleanup.isNone (failure .cleanupUnproven
      "Failed-start Off proof conflicts with an unacknowledged cleanup receipt."))
    write (Slots.setPendingFailedStartOff (some t))

/-- A failed owner of the exact generation is stopped, every other one has to be Off already. -/
def stopFailedOwner (initial : EngineSnapshot) : Task Unit :=
  if initial.isStableOff then return ()
  else do
    attempt (require (initial.kind = .failed ∧ initial.configuration = some t.descriptor)
      (failure .cleanupUnproven
        "Failed-start owner state does not match the exact failed generation."))
    (stopOwner w t).handle fun e ↦ .error (failure .cleanupUnproven
      ("Failed-start owner could not advance to Off: " ++ e.mapped.message))
    let stopped ← (ownerSnapshot w t.owner).handle fun e ↦ .error (failure .cleanupUnproven
      ("Stopped failed-start owner could not be observed: " ++ e.mapped.message))
    attempt (require stopped.isStableOff (failure .cleanupUnproven
      "The exact failed-start owner did not attest Off after cleanup."))

def proveFailedStartOff : Task Unit := do
  retainPendingFailedStartOff t
  let s ← slots
  attempt (require (s.pendingStartCleanup.isNone ∧ s.pendingStop.isNone)
    (failure .cleanupUnproven
      "Failed-start Off proof began before its earlier cleanup phase completed."))
  let initial ← (ownerSnapshot w t.owner).handle fun e ↦ .error (failure .cleanupUnproven
    ("Failed-start owner state could not be observed: " ++ e.mapped.message))
  stopFailedOwner w t initial
  requireFailedStartGlobalOff w
    "Failed-start cleanup did not reach the independent global Off barrier."
  write (Slots.setPendingFailedStartOff none)
  rememberCompletedStartCleanup t

def resumePendingFailedStartOff (owner : NativeStopOwner) (context : EngineCommandContext) :
    Task Bool := do
  let s ← slots
  match s.pendingFailedStartOff with
  | none => return false
  | some transaction => do
    attempt (require (transaction.owner = owner ∧ transaction.commandContext = context)
      (failure .identityRejected
        "The failed-start Off retry does not match the pending generation."))
    proveFailedStartOff w transaction
    let acknowledged ← acknowledgeCompletedStartCleanup w owner context
    attempt (require (acknowledged = true) (failure .cleanupUnproven
      "The failed-start Off proof completed without an exact receipt."))
    return true

/-- What the tunnel runs before it restores the preferences. -/
def revokePreparation (authority : NativeStopAuthorityPhase) : Task Unit :=
  match authority with
  | .completed _ => return ()
  | .ordered authorityContext => do
    let observed ← (call w (.beginStop t.descriptor)).catching
    match observed with
    | .ok observed => attempt (require (observed = authorityContext)
        (failure .cleanupUnproven
          "Authority stop identity changed during preference compensation."))
    | .error e =>
      match e.kind with
      | .authority .globalAuthorityRecovering => return ()
      | .authority .staleOperation => do
        let resolution ← call w (.stopResolution t.commandContext)
        attempt (require (resolution ≠ .unresolved) e)
      | _ => throwing e
  | .unordered | .released => do
    let cancelled ← call w (.cancelPreparedStart t.descriptor)
    attempt (require (cancelled = true) (failure .cleanupUnproven
      "Authority retained owner control during preference compensation."))

/-- The tunnel revokes the preparation only when its journal holds a receipt of the mutation. -/
def compensatePendingPreferenceMutation (authority : NativeStopAuthorityPhase) : Task Bool := do
  let pending ← call w (.pendingReceipt t.descriptor)
  if pending then do
    revokePreparation w t authority
    call w (.restorePreferences t.descriptor)
    return true
  else return false

/-- Decides whether the owner controls the lease, so that it has to be stopped. -/
def takeOwnerControl : Task Bool := do
  let s ← slots
  match s.pendingStop with
  | some pendingStop => do
    attempt (require (pendingStop.Same t) (failure .cleanupUnproven
      "Tunnel preference cleanup conflicts with another stop transaction."))
    beginPendingStopAtAuthority w
    return true
  | none => do
    let cancelled ← call w (.cancelPreparedStart t.descriptor)
    if cancelled then return false
    else do
      write (Slots.setPendingStop (some t))
      beginPendingStopAtAuthority w
      return true

def compensatePreferences : Task Bool := do
  let s ← slots
  if s.pendingStop.any (·.preferenceCompensated) then return true
  else mapping (compensatePendingPreferenceMutation w t
    ((s.pendingStop.map (·.authority)).getD .unordered))

/-- Restoring the preferences stopped the owner: it need not be asked to stop. -/
def markCompensated : Task Unit := do
  let s ← slots
  let transaction ← attempt (unwrap s.pendingStop (failure .cleanupUnproven
    "Tunnel preference compensation lost its Authority stop transaction."))
  write (Slots.setPendingStop (some
    { transaction with preferenceCompensated := true, ownerStopped := true }))

def finishOwnerStop (preferenceCompensated : Bool) : Task Unit := do
  if preferenceCompensated then do
    markCompensated
    completePendingStopAfterOwnerStopped w
  else drivePendingStop w false

def reconcilePendingTunnelStartCleanup (recordCompletion : Bool) : Task Unit := do
  let s ← slots
  let transaction ← attempt (unwrap (s.pendingStartCleanup.filter (·.owner = .tunnel))
    (failure .cleanupUnproven "No exact Tunnel preparation cleanup is pending."))
  let ownerControlled ← takeOwnerControl w transaction
  let preferenceCompensated ← compensatePreferences w transaction
  onlyIf ownerControlled (finishOwnerStop w preferenceCompensated)
  mapping (call w (.finishPreferenceCompensation transaction.descriptor))
  write (Slots.setPendingStartCleanup none)
  onlyIf recordCompletion (rememberCompletedStartCleanup transaction)

def withLocalStop (message : String) (localCleanup : Option String) : String :=
  message ++ (localCleanup.map (" Local stop also failed: " ++ ·)).getD ""

def retainStartCleanup : Task Unit := do
  let s ← slots
  match s.pendingStartCleanup with
  | some pending => attempt (require (pending.Same t) (failure .cleanupUnproven
      "Tunnel start verification conflicts with another cleanup transaction."))
  | none => write (Slots.setPendingStartCleanup (some t))

variable (originalError : Thrown)

def rollbackStartedTunnel : Task α := do
  retainStartCleanup t
  let reconciled ← (reconcilePendingTunnelStartCleanup w false).catching
  match reconciled with
  | .ok () => do
    proveFailedStartOff w t
    throwing originalError.map
  | .error e =>
    if e.kind = .execution then do
      let localCleanup ← attemptLocalStopAfterOrderingFailure w
      throwing (failure .cleanupUnproven (withLocalStop
        ("Tunnel start failed and durable preference cleanup remains unproven: " ++
          e.mapped.message ++ ".") localCleanup))
    else throwing (failure .cleanupUnproven
      "Tunnel start cleanup failed at an untyped boundary.")

def reportUnprovenCleanup (cancellationFailure : Option Thrown) (e : Thrown) : Task α := do
  let localCleanup ← attemptLocalStopAfterOrderingFailure w
  if e.kind = .execution then
    throwing (failure .cleanupUnproven (withLocalStop ("Native start failed: " ++
      originalError.mapped.message ++ (cancellationFailure.map fun e ↦
        " Preparation cancellation also failed: " ++ e.mapped.message).getD "" ++
      " Cleanup remains unproven: " ++ e.mapped.message ++ ".") localCleanup))
  else throwing (failure .cleanupUnproven (withLocalStop
    "Native start cleanup failed at an untyped boundary." localCleanup))

def retainPendingStop : Task Unit := do
  let s ← slots
  match s.pendingStop with
  | some pendingStop => attempt (require (pendingStop.Same t) (failure .cleanupUnproven
      "Start verification failed while another native stop transaction remained pending."))
  | none => write (Slots.setPendingStop (some t))

def rollbackStartedProxy (cancellationFailure : Option Thrown) : Task α := do
  retainPendingStop t
  let driven ← (drivePendingStop w false).catching
  match driven with
  | .ok () => do
    rememberCompletedStartCleanup t
    throwing originalError.map
  | .error e => reportUnprovenCleanup w originalError cancellationFailure e

def rollbackStartedOwner (cancellationFailure : Option Thrown) : Task α :=
  if t.owner = .tunnel then rollbackStartedTunnel w t originalError
  else rollbackStartedProxy w t originalError cancellationFailure

end CfwRs.NativeBridge
