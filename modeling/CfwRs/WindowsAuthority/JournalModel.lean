import CfwRs.Lib.Checked
import CfwRs.Lib.Hex
import CfwRs.Lib.Word

namespace CfwRs.WindowsAuthority

open Lib Lib.Checked

abbrev Uuid := FixedBytes 16

abbrev Digest := FixedBytes 32

def Uuid.isNil (id : Uuid) : Prop := id = .fill 16 0

instance (id : Uuid) : Decidable id.isNil := inferInstanceAs (Decidable (_ = _))

inductive AuthorityMode
  | localProxy | systemProxy | tunnel
deriving DecidableEq, Repr

inductive AuthorityState
  | recovering | off | preparing | starting | active | stopping | quarantined
deriving DecidableEq, Repr

inductive LeaseState
  | prepared | bound | starting | active | stopping | revoked
deriving DecidableEq, Repr

inductive JournalTransition
  | enrollOff | checkpoint | reserveGeneration | prepare | bindOwner | ready | beginStop
  | ownerStopped | abortPrepared | revokeForConsoleChange | revokeForTimeout | globalOff
  | reconcileOff
deriving DecidableEq, Repr

inductive JournalValidationError
  | unsupportedSchema | invalidState | encoding | capacity | truncated | integrity | sequence
  | anchor
deriving DecidableEq, Repr

abbrev Validated (α : Type) := Except JournalValidationError α

namespace Limits

def maxRecordPayload : ℕ := 64 * 1024

def maxRecords : ℕ := 4096

def maxJournalBytes : ℕ := 32 * 1024 * 1024

def maxHeadBytes : ℕ := 1024

def maxAnchorBytes : ℕ := 2048

def lifecycleFinishReserve : ℕ := 7

end Limits

structure RootContext where
  epoch : UInt64
  generation : UInt64
  installationId : Uuid
deriving DecidableEq

def RootContext.validate (root : RootContext) : Prop := ¬(root.epoch = 0 ∨ root.generation = 0)

instance (root : RootContext) : Decidable root.validate := inferInstanceAs (Decidable (¬_))

structure RecordedOwner where
  sid : Bytes
  authenticationId : UInt64
  sessionId : UInt32
deriving DecidableEq

def RecordedOwner.validate (owner : RecordedOwner) : Validated Unit :=
  reject (owner.sid.length < 8 ∨ owner.sid.getD 0 0 ≠ 1 ∨ 15 < owner.sid.getD 1 0 ∨
    owner.sid.length ≠ 8 + 4 * (owner.sid.getD 1 0).toNat ∨
    (owner.authenticationId = 0 ∨ owner.authenticationId = maxWord) ∨
    (owner.sessionId = 0 ∨ owner.sessionId = 4294967295)) .invalidState

structure JournalOperation where
  operationId : Uuid
  mode : AuthorityMode
  configSha256 : Digest
  identitySha256 : Digest
  leaseId : Uuid
  owner : RecordedOwner
deriving DecidableEq

def JournalOperation.validate (operation : JournalOperation) : Validated Unit := do
  operation.owner.validate
  reject (operation.operationId.isNil ∨ operation.leaseId.isNil) .invalidState

def JournalOperation.new (operationId : Uuid) (mode : AuthorityMode)
    (configSha256 identitySha256 : Digest) (leaseId : Uuid) (owner : RecordedOwner) :
    Validated JournalOperation := do
  let value : JournalOperation :=
    { operationId, mode, configSha256, identitySha256, leaseId, owner }
  value.validate
  pure value

inductive RecoveryAction
  | verifyOff | stopOwner | reattestOwner
deriving DecidableEq, Repr

structure AuthorityCommittedState where
  schemaVersion : UInt16
  root : RootContext
  allocatedGeneration : UInt64
  revision : UInt64
  transition : JournalTransition
  state : AuthorityState
  operation : Option JournalOperation
deriving DecidableEq

namespace AuthorityCommittedState

variable (s : AuthorityCommittedState)

def validateOperation : Validated Unit :=
  match s.operation with
  | some operation => operation.validate
  | none => pure ()

def genesisRoot : Prop :=
  s.root.epoch = 0 ∧ s.root.generation = 0 ∧ s.state = .off ∧
    (s.transition = .reserveGeneration ∨ s.transition = .checkpoint)

instance : Decidable s.genesisRoot := inferInstanceAs (Decidable (_ ∧ _))

def validate : Validated Unit := do
  reject (s.schemaVersion ≠ 6) .unsupportedSchema
  reject (s.revision = 0 ∨ s.root.installationId.isNil ∨
    s.allocatedGeneration < s.root.generation) .invalidState
  s.validateOperation
  reject (s.state = .off ∧ s.operation.isSome) .invalidState
  reject ((s.state = .preparing ∨ s.state = .starting ∨ s.state = .active ∨ s.state = .stopping) ∧
    s.operation.isNone) .invalidState
  reject (s.state = .off ∧ ¬(s.transition = .enrollOff ∨ s.transition = .checkpoint ∨
    s.transition = .reserveGeneration ∨ s.transition = .globalOff ∨
    s.transition = .reconcileOff)) .invalidState
  if s.transition = .enrollOff then
    reject (s.root.epoch ≠ 0 ∨ s.root.generation ≠ 0 ∨ s.revision ≠ 1 ∨ s.state ≠ .off ∨
      s.operation.isSome ∨ s.allocatedGeneration ≠ 0) .invalidState
  else
    reject ((s.root.epoch = 0 ∨ s.root.generation = 0) ∧ ¬s.genesisRoot) .invalidState
  reject (s.operation.isSome ∧ s.allocatedGeneration ≠ s.root.generation ∨
    s.transition = .reserveGeneration ∧ (s.state ≠ .off ∨ s.allocatedGeneration = 0))
    .invalidState

def enrollment (installationId : Uuid) : AuthorityCommittedState where
  schemaVersion := 6
  root := { epoch := 0, generation := 0, installationId }
  allocatedGeneration := 0
  revision := 1
  transition := .enrollOff
  state := .off
  operation := none

def new (root : RootContext) (revision : UInt64) (transition : JournalTransition)
    (state : AuthorityState) (operation : Option JournalOperation) :
    Validated AuthorityCommittedState := do
  let value : AuthorityCommittedState :=
    { schemaVersion := 6, allocatedGeneration := root.generation, root, revision, transition
      state, operation }
  value.validate
  pure value

def validateGeneration (prior : AuthorityCommittedState) : Validated Unit :=
  let before := (prior.root.epoch, prior.root.generation)
  let after := (s.root.epoch, s.root.generation)
  if s.transition = .reserveGeneration then
    reject (prior.state ≠ .off ∨ s.state ≠ .off ∨ after ≠ before ∨
      checkedSucc prior.allocatedGeneration ≠ some s.allocatedGeneration) .sequence
  else if s.allocatedGeneration ≠ prior.allocatedGeneration then .error .sequence
  else if s.transition = .prepare then
    reject (prior.state ≠ .off ∨ s.state ≠ .preparing ∨ ¬PairLess before after ∨
      s.root.epoch ≠ max prior.root.epoch 1 ∨ s.root.generation ≠ prior.allocatedGeneration)
      .sequence
  else reject (after ≠ before) .sequence

def validateSuccessor (prior : AuthorityCommittedState) : Validated Unit := do
  s.validate
  prior.validate
  reject (s.root.installationId ≠ prior.root.installationId ∨
    checkedSucc prior.revision ≠ some s.revision ∨
    (s.transition = .enrollOff ∨ s.transition = .checkpoint)) .sequence
  reject (s.transition ≠ .prepare ∧ s.state ≠ .off ∧ s.operation ≠ prior.operation) .sequence
  s.validateGeneration prior

def reserveNextGeneration : Validated AuthorityCommittedState := do
  s.validate
  reject (s.state ≠ .off ∨ s.operation.isSome) .sequence
  let allocatedGeneration ← unwrap (checkedSucc s.allocatedGeneration) .invalidState
  let revision ← unwrap (checkedSucc s.revision) .invalidState
  let next := { s with allocatedGeneration, revision, transition := .reserveGeneration }
  next.validateSuccessor s
  pure next

def transitionTo (revision : UInt64) (transition : JournalTransition) (state : AuthorityState)
    (operation : Option JournalOperation) : Validated AuthorityCommittedState := do
  let next := { s with revision, transition, state, operation }
  next.validateSuccessor s
  pure next

def checkpoint : Validated AuthorityCommittedState := do
  let value := { s with transition := .checkpoint }
  value.validate
  pure value

/-- What a restart has to do for this record; two kinds of record have no answer. -/
def action : Validated RecoveryAction :=
  match s.state with
  | .off => .ok .verifyOff
  | .active => .ok .reattestOwner
  | .preparing | .starting | .stopping => .ok .stopOwner
  | .quarantined =>
    if s.transition = .reconcileOff ∨ s.transition = .checkpoint then .ok .stopOwner
    else .error .invalidState
  | .recovering => .error .invalidState

def restartAction : Validated RecoveryAction := do
  s.validate
  s.action

variable {s} {prior : AuthorityCommittedState}

theorem valid_of_successor (h : s.validateSuccessor prior = .ok ()) : s.validate = .ok () := by
  simp only [validateSuccessor, bind_eq_ok] at h
  obtain ⟨_, hvalid, -⟩ := h
  exact hvalid

theorem checkedSucc_of_successor (h : s.validateSuccessor prior = .ok ()) :
    checkedSucc prior.revision = some s.revision := by
  simp only [validateSuccessor, ok_iff, not_or, not_not] at h
  obtain ⟨_, -, _, -, _, ⟨-, hrevision, -⟩, -⟩ := h
  exact hrevision

end AuthorityCommittedState

namespace Serialize

open Lib.Json

def uuid (id : Uuid) : Json := .str (uuidText id)

def byteArray (b : Bytes) : Json := .arr (b.map fun x ↦ .num x.toNat)

def modeText : AuthorityMode → String
  | .localProxy => "local_proxy"
  | .systemProxy => "system_proxy"
  | .tunnel => "tunnel"

def stateText : AuthorityState → String
  | .recovering => "recovering"
  | .off => "off"
  | .preparing => "preparing"
  | .starting => "starting"
  | .active => "active"
  | .stopping => "stopping"
  | .quarantined => "quarantined"

def transitionText : JournalTransition → String
  | .enrollOff => "enroll_off"
  | .checkpoint => "checkpoint"
  | .reserveGeneration => "reserve_generation"
  | .prepare => "prepare"
  | .bindOwner => "bind_owner"
  | .ready => "ready"
  | .beginStop => "begin_stop"
  | .ownerStopped => "owner_stopped"
  | .abortPrepared => "abort_prepared"
  | .revokeForConsoleChange => "revoke_for_console_change"
  | .revokeForTimeout => "revoke_for_timeout"
  | .globalOff => "global_off"
  | .reconcileOff => "reconcile_off"

def root (r : RootContext) : Json :=
  .obj
    [(ascii "epoch", .num r.epoch.toNat),
      (ascii "generation", .num r.generation.toNat),
      (ascii "installation_id", uuid r.installationId)]

def owner (o : RecordedOwner) : Json :=
  .obj
    [(ascii "sid", byteArray o.sid),
      (ascii "authentication_id", .num o.authenticationId.toNat),
      (ascii "session_id", .num o.sessionId.toNat)]

def operation (o : JournalOperation) : Json :=
  .obj
    [(ascii "operation_id", uuid o.operationId),
      (ascii "mode", .str (ascii (modeText o.mode))),
      (ascii "config_sha256", byteArray o.configSha256.bytes),
      (ascii "identity_sha256", byteArray o.identitySha256.bytes),
      (ascii "lease_id", uuid o.leaseId),
      (ascii "owner", owner o.owner)]

def committedState (s : AuthorityCommittedState) : Json :=
  .obj
    [(ascii "schema_version", .num s.schemaVersion.toNat),
      (ascii "root", root s.root),
      (ascii "allocated_generation", .num s.allocatedGeneration.toNat),
      (ascii "revision", .num s.revision.toNat),
      (ascii "transition", .str (ascii (transitionText s.transition))),
      (ascii "state", .str (ascii (stateText s.state))),
      (ascii "operation", optional operation s.operation)]

end Serialize

def AuthorityCommittedState.text (s : AuthorityCommittedState) : Bytes :=
  (Serialize.committedState s).render

def AuthorityCommittedState.encode (s : AuthorityCommittedState) : Validated Bytes := do
  s.validate
  reject (Limits.maxRecordPayload < s.text.length) .capacity
  pure s.text

structure JournalCursor where
  generation : UInt64
  sequence : UInt64
  committedLength : UInt64
  recordSha256 : Digest
  stateRevision : UInt64
deriving DecidableEq

def headerBytes : ℕ := 8 + 4 + 8 + 32 + 32 + 4

def JournalCursor.validate (c : JournalCursor) : Validated Unit :=
  reject (c.generation = 0 ∨ c.sequence = 0 ∨ Limits.maxRecords < c.sequence.toNat ∨
    c.committedLength.toNat ≤ headerBytes ∨ Limits.maxJournalBytes < c.committedLength.toNat ∨
    c.stateRevision = 0) .anchor

/-- What a successful replay yields: work to reconcile, never restored execution. -/
structure JournalRecovery where
  committed : Option AuthorityCommittedState
  cursor : Option JournalCursor
  action : RecoveryAction
deriving DecidableEq

end CfwRs.WindowsAuthority
