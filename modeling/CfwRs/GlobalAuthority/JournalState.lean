import CfwRs.Lib.Checked
import CfwRs.GlobalAuthority.Protocol

namespace CfwRs.GlobalAuthority

open Lib Lib.Checked

inductive AuthorityJournalTransition
  | enrollOff | checkpoint | prepare | bindOwner | ready | beginStop | ownerStopped
  | abortPrepared | revokeForConsoleChange | revokeForTimeout | globalOff | reconcileOff
deriving DecidableEq, Repr

inductive AuthorityJournalValidationError
  | unsupportedSchema | journalTooLarge | tooManyRecords | recordTooLarge | malformedFrame
  | noncanonicalRecord | invalidHead | missingHead | unexpectedHead | interruptedHeadReplacement
  | truncated | trailingData | invalidCRC | invalidPayloadDigest | brokenHashChain | reordered
  | rollback | invalidState | anchorMissing | anchorMismatch | orphanedGenerationState
  | invalidGenerationEntry | generationCleanupFailed | legacyStateRequiresMigration
deriving DecidableEq, Repr

/-- The five fields that describe the operation of a record. The record's initializer accepts
them only all together or not at all. -/
structure CommittedOperation where
  operationID : AuthorityIdentifier
  mode : AuthorityMode
  configSHA256 : SHA256Digest
  leaseID : AuthorityIdentifier
  ownerUID : UInt32
deriving DecidableEq

/-- One durable record of the Authority, with what its initializer guarantees. -/
structure AuthorityCommittedState where
  installationID : AuthorityIdentifier
  epoch : UInt64
  generation : UInt64
  revision : UInt64
  transition : AuthorityJournalTransition
  state : AuthorityState
  operation : Option CommittedOperation
  revision_pos : 0 < revision
  off_no_operation : state = .off → operation = none
  enroll_genesis : transition = .enrollOff → epoch = 0 ∧ generation = 0 ∧ state = .off
  root_pos : transition ≠ .enrollOff → 0 < epoch ∧ 0 < generation
deriving DecidableEq

namespace AuthorityCommittedState

def Admissible (epoch generation revision : UInt64) (transition : AuthorityJournalTransition)
    (state : AuthorityState) (operation : Option CommittedOperation) : Prop :=
  0 < revision ∧ (state = .off → operation = none) ∧
    (transition = .enrollOff → epoch = 0 ∧ generation = 0 ∧ state = .off) ∧
    (transition ≠ .enrollOff → 0 < epoch ∧ 0 < generation)

instance (e g r : UInt64) (t : AuthorityJournalTransition) (s : AuthorityState)
    (o : Option CommittedOperation) : Decidable (Admissible e g r t s o) :=
  inferInstanceAs (Decidable (_ ∧ _))

def new (installationID : AuthorityIdentifier) (epoch generation revision : UInt64)
    (transition : AuthorityJournalTransition) (state : AuthorityState)
    (operation : Option CommittedOperation) :
    Except AuthorityJournalValidationError AuthorityCommittedState :=
  if h : Admissible epoch generation revision transition state operation then
    .ok { installationID, epoch, generation, revision, transition, state, operation,
          revision_pos := h.1, off_no_operation := h.2.1, enroll_genesis := h.2.2.1,
          root_pos := h.2.2.2 }
  else .error .invalidState

theorem new_eq_ok {installationID epoch generation revision transition state operation s} :
    new installationID epoch generation revision transition state operation = .ok s ↔
      s.installationID = installationID ∧ s.epoch = epoch ∧ s.generation = generation ∧
        s.revision = revision ∧ s.transition = transition ∧ s.state = state ∧
        s.operation = operation := by
  unfold new
  constructor
  · intro h
    split at h
    · cases h
      simp
    · cases h
  · rintro ⟨rfl, rfl, rfl, rfl, rfl, rfl, rfl⟩
    rw [dif_pos ⟨s.revision_pos, s.off_no_operation, s.enroll_genesis, s.root_pos⟩]

end AuthorityCommittedState

structure AuthorityJournalHead where
  sequence : UInt64
  committedLength : UInt64
  recordSHA256 : SHA256Digest
  sequence_pos : 0 < sequence
  length_pos : 0 < committedLength
deriving DecidableEq

structure AuthorityJournalAnchorCursor where
  generation : UInt64
  sequence : UInt64
  committedLength : UInt64
  recordSHA256 : SHA256Digest
  stateRevision : UInt64
  generation_pos : 0 < generation
  sequence_pos : 0 < sequence
  length_pos : 0 < committedLength
  revision_pos : 0 < stateRevision
deriving DecidableEq

def AuthorityJournalHead.new (sequence committedLength : UInt64) (recordSHA256 : SHA256Digest) :
    Except AuthorityJournalValidationError AuthorityJournalHead :=
  if h : 0 < sequence ∧ 0 < committedLength then
    .ok { sequence, committedLength, recordSHA256, sequence_pos := h.1, length_pos := h.2 }
  else .error .invalidHead

theorem AuthorityJournalHead.new_eq_ok {sequence committedLength recordSHA256 head} :
    AuthorityJournalHead.new sequence committedLength recordSHA256 = .ok head ↔
      head.sequence = sequence ∧ head.committedLength = committedLength ∧
        head.recordSHA256 = recordSHA256 := by
  unfold AuthorityJournalHead.new
  constructor
  · intro h
    split at h
    · cases h
      simp
    · cases h
  · rintro ⟨rfl, rfl, rfl⟩
    rw [dif_pos ⟨head.sequence_pos, head.length_pos⟩]

inductive AuthorityRecoveryAction
  | verifyOff | stopOwner | reattestOwner | restoreAnchorAccess
deriving DecidableEq, Repr

inductive AuthorityRecoveryPosture
  | recovering (action : AuthorityRecoveryAction)
  | quarantined (reason : AuthorityJournalValidationError)
deriving DecidableEq, Repr

structure AuthorityJournalRecovery where
  committedState : Option AuthorityCommittedState
  head : Option AuthorityJournalHead
  posture : AuthorityRecoveryPosture
deriving DecidableEq

/-- What a restart makes of a validated journal whose last record is `state`. -/
def restartPosture (state : AuthorityCommittedState) : AuthorityRecoveryPosture :=
  match state.state with
  | .active => .recovering .reattestOwner
  | .preparing | .starting | .stopping => .recovering .stopOwner
  | .off => .recovering .verifyOff
  | .quarantined =>
    if state.transition = .reconcileOff ∨ state.transition = .checkpoint then
      .recovering .stopOwner
    else .quarantined .invalidState
  | .recovering => .quarantined .invalidState

end CfwRs.GlobalAuthority
