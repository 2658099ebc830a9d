import CfwRs.Lib.Bytes
import CfwRs.Lib.Word

namespace CfwRs.GlobalAuthority

open Lib

abbrev AuthorityIdentifier := FixedBytes 16

abbrev SHA256Digest := FixedBytes 32

namespace AuthorityV1Limits

def preparationLifetimeMilliseconds : UInt64 := 10000

end AuthorityV1Limits

inductive AuthorityMode
  | localProxy | systemProxy | tunnel
deriving DecidableEq, Repr

def AuthorityMode.isProxyAgent (mode : AuthorityMode) : Bool :=
  mode = .localProxy ∨ mode = .systemProxy

inductive AuthorityRole
  | host | proxyAgent | provider
deriving DecidableEq, Repr

inductive AuthorityState
  | recovering | off | preparing | starting | active | stopping | quarantined
deriving DecidableEq, Repr

inductive AuthorityLeaseState
  | prepared | bound | starting | active | stopping | revoked
deriving DecidableEq, Repr

structure RootContext where
  installationID : AuthorityIdentifier
  epoch : UInt64
  generation : UInt64
deriving DecidableEq

structure OperationContext where
  operationID : AuthorityIdentifier
  root : RootContext
  mode : AuthorityMode
  configSHA256 : SHA256Digest
  identitySHA256 : SHA256Digest
  ownerUID : UInt32
  authorityRevision : UInt64
deriving DecidableEq

inductive AuthorityErrorCode
  | globalAuthorityUnavailable | globalAuthorityRegistrationRequired
  | globalAuthorityApprovalRequired | globalAuthorityIdentityRejected
  | globalAuthorityProtocolMismatch | globalAuthorityRecovering | globalAuthorityTimeout
  | globalAuthorityInterrupted | busy | resourceExhausted | journalCapacityExhausted
  | staleOperation | replayRejected | globalLeaseConflict | ticketExpired
  | ticketAlreadyRedeemed | ticketInvalid | cleanupUnproven | compensationConflict
  | quarantined | invalidMessage | secretBoundsExceeded | secretLifecycleViolation
  | journalCorrupt | ownerUnresponsive
deriving DecidableEq, Repr

/-- What a failure discloses: the digest appears only by its first twelve hexadecimal digits,
that is by its first six bytes. -/
structure AuthorityDiagnosticContext where
  operationID : Option AuthorityIdentifier := none
  generation : Option UInt64 := none
  role : Option AuthorityRole := none
  digestPrefix : Option Bytes := none
deriving DecidableEq

structure AuthorityDomainError where
  code : AuthorityErrorCode
  context : AuthorityDiagnosticContext := {}
deriving DecidableEq

inductive AuthorityV1ValidationError
  | malformedEnvelope | noncanonicalRepresentation | unsupportedMajor (major : UInt16)
  | unsupportedMinor (minor : UInt16) | unsupportedRequiredFeatures (bits : UInt64)
  | unknownCommand | invalidType | invalidIdentifier | invalidDigest | invalidContext
  | invalidState | invalidConfiguration | invalidAttestation | invalidReceipt | invalidTicket
  | invalidCapability | duplicateCredentialSlot | boundViolation | secretUnavailable
  | messageTooLarge (actual maximum : ℕ)
deriving DecidableEq, Repr

inductive AuthoritySecretLifecycleError
  | invalidPreparation | unavailable | ticketExpired | ticketAlreadyRedeemed | ticketInvalid
  | transportConsumed | randomGenerationFailed
deriving DecidableEq, Repr

/-- The errors the Authority throws, by the Swift type that carries them. -/
inductive AuthorityFailure
  | domain (error : AuthorityDomainError)
  | validation (error : AuthorityV1ValidationError)
  | secret (error : AuthoritySecretLifecycleError)
deriving DecidableEq

abbrev Checked (α : Type) := Except AuthorityFailure α

/-- The machine-wide lease. Its initializer rejects an empty lifetime, so every lease has one. -/
structure GlobalLease where
  leaseID : AuthorityIdentifier
  operation : OperationContext
  state : AuthorityLeaseState
  issuedMonotonic : UInt64
  expiryMonotonic : UInt64
  ownerConnectionNonce : SHA256Digest
  issued_pos : issuedMonotonic > 0
  issued_lt_expiry : issuedMonotonic < expiryMonotonic
deriving DecidableEq

def GlobalLease.new (leaseID : AuthorityIdentifier) (operation : OperationContext)
    (state : AuthorityLeaseState) (issuedMonotonic expiryMonotonic : UInt64)
    (ownerConnectionNonce : SHA256Digest) : Checked GlobalLease :=
  if h : 0 < issuedMonotonic ∧ issuedMonotonic < expiryMonotonic then
    .ok { leaseID, operation, state, issuedMonotonic, expiryMonotonic, ownerConnectionNonce,
          issued_pos := h.1, issued_lt_expiry := h.2 }
  else .error (.validation .invalidState)

theorem GlobalLease.new_eq_ok {leaseID operation state issued expiry nonce l} : GlobalLease.new leaseID operation state issued expiry nonce = .ok l ↔
      l.leaseID = leaseID ∧ l.operation = operation ∧ l.state = state ∧
        l.issuedMonotonic = issued ∧ l.expiryMonotonic = expiry ∧
        l.ownerConnectionNonce = nonce := by
  unfold GlobalLease.new
  constructor
  · intro h
    split at h
    · cases h
      simp
    · cases h
  · rintro ⟨rfl, rfl, rfl, rfl, rfl, rfl⟩
    rw [dif_pos ⟨l.issued_pos, l.issued_lt_expiry⟩]

/-- A lease keeps its lifetime when its state changes, so here the initializer cannot fail. -/
def GlobalLease.replacingLeaseState (lease : GlobalLease) (state : AuthorityLeaseState) :
    GlobalLease :=
  { lease with state := state }

/-- The highest epoch and generation accepted so far, with the record that accepted it. -/
structure ReplayCursor where
  installationID : AuthorityIdentifier
  acceptedEpoch : UInt64
  acceptedGeneration : UInt64
  revision : UInt64
  previousRecordSHA256 : SHA256Digest
  epoch_pos : acceptedEpoch > 0
  generation_pos : acceptedGeneration > 0
  revision_pos : revision > 0
deriving DecidableEq

def ReplayCursor.new (installationID : AuthorityIdentifier)
    (acceptedEpoch acceptedGeneration revision : UInt64) (previousRecordSHA256 : SHA256Digest) :
    Checked ReplayCursor :=
  if h : 0 < acceptedEpoch ∧ 0 < acceptedGeneration ∧ 0 < revision then
    .ok { installationID, acceptedEpoch, acceptedGeneration, revision, previousRecordSHA256,
          epoch_pos := h.1, generation_pos := h.2.1, revision_pos := h.2.2 }
  else .error (.validation .invalidContext)

theorem ReplayCursor.new_eq_ok {installationID epoch generation revision previous c} :
    ReplayCursor.new installationID epoch generation revision previous = .ok c ↔
      c.installationID = installationID ∧ c.acceptedEpoch = epoch ∧
        c.acceptedGeneration = generation ∧ c.revision = revision ∧
        c.previousRecordSHA256 = previous := by
  unfold ReplayCursor.new
  constructor
  · intro h
    split at h
    · cases h
      simp
    · cases h
  · rintro ⟨rfl, rfl, rfl, rfl, rfl⟩
    rw [dif_pos ⟨c.epoch_pos, c.generation_pos, c.revision_pos⟩]

structure ReadyFlags where
  rawValue : UInt16
deriving DecidableEq

namespace ReadyFlags

def libboxStarted : ReadyFlags := ⟨(1 : UInt16) <<< 0⟩

def transportReady : ReadyFlags := ⟨(1 : UInt16) <<< 1⟩

def operatingSystemStateReady : ReadyFlags := ⟨(1 : UInt16) <<< 2⟩

def required (mode : AuthorityMode) : ReadyFlags :=
  if mode = .localProxy then ⟨libboxStarted.rawValue ||| transportReady.rawValue⟩
  else ⟨libboxStarted.rawValue ||| transportReady.rawValue ||| operatingSystemStateReady.rawValue⟩

end ReadyFlags

structure PacketPumpLimits where
  maximumQueuedPackets : UInt16
  maximumQueuedBytes : UInt32
  maximumPacketBytes : UInt16
  maximumReadBatch : UInt8
deriving DecidableEq

structure ReadyAttestation where
  operation : OperationContext
  leaseID : AuthorityIdentifier
  runtimeDigest : SHA256Digest
  ownerRole : AuthorityRole
  readyFlags : ReadyFlags
  packetPumpLimits : Option PacketPumpLimits
  monotonicTimestamp : UInt64
deriving DecidableEq

structure StoppedAttestation where
  operation : OperationContext
  leaseID : AuthorityIdentifier
  libboxStopped : Bool
  transportClosed : Bool
  osRestored : Bool
  monotonicTimestamp : UInt64
deriving DecidableEq

inductive CredentialKind
  | wireguardPrivateKey | wireguardPreSharedKey | socks5Username | socks5Password
  | httpProxyUsername | httpProxyPassword | shadowsocksPassword | vmessUUID | vlessUUID
  | trojanPassword | hysteria2Password | hysteria2ObfsPassword | anytlsPassword | tuicUUID
  | tuicPassword | tailscaleAuthKey
deriving DecidableEq, Repr

structure CredentialReference where
  id : AuthorityIdentifier
  kind : CredentialKind
deriving DecidableEq

structure CredentialSlot where
  reference : CredentialReference
  jsonPointer : String
deriving DecidableEq

structure AuthorityConfigurationDescriptor where
  byteCount : UInt32
  configSHA256 : SHA256Digest
  identitySHA256 : SHA256Digest
  credentialSlots : List CredentialSlot
deriving DecidableEq

structure PrepareStartRequest where
  operation : OperationContext
  expectedRevision : UInt64
  configuration : AuthorityConfigurationDescriptor
deriving DecidableEq

structure BeginStopRequest where
  operation : OperationContext
  leaseID : AuthorityIdentifier
  expectedRevision : UInt64
deriving DecidableEq

end CfwRs.GlobalAuthority
