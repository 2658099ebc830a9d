import CfwRs.GlobalAuthority.JournalState

namespace CfwRs.GlobalAuthority

open Lib Lib.Checked

inductive ManagedTunnelObservation
  | disconnected | invalid | connecting | connected | unknown
deriving DecidableEq, Repr

inductive AuthorityCleanupObservation
  | systemProxy (listenerClosed systemConfigurationRestored : Bool)
  | tunnel (libboxStopped packetPumpClosed : Bool)
  | reconciledBoth (proxyListenerClosed systemConfigurationRestored providerLibboxStopped
      packetPumpClosed : Bool)
  | unknown
deriving DecidableEq, Repr

structure GlobalOffProof where
  leaseReleased : Bool
  capabilityOrTicketCleared : Bool
  secretBufferCleared : Bool
  ownerEndpointCleared : Bool
  cleanup : AuthorityCleanupObservation
  managedTunnel : ManagedTunnelObservation
deriving DecidableEq, Repr

inductive AuthorityOffResolution
  | off (revision : UInt64)
  | quarantined (revision : UInt64)
deriving DecidableEq, Repr

structure AuthorityOwnerBinding where
  operation : OperationContext
  leaseID : AuthorityIdentifier
  leaseOwnerUID : UInt32
  connectionNonce : SHA256Digest
  role : AuthorityRole
  mode : AuthorityMode
deriving DecidableEq

structure AuthorityPrepareInput where
  request : PrepareStartRequest
  leaseID : AuthorityIdentifier
  ownerConnectionNonce : SHA256Digest
  issuedMonotonic : UInt64
  expiryMonotonic : UInt64
  retainsSecretBuffer : Bool
deriving DecidableEq

inductive AuthorityCapabilityCommand
  | issueProxyCapability | issueTunnelTicket
deriving DecidableEq, Repr

structure AuthorityPrepareAuthorization where
  leaseID : AuthorityIdentifier
  operation : OperationContext
  command : AuthorityCapabilityCommand
  committedRevision : UInt64
deriving DecidableEq

inductive AuthorityPendingMutation
  | prepare (operationID : AuthorityIdentifier)
  | transition (operationID : AuthorityIdentifier)
  | globalOff (operationID : Option AuthorityIdentifier)
deriving DecidableEq

inductive AuthorityDurableMutationKind
  | enrollOff | prepare | bindOwner | ready | beginStop | ownerStopped | abortPrepared
  | revokeForConsoleChange | revokeForTimeout | globalOff | reconcileOff
deriving DecidableEq, Repr

/-- The machine-wide ownership reducer. Every operation checks all its guards before it
changes a field, so an operation that throws leaves the value as it was. -/
structure GlobalAuthorityReducer where
  state : AuthorityState
  revision : UInt64
  enrolledInstallationID : Option AuthorityIdentifier
  replayCursor : Option ReplayCursor
  lease : Option GlobalLease
  ownerBinding : Option AuthorityOwnerBinding
  pendingMutation : Option AuthorityPendingMutation
  retainsCapabilityOrTicket : Bool
  retainsSecretBuffer : Bool
  ownerStopped : Bool
  lastMutation : Option AuthorityDurableMutationKind
  acceptedReadyAttestation : Option ReadyAttestation
deriving DecidableEq

namespace GlobalAuthorityReducer

variable (r : GlobalAuthorityReducer)

def installationID : Option AuthorityIdentifier :=
  (r.replayCursor.map (·.installationID)).or r.enrolledInstallationID

def failure (code : AuthorityErrorCode) (operation : Option OperationContext)
    (role : Option AuthorityRole := none) : AuthorityFailure :=
  .domain
    { code := code
      context :=
        { operationID := operation.map (·.operationID)
          generation := operation.map (·.root.generation)
          role := role
          digestPrefix := operation.map (·.configSHA256.bytes.take 6) } }

def journalCorrupt : AuthorityFailure := .domain { code := .journalCorrupt }

/-- What each state demands of the lease and the owner binding. -/
def StateShape (state : AuthorityState) (lease : Option GlobalLease)
    (ownerBinding : Option AuthorityOwnerBinding) : Prop :=
  match state with
  | .off => lease = none ∧ ownerBinding = none
  | .preparing | .starting | .active | .stopping => lease ≠ none
  | .recovering | .quarantined => True

instance : (state : AuthorityState) → (lease : Option GlobalLease) →
    (ownerBinding : Option AuthorityOwnerBinding) → Decidable (StateShape state lease ownerBinding)
  | .off, _, _ => inferInstanceAs (Decidable (_ ∧ _))
  | .preparing, _, _ | .starting, _, _ | .active, _, _ | .stopping, _, _ =>
    inferInstanceAs (Decidable (_ ≠ _))
  | .recovering, _, _ | .quarantined, _, _ => inferInstanceAs (Decidable True)

def new (state : AuthorityState) (revision : UInt64)
    (enrolledInstallationID : Option AuthorityIdentifier := none)
    (replayCursor : Option ReplayCursor := none) (lease : Option GlobalLease := none)
    (ownerBinding : Option AuthorityOwnerBinding := none)
    (retainsCapabilityOrTicket retainsSecretBuffer ownerStopped : Bool := false) :
    Checked GlobalAuthorityReducer := do
  require (0 < revision ∧ ∀ c ∈ replayCursor, c.revision ≤ revision) journalCorrupt
  require (StateShape state lease ownerBinding) journalCorrupt
  require (ownerBinding = none ∨ lease ≠ none) journalCorrupt
  require (∀ c ∈ replayCursor, ∀ l ∈ lease,
    c.installationID = l.operation.root.installationID ∧
      ¬PairLess (c.acceptedEpoch, c.acceptedGeneration)
        (l.operation.root.epoch, l.operation.root.generation)) journalCorrupt
  require (∀ c ∈ replayCursor, ∀ i ∈ enrolledInstallationID, c.installationID = i) journalCorrupt
  pure
    { state, revision
      enrolledInstallationID :=
        enrolledInstallationID.or (replayCursor.map (·.installationID))
      replayCursor, lease, ownerBinding
      pendingMutation := none
      retainsCapabilityOrTicket, retainsSecretBuffer, ownerStopped
      lastMutation := none
      acceptedReadyAttestation := none }

def unEnrolledOff (revision : UInt64 := 1) : Checked GlobalAuthorityReducer := new .off revision

def enrolledOff (installationID : AuthorityIdentifier) (revision : UInt64 := 1) :
    Checked GlobalAuthorityReducer :=
  new .off revision (some installationID)

/-- Recovery never restores an executable lease; callers pass one only to keep it visible. -/
def recovering (revision : UInt64) (replayCursor : Option ReplayCursor)
    (enrolledInstallationID : Option AuthorityIdentifier := none)
    (lease : Option GlobalLease := none) (ownerBinding : Option AuthorityOwnerBinding := none)
    (retainsCapabilityOrTicket retainsSecretBuffer : Bool := false) :
    Checked GlobalAuthorityReducer :=
  new .recovering revision enrolledInstallationID replayCursor lease ownerBinding
    retainsCapabilityOrTicket retainsSecretBuffer

def requireExpectedRevision (expected : UInt64) (operation : Option OperationContext) :
    Checked Unit :=
  require (expected = r.revision) (failure .staleOperation operation)

def requireExactLease (operation : OperationContext) (leaseID : AuthorityIdentifier)
    (ownerUID : Option UInt32 := none) (connectionNonce : Option SHA256Digest := none) :
    Checked Unit := do
  let lease ← unwrap r.lease (failure .staleOperation operation)
  require (lease.leaseID = leaseID ∧ lease.operation = operation)
    (failure .staleOperation operation)
  @require _ (∀ uid ∈ ownerUID, lease.operation.ownerUID = uid) (Option.decidableForallMem _)
    (failure .globalAuthorityIdentityRejected operation)
  require (∀ nonce ∈ connectionNonce, lease.ownerConnectionNonce = nonce)
    (failure .globalAuthorityIdentityRejected operation)

def incrementedRevision : Checked UInt64 := do
  require (r.revision < maxWord) journalCorrupt
  pure (r.revision + 1)

def enrollOff (installationID : AuthorityIdentifier) : Checked GlobalAuthorityReducer := do
  require (r.state = .off ∧ r.replayCursor = none ∧ r.enrolledInstallationID = none ∧
    r.lease = none ∧ r.ownerBinding = none ∧ ¬r.retainsCapabilityOrTicket ∧
    ¬r.retainsSecretBuffer ∧ r.pendingMutation = none) journalCorrupt
  pure { r with
    enrolledInstallationID := some installationID
    lastMutation := some .enrollOff }

def requireOff (operation : OperationContext) : Checked Unit :=
  match r.state with
  | .recovering => .error (failure .globalAuthorityRecovering operation)
  | .quarantined => .error (failure .quarantined operation)
  | .off => pure ()
  | _ => .error (failure .globalLeaseConflict operation)

def prepare (input : AuthorityPrepareInput) :
    Checked (AuthorityPrepareAuthorization × GlobalAuthorityReducer) := do
  let operation := input.request.operation
  r.requireExpectedRevision input.request.expectedRevision operation
  require (r.pendingMutation = none) (failure .busy operation)
  r.requireOff operation
  require (r.lease = none ∧ r.ownerBinding = none ∧ ¬r.retainsCapabilityOrTicket ∧
    ¬r.retainsSecretBuffer) (failure .globalLeaseConflict operation)
  let root := operation.root
  require (∀ i ∈ r.enrolledInstallationID, i = root.installationID)
    (failure .replayRejected operation)
  require (∀ c ∈ r.replayCursor, c.installationID = root.installationID ∧
    PairLess (c.acceptedEpoch, c.acceptedGeneration) (root.epoch, root.generation))
    (failure .replayRejected operation)
  require (0 < input.issuedMonotonic ∧ input.issuedMonotonic < input.expiryMonotonic ∧
    input.expiryMonotonic - input.issuedMonotonic ≤
      AuthorityV1Limits.preparationLifetimeMilliseconds ∧
    (operation.mode = .tunnel ∨ ¬input.retainsSecretBuffer)) (failure .invalidMessage operation)
  let committedRevision ← r.incrementedRevision
  let previousDigest := (r.replayCursor.map (·.previousRecordSHA256)).getD (.fill 32 0)
  let newCursor ← ReplayCursor.new root.installationID root.epoch root.generation
    committedRevision previousDigest
  let newLease ← GlobalLease.new input.leaseID operation .prepared input.issuedMonotonic
    input.expiryMonotonic input.ownerConnectionNonce
  pure (
    { leaseID := input.leaseID
      operation := operation
      command := if operation.mode = .tunnel then .issueTunnelTicket else .issueProxyCapability
      committedRevision := committedRevision },
    { state := .preparing
      revision := committedRevision
      enrolledInstallationID := some root.installationID
      replayCursor := some newCursor
      lease := some newLease
      ownerBinding := none
      pendingMutation := none
      retainsCapabilityOrTicket := true
      retainsSecretBuffer := input.retainsSecretBuffer
      ownerStopped := false
      lastMutation := some .prepare
      acceptedReadyAttestation := none })

def recordPersistedHead (head : AuthorityJournalHead) : Checked GlobalAuthorityReducer :=
  match r.replayCursor with
  | none => pure r
  | some cursor =>
    if cursor.revision = r.revision then do
      let cursor ← ReplayCursor.new cursor.installationID cursor.acceptedEpoch
        cursor.acceptedGeneration cursor.revision head.recordSHA256
      pure { r with replayCursor := some cursor }
    else pure r

def bindOwner (binding : AuthorityOwnerBinding) : Checked (UInt64 × GlobalAuthorityReducer) := do
  require (r.pendingMutation = none) (failure .busy binding.operation)
  require (r.state = .preparing) (failure .globalLeaseConflict binding.operation)
  let current ← unwrap r.lease (failure .globalLeaseConflict binding.operation)
  r.requireExactLease binding.operation binding.leaseID binding.leaseOwnerUID
    binding.connectionNonce
  let expectedRole := if current.operation.mode = .tunnel then .provider else .proxyAgent
  require (binding.role = expectedRole ∧ binding.mode = current.operation.mode)
    (failure .globalAuthorityIdentityRejected binding.operation binding.role)
  let next ← r.incrementedRevision
  pure (next, { r with
    lease := some (current.replacingLeaseState .starting)
    ownerBinding := some binding
    state := .starting
    revision := next
    lastMutation := some .bindOwner
    pendingMutation := none })

def attestReady (attestation : ReadyAttestation) (ownerUID : UInt32)
    (connectionNonce : SHA256Digest) : Checked (UInt64 × GlobalAuthorityReducer) := do
  let operation := attestation.operation
  require (r.pendingMutation = none) (failure .busy operation)
  require (r.state = .starting ∨ r.state = .active) (failure .staleOperation operation)
  let current ← unwrap r.lease (failure .staleOperation operation)
  let binding ← unwrap r.ownerBinding (failure .staleOperation operation)
  r.requireExactLease operation attestation.leaseID ownerUID connectionNonce
  require (binding.role = attestation.ownerRole ∧ binding.operation = operation ∧
    attestation.runtimeDigest = operation.identitySHA256 ∧
    attestation.readyFlags = .required operation.mode)
    (failure .staleOperation operation attestation.ownerRole)
  if r.state = .active then
    require (current.state = .active ∧ r.lastMutation = some .ready ∧
      r.acceptedReadyAttestation = some attestation) (failure .staleOperation operation)
    pure (r.revision, r)
  else
    let next ← r.incrementedRevision
    pure (next, { r with
      lease := some (current.replacingLeaseState .active)
      state := .active
      revision := next
      lastMutation := some .ready
      acceptedReadyAttestation := some attestation
      pendingMutation := none })

def abortPrepared (operation : OperationContext) (expectedRevision : UInt64) :
    Checked (UInt64 × GlobalAuthorityReducer) := do
  r.requireExpectedRevision expectedRevision operation
  require (r.pendingMutation = none) (failure .busy operation)
  require (r.state = .preparing) (failure .staleOperation operation)
  let current ← unwrap r.lease (failure .staleOperation operation)
  require (current.operation = operation) (failure .staleOperation operation)
  let next ← r.incrementedRevision
  pure (next, { r with
    lease := some (current.replacingLeaseState .stopping)
    ownerBinding := none
    retainsCapabilityOrTicket := false
    retainsSecretBuffer := false
    ownerStopped := true
    state := .stopping
    revision := next
    lastMutation := some .abortPrepared
    acceptedReadyAttestation := none
    pendingMutation := none })

/-- The update that `beginStop` and both revocations make to a live owner. -/
def enterStopping (current : GlobalLease) (leaseState : AuthorityLeaseState)
    (mutation : AuthorityDurableMutationKind) (next : UInt64) : GlobalAuthorityReducer :=
  { r with
    lease := some (current.replacingLeaseState leaseState)
    retainsCapabilityOrTicket := false
    retainsSecretBuffer := false
    ownerStopped := false
    state := .stopping
    revision := next
    lastMutation := some mutation
    acceptedReadyAttestation := none
    pendingMutation := none }

def beginStop (request : BeginStopRequest) : Checked (UInt64 × GlobalAuthorityReducer) := do
  let operation := request.operation
  require (r.pendingMutation = none) (failure .busy operation)
  let current ← unwrap r.lease (failure .staleOperation operation)
  r.requireExactLease operation request.leaseID
  if r.state = .stopping then
    if request.expectedRevision = r.revision then pure (r.revision, r)
    else
      require (request.expectedRevision ≠ maxWord ∧
        request.expectedRevision + 1 = r.revision ∧ r.lastMutation = some .beginStop)
        (failure .staleOperation operation)
      pure (r.revision, r)
  else
    r.requireExpectedRevision request.expectedRevision operation
    require (r.state = .preparing ∨ r.state = .starting ∨ r.state = .active)
      (failure .staleOperation operation)
    let next ← r.incrementedRevision
    pure (next, r.enterStopping current .stopping .beginStop next)

def revokeForConsoleChange (liveConsoleUID : Option UInt32) (ownerConnectionNonce : SHA256Digest) :
    Checked (UInt64 × GlobalAuthorityReducer) := do
  require (r.pendingMutation = none) (.domain { code := .busy })
  match r.lease with
  | none => pure (r.revision, r)
  | some current =>
    require (current.ownerConnectionNonce = ownerConnectionNonce)
      (failure .globalAuthorityIdentityRejected current.operation)
    if liveConsoleUID = some current.operation.ownerUID then pure (r.revision, r)
    else if r.state = .stopping ∨ r.state = .quarantined then pure (r.revision, r)
    else
      require (r.state = .preparing ∨ r.state = .starting ∨ r.state = .active)
        (failure .staleOperation current.operation)
      let next ← r.incrementedRevision
      pure (next, r.enterStopping current .revoked .revokeForConsoleChange next)

def revokeForLiveness : Checked (UInt64 × GlobalAuthorityReducer) := do
  require (r.pendingMutation = none) (.domain { code := .busy })
  match r.lease with
  | none => pure (r.revision, r)
  | some current =>
    if r.state = .stopping ∨ r.state = .quarantined then pure (r.revision, r)
    else
      require (r.state = .preparing ∨ r.state = .starting ∨ r.state = .active)
        (failure .staleOperation current.operation)
      let next ← r.incrementedRevision
      pure (next, r.enterStopping current .revoked .revokeForTimeout next)

/-- NetworkExtension can stop an active provider on its own, so an exact stop attestation
enters `stopping` also where the Host began no stop. -/
def attestStopped (attestation : StoppedAttestation) (ownerUID : UInt32)
    (connectionNonce : SHA256Digest) : Checked (UInt64 × GlobalAuthorityReducer) := do
  let operation := attestation.operation
  require (r.pendingMutation = none) (failure .busy operation)
  let current ← unwrap r.lease (failure .staleOperation operation)
  require (r.state = .starting ∨ r.state = .active ∨ r.state = .stopping)
    (failure .staleOperation operation)
  r.requireExactLease operation attestation.leaseID ownerUID connectionNonce
  if r.ownerStopped then pure (r.revision, r)
  else
    let next ← r.incrementedRevision
    let stopping :=
      if r.state = .starting ∨ r.state = .active then
        { r with
          lease := some (current.replacingLeaseState .stopping)
          retainsCapabilityOrTicket := false
          retainsSecretBuffer := false
          state := .stopping }
      else r
    pure (next, { stopping with
      ownerStopped := true
      revision := next
      lastMutation := some .ownerStopped
      acceptedReadyAttestation := none
      pendingMutation := none })

def managedTunnelIsOff (observation : ManagedTunnelObservation) : Bool :=
  observation = .disconnected ∨ observation = .invalid

def proofIsExact (proof : GlobalOffProof) : Bool :=
  (proof.leaseReleased && proof.capabilityOrTicketCleared && proof.secretBufferCleared &&
    proof.ownerEndpointCleared && managedTunnelIsOff proof.managedTunnel) &&
  match proof.cleanup with
  | .systemProxy listenerClosed restored => listenerClosed && restored
  | .tunnel libboxStopped packetPumpClosed => libboxStopped && packetPumpClosed
  | .reconciledBoth proxyListenerClosed restored providerLibboxStopped packetPumpClosed =>
    proxyListenerClosed && restored && providerLibboxStopped && packetPumpClosed
  | .unknown => false

def applyOffProof (proof : GlobalOffProof) (expectedRevision : UInt64) :
    Checked (AuthorityOffResolution × GlobalAuthorityReducer) := do
  r.requireExpectedRevision expectedRevision (r.lease.map (·.operation))
  require (r.pendingMutation = none) (.domain { code := .busy })
  require (r.state = .stopping ∨ r.state = .recovering ∨ r.state = .quarantined)
    (.domain { code := .cleanupUnproven })
  let next ← r.incrementedRevision
  if proofIsExact proof ∧ (r.state ≠ .stopping ∨ r.ownerStopped) then
    pure (.off next, { r with
      revision := next
      lease := none
      ownerBinding := none
      retainsCapabilityOrTicket := false
      retainsSecretBuffer := false
      ownerStopped := false
      state := .off
      lastMutation := some (if r.state = .quarantined ∨ r.state = .recovering then .reconcileOff
        else .globalOff)
      acceptedReadyAttestation := none
      pendingMutation := none })
  else
    pure (.quarantined next, { r with
      revision := next
      retainsCapabilityOrTicket :=
        if proof.capabilityOrTicketCleared then false else r.retainsCapabilityOrTicket
      retainsSecretBuffer := if proof.secretBufferCleared then false else r.retainsSecretBuffer
      ownerBinding := if proof.ownerEndpointCleared then none else r.ownerBinding
      lease := r.lease.map (·.replacingLeaseState .revoked)
      state := .quarantined
      lastMutation := some .reconcileOff
      acceptedReadyAttestation := none
      pendingMutation := none })

end GlobalAuthorityReducer

end CfwRs.GlobalAuthority
