import CfwRs.GlobalAuthority.Reducer

namespace CfwRs.GlobalAuthority

open Lib Lib.Checked

/-- The part of a lease that no operation may change: all of it but its lifecycle state. -/
structure LeaseIdentity where
  leaseID : AuthorityIdentifier
  operation : OperationContext
  ownerUID : UInt32
  ownerConnectionNonce : SHA256Digest
  issuedMonotonic : UInt64
  expiryMonotonic : UInt64
deriving DecidableEq

def GlobalLease.identity (l : GlobalLease) : LeaseIdentity where
  leaseID := l.leaseID
  operation := l.operation
  ownerUID := l.operation.ownerUID
  ownerConnectionNonce := l.ownerConnectionNonce
  issuedMonotonic := l.issuedMonotonic
  expiryMonotonic := l.expiryMonotonic

@[simp] theorem GlobalLease.identity_replacingLeaseState (l : GlobalLease)
    (state) : (l.replacingLeaseState state).identity = l.identity := rfl

namespace GlobalAuthorityReducer

variable {r r' : GlobalAuthorityReducer}
variable {expected n : UInt64} {nonce : SHA256Digest} {u : Unit}
variable {operation : OperationContext} {uid : Option UInt32}

@[simp] theorem requireExpectedRevision_eq_ok {operation} :
    r.requireExpectedRevision expected operation = .ok u ↔ expected = r.revision := by
  simp [requireExpectedRevision]

@[simp] theorem incrementedRevision_eq_ok {next} :
    r.incrementedRevision = .ok next ↔ r.revision < maxWord ∧ r.revision + 1 = next := by
  simp only [incrementedRevision, ok_iff, exists_const]

@[simp] theorem requireOff_eq_ok : r.requireOff operation = .ok u ↔ r.state = .off := by
  unfold requireOff
  cases r.state <;> simp

@[simp] theorem requireExactLease_eq_ok {leaseID nonce} : r.requireExactLease operation leaseID uid nonce = .ok u ↔
      ∃ l, r.lease = some l ∧ l.leaseID = leaseID ∧ l.operation = operation ∧
        (∀ i ∈ uid, l.operation.ownerUID = i) ∧ ∀ n ∈ nonce, l.ownerConnectionNonce = n := by
  simp [requireExactLease, and_assoc]

theorem enrollOff_cases {i} (h : r.enrollOff i = .ok r') :
    r.state = .off ∧ r.replayCursor = none ∧ r.enrolledInstallationID = none ∧ r.lease = none ∧
      r' = { r with enrolledInstallationID := some i, lastMutation := some .enrollOff } := by
  simp only [enrollOff, ok_iff] at h
  obtain ⟨-, ⟨hs, hc, he, hl, -⟩, h⟩ := h
  exact ⟨hs, hc, he, hl, h.symm⟩

/-- Everything a successful `prepare` checked, and the reducer it leaves. -/
structure Prepares (r : GlobalAuthorityReducer) (input : AuthorityPrepareInput)
    (r' : GlobalAuthorityReducer) : Prop where
  expected : input.request.expectedRevision = r.revision
  off : r.state = .off
  no_lease : r.lease = none
  same_installation :
    ∀ i ∈ r.enrolledInstallationID, i = input.request.operation.root.installationID
  after_cursor : ∀ c ∈ r.replayCursor,
    c.installationID = input.request.operation.root.installationID ∧
      PairLess (c.acceptedEpoch, c.acceptedGeneration)
        (input.request.operation.root.epoch, input.request.operation.root.generation)
  not_last : r.revision < maxWord
  state_eq : r'.state = .preparing
  revision_eq : r'.revision = r.revision + 1
  enrolled_eq : r'.enrolledInstallationID = some input.request.operation.root.installationID
  cursor_eq : ∃ c, r'.replayCursor = some c ∧
    c.installationID = input.request.operation.root.installationID ∧
    c.acceptedEpoch = input.request.operation.root.epoch ∧
    c.acceptedGeneration = input.request.operation.root.generation ∧ c.revision = r.revision + 1
  lease_eq : ∃ l, r'.lease = some l ∧ l.leaseID = input.leaseID ∧
    l.operation = input.request.operation ∧ l.state = .prepared
  no_binding : r'.ownerBinding = none
  not_stopped : r'.ownerStopped = false
  pending_eq : r'.pendingMutation = none
  mutation_eq : r'.lastMutation = some .prepare

theorem prepare_cases {input a} (h : r.prepare input = .ok (a, r')) : r.Prepares input r' := by
  simp only [prepare, ok_iff, requireExpectedRevision_eq_ok, requireOff_eq_ok,
    incrementedRevision_eq_ok, ReplayCursor.new_eq_ok, GlobalLease.new_eq_ok] at h
  obtain ⟨-, hexp, -, -, -, hoff, -, ⟨hl, -⟩, -, hi, -, hc, -, -, n, ⟨hmax, rfl⟩, c,
    ⟨hc₁, hc₂, hc₃, hc₄, -⟩, l, ⟨hl₁, hl₂, hl₃, -⟩, -, rfl⟩ := h
  exact
    { expected := hexp, off := hoff, no_lease := hl, same_installation := hi, after_cursor := hc
      not_last := hmax, state_eq := rfl, revision_eq := rfl, enrolled_eq := rfl
      cursor_eq := ⟨c, rfl, hc₁, hc₂, hc₃, hc₄⟩, lease_eq := ⟨l, rfl, hl₁, hl₂, hl₃⟩
      no_binding := rfl, not_stopped := rfl, pending_eq := rfl, mutation_eq := rfl }

theorem recordPersistedHead_cases {head} (h : r.recordPersistedHead head = .ok r') :
    r' = r ∨ ∃ c c', r.replayCursor = some c ∧ c.revision = r.revision ∧
      c'.installationID = c.installationID ∧ c'.acceptedEpoch = c.acceptedEpoch ∧
      c'.acceptedGeneration = c.acceptedGeneration ∧ c'.revision = c.revision ∧
      c'.previousRecordSHA256 = head.recordSHA256 ∧ r' = { r with replayCursor := some c' } := by
  unfold recordPersistedHead at h
  split at h
  · simp only [pure_eq_ok] at h
    exact .inl h.symm
  · next c hc =>
    split at h
    · next hrev =>
      simp only [ok_iff, ReplayCursor.new_eq_ok] at h
      obtain ⟨c', ⟨h₁, h₂, h₃, h₄, h₅⟩, h⟩ := h
      exact .inr ⟨c, c', hc, hrev, h₁, h₂, h₃, h₄, h₅, h.symm⟩
    · simp only [pure_eq_ok] at h
      exact .inl h.symm

theorem bindOwner_cases {b} (h : r.bindOwner b = .ok (n, r')) :
    r.state = .preparing ∧ r.revision < maxWord ∧ n = r.revision + 1 ∧
      ∃ l, r.lease = some l ∧ l.leaseID = b.leaseID ∧ l.operation = b.operation ∧ r' = { r with
          lease := some (l.replacingLeaseState .starting), ownerBinding := some b
          state := .starting, revision := r.revision + 1, lastMutation := some .bindOwner
          pendingMutation := none } := by
  simp only [bindOwner, ok_iff, requireExactLease_eq_ok, incrementedRevision_eq_ok] at h
  obtain ⟨-, -, -, hs, l, hl, -, ⟨l', hl', hid, hop, -⟩, -, -, m, ⟨hmax, rfl⟩, rfl, rfl⟩ := h
  cases hl.symm.trans hl'
  exact ⟨hs, hmax, rfl, l, hl, hid, hop, rfl⟩

theorem attestReady_cases {a uid}
    (h : r.attestReady a uid nonce = .ok (n, r')) : n = r.revision ∧ r' = r ∨
      r.state = .starting ∧ r.revision < maxWord ∧ n = r.revision + 1 ∧
        ∃ l, r.lease = some l ∧ r' = { r with
          lease := some (l.replacingLeaseState .active), state := .active
          revision := r.revision + 1, lastMutation := some .ready
          acceptedReadyAttestation := some a, pendingMutation := none } := by
  simp only [attestReady, ok_iff] at h
  obtain ⟨-, -, -, hs, l, hl, -, -, -, -, -, -, h⟩ := h
  split at h
  · simp only [ok_iff] at h
    obtain ⟨-, -, rfl, rfl⟩ := h
    exact .inl ⟨rfl, rfl⟩
  · next hactive =>
    simp only [ok_iff, incrementedRevision_eq_ok] at h
    obtain ⟨m, ⟨hmax, rfl⟩, rfl, rfl⟩ := h
    exact .inr ⟨hs.resolve_right hactive, hmax, rfl, l, hl, rfl⟩

theorem abortPrepared_cases (h : r.abortPrepared operation expected = .ok (n, r')) :
    r.state = .preparing ∧ r.revision < maxWord ∧ n = r.revision + 1 ∧
      ∃ l, r.lease = some l ∧ l.operation = operation ∧ r' = { r with
        lease := some (l.replacingLeaseState .stopping), ownerBinding := none
        retainsCapabilityOrTicket := false, retainsSecretBuffer := false, ownerStopped := true
        state := .stopping, revision := r.revision + 1, lastMutation := some .abortPrepared
        acceptedReadyAttestation := none, pendingMutation := none } := by
  simp only [abortPrepared, ok_iff, incrementedRevision_eq_ok] at h
  obtain ⟨-, -, -, -, -, hs, l, hl, -, hop, m, ⟨hmax, rfl⟩, rfl, rfl⟩ := h
  exact ⟨hs, hmax, rfl, l, hl, hop, rfl⟩

theorem unchanged_of_eq_ok {P : Prop}
    (h : pure (r.revision, r) = (.ok (n, r') : Except AuthorityReducerError _)) :
    n = r.revision ∧ r' = r ∨ P := by
  cases h
  exact .inl ⟨rfl, rfl⟩

def Stops (r : GlobalAuthorityReducer) (leaseState : AuthorityLeaseState)
    (mutation : AuthorityDurableMutationKind) (n : UInt64) (r' : GlobalAuthorityReducer) : Prop :=
  (r.state = .preparing ∨ r.state = .starting ∨ r.state = .active) ∧ r.revision < maxWord ∧
    n = r.revision + 1 ∧
    ∃ l, r.lease = some l ∧ r' = r.enterStopping l leaseState mutation (r.revision + 1)

theorem beginStop_cases {request} (h : r.beginStop request = .ok (n, r')) :
    n = r.revision ∧ r' = r ∨ r.Stops .stopping .beginStop n r' := by
  simp only [beginStop, ok_iff] at h
  obtain ⟨-, -, l, hl, -, -, h⟩ := h
  split at h
  · split at h <;> simp only [ok_iff, Prod.mk.injEq] at h
    · exact .inl ⟨h.1.symm, h.2.symm⟩
    · obtain ⟨-, -, h₁, h₂⟩ := h
      exact .inl ⟨h₁.symm, h₂.symm⟩
  · simp only [ok_iff, incrementedRevision_eq_ok] at h
    obtain ⟨-, -, -, hs, m, ⟨hmax, rfl⟩, rfl, rfl⟩ := h
    exact .inr ⟨hs, hmax, rfl, l, hl, rfl⟩

theorem revokeForConsoleChange_cases (h : r.revokeForConsoleChange uid nonce = .ok (n, r')) :
    n = r.revision ∧ r' = r ∨ r.Stops .revoked .revokeForConsoleChange n r' := by
  simp only [revokeForConsoleChange, ok_iff] at h
  obtain ⟨-, -, h⟩ := h
  split at h
  · exact unchanged_of_eq_ok h
  · next l hl =>
    simp only [ok_iff] at h
    obtain ⟨-, -, h⟩ := h
    split at h
    · exact unchanged_of_eq_ok h
    · split at h
      · exact unchanged_of_eq_ok h
      · simp only [ok_iff, incrementedRevision_eq_ok] at h
        obtain ⟨-, hs, m, ⟨hmax, rfl⟩, rfl, rfl⟩ := h
        exact .inr ⟨hs, hmax, rfl, l, hl, rfl⟩

theorem revokeForLiveness_cases (h : r.revokeForLiveness = .ok (n, r')) :
    n = r.revision ∧ r' = r ∨ r.Stops .revoked .revokeForTimeout n r' := by
  simp only [revokeForLiveness, ok_iff] at h
  obtain ⟨-, -, h⟩ := h
  split at h
  · exact unchanged_of_eq_ok h
  · next l hl =>
    split at h
    · exact unchanged_of_eq_ok h
    · simp only [ok_iff, incrementedRevision_eq_ok] at h
      obtain ⟨-, hs, m, ⟨hmax, rfl⟩, rfl, rfl⟩ := h
      exact .inr ⟨hs, hmax, rfl, l, hl, rfl⟩

/-- A first stop attestation of a lease, by the owner it names. -/
structure StopsOwner (r : GlobalAuthorityReducer) (l : GlobalLease) (n : UInt64)
    (r' : GlobalAuthorityReducer) : Prop where
  lease_eq : r.lease = some l
  not_last : r.revision < maxWord
  next_eq : n = r.revision + 1
  state_eq : r'.state = .stopping
  revision_eq : r'.revision = r.revision + 1
  enrolled_eq : r'.enrolledInstallationID = r.enrolledInstallationID
  cursor_eq : r'.replayCursor = r.replayCursor
  lease_after : ∃ s, r'.lease = some (l.replacingLeaseState s)
  binding_eq : r'.ownerBinding = r.ownerBinding
  stopped : r'.ownerStopped = true
  pending_eq : r'.pendingMutation = none
  mutation_eq : r'.lastMutation = some .ownerStopped

theorem attestStopped_cases {a uid} (h : r.attestStopped a uid nonce = .ok (n, r')) :
    (r.state = .starting ∨ r.state = .active ∨ r.state = .stopping) ∧
      ∃ l, r.lease = some l ∧ l.leaseID = a.leaseID ∧ l.operation = a.operation ∧
        l.operation.ownerUID = uid ∧ l.ownerConnectionNonce = nonce ∧
        (r.ownerStopped = true ∧ n = r.revision ∧ r' = r ∨ r.StopsOwner l n r') := by
  simp only [attestStopped, ok_iff, requireExactLease_eq_ok] at h
  obtain ⟨-, -, l, hl, -, hs, -, ⟨l', hl', hid, hop, huid, hnonce⟩, h⟩ := h
  cases hl.symm.trans hl'
  refine ⟨hs, l, hl, hid, hop, huid _ rfl, hnonce _ rfl, ?_⟩
  split at h
  · next hstopped =>
    simp only [pure_eq_ok, Prod.mk.injEq] at h
    exact .inl ⟨hstopped, h.1.symm, h.2.symm⟩
  · simp only [ok_iff, incrementedRevision_eq_ok] at h
    obtain ⟨m, ⟨hmax, rfl⟩, rfl, rfl⟩ := h
    have hkeep : l.replacingLeaseState l.state = l := rfl
    refine .inr ⟨hl, hmax, rfl, ?_, rfl, ?_, ?_, ?_, ?_, rfl, rfl, rfl⟩ <;> split
    · rfl
    · grind
    · rfl
    · rfl
    · rfl
    · rfl
    · exact ⟨_, rfl⟩
    · exact ⟨l.state, by rw [hkeep, hl]⟩
    · rfl
    · rfl

def Exact (r : GlobalAuthorityReducer) (proof : GlobalOffProof) : Prop :=
  proofIsExact proof = true ∧ (r.state ≠ .stopping ∨ r.ownerStopped = true)

instance (proof : GlobalOffProof) : Decidable (r.Exact proof) := inferInstanceAs (Decidable (_ ∧ _))

theorem applyOffProof_cases {proof resolution}
    (h : r.applyOffProof proof expected = .ok (resolution, r')) : expected = r.revision ∧
      (r.state = .stopping ∨ r.state = .recovering ∨ r.state = .quarantined) ∧
      r.revision < maxWord ∧ (r.Exact proof ∧ resolution = .off (r.revision + 1) ∧ r' = { r with
          revision := r.revision + 1, lease := none, ownerBinding := none
          retainsCapabilityOrTicket := false, retainsSecretBuffer := false, ownerStopped := false
          state := .off
          lastMutation := some (if r.state = .quarantined ∨ r.state = .recovering
            then .reconcileOff else .globalOff)
          acceptedReadyAttestation := none, pendingMutation := none } ∨
        ¬r.Exact proof ∧ resolution = .quarantined (r.revision + 1) ∧ r' = { r with
          revision := r.revision + 1
          retainsCapabilityOrTicket :=
            if proof.capabilityOrTicketCleared then false else r.retainsCapabilityOrTicket
          retainsSecretBuffer := if proof.secretBufferCleared then false else r.retainsSecretBuffer
          ownerBinding := if proof.ownerEndpointCleared then none else r.ownerBinding
          lease := r.lease.map (·.replacingLeaseState .revoked)
          state := .quarantined, lastMutation := some .reconcileOff
          acceptedReadyAttestation := none, pendingMutation := none }) := by
  simp only [applyOffProof, ok_iff, requireExpectedRevision_eq_ok, incrementedRevision_eq_ok] at h
  obtain ⟨-, hexp, -, -, -, hs, m, ⟨hmax, rfl⟩, h⟩ := h
  refine ⟨hexp, hs, hmax, ?_⟩
  split at h <;> simp only [pure_eq_ok, Prod.mk.injEq] at h
  · next hexact => exact .inl ⟨hexact, h.1.symm, h.2.symm⟩
  · next hexact => exact .inr ⟨hexact, h.1.symm, h.2.symm⟩

end GlobalAuthorityReducer

end CfwRs.GlobalAuthority
