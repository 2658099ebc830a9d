import CfwRs.Lib.History
import CfwRs.GlobalAuthority.ReducerCases

namespace CfwRs.GlobalAuthority

open Lib Lib.Checked Lib.History

inductive ReducerOperation
  | enrollOff (installationID : AuthorityIdentifier)
  | prepare (input : AuthorityPrepareInput)
  | bindOwner (binding : AuthorityOwnerBinding)
  | attestReady (attestation : ReadyAttestation) (ownerUID : UInt32)
      (connectionNonce : SHA256Digest)
  | abortPrepared (operation : OperationContext) (expectedRevision : UInt64)
  | beginStop (request : BeginStopRequest)
  | revokeForConsoleChange (liveConsoleUID : Option UInt32) (ownerConnectionNonce : SHA256Digest)
  | revokeForLiveness
  | attestStopped (attestation : StoppedAttestation) (ownerUID : UInt32)
      (connectionNonce : SHA256Digest)
  | applyOffProof (proof : GlobalOffProof) (expectedRevision : UInt64)
  | recordPersistedHead (head : AuthorityJournalHead)

namespace GlobalAuthorityReducer

def apply (r : GlobalAuthorityReducer) : ReducerOperation → Checked GlobalAuthorityReducer
  | .enrollOff installationID => r.enrollOff installationID
  | .prepare input => (r.prepare input).map Prod.snd
  | .bindOwner binding => (r.bindOwner binding).map Prod.snd
  | .attestReady attestation uid nonce => (r.attestReady attestation uid nonce).map Prod.snd
  | .abortPrepared operation revision => (r.abortPrepared operation revision).map Prod.snd
  | .beginStop request => (r.beginStop request).map Prod.snd
  | .revokeForConsoleChange uid nonce => (r.revokeForConsoleChange uid nonce).map Prod.snd
  | .revokeForLiveness => r.revokeForLiveness.map Prod.snd
  | .attestStopped attestation uid nonce => (r.attestStopped attestation uid nonce).map Prod.snd
  | .applyOffProof proof revision => (r.applyOffProof proof revision).map Prod.snd
  | .recordPersistedHead head => r.recordPersistedHead head

def next (r : GlobalAuthorityReducer) (op : ReducerOperation) : GlobalAuthorityReducer :=
  match r.apply op with
  | .ok r' => r'
  | .error _ => r

def Step (r : GlobalAuthorityReducer) (op : ReducerOperation) (r' : GlobalAuthorityReducer) : Prop :=
  r' = r.next op

theorem step_next (r : GlobalAuthorityReducer) (op) : r.Step op (r.next op) := rfl

def StartsOff (r : GlobalAuthorityReducer) : Prop :=
  (∃ revision, unEnrolledOff revision = .ok r) ∨
    ∃ installationID revision, enrolledOff installationID revision = .ok r

theorem Step.cases {r r' : GlobalAuthorityReducer} {op} (h : r.Step op r') :
    r.apply op = .ok r' ∨ r' = r ∧ ∀ s, r.apply op ≠ .ok s := by
  unfold Step next at h
  split at h
  · next s hs => exact .inl (h ▸ hs)
  · next e he => exact .inr ⟨h, fun s ↦ by simp [he]⟩

abbrev ReducerEntry := Entry GlobalAuthorityReducer ReducerOperation

/-- The steps taken so far while the lease that is held now was held. -/
def leaseLife (t : List ReducerEntry) : List ReducerEntry := during (fun r ↦ r.lease.isSome) t

def Binds (e : ReducerEntry) : Prop :=
  ∃ binding, e.input = .bindOwner binding ∧ e.before.apply e.input = .ok e.after

def AttestsStopped (i : LeaseIdentity) (e : ReducerEntry) : Prop :=
  ∃ attestation, e.input = .attestStopped attestation i.ownerUID i.ownerConnectionNonce ∧
    attestation.operation = i.operation ∧ attestation.leaseID = i.leaseID ∧
    e.before.apply e.input = .ok e.after

def AbortsUnbound (older : List ReducerEntry) (e : ReducerEntry) : Prop :=
  (∃ operation revision, e.input = .abortPrepared operation revision) ∧
    e.before.apply e.input = .ok e.after ∧ ∀ b ∈ older, ¬Binds b

/-- What must have happened in the life of a lease before it may end from `stopping`. -/
def StopEvidence (i : LeaseIdentity) (life : List ReducerEntry) : Prop :=
  ∃ e older, e :: older <:+ life ∧ (AttestsStopped i e ∨ AbortsUnbound older e)

theorem StopEvidence.cons {i life} (h : StopEvidence i life) (e) : StopEvidence i (e :: life) := by
  obtain ⟨e', older, hs, h⟩ := h
  exact ⟨e', older, hs.trans (List.suffix_cons e life), h⟩

/-- What a successful operation can do to the lease and to the owner's stop. -/
inductive Effect (r : GlobalAuthorityReducer) (op : ReducerOperation)
    (r' : GlobalAuthorityReducer) : Prop
  | keeps (hlease : r'.lease.map (·.identity) = r.lease.map (·.identity))
      (hstopped : r'.ownerStopped = true → r.ownerStopped = true)
      (hpreparing : r'.state = .preparing → r.state = .preparing ∧ ∀ b, op ≠ .bindOwner b)
  | stopsOwner (a : StoppedAttestation) (l : GlobalLease) (hl : r.lease = some l)
      (hop : op = .attestStopped a l.operation.ownerUID l.ownerConnectionNonce)
      (hoperation : a.operation = l.operation) (hid : a.leaseID = l.leaseID)
      (hlease : r'.lease.map (·.identity) = r.lease.map (·.identity))
      (hstate : r'.state = .stopping)
  | abortsUnbound (operation : OperationContext) (n : UInt64) (l : GlobalLease)
      (hop : op = .abortPrepared operation n) (hpreparing : r.state = .preparing)
      (hl : r.lease = some l) (hlease : r'.lease.map (·.identity) = r.lease.map (·.identity))
      (hstate : r'.state = .stopping)
  | prepares (input : AuthorityPrepareInput) (hop : op = .prepare input)
      (hprepares : r.Prepares input r')
  | releases (proof : GlobalOffProof) (n : UInt64) (hop : op = .applyOffProof proof n)
      (hexact : r.Exact proof) (hlease : r'.lease = none) (hstopped : r'.ownerStopped = false)
      (hstate : r'.state = .off)

variable {r r' : GlobalAuthorityReducer} {op : ReducerOperation}

theorem Effect.unchanged (hop : ∀ b, op ≠ .bindOwner b) : Effect r op r :=
  .keeps rfl id fun h ↦ ⟨h, hop⟩

theorem Effect.of_stops {leaseState mutation n} (h : n = r.revision ∧ r' = r ∨ r.Stops leaseState mutation n r')
    (hop : ∀ b, op ≠ .bindOwner b) : Effect r op r' := by
  rcases h with ⟨-, rfl⟩ | ⟨-, -, -, l, hl, rfl⟩
  · exact .unchanged hop
  · exact .keeps (by simp [enterStopping, hl]) (by simp [enterStopping]) (by simp [enterStopping])

/-- The operations the lease depends on, one case each; every other one keeps it. -/
theorem effect_of_apply (h : r.apply op = .ok r') : Effect r op r' := by
  cases op with
  | enrollOff i =>
    obtain ⟨hs, -, -, -, rfl⟩ := enrollOff_cases h
    exact .keeps rfl id (by simp)
  | prepare input =>
    obtain ⟨a, h⟩ := map_snd_eq_ok.mp h
    exact .prepares input rfl (prepare_cases h)
  | bindOwner b =>
    obtain ⟨n, h⟩ := map_snd_eq_ok.mp h
    obtain ⟨-, -, -, l, hl, -, -, rfl⟩ := bindOwner_cases h
    exact .keeps (by simp [hl]) id (by simp)
  | attestReady a uid nonce =>
    obtain ⟨n, h⟩ := map_snd_eq_ok.mp h
    rcases attestReady_cases h with ⟨-, rfl⟩ | ⟨-, -, -, l, hl, rfl⟩
    · exact .unchanged (by simp)
    · exact .keeps (by simp [hl]) id (by simp)
  | abortPrepared operation n =>
    obtain ⟨n, h⟩ := map_snd_eq_ok.mp h
    obtain ⟨hs, -, -, l, hl, -, rfl⟩ := abortPrepared_cases h
    exact .abortsUnbound operation _ l rfl hs hl (by simp [hl]) rfl
  | beginStop request =>
    obtain ⟨n, h⟩ := map_snd_eq_ok.mp h
    exact .of_stops (beginStop_cases h) (by simp)
  | revokeForConsoleChange uid nonce =>
    obtain ⟨n, h⟩ := map_snd_eq_ok.mp h
    exact .of_stops (revokeForConsoleChange_cases h) (by simp)
  | revokeForLiveness =>
    obtain ⟨n, h⟩ := map_snd_eq_ok.mp h
    exact .of_stops (revokeForLiveness_cases h) (by simp)
  | attestStopped a uid nonce =>
    obtain ⟨n, h⟩ := map_snd_eq_ok.mp h
    obtain ⟨-, l, hl, hid, hop, rfl, rfl, ⟨-, -, rfl⟩ | hstops⟩ := attestStopped_cases h
    · exact .unchanged (by simp)
    · obtain ⟨s, hs⟩ := hstops.lease_after
      exact .stopsOwner a l hl rfl hop.symm hid.symm (by simp [hs, hl]) hstops.state_eq
  | applyOffProof proof n =>
    obtain ⟨n, h⟩ := map_snd_eq_ok.mp h
    obtain ⟨-, -, -, ⟨hexact, -, rfl⟩ | ⟨-, -, rfl⟩⟩ := applyOffProof_cases h
    · exact .releases proof _ rfl hexact rfl rfl rfl
    · refine .keeps ?_ id (by simp)
      cases r.lease <;> rfl
  | recordPersistedHead head =>
    rcases recordPersistedHead_cases h with rfl | ⟨c, c', -, -, -, -, -, -, -, rfl⟩
    · exact .unchanged (by simp)
    · exact .keeps rfl id fun h ↦ ⟨h, by simp⟩

/-- A stopped owner has left its evidence in the life of the lease, and a preparing one is
still unbound. -/
structure Accounted (t : List ReducerEntry) (r : GlobalAuthorityReducer) : Prop where
  stopped : r.ownerStopped = true → ∃ l, r.lease = some l ∧ StopEvidence l.identity (leaseLife t)
  preparing : r.state = .preparing → ∀ e ∈ leaseLife t, ¬Binds e

variable {t : List ReducerEntry}

theorem leaseLife_cons_of_some {l} (h : r.lease = some l) :
    leaseLife (⟨r, op, r'⟩ :: t) = ⟨r, op, r'⟩ :: leaseLife t :=
  during_cons_of_held (by simp [h])

theorem leaseLife_cons_of_none (h : r.lease = none) : leaseLife (⟨r, op, r'⟩ :: t) = [] :=
  during_cons_of_not_held (by simp [h])

theorem Accounted.start (h : r.StartsOff) : Accounted [] r := by
  have hnew {i : Option AuthorityIdentifier} {n : UInt64} (h : new .off n i = .ok r) :
      r.ownerStopped = false ∧ r.state = .off := by
    simp only [new, ok_iff] at h
    obtain ⟨-, -, -, -, -, -, -, -, -, -, rfl⟩ := h
    exact ⟨rfl, rfl⟩
  obtain ⟨hs, ho⟩ : r.ownerStopped = false ∧ r.state = .off := by
    rcases h with ⟨n, h⟩ | ⟨i, n, h⟩ <;> exact hnew h
  exact ⟨by simp [hs], by simp [ho]⟩

theorem identity_of_map_eq {l} (hl : r.lease = some l)
    (h : r'.lease.map (·.identity) = r.lease.map (·.identity)) :
    ∃ l', r'.lease = some l' ∧ l'.identity = l.identity := by
  rw [hl, Option.map_some, Option.map_eq_some_iff] at h
  exact h

theorem lease_none_of_map_eq (hl : r.lease = none)
    (h : r'.lease.map (·.identity) = r.lease.map (·.identity)) : r'.lease = none := by
  rw [hl, Option.map_none, Option.map_eq_none_iff] at h
  exact h

theorem Accounted.keep (hi : Accounted t r)
    (hlease : r'.lease.map (·.identity) = r.lease.map (·.identity))
    (hstopped : r'.ownerStopped = true → r.ownerStopped = true)
    (hpreparing : r'.state = .preparing → r.state = .preparing ∧ ¬Binds ⟨r, op, r'⟩) :
    Accounted (⟨r, op, r'⟩ :: t) r' := by
  cases hl : r.lease with
  | none =>
    refine ⟨fun h ↦ ?_, fun _ ↦ by simp [leaseLife_cons_of_none hl]⟩
    obtain ⟨l, hsome, -⟩ := hi.stopped (hstopped h)
    simp [hl] at hsome
  | some l =>
    obtain ⟨l', hl', hid⟩ := identity_of_map_eq hl hlease
    refine ⟨fun h ↦ ?_, fun h e he ↦ ?_⟩
    · obtain ⟨l₀, hl₀, hev⟩ := hi.stopped (hstopped h)
      cases hl.symm.trans hl₀
      exact ⟨l', hl', by rw [hid, leaseLife_cons_of_some hl]; exact hev.cons _⟩
    · rw [leaseLife_cons_of_some hl, List.mem_cons] at he
      rcases he with rfl | he
      · exact (hpreparing h).2
      · exact hi.preparing (hpreparing h).1 e he

theorem Accounted.step (hi : Accounted t r) (hs : r.Step op r') :
    Accounted (⟨r, op, r'⟩ :: t) r' := by
  rcases hs.cases with happly | ⟨rfl, hthrows⟩
  · cases effect_of_apply happly with
    | keeps hlease hstopped hpreparing =>
      refine hi.keep hlease hstopped fun h ↦ ⟨(hpreparing h).1, ?_⟩
      rintro ⟨b, hop, -⟩
      exact (hpreparing h).2 b hop
    | stopsOwner a l hl hop hoperation hid hlease hstate =>
      obtain ⟨l', hl', hidentity⟩ := identity_of_map_eq hl hlease
      refine ⟨fun _ ↦ ⟨l', hl', ?_⟩, by simp [hstate]⟩
      rw [hidentity, leaseLife_cons_of_some hl]
      exact ⟨_, _, List.suffix_refl _, .inl ⟨a, hop, hoperation, hid, happly⟩⟩
    | abortsUnbound operation n l hop hpreparing hl hlease hstate =>
      obtain ⟨l', hl', -⟩ := identity_of_map_eq hl hlease
      refine ⟨fun _ ↦ ⟨l', hl', ?_⟩, by simp [hstate]⟩
      rw [leaseLife_cons_of_some hl]
      exact ⟨_, _, List.suffix_refl _, .inr ⟨⟨operation, n, hop⟩, happly, hi.preparing hpreparing⟩⟩
    | prepares input hop hprepares =>
      exact ⟨by simp [hprepares.not_stopped],
        fun _ ↦ by simp [leaseLife_cons_of_none hprepares.no_lease]⟩
    | releases proof n hop hexact hlease hstopped hstate =>
      exact ⟨by simp [hstopped], by simp [hstate]⟩
  · exact hi.keep rfl id fun h ↦ ⟨h, fun ⟨_, _, happly⟩ ↦ hthrows _ happly⟩

theorem accounted_of_run (h : Run StartsOff Step t r) : Accounted t r := by
  induction h with
  | start h => exact .start h
  | step _ hs ih => exact ih.step hs

/-- What one step of a run may do to the lease, given the steps before it. -/
structure LeaseRules (older : List ReducerEntry) (e : ReducerEntry) : Prop where
  identity_kept : ∀ l l', e.before.lease = some l → e.after.lease = some l' →
    l'.identity = l.identity
  created_by_prepare : e.before.lease = none → e.after.lease ≠ none →
    ∃ input, e.input = .prepare input ∧ e.before.apply e.input = .ok e.after ∧
      e.before.state = .off
  released_by_exact_proof : ∀ l, e.before.lease = some l → e.after.lease = none →
    (∃ proof revision, e.input = .applyOffProof proof revision ∧
      e.before.apply e.input = .ok e.after ∧ proofIsExact proof = true) ∧
      (e.before.state = .stopping → StopEvidence l.identity (leaseLife older))

theorem LeaseRules.of_map_eq {older e}
    (h : e.after.lease.map (·.identity) = e.before.lease.map (·.identity)) :
    LeaseRules older e where
  identity_kept l l' hl hl' := by
    obtain ⟨l'', hl'', hid⟩ := identity_of_map_eq hl h
    rw [Option.some.inj (hl'.symm.trans hl''), hid]
  created_by_prepare hl hl' := absurd (lease_none_of_map_eq hl h) hl'
  released_by_exact_proof l hl hl' := by
    obtain ⟨l'', hl'', -⟩ := identity_of_map_eq hl h
    simp [hl'] at hl''

/-- The lease is held by one owner at a time: no operation transfers it, only a `prepare` from
Off creates one, and one that is stopping ends only after its own owner stopped. -/
theorem lease_exclusive_and_never_transferred {t : List ReducerEntry}
    (h : Run StartsOff Step t r) {e : ReducerEntry} {older : List ReducerEntry}
    (he : e :: older <:+ t) : LeaseRules older e := by
  obtain ⟨hrun, hstep⟩ := h.of_suffix he
  have hacc := accounted_of_run hrun
  rcases hstep.cases with happly | ⟨heq, -⟩
  · cases effect_of_apply happly with
    | keeps hlease _ _ => exact .of_map_eq hlease
    | stopsOwner a l hl hop hoperation hid hlease _ => exact .of_map_eq hlease
    | abortsUnbound operation n l hop _ hl hlease _ => exact .of_map_eq hlease
    | prepares input hop hprepares =>
      have hnone := hprepares.no_lease
      exact ⟨by simp [hnone], fun _ _ ↦ ⟨input, hop, happly, hprepares.off⟩, by simp [hnone]⟩
    | releases proof n hop hexact hlease _ _ =>
      refine ⟨by simp [hlease], by simp [hlease], fun l hl _ ↦ ⟨⟨proof, n, hop, happly, hexact.1⟩,
        fun hstate ↦ ?_⟩⟩
      have hstopped := hexact.2.resolve_left (not_not.mpr hstate)
      obtain ⟨l', hl', hev⟩ := hacc.stopped hstopped
      rwa [Option.some.inj (hl.symm.trans hl')]
  · exact .of_map_eq (by rw [heq])

def sampleOperation : OperationContext where
  operationID := .fill 16 1
  root := { installationID := .fill 16 2, epoch := 1, generation := 1 }
  mode := .localProxy
  configSHA256 := .fill 32 3
  identitySHA256 := .fill 32 4
  ownerUID := 501
  authorityRevision := 1

def sampleInput : AuthorityPrepareInput where
  request :=
    { operation := sampleOperation
      expectedRevision := 1
      configuration :=
        { byteCount := 1, configSHA256 := .fill 32 3, identitySHA256 := .fill 32 4
          credentialSlots := [] } }
  leaseID := .fill 16 5
  ownerConnectionNonce := .fill 32 6
  issuedMonotonic := 1000
  expiryMonotonic := 11000
  retainsSecretBuffer := false

def sampleProof : GlobalOffProof where
  leaseReleased := true
  capabilityOrTicketCleared := true
  secretBufferCleared := true
  ownerEndpointCleared := true
  cleanup := .systemProxy true true
  managedTunnel := .disconnected

def sampleStart : GlobalAuthorityReducer where
  state := .off
  revision := 1
  enrolledInstallationID := some (.fill 16 2)
  replayCursor := none
  lease := none
  ownerBinding := none
  pendingMutation := none
  retainsCapabilityOrTicket := false
  retainsSecretBuffer := false
  ownerStopped := false
  lastMutation := none
  acceptedReadyAttestation := none

def sampleAbort : List ReducerOperation :=
  [.prepare sampleInput, .abortPrepared sampleOperation 2, .applyOffProof sampleProof 3]

theorem sampleStart_startsOff : sampleStart.StartsOff := .inr ⟨.fill 16 2, 1, rfl⟩

theorem sampleAbort_run : Run StartsOff Step (execute next ([], sampleStart) sampleAbort).1
    (execute next ([], sampleStart) sampleAbort).2 :=
  (Run.start sampleStart_startsOff).execute step_next sampleAbort

theorem lease_released_after_abort :
    ∃ e older, e :: older <:+ (execute next ([], sampleStart) sampleAbort).1 ∧
      e.before.state = .stopping ∧ e.before.lease ≠ none ∧ e.after.lease = none ∧
      LeaseRules older e :=
  ⟨_, _, List.suffix_refl _, by decide, by decide, by decide,
    lease_exclusive_and_never_transferred sampleAbort_run (List.suffix_refl _)⟩

end GlobalAuthorityReducer

end CfwRs.GlobalAuthority
