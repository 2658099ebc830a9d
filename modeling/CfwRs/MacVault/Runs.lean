import CfwRs.MacVault.Documents

namespace CfwRs.MacVault

open Lib Lib.Checked SingBox Credentials

variable {Secret : Type} [DecidableEq Secret] {F : SecretFormat Secret}
  {stored : Option (StoredCredentialVaultBlob Secret)} {environment : Environment}

section Step

/-- What a call may do to the keychain item: nothing, or put a canonical document there that has
the old entries but those with a removed binding. -/
def Replaces (F : SecretFormat Secret) (removed : CredentialBinding → Prop)
    (stored stored' : Option (StoredCredentialVaultBlob Secret)) : Prop :=
  stored' = stored ∨ ∃ blob, stored' = some blob ∧ Canonical F blob ∧
    ∀ e ∈ entriesOf stored, e ∈ blob.data.entries ∨ removed e.binding

variable {audience : CredentialAudience} {required : List CredentialRef}
  {material : CredentialMaterial F} {removed : CredentialBinding → Prop}
variable {document : CredentialVaultDocument Secret} {n : ℕ}
  {request : CredentialGarbageCollectionCommitRequest}
  {stored' : Option (StoredCredentialVaultBlob Secret)}

theorem entries_of_load (h : load F environment n stored = .ok document) :
    document.entries = entriesOf stored := by
  simp only [load, bind_eq_ok] at h
  obtain ⟨-, -, h⟩ := h
  exact entries_of_decode h

section

variable (hs : Stored F stored)
include hs

theorem replaces_merged {merged}
    (h : load F environment n stored >>= merge audience required material
      (environment.revision n) = .ok merged) :
    Replaces F removed stored (some ⟨merged, environment.revision n⟩) := by
  obtain ⟨document, hload, hmerge⟩ := bind_eq_ok.mp h
  have hentries := entries_of_load hload
  have hconsistent : Consistent F document.entries := hentries ▸ hs.consistent
  refine .inr ⟨_, rfl, canonical_merged hconsistent hmerge, fun e he ↦ .inl ?_⟩
  exact mem_merged hmerge (hentries ▸ he)

theorem provisionAttempts_replaces (attempts : ℕ) : Replaces F removed stored
      (provisionAttempts audience required material environment stored attempts).stored := by
  induction attempts with
  | zero => exact .inl rfl
  | succ attempts ih =>
    rw [provisionAttempts]
    split
    · exact .inl rfl
    · next merged hmerged =>
      split
      · exact replaces_merged hs hmerged
      · exact ih
      · exact replaces_merged hs hmerged
      · exact .inl rfl

theorem provision_replaces :
    Replaces F removed stored (provision audience required material environment stored).stored := by
  unfold provision
  split
  · exact .inl rfl
  · exact provisionAttempts_replaces hs _

theorem rebind_replaces {previousAudience slots} : Replaces F removed stored
      (rebindProfileCredentials F previousAudience audience slots environment stored).stored := by
  unfold rebindProfileCredentials
  split
  · exact .inl rfl
  · exact provision_replaces hs

theorem collect_replaces (h : collect F request environment stored = .ok (some document)) :
    Replaces F (· ∈ request.expectedOrphanBindings) stored
      (some ⟨document, environment.revision 1⟩) := by
  simp only [collect, ok_iff] at h
  obtain ⟨-, -, blob, rfl, -, -, decoded, hdecode, orphans, -, -, rfl, h⟩ := h
  split at h
  · cases h
  simp only [ok_iff, encode_eq_ok_iff, Option.some.injEq] at h
  obtain ⟨-, ⟨hbytes, rfl⟩, rfl⟩ := h
  obtain rfl := data_of_decode hdecode
  have hc := hs blob rfl
  refine .inr ⟨_, rfl, ?_, fun e he ↦ ?_⟩
  · exact {
      bytes_le := hbytes
      schemaVersion_eq := rfl
      revision_eq := rfl
      length_le := (List.length_filter_le _ _).trans hc.length_le
      ascending := hc.ascending.filter _
      consistent := hc.consistent.filter _ }
  · by_cases horphan : e.binding ∈ request.expectedOrphanBindings
    · exact .inr horphan
    · exact .inl (List.mem_filter.mpr ⟨he, decide_eq_true horphan⟩)

theorem commit_replaces : Replaces F (· ∈ request.expectedOrphanBindings) stored
      (commitGarbageCollection F request environment stored).stored := by
  unfold commitGarbageCollection
  split
  · exact .inl rfl
  · exact .inl rfl
  · next document hdocument =>
    split
    · exact collect_replaces hs hdocument
    · exact .inl rfl
    · exact collect_replaces hs hdocument
    · exact .inl rfl

end

def Call.removes : Call F → CredentialBinding → Prop
  | .provision .. | .rebind .. => fun _ ↦ False
  | .commitGarbageCollection request => (· ∈ request.expectedOrphanBindings)

theorem Call.apply_replaces (hs : Stored F stored) (call : Call F) :
    Replaces F call.removes stored (call.apply environment stored) := by
  cases call with
  | provision audience required material => exact provision_replaces hs
  | rebind previousAudience audience slots => exact rebind_replaces hs
  | commitGarbageCollection request => exact commit_replaces hs

omit [DecidableEq Secret] in
theorem Replaces.canonical (hs : Stored F stored) (h : Replaces F removed stored stored') :
    Stored F stored' := by
  rcases h with rfl | ⟨blob, rfl, hc, -⟩
  · exact hs
  · rintro _ ⟨⟩
    exact hc

omit [DecidableEq Secret] in
theorem Replaces.keeps (h : Replaces F removed stored stored') {e}
    (he : e ∈ entriesOf stored) : e ∈ entriesOf stored' ∨ removed e.binding := by
  rcases h with rfl | ⟨blob, rfl, -, hkeeps⟩
  · exact .inl he
  · exact hkeeps e he

end Step

/-- The keychain items that calls lead to from an empty vault. -/
inductive Reached (F : SecretFormat Secret) : Option (StoredCredentialVaultBlob Secret) → Prop
  | empty : Reached F none
  | call {stored : Option (StoredCredentialVaultBlob Secret)} (h : Reached F stored) (call : Call F)
      (environment : Environment) : Reached F (call.apply environment stored)

theorem Reached.canonical (h : Reached F stored) : Stored F stored := by
  induction h with
  | empty =>
    intro blob hblob
    cases hblob
  | call _ call environment ih => exact (call.apply_replaces ih).canonical ih

/-- The vault can be used: its document is accepted by `decode`, and no call fails with
`corrupt`. -/
structure Usable (F : SecretFormat Secret) (stored : Option (StoredCredentialVaultBlob Secret)) :
    Prop where
  accepted : ∀ blob, stored = some blob → ∀ fresh, decode F (some blob) fresh = .ok blob.data
  presence : ∀ audience references environment,
    presence F audience references environment stored ≠ .error .corrupt
  resolve : ∀ audience slots environment,
    resolve F audience slots environment stored ≠ .error .corrupt
  provision : ∀ audience required (material : CredentialMaterial F) environment,
    (provision audience required material environment stored).result ≠ .error .corrupt
  preview : ∀ catalog environment,
    previewGarbageCollection F catalog environment stored ≠ .error .corrupt

section Usable

variable (hs : Stored F stored) (hwithin : Within F stored)

include hs hwithin

theorem load_avoids (n : ℕ) : Avoids .corrupt (load F environment n stored) :=
  (avoids_require (by simp)).bind fun _ _ ↦ hs.decode_avoids hwithin

variable {audience : CredentialAudience} {material : CredentialMaterial F}
  {references : List CredentialRef}

omit hs hwithin in
theorem checkDistinct_avoids {seen} : Avoids .corrupt (checkDistinct seen references) := by
  induction references generalizing seen with
  | nil => exact avoids_ok _
  | cons reference references ih => exact (avoids_reject (by simp)).bind fun _ _ ↦ ih

theorem presence_avoids : Avoids .corrupt (presence F audience references environment stored) := by
  refine (avoids_reject (by simp)).bind fun _ _ ↦ checkDistinct_avoids.bind fun _ _ ↦ ?_
  exact (load_avoids hs hwithin 0).bind fun _ _ ↦ avoids_ok _

variable {required : List CredentialRef} {slots : List CredentialSlot}

omit hs hwithin in
theorem requiredReferences_avoids : Avoids .corrupt (requiredReferences required slots) := by
  induction slots generalizing required with
  | nil => exact avoids_ok _
  | cons slot slots ih =>
    rw [requiredReferences]
    split
    · exact ih
    · exact (avoids_reject (by simp)).bind fun _ _ ↦ ih

omit [DecidableEq Secret] hs hwithin in
theorem resolveEntries_avoids {entries} :
    Avoids .corrupt (resolveEntries F audience entries references) := by
  induction references with
  | nil => exact avoids_ok _
  | cons reference references ih =>
    refine (avoids_unwrap (by simp)).bind fun stored _ ↦ ?_
    refine Avoids.bind ?_ fun _ _ ↦ ih.bind fun _ _ ↦ avoids_ok _
    unfold CredentialMaterialEntry.new
    split <;> simp [Avoids]

omit [DecidableEq Secret] hs hwithin in
theorem material_avoids {entries : List (CredentialMaterialEntry F)} :
    Avoids .corrupt (CredentialMaterial.new entries) := by
  unfold CredentialMaterial.new
  split
  · next e he =>
    rintro ⟨⟩
    simp only [CredentialMaterial.check, bind_eq_error, reject_eq_error] at he
    rcases he with ⟨-, he⟩ | ⟨-, -, he⟩
    · cases he
    · rcases eq_of_checkTally_eq_error he with h | h <;> cases h
  · exact avoids_ok _

theorem resolve_avoids : Avoids .corrupt (resolve F audience slots environment stored) := by
  refine (avoids_reject (by simp)).bind fun _ _ ↦ requiredReferences_avoids.bind fun _ _ ↦ ?_
  exact (load_avoids hs hwithin 0).bind fun _ _ ↦ resolveEntries_avoids.bind fun _ _ ↦
    material_avoids

omit [DecidableEq Secret] hs hwithin in
theorem checkSupplied_avoids : Avoids .corrupt (checkSupplied required material) := by
  refine (avoids_reject (by simp)).bind fun _ _ ↦ checkDistinct_avoids.bind fun _ _ ↦ ?_
  exact avoids_each fun _ _ ↦ (avoids_unwrap (by simp)).bind fun _ _ ↦ avoids_reject (by simp)

theorem provisionAttempts_avoids (attempts : ℕ) : Avoids .corrupt
      (provisionAttempts audience required material environment stored attempts).result := by
  induction attempts with
  | zero => simp [provisionAttempts, Avoids]
  | succ attempts ih =>
    rw [provisionAttempts]
    split
    · next e he =>
      rintro ⟨⟩
      exact (load_avoids hs hwithin _).bind (fun _ _ ↦ merge_avoids) he
    · split
      · exact avoids_ok _
      · exact ih
      · simp [Avoids]
      · simp [Avoids]

theorem provision_avoids :
    Avoids .corrupt (provision audience required material environment stored).result := by
  unfold provision
  split
  · next e he =>
    rintro ⟨⟩
    exact checkSupplied_avoids he
  · exact provisionAttempts_avoids hs hwithin _

theorem preview_avoids {catalog} :
    Avoids .corrupt (previewGarbageCollection F catalog environment stored) := by
  refine (avoids_require (by simp)).bind fun _ _ ↦ ?_
  refine (avoids_unwrap (by simp)).bind fun blob hblob ↦ ?_
  obtain rfl := unwrap_eq_ok.mp hblob
  refine (hs.decode_avoids hwithin).bind fun _ _ ↦ Avoids.bind ?_ fun _ _ ↦ ?_
  · exact (avoids_each fun _ _ ↦ avoids_reject (by simp)).bind fun _ _ ↦ avoids_ok _
  · refine (avoids_reject (by simp)).bind fun _ _ ↦ ?_
    exact (avoids_require (by simp)).bind fun _ _ ↦ avoids_ok _

theorem usable_of_within : Usable F stored where
  accepted blob hblob fresh := by
    subst hblob
    exact (hs blob rfl).decode hwithin fresh
  presence _ _ _ := presence_avoids hs hwithin
  resolve _ _ _ := resolve_avoids hs hwithin
  provision _ _ _ _ := provision_avoids hs hwithin
  preview _ _ := preview_avoids hs hwithin

omit hs hwithin in
theorem Usable.within (h : Usable F stored) : Within F stored := by
  cases stored with
  | none => exact Nat.zero_le _
  | some blob => exact within_of_decode (h.accepted blob rfl 0)

end Usable

/-- In every state that calls lead to, the vault is usable exactly as long as its secrets are
within their limit together. Whether they are or not, a credential has one kind and one secret,
and only a collection removes a binding. -/
theorem usable_iff_within (h : Reached F stored) :
    (Usable F stored ↔ Within F stored) ∧ Agree (entriesOf stored) ∧
      ∀ (call : Call F) (environment : Environment), ∀ e ∈ entriesOf stored,
        e ∈ entriesOf (call.apply environment stored) ∨ ∃ request,
          call = .commitGarbageCollection request ∧ e.binding ∈ request.expectedOrphanBindings := by
  have hs := h.canonical
  refine ⟨⟨Usable.within, usable_of_within hs⟩, hs.consistent.agree, fun call environment e he ↦ ?_⟩
  rcases (call.apply_replaces hs).keeps he with hkept | hremoved
  · exact .inl hkept
  · cases call with
    | provision audience required material => exact hremoved.elim
    | rebind previousAudience audience slots => exact hremoved.elim
    | commitGarbageCollection request => exact .inr ⟨request, rfl, hremoved⟩

end CfwRs.MacVault
