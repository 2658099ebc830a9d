import CfwRs.MacVault.Runs

namespace CfwRs.MacVault

open Lib Lib.Checked SingBox Credentials

section Room

variable {Secret : Type} {F : SecretFormat Secret}

theorem length_rawValue_le (kind) : (rawValue kind).length ≤ 24 := by
  cases kind <;> decide

theorem entryBytes_le {e} (h : isSecret F e.reference.kind e.secret = true) :
    entryBytes F e ≤ 22102 := by
  have hprofile := length_of_isCanonicalUuid e.binding.audience.canonical.1
  have hdigest := length_of_isLowercaseSha256 e.binding.audience.canonical.2
  have hid := length_of_isCanonicalUuid e.reference.canonical
  have hkind := length_rawValue_le e.reference.kind
  simp only [isSecret, Bool.and_eq_true, decide_eq_true_eq] at h
  have hbytes : F.bytes e.secret ≤ 16 * 1024 := h.1.2
  unfold entryBytes
  omega

theorem encodedBytes_le {document}
    (h : ∀ e ∈ document.entries, isSecret F e.reference.kind e.secret = true) :
    encodedBytes F document ≤ 82 + document.entries.length * 22103 := by
  have hsum : (document.entries.map (entryBytes F)).sum ≤ document.entries.length * 22102 := by
    have hle := List.sum_le_card_nsmul (document.entries.map (entryBytes F)) 22102 fun n hn ↦ by
      obtain ⟨e, he, rfl⟩ := List.mem_map.mp hn
      exact entryBytes_le (h e he)
    rwa [List.length_map, Nat.nsmul_eq_mul] at hle
  unfold encodedBytes
  omega

variable [DecidableEq Secret] {stored : Option (StoredCredentialVaultBlob Secret)}

def calm (revision : BitVec 128) : Environment := ⟨fun _ ↦ true, fun _ ↦ .swapped, fun _ ↦ revision⟩

theorem load_calm (hs : Stored F stored) (hwithin : Within F stored) (revision : BitVec 128) (n : ℕ) :
    ∃ document, load F (calm revision) n stored = .ok document := by
  cases stored with
  | none => exact ⟨_, rfl⟩
  | some blob => exact ⟨blob.data, (hs blob rfl).decode hwithin revision⟩

theorem provisionAttempts_swapped {audience} {required}
    {material : CredentialMaterial F} {environment} {attempts n}
    {document} (hn : n = Limits.maximumCASAttempts - attempts)
    (h : load F environment n stored >>= merge audience required material
      (environment.revision n) = .ok document) (hswap : environment.swap n = .swapped) :
    provisionAttempts audience required material environment stored (attempts + 1) =
      ⟨.ok audience, some ⟨document, environment.revision n⟩⟩ := by
  subst hn
  simp [provisionAttempts, h, hswap]

theorem provision_calm (hs : Stored F stored) (hwithin : Within F stored)
    (audience) (material : CredentialMaterial F) (revision : BitVec 128)
    (hsupplied : checkSupplied (material.entries.map (·.reference)) material = .ok ())
    (hagree : ∀ requested ∈ material.entries, ∀ existing ∈ entriesOf stored,
      existing.reference.id = requested.reference.id →
        existing.reference.kind = requested.reference.kind ∧ existing.secret = requested.secret)
    (hroom : (entriesOf stored).length + material.entries.length ≤ 300) :
    ∃ document, document.entries =
        sortEntries rawValue (bindAll (entriesOf stored) (entriesFor audience material)) ∧
      provision audience (material.entries.map (·.reference)) material (calm revision) stored =
        ⟨.ok audience, some ⟨document, revision⟩⟩ := by
  obtain ⟨document, hload⟩ := load_calm hs hwithin revision 1
  have hentries := entries_of_load hload
  have hlength : (bindAll document.entries (entriesFor audience material)).length ≤ 300 := by
    refine length_bindAll_le.trans ?_
    rwa [hentries, entriesFor, List.length_map]
  have hvalid : ∀ e ∈ bindAll document.entries (entriesFor audience material),
      isSecret F e.reference.kind e.secret = true := by
    intro e he
    rcases mem_of_mem_bindAll he with he | he
    · exact hs.consistent.valid e (hentries ▸ he)
    · obtain ⟨requested, -, rfl⟩ := List.mem_map.mp he
      exact requested.valid
  have hbytes : encodedBytes F (mergedDocument audience material revision document) ≤
      Limits.maximumDocumentBytes := by
    have hle : encodedBytes F (mergedDocument audience material revision document) ≤ _ :=
      encodedBytes_le fun e he ↦ hvalid e (mem_sortEntries.mp he)
    have hsorted : (mergedDocument audience material revision document).entries.length =
        (bindAll document.entries (entriesFor audience material)).length :=
      perm_sortEntries.length_eq
    unfold Limits.maximumDocumentBytes
    omega
  have hmerge : merge audience (material.entries.map (·.reference)) material revision document =
      .ok (mergedDocument audience material revision document) := by
    refine merge_eq_ok_iff.mpr ⟨fun r hr _ ↦ ?_, hentries ▸ hagree, hlength.trans (by decide), hbytes,
      rfl⟩
    obtain ⟨supplied, hsupplied, rfl⟩ := List.mem_map.mp hr
    exact ⟨supplied, hsupplied, rfl⟩
  refine ⟨mergedDocument audience material revision document, ?_, ?_⟩
  · rw [mergedDocument, hentries]
  · rw [provision, hsupplied]
    exact provisionAttempts_swapped rfl (bind_eq_ok.mpr ⟨document, hload, hmerge⟩) rfl

end Room

section Sample

def sampleSecrets : SecretFormat ℕ where
  bytes n := n
  admits kind _ := kind = .shadowsocksPassword

def sampleMaterial : CredentialMaterial sampleSecrets where
  entries := (List.finRange 16).map fun i ↦ ⟨sampleReference i, 16384, rfl⟩
  few := by decide
  distinct := by
    rw [List.map_map]
    exact (List.nodup_finRange 16).map sampleReference_id_injective
  total := by decide

def filled : Option (StoredCredentialVaultBlob ℕ) :=
  Call.apply (calm 1) none (.provision (sampleAudience 0)
    (sampleMaterial.entries.map (·.reference)) sampleMaterial)

def overfilled : Option (StoredCredentialVaultBlob ℕ) :=
  Call.apply (calm 2) filled (.provision (sampleAudience 1)
    (sampleMaterial.entries.map (·.reference)) sampleMaterial)

theorem checkSupplied_sample :
    checkSupplied (sampleMaterial.entries.map (·.reference)) sampleMaterial = .ok () := by
  decide +kernel

theorem bytes_entriesFor_sample (audience) :
    totalBytes sampleSecrets (entriesFor audience sampleMaterial) = 262144 := by
  change (sampleMaterial.entries.map fun e ↦ sampleSecrets.bytes e.secret).sum = 262144
  decide

theorem nodup_entriesFor_sample (audience) :
    ((entriesFor audience sampleMaterial).map VaultEntry.binding).Nodup := by
  refine List.Nodup.of_map (fun binding ↦ binding.reference.id) ?_
  exact sampleMaterial.distinct

theorem filled_eq : ∃ document : CredentialVaultDocument ℕ, filled = some ⟨document, 1⟩ ∧
    document.entries.Perm (entriesFor (sampleAudience 0) sampleMaterial) := by
  obtain ⟨document, hentries, hprovision⟩ := provision_calm Reached.empty.canonical
    (Nat.zero_le _) (sampleAudience 0) sampleMaterial 1 checkSupplied_sample (fun _ _ _ h ↦ absurd h List.not_mem_nil) (by decide)
  refine ⟨document, by rw [filled, Call.apply, hprovision], ?_⟩
  rw [hentries]
  exact perm_sortEntries

theorem perm_entriesOf_filled :
    (entriesOf filled).Perm (entriesFor (sampleAudience 0) sampleMaterial) := by
  obtain ⟨document, hdocument, hperm⟩ := filled_eq
  rwa [hdocument]

theorem reached_filled : Reached sampleSecrets filled := .call .empty _ _

theorem within_filled : Within sampleSecrets filled := by
  rw [Within, totalBytes_perm perm_entriesOf_filled]
  decide

theorem filled_usable : Usable sampleSecrets filled :=
  (usable_iff_within reached_filled).1.mpr within_filled

theorem filled_agrees : ∀ requested ∈ sampleMaterial.entries, ∀ existing ∈ entriesOf filled,
    existing.reference.id = requested.reference.id →
      existing.reference.kind = requested.reference.kind ∧ existing.secret = requested.secret := by
  intro requested hrequested existing hexisting hid
  obtain ⟨old, hold, rfl⟩ := List.mem_map.mp (perm_entriesOf_filled.mem_iff.mp hexisting)
  have hsame : old = requested :=
    List.inj_on_of_nodup_map sampleMaterial.distinct hold hrequested hid
  rw [hsame]
  exact ⟨rfl, rfl⟩

theorem filled_misses : ∀ e ∈ entriesFor (sampleAudience 1) sampleMaterial,
    ¬Bound (entriesOf filled) e.binding := by
  rintro e he ⟨old, hold, hbinding⟩
  obtain ⟨_, -, rfl⟩ := List.mem_map.mp he
  obtain ⟨_, -, rfl⟩ := List.mem_map.mp (perm_entriesOf_filled.mem_iff.mp hold)
  have haudience : sampleAudience 0 = sampleAudience 1 :=
    congrArg CredentialBinding.audience hbinding
  have hindex : (0 : Fin 16) = 1 :=
    sampleReference_id_injective (congrArg CredentialAudience.profileId haudience)
  cases hindex

/-- A second audience for the same sixteen secrets makes a document that the vault itself
refuses from then on. -/
theorem second_audience_locks_vault : Reached sampleSecrets overfilled ∧
    (provision (sampleAudience 1) (sampleMaterial.entries.map (·.reference)) sampleMaterial (calm 2)
      filled).result = .ok (sampleAudience 1) ∧ ∃ blob, overfilled = some blob ∧ ∀ fresh,
      decode sampleSecrets (some blob) fresh = .error .corrupt := by
  have hroom : (entriesOf filled).length + sampleMaterial.entries.length ≤ 300 := by
    rw [perm_entriesOf_filled.length_eq]
    decide
  obtain ⟨second, hsecond, hprovision⟩ := provision_calm reached_filled.canonical within_filled
    (sampleAudience 1) sampleMaterial 2 checkSupplied_sample filled_agrees hroom
  have hoverfilled : overfilled = some ⟨second, 2⟩ := by
    rw [overfilled, Call.apply, hprovision]
  have htotal : totalBytes sampleSecrets second.entries = 524288 := by
    rw [hsecond, totalBytes_perm perm_sortEntries,
      bindAll_of_missing (nodup_entriesFor_sample _) filled_misses, totalBytes_append,
      totalBytes_perm perm_entriesOf_filled, bytes_entriesFor_sample, bytes_entriesFor_sample]
  have hreached : Reached sampleSecrets overfilled := .call reached_filled _ _
  refine ⟨hreached, by rw [hprovision], ⟨second, 2⟩, hoverfilled, fun fresh ↦ ?_⟩
  refine (hreached.canonical _ hoverfilled).decode_of_not_within fun hle ↦ ?_
  rw [Within, entriesOf, htotal] at hle
  exact absurd hle (by decide)

end Sample

end CfwRs.MacVault
