import CfwRs.MacVault.Vault

namespace CfwRs.MacVault

open Lib Lib.Checked SingBox Credentials

variable {Secret : Type} {F : SecretFormat Secret}

/-- What the entries of a stored document have in common: no binding occurs twice, every secret
is valid, and a credential has one kind and one secret. -/
structure Consistent (F : SecretFormat Secret) (entries : List (VaultEntry Secret)) : Prop where
  nodup : (entries.map VaultEntry.binding).Nodup
  valid : ∀ e ∈ entries, isSecret F e.reference.kind e.secret = true
  agree : Agree entries

/-- A keychain item that passes every check of `decode` but the one on the sum of all secrets. -/
structure Canonical (F : SecretFormat Secret) (blob : StoredCredentialVaultBlob Secret) : Prop where
  bytes_le : encodedBytes F blob.data ≤ Limits.maximumDocumentBytes
  schemaVersion_eq : blob.data.schemaVersion = Limits.schemaVersion
  revision_eq : blob.data.revision = blob.revision
  length_le : blob.data.entries.length ≤ Limits.maximumEntries
  ascending : Ascending rawValue blob.data.entries
  consistent : Consistent F blob.data.entries

def entriesOf : Option (StoredCredentialVaultBlob Secret) → List (VaultEntry Secret)
  | none => []
  | some blob => blob.data.entries

/-- The secrets of the stored document are within the limit that `decode` checks. -/
def Within (F : SecretFormat Secret) (stored : Option (StoredCredentialVaultBlob Secret)) : Prop :=
  totalBytes F (entriesOf stored) ≤ Limits.maximumTotalSecretBytes

def Stored (F : SecretFormat Secret) (stored : Option (StoredCredentialVaultBlob Secret)) : Prop :=
  ∀ blob, stored = some blob → Canonical F blob

theorem consistent_nil : Consistent F [] :=
  ⟨List.nodup_nil, fun _ h ↦ absurd h List.not_mem_nil, fun _ h ↦ absurd h List.not_mem_nil⟩

theorem Stored.consistent {stored} (h : Stored F stored) : Consistent F (entriesOf stored) := by
  cases stored with
  | none => exact consistent_nil
  | some blob => exact (h blob rfl).consistent

theorem Consistent.filter {entries} (h : Consistent F entries)
    (p : VaultEntry Secret → Bool) : Consistent F (entries.filter p) where
  nodup := h.nodup.sublist (List.filter_sublist.map _)
  valid e he := h.valid e (List.mem_of_mem_filter he)
  agree := h.agree.subset fun _ he ↦ List.mem_of_mem_filter he

section Decode

variable [DecidableEq Secret] {blob : StoredCredentialVaultBlob Secret}
  {stored : Option (StoredCredentialVaultBlob Secret)} {fresh : BitVec 128}
  {document : CredentialVaultDocument Secret}

theorem decode_eq_ok_iff : decode F (some blob) fresh = .ok document ↔
    encodedBytes F blob.data ≤ Limits.maximumDocumentBytes ∧
      blob.data.schemaVersion = Limits.schemaVersion ∧
      (blob.data.revision = blob.revision ∧ blob.data.entries.length ≤ Limits.maximumEntries) ∧
      ((∀ e ∈ blob.data.entries, isSecret F e.reference.kind e.secret = true) ∧
        (blob.data.entries.map VaultEntry.binding).Nodup ∧ Within F (some blob)) ∧
      sortEntries rawValue blob.data.entries = blob.data.entries ∧ blob.data = document := by
  simp [decode, checkTally_eq_ok, Within, entriesOf, totalBytes, -bind_pure_comp]

theorem data_of_decode (h : decode F (some blob) fresh = .ok document) : document = blob.data :=
  (decode_eq_ok_iff.mp h).2.2.2.2.2.symm

theorem within_of_decode (h : decode F (some blob) fresh = .ok document) : Within F (some blob) :=
  (decode_eq_ok_iff.mp h).2.2.2.1.2.2

theorem entries_of_decode (h : decode F stored fresh = .ok document) :
    document.entries = entriesOf stored := by
  cases stored with
  | none =>
    cases h
    rfl
  | some blob => rw [data_of_decode h, entriesOf]

theorem Canonical.decode (hc : Canonical F blob) (hwithin : Within F (some blob))
    (fresh : BitVec 128) : decode F (some blob) fresh = .ok blob.data :=
  decode_eq_ok_iff.mpr ⟨hc.bytes_le, hc.schemaVersion_eq, ⟨hc.revision_eq, hc.length_le⟩,
    ⟨hc.consistent.valid, hc.consistent.nodup, hwithin⟩, sortEntries_of_ascending hc.ascending, rfl⟩

/-- A canonical document is refused only for the sum of its secrets, and then as corrupt. -/
theorem Canonical.decode_of_not_within (hc : Canonical F blob) (hnot : ¬Within F (some blob)) :
    MacVault.decode F (some blob) fresh = .error .corrupt := by
  cases h : MacVault.decode F (some blob) fresh with
  | ok document => exact absurd (within_of_decode h) hnot
  | error e =>
    simp only [MacVault.decode, bind_eq_error, reject_eq_error] at h
    rcases h with ⟨-, rfl⟩ | ⟨-, -, ⟨hne, -⟩ | ⟨-, -, ⟨-, rfl⟩ | ⟨-, -, h | ⟨-, -, ⟨-, rfl⟩ | h⟩⟩⟩⟩
    · rfl
    · exact absurd hc.schemaVersion_eq hne
    · rfl
    · rw [(eq_of_checkTally_eq_error h).elim id id]
    · rfl
    · simp [pure, Except.pure] at h

theorem Stored.decode_avoids (h : Stored F stored) (hwithin : Within F stored) :
    Avoids .corrupt (MacVault.decode F stored fresh) := by
  cases stored with
  | none => exact avoids_ok _
  | some blob =>
    rw [(h blob rfl).decode hwithin fresh]
    exact avoids_ok _

end Decode

section Merge

variable [DecidableEq Secret] {audience : CredentialAudience} {required : List CredentialRef}
  {material : CredentialMaterial F} {revision : BitVec 128}
  {document merged : CredentialVaultDocument Secret}

omit [DecidableEq Secret] in
theorem encode_eq_ok_iff : encode F document = .ok merged ↔
    encodedBytes F document ≤ Limits.maximumDocumentBytes ∧ document = merged := by
  simp [encode, -bind_pure_comp]

omit [DecidableEq Secret] in
theorem agree_entriesFor : Agree (entriesFor audience material) := by
  intro e he e' he' hid
  obtain ⟨m, hm, rfl⟩ := List.mem_map.mp he
  obtain ⟨m', hm', rfl⟩ := List.mem_map.mp he'
  have hsame : m = m' := List.inj_on_of_nodup_map material.distinct hm hm' hid
  rw [hsame]
  exact ⟨rfl, rfl⟩

def mergedDocument (audience : CredentialAudience) (material : CredentialMaterial F)
    (revision : BitVec 128) (document : CredentialVaultDocument Secret) :
    CredentialVaultDocument Secret :=
  ⟨Limits.schemaVersion, revision,
    sortEntries rawValue (bindAll document.entries (entriesFor audience material))⟩

theorem merge_eq_ok_iff : merge audience required material revision document = .ok merged ↔
    (∀ reference ∈ required, ¬Bound document.entries ⟨audience, reference⟩ →
      ∃ supplied ∈ material.entries, supplied.reference.id = reference.id) ∧
    (∀ requested ∈ material.entries, ∀ existing ∈ document.entries,
      existing.reference.id = requested.reference.id →
        existing.reference.kind = requested.reference.kind ∧ existing.secret = requested.secret) ∧
    (bindAll document.entries (entriesFor audience material)).length ≤ Limits.maximumEntries ∧
    encodedBytes F (mergedDocument audience material revision document) ≤
      Limits.maximumDocumentBytes ∧
    mergedDocument audience material revision document = merged := by
  simp [merge, mergedDocument, encode_eq_ok_iff]

theorem consistent_merged (hc : Consistent F document.entries)
    (h : merge audience required material revision document = .ok merged) :
    Consistent F merged.entries := by
  obtain ⟨-, hexisting, -, -, rfl⟩ := merge_eq_ok_iff.mp h
  have hagree : Agree (bindAll document.entries (entriesFor audience material)) := by
    refine agree_bindAll hc.agree agree_entriesFor fun e he e' he' hid ↦ ?_
    obtain ⟨requested, hrequested, rfl⟩ := List.mem_map.mp he
    obtain ⟨hkind, hsecret⟩ := hexisting requested hrequested e' he' hid
    exact ⟨CredentialRef.eq_of_id_kind hid hkind, hsecret⟩
  refine ⟨?_, fun e he ↦ ?_, hagree.subset fun e he ↦ mem_sortEntries.mp he⟩
  · exact (perm_sortEntries.map _).nodup_iff.mpr (nodup_bindAll hc.nodup)
  · rcases mem_of_mem_bindAll (mem_sortEntries.mp he) with he | he
    · exact hc.valid e he
    · obtain ⟨requested, -, rfl⟩ := List.mem_map.mp he
      exact requested.valid

theorem canonical_merged (hc : Consistent F document.entries)
    (h : merge audience required material revision document = .ok merged) :
    Canonical F ⟨merged, revision⟩ := by
  have hconsistent := consistent_merged hc h
  obtain ⟨-, -, hlength, hbytes, rfl⟩ := merge_eq_ok_iff.mp h
  exact {
    bytes_le := hbytes
    schemaVersion_eq := rfl
    revision_eq := rfl
    length_le := perm_sortEntries.length_eq.trans_le hlength
    ascending := ascending_sortEntries rawValue_injective (nodup_bindAll hc.nodup)
    consistent := hconsistent }

theorem mem_merged {e} (h : merge audience required material revision document = .ok merged)
    (he : e ∈ document.entries) : e ∈ merged.entries := by
  obtain ⟨-, -, -, -, rfl⟩ := merge_eq_ok_iff.mp h
  exact mem_sortEntries.mpr (mem_bindAll_of_mem he)

theorem merge_avoids : Avoids .corrupt (merge audience required material revision document) := by
  refine (avoids_each fun _ _ ↦ avoids_reject (by simp)).bind fun _ _ ↦ ?_
  refine (avoids_each fun _ _ ↦ avoids_each fun _ _ ↦ ?_).bind fun _ _ ↦ ?_
  · exact (avoids_reject (by simp)).bind fun _ _ ↦ avoids_reject (by simp)
  · refine (avoids_reject (by simp)).bind fun _ _ ↦ ?_
    exact (avoids_reject (by simp)).bind fun _ _ ↦ avoids_ok _

end Merge

end CfwRs.MacVault
