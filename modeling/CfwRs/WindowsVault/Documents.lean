import CfwRs.WindowsVault.Vault

namespace CfwRs.WindowsVault

open Lib Lib.Checked SingBox Credentials

variable {Secret : Type} [DecidableEq Secret] {F : VaultFormat Secret}

/-- What `validate` checks of the entries of a document. -/
structure Valid (F : VaultFormat Secret) (entries : List (VaultEntry Secret)) : Prop where
  length_le : entries.length ≤ Capacity.maxCredentialVaultBindings
  ascending : Ascending kindRank entries
  isSecret : ∀ e ∈ entries, isSecret F e.reference.kind e.secret = true
  bytes_le : totalBytes F.toSecretFormat entries ≤ Limits.maxTotalSecretBytes
  agree : Agree entries

structure Canonical (F : VaultFormat Secret) (document : Document Secret) : Prop where
  valid : Valid F document.entries
  schemaVersion_eq : document.schemaVersion = Limits.schemaVersion
  documentBytes_le : F.documentBytes document ≤ Limits.maxDocumentBytes

namespace Document

theorem agree_cons_iff {seen} {e : VaultEntry Secret}
    (h : Agree seen) : Agree (e :: seen) ↔ conflicts seen e = false := by
  unfold conflicts
  constructor
  · intro hagree
    split
    · rfl
    · next previous hprevious =>
      have hmem := List.mem_of_find?_eq_some hprevious
      have hid : previous.reference.id = e.reference.id := by
        simpa using List.find?_some hprevious
      obtain ⟨href, hsecret⟩ :=
        hagree previous (List.mem_cons_of_mem _ hmem) e List.mem_cons_self hid
      simp [href, hsecret]
  · intro hnone
    have hall : ∀ e' ∈ seen, e'.reference.id = e.reference.id →
        e'.reference = e.reference ∧ e'.secret = e.secret := by
      intro e' he' hid
      split at hnone
      · next hfind => simpa [hid] using List.find?_eq_none.mp hfind e' he'
      · next previous hprevious =>
        have hmem := List.mem_of_find?_eq_some hprevious
        have hsame : previous.reference.id = e.reference.id := by
          simpa using List.find?_some hprevious
        obtain ⟨href, hsecret⟩ := h e' he' previous hmem (hid.trans hsame.symm)
        simp only [Bool.or_eq_false_iff, decide_eq_false_iff_not, not_not] at hnone
        exact ⟨href.trans hnone.1, hsecret.trans hnone.2⟩
    intro a ha b hb hid
    rcases List.mem_cons.mp ha with rfl | hseen <;> rcases List.mem_cons.mp hb with rfl | hseen'
    · exact ⟨rfl, rfl⟩
    · obtain ⟨href, hsecret⟩ := hall b hseen' hid.symm
      exact ⟨href.symm, hsecret.symm⟩
    · exact hall a hseen hid
    · exact h a hseen b hseen' hid

theorem validateEntries_eq_ok_iff {byId entries} {total : ℕ} {u}
    (hagree : Agree byId) (htotal : total ≤ Limits.maxTotalSecretBytes) :
    validateEntries F byId total entries = .ok u ↔
      (∀ e ∈ entries, isSecret F e.reference.kind e.secret = true) ∧
        total + totalBytes F.toSecretFormat entries ≤ Limits.maxTotalSecretBytes ∧
        Agree (byId ++ entries) := by
  induction entries generalizing byId total with
  | nil => simp [validateEntries, totalBytes, htotal, hagree]
  | cons e entries ih =>
    have hmoved : Agree (byId ++ e :: entries) ↔ Agree (e :: byId ++ entries) :=
      ⟨fun h ↦ h.subset fun _ ↦ List.perm_middle.mem_iff.mpr,
        fun h ↦ h.subset fun _ ↦ List.perm_middle.mem_iff.mp⟩
    have hbytes : total + totalBytes F.toSecretFormat (e :: entries) =
        total + F.bytes e.secret + totalBytes F.toSecretFormat entries := by
      simp [totalBytes, Nat.add_assoc]
    simp only [validateEntries, ok_iff, exists_const, not_lt, Bool.not_eq_true,
      List.forall_mem_cons, hmoved, hbytes, ← agree_cons_iff hagree]
    constructor
    · rintro ⟨hsecret, hle, hnew, hrest⟩
      obtain ⟨hall, hsum, hagree'⟩ := (ih hnew hle).mp hrest
      exact ⟨⟨hsecret, hall⟩, hsum, hagree'⟩
    · rintro ⟨⟨hsecret, hall⟩, hsum, hagree'⟩
      have hnew : Agree (e :: byId) := hagree'.subset fun _ h ↦ List.mem_append_left _ h
      have hle : total + F.bytes e.secret ≤ Limits.maxTotalSecretBytes := by omega
      exact ⟨hsecret, hle, hnew, (ih hnew hle).mpr ⟨hall, hsum, hagree'⟩⟩

theorem validate_eq_ok_iff {document : Document Secret} {u} :
    document.validate F = .ok u ↔ Valid F document.entries := by
  have hempty : Agree ([] : List (VaultEntry Secret)) := fun _ h ↦ absurd h List.not_mem_nil
  simp only [validate, ok_iff, exists_const, not_lt,
    validateEntries_eq_ok_iff hempty (Nat.zero_le _), Nat.zero_add,
    List.isChain_iff_pairwise]
  constructor
  · rintro ⟨hlength, hascending, hsecret, hbytes, hagree⟩
    exact ⟨hlength, hascending, hsecret, hbytes, hagree⟩
  · rintro ⟨hlength, hascending, hsecret, hbytes, hagree⟩
    exact ⟨hlength, hascending, hsecret, hbytes, hagree⟩

theorem encode_eq_ok_iff {document encoded : Document Secret} :
    document.encode F = .ok encoded ↔ Valid F document.entries ∧
      F.documentBytes document ≤ Limits.maxDocumentBytes ∧ document = encoded := by
  simp [encode, validate_eq_ok_iff, -bind_pure_comp]

theorem decode_eq_ok_iff {document decoded : Document Secret} :
    document.decode F = .ok decoded ↔ Canonical F document ∧ document = decoded := by
  have hmap : ∀ {x : Except CredentialVaultError Unit},
      x.mapError (fun _ ↦ CredentialVaultError.corrupt) = .ok () ↔ x = .ok () := by
    intro x
    cases x <;> simp [Except.mapError]
  simp only [decode, ok_iff, exists_const, not_lt, not_not, hmap, validate_eq_ok_iff,
    encode_eq_ok_iff]
  constructor
  · rintro ⟨hbytes, hschema, hvalid, -, -, rfl⟩
    exact ⟨⟨hvalid, hschema, hbytes⟩, rfl⟩
  · rintro ⟨⟨hvalid, hschema, hbytes⟩, rfl⟩
    exact ⟨hbytes, hschema, hvalid, hvalid, hbytes, rfl⟩

end Document

end CfwRs.WindowsVault
