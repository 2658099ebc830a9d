import CfwRs.SingBox.Credentials

namespace CfwRs.Credentials

open Lib.Checked SingBox

/-- What a vault knows about a secret: how many bytes it has, and for which kinds of credentials
its text is admissible. -/
structure SecretFormat (Secret : Type) where
  bytes : Secret → ℕ
  admits : CredentialKind → Secret → Bool

structure VaultEntry (Secret : Type) where
  binding : CredentialBinding
  secret : Secret
deriving DecidableEq

variable {Secret κ : Type}

abbrev VaultEntry.reference (e : VaultEntry Secret) : CredentialRef := e.binding.reference

/-- Bindings are ordered by the texts of their audience and their reference, and by the rank of
its kind. -/
def bindingKey (rank : CredentialKind → κ) (b : CredentialBinding) : String ×ₗ String ×ₗ String ×ₗ κ :=
  toLex (b.audience.profileId, toLex (b.audience.profileDigest, toLex (b.reference.id,
    rank b.reference.kind)))

theorem bindingKey_injective {rank : CredentialKind → κ} (hrank : Function.Injective rank) :
    Function.Injective (bindingKey rank) := by
  rintro ⟨⟨profileId, profileDigest, _⟩, ⟨id, kind, _⟩⟩ ⟨⟨profileId', profileDigest', _⟩, ⟨id', kind', _⟩⟩ h
  simp only [bindingKey, toLex_inj, Prod.mk.injEq] at h
  obtain ⟨rfl, rfl, rfl, hkind⟩ := h
  cases hrank hkind
  rfl

section Order

variable [LinearOrder κ] {rank : CredentialKind → κ} {entries : List (VaultEntry Secret)}

def sortEntries (rank : CredentialKind → κ) (entries : List (VaultEntry Secret)) :
    List (VaultEntry Secret) :=
  entries.insertionSort fun a b ↦ bindingKey rank a.binding ≤ bindingKey rank b.binding

/-- The entries are in the order of their bindings, and no binding occurs twice. -/
def Ascending (rank : CredentialKind → κ) (entries : List (VaultEntry Secret)) : Prop :=
  entries.Pairwise fun a b ↦ bindingKey rank a.binding < bindingKey rank b.binding

@[simp] theorem mem_sortEntries {e} :
    e ∈ sortEntries rank entries ↔ e ∈ entries := List.mem_insertionSort _

theorem perm_sortEntries : (sortEntries rank entries).Perm entries := List.perm_insertionSort _ _

theorem ascending_sortEntries (hrank : Function.Injective rank)
    (h : (entries.map VaultEntry.binding).Nodup) : Ascending rank (sortEntries rank entries) := by
  have hle : (sortEntries rank entries).Pairwise fun a b ↦
      bindingKey rank a.binding ≤ bindingKey rank b.binding := List.pairwise_insertionSort _ _
  have hne : (sortEntries rank entries).Pairwise fun a b ↦ a.binding ≠ b.binding := by
    rw [← List.pairwise_map]
    exact (perm_sortEntries.map _).nodup_iff.mpr h
  exact (hle.and hne).imp fun h ↦
    lt_of_le_of_ne h.1 fun hkey ↦ h.2 (bindingKey_injective hrank hkey)

theorem sortEntries_of_ascending (h : Ascending rank entries) : sortEntries rank entries = entries :=
  (h.imp fun h ↦ h.le).insertionSort_eq

theorem Ascending.filter (h : Ascending rank entries) (p : VaultEntry Secret → Bool) :
    Ascending rank (entries.filter p) := List.Pairwise.filter p h

end Order

/-- Entries for the same credential agree on its kind and on its secret. -/
def Agree (entries : List (VaultEntry Secret)) : Prop :=
  ∀ e ∈ entries, ∀ e' ∈ entries, e.reference.id = e'.reference.id →
    e.reference = e'.reference ∧ e.secret = e'.secret

variable {entries entries' : List (VaultEntry Secret)}

theorem Agree.subset (h : Agree entries) (hsubset : ∀ e ∈ entries', e ∈ entries) : Agree entries' :=
  fun e he e' he' ↦ h e (hsubset e he) e' (hsubset e' he')

section Bind

variable {entries new : List (VaultEntry Secret)} {e : VaultEntry Secret}

def Bound (entries : List (VaultEntry Secret)) (binding : CredentialBinding) : Prop :=
  ∃ e ∈ entries, e.binding = binding

instance (entries : List (VaultEntry Secret)) (binding : CredentialBinding) :
    Decidable (Bound entries binding) := inferInstanceAs (Decidable (∃ e ∈ entries, _))

def bindMissing (entries : List (VaultEntry Secret)) (e : VaultEntry Secret) :
    List (VaultEntry Secret) := if Bound entries e.binding then entries else entries ++ [e]

def bindAll (entries new : List (VaultEntry Secret)) : List (VaultEntry Secret) :=
  new.foldl bindMissing entries

theorem mem_bindMissing_of_mem (h : e ∈ entries) (e' : VaultEntry Secret) :
    e ∈ bindMissing entries e' := by
  unfold bindMissing
  split
  · exact h
  · exact List.mem_append_left _ h

theorem mem_of_mem_bindMissing {e'} (h : e ∈ bindMissing entries e') : e ∈ entries ∨ e = e' := by
  unfold bindMissing at h
  split at h
  · exact .inl h
  · rcases List.mem_append.mp h with h | h
    · exact .inl h
    · exact .inr (List.mem_singleton.mp h)

theorem nodup_bindMissing (h : (entries.map VaultEntry.binding).Nodup) (e : VaultEntry Secret) :
    ((bindMissing entries e).map VaultEntry.binding).Nodup := by
  unfold bindMissing
  split
  · exact h
  · next hmissing =>
    rw [List.map_append, List.nodup_append']
    refine ⟨h, List.nodup_singleton _, fun binding hbinding hsingle ↦ hmissing ?_⟩
    obtain ⟨e', he', rfl⟩ := List.mem_map.mp hbinding
    exact ⟨e', he', List.mem_singleton.mp hsingle⟩

theorem mem_bindAll_of_mem (h : e ∈ entries) : e ∈ bindAll entries new := by
  induction new generalizing entries with
  | nil => exact h
  | cons e' new ih => exact ih (mem_bindMissing_of_mem h e')

theorem mem_of_mem_bindAll (h : e ∈ bindAll entries new) : e ∈ entries ∨ e ∈ new := by
  induction new generalizing entries with
  | nil => exact .inl h
  | cons e' new ih =>
    rcases ih h with h | h
    · rcases mem_of_mem_bindMissing h with h | rfl
      · exact .inl h
      · exact .inr List.mem_cons_self
    · exact .inr (List.mem_cons_of_mem _ h)

theorem nodup_bindAll (h : (entries.map VaultEntry.binding).Nodup) :
    ((bindAll entries new).map VaultEntry.binding).Nodup := by
  induction new generalizing entries with
  | nil => exact h
  | cons e new ih => exact ih (nodup_bindMissing h e)

theorem agree_bindAll (h : Agree entries) (hnew : Agree new)
    (hcross : ∀ e ∈ new, ∀ e' ∈ entries, e'.reference.id = e.reference.id →
      e'.reference = e.reference ∧ e'.secret = e.secret) : Agree (bindAll entries new) := by
  intro e he e' he' hid
  rcases mem_of_mem_bindAll he with he | he <;> rcases mem_of_mem_bindAll he' with he' | he'
  · exact h e he e' he' hid
  · exact hcross e' he' e he hid
  · obtain ⟨href, hsecret⟩ := hcross e he e' he' hid.symm
    exact ⟨href.symm, hsecret.symm⟩
  · exact hnew e he e' he' hid

theorem bindAll_of_missing (hnodup : (new.map VaultEntry.binding).Nodup)
    (hmissing : ∀ e ∈ new, ¬Bound entries e.binding) : bindAll entries new = entries ++ new := by
  induction new generalizing entries with
  | nil => exact (List.append_nil _).symm
  | cons e new ih =>
    rw [List.map_cons, List.nodup_cons] at hnodup
    have hadded : bindMissing entries e = entries ++ [e] :=
      if_neg (hmissing e List.mem_cons_self)
    have hrest : ∀ e' ∈ new, ¬Bound (entries ++ [e]) e'.binding := by
      rintro e' he' ⟨bound, hbound, hbinding⟩
      rcases List.mem_append.mp hbound with hbound | hbound
      · exact hmissing e' (List.mem_cons_of_mem _ he') ⟨bound, hbound, hbinding⟩
      · rw [List.mem_singleton.mp hbound] at hbinding
        exact hnodup.1 (hbinding ▸ List.mem_map_of_mem he')
    calc
      bindAll entries (e :: new) = bindAll (entries ++ [e]) new := by
        rw [← hadded]
        rfl
      _ = entries ++ e :: new := by rw [ih hnodup.2 hrest, List.append_assoc, List.singleton_append]

theorem length_bindAll_le : (bindAll entries new).length ≤ entries.length + new.length := by
  induction new generalizing entries with
  | nil => exact Nat.le_refl _
  | cons e new ih =>
    have hadded : (bindMissing entries e).length ≤ entries.length + 1 := by
      unfold bindMissing
      split <;> simp
    calc
      (bindAll entries (e :: new)).length ≤ (bindMissing entries e).length + new.length := ih
      _ ≤ entries.length + (new.length + 1) := by omega

end Bind

def totalBytes (F : SecretFormat Secret) (entries : List (VaultEntry Secret)) : ℕ :=
  (entries.map fun e ↦ F.bytes e.secret).sum

variable {F : SecretFormat Secret}

theorem totalBytes_append :
    totalBytes F (entries ++ entries') = totalBytes F entries + totalBytes F entries' := by
  rw [totalBytes, List.map_append, List.sum_append]
  rfl

theorem totalBytes_perm (h : entries.Perm entries') :
    totalBytes F entries = totalBytes F entries' := (h.map _).sum_eq

section Tally

variable {γ ε : Type} [DecidableEq κ] {key : γ → κ} {accepts : γ → Bool} {bytes : γ → ℕ} {limit : ℕ}
  {refused exceeded : ε}

/-- Goes through elements whose keys must be new and that must be admitted, and adds up their
bytes against a limit. -/
def checkTally (key : γ → κ) (accepts : γ → Bool) (bytes : γ → ℕ) (limit : ℕ) (refused exceeded : ε) :
    List κ → ℕ → List γ → Except ε Unit
  | _, _, [] => .ok ()
  | seen, total, c :: l => do
    reject (key c ∈ seen ∨ accepts c = false) refused
    reject (limit < total + bytes c) exceeded
    checkTally key accepts bytes limit refused exceeded (key c :: seen) (total + bytes c) l

variable {l : List γ} {seen : List κ} {total : ℕ}

theorem checkTally_eq_ok {u} (htotal : total ≤ limit) :
    checkTally key accepts bytes limit refused exceeded seen total l = .ok u ↔
      (∀ c ∈ l, key c ∉ seen ∧ accepts c = true) ∧ (l.map key).Nodup ∧
        total + (l.map bytes).sum ≤ limit := by
  induction l generalizing seen total with
  | nil => simp [checkTally, htotal]
  | cons c l ih =>
    simp only [checkTally, ok_iff, not_or, Bool.not_eq_false, not_lt, List.forall_mem_cons,
      List.map_cons, List.nodup_cons, List.sum_cons, exists_const, ← Nat.add_assoc]
    constructor
    · rintro ⟨⟨hseen, haccepts⟩, hlimit, hrest⟩
      obtain ⟨hall, hnodup, hsum⟩ := (ih hlimit).mp hrest
      refine ⟨⟨⟨hseen, haccepts⟩, fun d hd ↦ ?_⟩, ⟨fun hmem ↦ ?_, hnodup⟩, hsum⟩
      · exact ⟨fun h ↦ (hall d hd).1 (List.mem_cons_of_mem _ h), (hall d hd).2⟩
      · obtain ⟨d, hd, hkey⟩ := List.mem_map.mp hmem
        exact (hall d hd).1 (hkey ▸ List.mem_cons_self)
    · rintro ⟨⟨⟨hseen, haccepts⟩, hall⟩, ⟨hnew, hnodup⟩, hsum⟩
      have hlimit : total + bytes c ≤ limit := by omega
      refine ⟨⟨hseen, haccepts⟩, hlimit, (ih hlimit).mpr ⟨fun d hd ↦ ⟨fun h ↦ ?_, (hall d hd).2⟩,
        hnodup, hsum⟩⟩
      rcases List.mem_cons.mp h with h | h
      · exact hnew (List.mem_map.mpr ⟨d, hd, h⟩)
      · exact (hall d hd).1 h

theorem eq_of_checkTally_eq_error {e}
    (h : checkTally key accepts bytes limit refused exceeded seen total l = .error e) :
    e = refused ∨ e = exceeded := by
  induction l generalizing seen total with
  | nil => cases h
  | cons c l ih =>
    rw [checkTally] at h
    simp only [bind_eq_error, reject_eq_error] at h
    rcases h with ⟨-, rfl⟩ | ⟨-, -, ⟨-, rfl⟩ | ⟨-, -, h⟩⟩
    · exact .inl rfl
    · exact .inr rfl
    · exact ih h

end Tally

section Sample

open Lib

def sampleUuid (c : Char) : String :=
  .ofList (List.replicate 8 'a' ++ '-' :: List.replicate 4 'b' ++ '-' :: List.replicate 4 'c' ++
    '-' :: List.replicate 4 'd' ++ '-' :: List.replicate 12 c)

theorem isCanonicalUuid_sampleUuid : ∀ i : Fin 16,
    isCanonicalUuid (sampleUuid (Nat.digitChar i)) = true := by
  decide

theorem sampleUuid_injective : Function.Injective sampleUuid := by
  intro c d h
  have hchars := String.ofList_injective h
  simpa using hchars

instance neZero_sixteen : NeZero (15 + 1) := ⟨by decide⟩

def sampleAudience (i : Fin 16) : CredentialAudience where
  profileId := sampleUuid (Nat.digitChar i)
  profileDigest := .ofList (List.replicate 64 'a')
  canonical := ⟨isCanonicalUuid_sampleUuid i, by
    simp only [isLowercaseSha256, String.length_ofList, String.toList_ofList]
    decide⟩

def sampleReference (i : Fin 16) : CredentialRef :=
  ⟨sampleUuid (Nat.digitChar i), .shadowsocksPassword, isCanonicalUuid_sampleUuid i⟩

theorem sampleReference_id_injective : Function.Injective fun i ↦ (sampleReference i).id := by
  intro i j h
  have hdigit : ∀ i j : Fin 16, Nat.digitChar i = Nat.digitChar j → i = j := by decide
  exact hdigit i j (sampleUuid_injective h)

end Sample

end CfwRs.Credentials
