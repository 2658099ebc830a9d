import Mathlib

namespace CfwRs.Lib

abbrev Directory (ν φ : Type) := AList fun _ : ν ↦ φ

namespace Directory

variable {ν φ : Type} [DecidableEq ν] {d : Directory ν φ} {name source target : ν} {file : φ}

def rename (d : Directory ν φ) (source target : ν) : Directory ν φ :=
  match d.lookup source with
  | some file => (d.erase source).insert target file
  | none => d

theorem lookup_insert : AList.lookup name (d.insert target file) =
      if name = target then some file else AList.lookup name d := by
  split
  · next h =>
    subst h
    exact AList.lookup_insert _
  · next h => exact AList.lookup_insert_ne h

theorem lookup_erase :
    AList.lookup name (d.erase target) = if name = target then none else AList.lookup name d := by
  split
  · next h =>
    subst h
    exact AList.lookup_erase _ _
  · next h => exact AList.lookup_erase_ne h

theorem rename_eq (h : AList.lookup source d = some file) :
    rename d source target = (d.erase source).insert target file := by
  rw [rename, h]

theorem lookup_rename (h : AList.lookup source d = some file) :
    AList.lookup name (rename d source target) =
      if name = target then some file else if name = source then none else AList.lookup name d := by
  rw [rename_eq h, lookup_insert, lookup_erase]

theorem mem_keys : name ∈ AList.keys d ↔ ∃ file, AList.lookup name d = some file := by
  rw [← AList.mem_keys, ← AList.lookup_isSome, Option.isSome_iff_exists]

def total (w : ν → φ → ℕ) (d : Directory ν φ) : ℕ := (d.entries.map fun e ↦ w e.1 e.2).sum

section Total

variable {w : ν → φ → ℕ}

theorem sum_kerase {l : List (Sigma fun _ : ν ↦ φ)} (h : l.dlookup name = some file) :
    (l.map fun e ↦ w e.1 e.2).sum = w name file + ((l.kerase name).map fun e ↦ w e.1 e.2).sum := by
  induction l with
  | nil => cases h
  | cons e l ih =>
    rcases e with ⟨key, value⟩
    by_cases hkey : name = key
    · subst hkey
      rw [List.dlookup_cons_eq] at h
      have herase : List.kerase name (⟨name, value⟩ :: l) = l := List.kerase_cons_eq rfl
      rw [herase, List.map_cons, List.sum_cons, Option.some.inj h]
    · rw [List.dlookup_cons_ne _ _ hkey] at h
      have herase : List.kerase name (⟨key, value⟩ :: l) = ⟨key, value⟩ :: l.kerase name :=
        List.kerase_cons_ne hkey
      rw [herase, List.map_cons, List.sum_cons, List.map_cons, List.sum_cons, ih h]
      omega

theorem total_insert : total w (d.insert target file) = w target file + total w (d.erase target) := by
  rfl

theorem total_eq_add_erase (h : AList.lookup name d = some file) :
    total w d = w name file + total w (d.erase name) := sum_kerase h

theorem total_erase_of_lookup (h : AList.lookup name d = none) :
    total w (d.erase name) = total w d := by
  have herase : (d.erase name).entries = d.entries :=
    List.kerase_of_notMem_keys (List.dlookup_eq_none.mp h)
  rw [total, herase, total]

theorem total_erase_le : total w (d.erase name) ≤ total w d := by
  cases h : AList.lookup name d with
  | none => exact Nat.le_of_eq (total_erase_of_lookup h)
  | some file =>
    rw [total_eq_add_erase h]
    omega

theorem total_congr {d'} (h : ∀ name, AList.lookup name d = AList.lookup name d') :
    total w d = total w d' := by
  have hperm : d.entries.Perm d'.entries := by
    refine List.lookup_ext d.nodupKeys d'.nodupKeys fun name file ↦ ?_
    have hname : d.entries.dlookup name = d'.entries.dlookup name := h name
    rw [hname]
  exact (hperm.map _).sum_eq

omit [DecidableEq ν] in
theorem total_add {v} :
    total (fun name file ↦ w name file + v name file) d = total w d + total v d :=
  List.sum_map_add

omit [DecidableEq ν] in
theorem total_one : total (fun _ _ ↦ 1) d = d.keys.length := by
  simp [total, AList.keys, List.keys]

def weight (w : ν → φ → ℕ) (d : Directory ν φ) (name : ν) : ℕ :=
  ((AList.lookup name d).map (w name)).getD 0

theorem weight_of_lookup (h : AList.lookup name d = some file) : weight w d name = w name file := by
  rw [weight, h]
  rfl

theorem total_eq_sum_weight : total w d = (d.keys.map (weight w d)).sum := by
  rw [AList.keys, List.keys, List.map_map]
  refine congrArg List.sum (List.map_congr_left fun e he ↦ ?_)
  have hlookup : AList.lookup e.1 d = some e.2 := List.mem_dlookup d.nodupKeys he
  exact (weight_of_lookup hlookup).symm

theorem total_eq_zero (h : ∀ name file, AList.lookup name d = some file → w name file = 0) :
    total w d = 0 := by
  rw [total_eq_sum_weight]
  refine List.sum_eq_zero fun n hn ↦ ?_
  obtain ⟨name, hname, rfl⟩ := List.mem_map.mp hn
  obtain ⟨file, hfile⟩ := mem_keys.mp hname
  rw [weight_of_lookup hfile, h name file hfile]

theorem total_eq_weight (h : ∀ name file, name ≠ target → w name file = 0) :
    total w d = weight w d target := by
  have herase : total w (d.erase target) = 0 := by
    refine total_eq_zero fun name file hfile ↦ h name file fun hname ↦ ?_
    rw [lookup_erase, if_pos hname] at hfile
    cases hfile
  cases hlookup : AList.lookup target d with
  | none => rw [← total_erase_of_lookup hlookup, herase, weight, hlookup, Option.map_none, Option.getD_none]
  | some file => rw [total_eq_add_erase hlookup, herase, weight_of_lookup hlookup, Nat.add_zero]

end Total

end Directory

end CfwRs.Lib
