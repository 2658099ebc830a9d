import Mathlib

namespace CfwRs.Lib

def maxWord : UInt64 := 18446744073709551615

theorem lt_maxWord_iff {n} : n < maxWord ↔ n.toNat + 1 < 2 ^ 64 := by
  rw [UInt64.lt_iff_toNat_lt]
  have h : maxWord.toNat = 2 ^ 64 - 1 := rfl
  omega

def checkedSucc (n : UInt64) : Option UInt64 := if n < maxWord then some (n + 1) else none

theorem checkedSucc_eq_some {n m} : checkedSucc n = some m ↔ n < maxWord ∧ n + 1 = m := by
  unfold checkedSucc
  by_cases h : n < maxWord <;> simp only [h, if_true, if_false, true_and, false_and,
    Option.some.injEq, reduceCtorEq]

theorem toNat_add_one {n} (h : n < maxWord) : (n + 1).toNat = n.toNat + 1 := by
  exact Nat.mod_eq_of_lt (lt_maxWord_iff.mp h)

theorem lt_add_one {n} (h : n < maxWord) : n < n + 1 := by
  rw [UInt64.lt_iff_toNat_lt, toNat_add_one h]
  exact Nat.lt_succ_self _

theorem checkedSucc_ofNat {n} (h : n + 1 < 2 ^ 64) :
    checkedSucc (.ofNat n) = some (.ofNat (n + 1)) := by
  have hn : (UInt64.ofNat n).toNat = n := UInt64.toNat_ofNat_of_lt' (Nat.lt_of_succ_lt h)
  have hlt : UInt64.ofNat n < maxWord := by rwa [lt_maxWord_iff, hn]
  refine checkedSucc_eq_some.mpr ⟨hlt, UInt64.toNat_inj.mp ?_⟩
  rw [toNat_add_one hlt, hn, UInt64.toNat_ofNat_of_lt' h]

theorem ofNat_ne_zero {n} (h₀ : n ≠ 0) (h : n < 2 ^ 64) : UInt64.ofNat n ≠ 0 := by
  intro heq
  have hn : (UInt64.ofNat n).toNat = 0 := by rw [heq]; rfl
  rw [UInt64.toNat_ofNat_of_lt' h] at hn
  exact h₀ hn

def saturatingAdd (m n : UInt64) : UInt64 := .ofNat (min (m.toNat + n.toNat) (2 ^ 64 - 1))

theorem toNat_saturatingAdd (m n : UInt64) :
    (saturatingAdd m n).toNat = min (m.toNat + n.toNat) (2 ^ 64 - 1) := by
  rw [saturatingAdd, UInt64.toNat_ofNat']
  omega

theorem toNat_add_ofNat {a n} (h : a.toNat + n < 2 ^ 64) :
    (a + UInt64.ofNat n).toNat = a.toNat + n := by
  rw [UInt64.toNat_add, UInt64.toNat_ofNat', Nat.mod_eq_of_lt (by omega : n < 2 ^ 64),
    Nat.mod_eq_of_lt h]

def PairLess (l r : UInt64 × UInt64) : Prop := l.1 < r.1 ∨ l.1 = r.1 ∧ l.2 < r.2

instance (l r : UInt64 × UInt64) : Decidable (PairLess l r) := inferInstanceAs (Decidable (_ ∨ _))

theorem PairLess.irrefl (a : UInt64 × UInt64) : ¬PairLess a a := by
  unfold PairLess
  grind

end CfwRs.Lib
