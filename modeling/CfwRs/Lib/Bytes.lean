import Mathlib

namespace CfwRs.Lib

abbrev Bytes := List UInt8

/-- A byte string of a fixed length, such as a digest or a UUID. -/
structure FixedBytes (n : ℕ) where
  bytes : Bytes
  length_eq : bytes.length = n
deriving DecidableEq

namespace FixedBytes

def fill (n : ℕ) (b : UInt8) : FixedBytes n := ⟨List.replicate n b, List.length_replicate⟩

instance (n : ℕ) : Inhabited (FixedBytes n) := ⟨fill n 0⟩

theorem ext_bytes {n} {a b : FixedBytes n} (h : a.bytes = b.bytes) : a = b := by
  cases a
  cases b
  simpa only [mk.injEq] using h

@[simp] theorem bytes_inj {n} {a b : FixedBytes n} : a.bytes = b.bytes ↔ a = b :=
  ⟨ext_bytes, congrArg bytes⟩

end FixedBytes

def bigEndian : ℕ → ℕ → Bytes
  | 0, _ => []
  | k + 1, n => (n / 256 ^ k).toUInt8 :: bigEndian k n

def bigEndianValue (s : Bytes) : ℕ := s.foldl (fun acc b ↦ acc * 256 + b.toNat) 0

@[simp] theorem length_bigEndian (k n : ℕ) : (bigEndian k n).length = k := by
  induction k with
  | zero => rfl
  | succ k ih => rw [bigEndian, List.length_cons, ih]

theorem foldl_bigEndian (k n acc : ℕ) :
    (bigEndian k n).foldl (fun acc b ↦ acc * 256 + b.toNat) acc = acc * 256 ^ k + n % 256 ^ k := by
  induction k generalizing acc with
  | zero => simp [bigEndian, Nat.mod_one]
  | succ k ih =>
    have hbyte : (n / 256 ^ k).toUInt8.toNat = n / 256 ^ k % 256 := by simp
    have hsplit : n % 256 ^ (k + 1) = n / 256 ^ k % 256 * 256 ^ k + n % 256 ^ k := by
      rw [pow_succ, Nat.mod_mul, mul_comm (256 ^ k), add_comm]
    rw [bigEndian, List.foldl_cons, ih, hbyte, hsplit]
    ring

theorem bigEndianValue_bigEndian {k n} (h : n < 256 ^ k) : bigEndianValue (bigEndian k n) = n := by
  rw [bigEndianValue, foldl_bigEndian, Nat.zero_mul, Nat.zero_add, Nat.mod_eq_of_lt h]

theorem bigEndianValue_cons (b : UInt8) (s : Bytes) :
    bigEndianValue (b :: s) = b.toNat * 256 ^ s.length + bigEndianValue s := by
  have hacc (s : Bytes) (acc : ℕ) : s.foldl (fun acc b ↦ acc * 256 + b.toNat) acc =
      acc * 256 ^ s.length + bigEndianValue s := by
    induction s generalizing acc with
    | nil => simp [bigEndianValue]
    | cons b s ih =>
      rw [bigEndianValue, List.foldl_cons, List.foldl_cons, ih, ih (0 * 256 + b.toNat),
        List.length_cons]
      ring
  rw [bigEndianValue, List.foldl_cons, hacc, Nat.zero_add]

theorem bigEndianValue_lt (s : Bytes) : bigEndianValue s < 256 ^ s.length := by
  induction s with
  | nil => simp [bigEndianValue]
  | cons b s ih =>
    have hb : b.toNat + 1 ≤ 256 := b.toNat_lt
    have hmul := Nat.mul_le_mul_right (256 ^ s.length) hb
    rw [bigEndianValue_cons, List.length_cons]
    rw [Nat.add_mul] at hmul
    omega

theorem bigEndian_mul_add (k a n : ℕ) : bigEndian k (a * 256 ^ k + n) = bigEndian k n := by
  induction k generalizing a with
  | zero => rfl
  | succ k ih =>
    have hhigh : (a * 256 ^ (k + 1) + n) / 256 ^ k = n / 256 ^ k + 256 * a := by
      rw [pow_succ', ← mul_assoc, Nat.add_comm, Nat.add_mul_div_right _ _ (Nat.pow_pos (by decide)),
        Nat.mul_comm a 256]
    have hbyte : (n / 256 ^ k + 256 * a).toUInt8 = (n / 256 ^ k).toUInt8 :=
      UInt8.toNat_inj.mp (by simp)
    rw [bigEndian, bigEndian, hhigh, hbyte, pow_succ', ← mul_assoc, ih]

theorem bigEndian_bigEndianValue {k} {s} (h : s.length = k) :
    bigEndian k (bigEndianValue s) = s := by
  induction s generalizing k with
  | nil =>
    rw [← h]
    rfl
  | cons b s ih =>
    have hpos : 0 < 256 ^ s.length := Nat.pow_pos (by decide)
    have hhigh : (b.toNat * 256 ^ s.length + bigEndianValue s) / 256 ^ s.length = b.toNat := by
      rw [Nat.add_comm, Nat.add_mul_div_right _ _ hpos,
        Nat.div_eq_of_lt (bigEndianValue_lt s), Nat.zero_add]
    rw [← h, List.length_cons, bigEndian, bigEndianValue_cons, hhigh, bigEndian_mul_add, ih rfl]
    simp

end CfwRs.Lib
