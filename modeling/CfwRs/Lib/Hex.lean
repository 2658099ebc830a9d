import CfwRs.Lib.Json

namespace CfwRs.Lib

def hexDigit (n : ℕ) : UInt8 := if n < 10 then (48 + n).toUInt8 else (87 + n).toUInt8

def hexByte (b : UInt8) : Bytes := [hexDigit (b.toNat / 16), hexDigit (b.toNat % 16)]

def hex (s : Bytes) : Bytes := s.flatMap hexByte

theorem hexDigit_injective {m n} (hm : m < 16) (hn : n < 16) (h : hexDigit m = hexDigit n) :
    m = n := by
  have key : ∀ m n : Fin 16, hexDigit m = hexDigit n → m = n := by decide
  exact congrArg Fin.val (key ⟨m, hm⟩ ⟨n, hn⟩ h)

theorem hexDigit_ne {n} (hn : n < 16) : hexDigit n ≠ 34 ∧ hexDigit n ≠ 45 := by
  have key : ∀ n : Fin 16, hexDigit n ≠ 34 ∧ hexDigit n ≠ 45 := by decide
  exact key ⟨n, hn⟩

theorem ne_of_mem_hexByte {b c} (h : c ∈ hexByte b) : c ≠ 34 ∧ c ≠ 45 := by
  have hb : b.toNat < 256 := b.toNat_lt
  simp only [hexByte, List.mem_cons, List.not_mem_nil, or_false] at h
  rcases h with rfl | rfl
  · exact hexDigit_ne (by omega)
  · exact hexDigit_ne (by omega)

theorem ne_of_mem_hex {s c} (h : c ∈ hex s) : c ≠ 34 ∧ c ≠ 45 := by
  obtain ⟨b, _, hc⟩ := List.mem_flatMap.mp h
  exact ne_of_mem_hexByte hc

theorem hexByte_injective {a b} (h : hexByte a = hexByte b) : a = b := by
  have ha : a.toNat < 256 := a.toNat_lt
  have hb : b.toNat < 256 := b.toNat_lt
  simp only [hexByte, List.cons.injEq, and_true] at h
  have hhigh := hexDigit_injective (by omega) (by omega) h.1
  have hlow := hexDigit_injective (by omega) (by omega) h.2
  exact UInt8.toNat_inj.mp (by omega)

theorem hex_injective {s t} (h : hex s = hex t) : s = t := by
  induction s generalizing t with
  | nil =>
    cases t with
    | nil => rfl
    | cons b t => simp [hex, hexByte] at h
  | cons a s ih =>
    cases t with
    | nil => simp [hex, hexByte] at h
    | cons b t =>
      obtain ⟨hbyte, hrest⟩ := List.append_inj h (by simp [hexByte])
      rw [hexByte_injective hbyte, ih hrest]

@[simp] theorem hex_inj {s t} : hex s = hex t ↔ s = t := ⟨hex_injective, congrArg hex⟩

theorem length_hex (s : Bytes) : (hex s).length = 2 * s.length := by
  induction s with
  | nil => rfl
  | cons a s ih =>
    rw [hex, List.flatMap_cons, List.length_append, ← hex]
    simp only [hexByte, List.length_cons, List.length_nil]
    omega

def uuidText (u : FixedBytes 16) : Bytes :=
  hex (u.bytes.take 4) ++ 45 :: hex ((u.bytes.drop 4).take 2) ++
    45 :: hex ((u.bytes.drop 6).take 2) ++ 45 :: hex ((u.bytes.drop 8).take 2) ++
    45 :: hex (u.bytes.drop 10)

theorem filter_hex (s : Bytes) : (hex s).filter (· != 45) = hex s :=
  List.filter_eq_self.mpr fun c hc ↦ by simpa using (ne_of_mem_hex hc).2

theorem hex_append (s t : Bytes) : hex (s ++ t) = hex s ++ hex t := List.flatMap_append

theorem hex_take_append (s : Bytes) (n m : ℕ) :
    hex ((s.drop n).take m) ++ hex (s.drop (n + m)) = hex (s.drop n) := by
  rw [← hex_append, ← List.drop_drop, List.take_append_drop]

theorem filter_uuidText (u : FixedBytes 16) : (uuidText u).filter (· != 45) = hex u.bytes := by
  have hdash (t : Bytes) : (45 :: t).filter (· != 45) = t.filter (· != 45) := by simp
  simp only [uuidText, List.filter_append, hdash, filter_hex, List.append_assoc]
  rw [hex_take_append u.bytes 8 2, hex_take_append u.bytes 6 2, hex_take_append u.bytes 4 2,
    ← hex_append, List.take_append_drop]

theorem plainText_hex (s : Bytes) : Json.PlainText (hex s) := fun _ hc ↦ (ne_of_mem_hex hc).1

theorem plainText_uuidText (u : FixedBytes 16) : Json.PlainText (uuidText u) := by
  have hplain (t : Bytes) : ∀ c ∈ hex t, c ≠ 34 := fun c hc ↦ (ne_of_mem_hex hc).1
  intro c hc
  simp only [uuidText] at hc
  grind

theorem length_uuidText (u : FixedBytes 16) : (uuidText u).length = 36 := by
  simp [uuidText, length_hex, u.length_eq]

@[simp] theorem uuidText_inj {u v} : uuidText u = uuidText v ↔ u = v := by
  refine ⟨fun h ↦ FixedBytes.ext_bytes (hex_injective ?_), congrArg uuidText⟩
  rw [← filter_uuidText, h, filter_uuidText]

end CfwRs.Lib
