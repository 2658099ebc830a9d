import Mathlib

namespace CfwRs.Lib

def isLowerHex (c : Char) : Bool := c.isDigit || ('a' ≤ c && c ≤ 'f')

def isLowercaseSha256 (s : String) : Bool := s.length = 64 && s.toList.all isLowerHex

def isHyphenPlace (n : ℕ) : Bool := n = 8 || n = 13 || n = 18 || n = 23

/-- A UUID text that parsing and printing leaves as it is. -/
def isCanonicalUuid (s : String) : Bool :=
  s.length = 36 && s.toList.zipIdx.all fun (c, n) ↦
    if isHyphenPlace n then c = '-' else isLowerHex c

theorem length_of_isLowercaseSha256 {s : String} (h : isLowercaseSha256 s = true) :
    s.length = 64 := by
  simp only [isLowercaseSha256, Bool.and_eq_true, decide_eq_true_eq] at h
  exact h.1

theorem length_of_isCanonicalUuid {s : String} (h : isCanonicalUuid s = true) : s.length = 36 := by
  simp only [isCanonicalUuid, Bool.and_eq_true, decide_eq_true_eq] at h
  exact h.1

def isWhitespace (c : Char) : Bool :=
  (9 ≤ c.toNat && c.toNat ≤ 13) || c.toNat = 32 || c.toNat = 133 || c.toNat = 160 ||
    c.toNat = 5760 || (8192 ≤ c.toNat && c.toNat ≤ 8202) || c.toNat = 8232 || c.toNat = 8233 ||
    c.toNat = 8239 || c.toNat = 8287 || c.toNat = 12288

def isControl (c : Char) : Bool := c.toNat < 32 || (127 ≤ c.toNat && c.toNat < 160)

def trim (s : String) : String :=
  .ofList ((s.toList.dropWhile isWhitespace).rdropWhile isWhitespace)

theorem dropWhile_rdropWhile {α : Type} (p : α → Bool) (l : List α) :
    ((l.dropWhile p).rdropWhile p).dropWhile p = (l.dropWhile p).rdropWhile p := by
  rw [List.dropWhile_eq_self_iff]
  intro h
  -- what is kept is a beginning of `l.dropWhile p`, whose first element is no blank
  have hinitial := List.rdropWhile_prefix p (l.dropWhile p)
  have hpos : 0 < (l.dropWhile p).length := h.trans_le hinitial.length_le
  rw [hinitial.getElem h]
  exact List.dropWhile_get_zero_not p l hpos

theorem trim_trim (s : String) : trim (trim s) = trim s := by
  unfold trim
  rw [String.toList_ofList, dropWhile_rdropWhile, List.rdropWhile_idempotent]

example : isCanonicalUuid "11111111-2222-4333-8444-5555555555ab" = true := by decide

end CfwRs.Lib
