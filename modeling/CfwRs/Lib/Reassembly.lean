import CfwRs.Lib.Bytes

namespace CfwRs.Lib

/-- A piece of a message, and where it begins in the message. -/
structure Piece where
  offset : ℕ
  data : Bytes
deriving DecidableEq

namespace Piece

/-- The piece has the byte at a position of the message. -/
def Covers (p : Piece) (i : ℕ) : Prop := p.offset ≤ i ∧ i < p.offset + p.data.length

def Apart (p q : Piece) : Prop :=
  p.offset + p.data.length ≤ q.offset ∨ q.offset + q.data.length ≤ p.offset ∨
    p.data = [] ∨ q.data = []

instance (p : Piece) (i : ℕ) : Decidable (p.Covers i) := inferInstanceAs (Decidable (_ ∧ _))

instance (p q : Piece) : Decidable (Apart p q) := inferInstanceAs (Decidable (_ ∨ _))

instance : Std.Symm Apart where
  symm p q h := by
    rcases h with h | h | h | h
    · exact .inr (.inl h)
    · exact .inl h
    · exact .inr (.inr (.inr h))
    · exact .inr (.inr (.inl h))

theorem Apart.not_covers {p q} (h : Apart p q) {i} (hp : p.Covers i) : ¬q.Covers i := by
  rintro ⟨hqle, hqlt⟩
  obtain ⟨hple, hplt⟩ := hp
  rcases h with h | h | h | h
  · omega
  · omega
  · rw [h, List.length_nil] at hplt
    omega
  · rw [h, List.length_nil] at hqlt
    omega

end Piece

/-- The message is made of pieces that do not overlap and that leave no gap. -/
structure Reassembles (pieces : List Piece) (message : Bytes) : Prop where
  apart : pieces.Pairwise Piece.Apart
  within : ∀ p ∈ pieces, p.offset + p.data.length ≤ message.length
  covered : ∀ i < message.length, ∃ p ∈ pieces, p.Covers i ∧ message[i]? = p.data[i - p.offset]?

theorem Reassembles.getElem?_eq {pieces} {message}
    (h : Reassembles pieces message) {p} (hp : p ∈ pieces) {i} (hi : p.Covers i) :
    message[i]? = p.data[i - p.offset]? := by
  have hlt : i < message.length := hi.2.trans_le (h.within p hp)
  obtain ⟨q, hq, hcovers, hmessage⟩ := h.covered i hlt
  by_cases hsame : p = q
  · rw [hsame]
    exact hmessage
  · exact absurd hcovers ((h.apart.forall hp hq hsame).not_covers hi)

end CfwRs.Lib
