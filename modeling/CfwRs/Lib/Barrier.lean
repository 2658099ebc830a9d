import Mathlib

namespace CfwRs.Lib

/-- How events, the newest first, relate to keys: an event may open a key or otherwise touch it,
and some events clear all keys at once. -/
structure Barrier (ε κ : Type*) where
  opens : ε → κ → Prop
  touches : ε → κ → Prop
  clears : ε → Prop
  touches_of_opens : ∀ e k, opens e k → touches e k
  not_touches_of_clears : ∀ e k, clears e → ¬touches e k

namespace Barrier

variable {ε κ : Type*} (B : Barrier ε κ)

def Opened (k : κ) (h : List ε) : Prop := ∃ e ∈ h, B.opens e k

/-- A clearing event is newer than everything that touched the key. -/
def Cleared (k : κ) (h : List ε) : Prop :=
  ∃ later clearing earlier, h = later ++ clearing :: earlier ∧ B.clears clearing ∧
    ∀ e ∈ later, ¬B.touches e k

/-- Whenever a key was opened, all other keys that had been opened were cleared. -/
def Separated : List ε → Prop
  | [] => True
  | e :: h => (∀ k k', B.opens e k' → k ≠ k' → B.Opened k h → B.Cleared k h) ∧ Separated h

/-- All keys that were opened are cleared, with the exception of those in `K`. -/
def ClearedBut (K : Set κ) (h : List ε) : Prop := ∀ k, B.Opened k h → k ∈ K ∨ B.Cleared k h

variable {B} {e : ε} {h : List ε} {k : κ} {K : Set κ}

theorem opened_cons : B.Opened k (e :: h) ↔ B.opens e k ∨ B.Opened k h := by
  simp [Opened]

theorem Cleared.of_clears (he : B.clears e) : B.Cleared k (e :: h) :=
  ⟨[], e, h, rfl, he, by simp⟩

theorem Cleared.cons (hk : B.Cleared k h) (he : ¬B.touches e k) : B.Cleared k (e :: h) := by
  obtain ⟨later, clearing, earlier, rfl, hclears, hlater⟩ := hk
  refine ⟨e :: later, clearing, earlier, rfl, hclears, ?_⟩
  intro x hx
  rcases List.mem_cons.mp hx with rfl | hx
  · exact he
  · exact hlater x hx

theorem ClearedBut.of_clears (he : B.clears e) : B.ClearedBut K (e :: h) :=
  fun _ _ ↦ .inr (.of_clears he)

theorem ClearedBut.cons (hh : B.ClearedBut K h) (he : ∀ k, B.touches e k → k ∈ K) :
    B.ClearedBut K (e :: h) := by
  intro k hk
  by_cases hmem : k ∈ K
  · exact .inl hmem
  · rcases opened_cons.mp hk with hopens | hopened
    · exact absurd (he k (B.touches_of_opens e k hopens)) hmem
    · exact (hh k hopened).imp_right fun hc ↦ hc.cons fun ht ↦ hmem (he k ht)

theorem ClearedBut.mono {K'} (hh : B.ClearedBut K h) (hK : K ⊆ K') :
    B.ClearedBut K' h := fun k hk ↦ (hh k hk).imp_left fun hmem ↦ hK hmem

theorem Separated.cons_of_not_opens (hh : B.Separated h) (he : ∀ k, ¬B.opens e k) :
    B.Separated (e :: h) := ⟨fun _ k' hk' _ _ ↦ absurd hk' (he k'), hh⟩

theorem Separated.cons (hh : B.Separated h) (hc : B.ClearedBut K h)
    (he : ∀ k k', B.opens e k → k' ∈ K → k' = k) : B.Separated (e :: h) := by
  refine ⟨fun k k' hk' hne hopened ↦ ?_, hh⟩
  rcases hc k hopened with hmem | hcleared
  · exact absurd (he k' k hk' hmem) hne
  · exact hcleared

theorem Separated.of_append {l} (hh : B.Separated (l ++ h)) : B.Separated h := by
  induction l with
  | nil => exact hh
  | cons e l ih => exact ih hh.2

/-- Between the openings of two keys lies a clearing event that is newer than everything that
touched the first one. -/
theorem Separated.between {newer middle older} {first second} {k k'}
    (hh : B.Separated (newer ++ second :: (middle ++ first :: older)))
    (hfirst : B.opens first k) (hsecond : B.opens second k') (hne : k ≠ k') :
    ∃ later clearing earlier, middle = later ++ clearing :: earlier ∧ B.clears clearing ∧
      ∀ e ∈ later, ¬B.touches e k := by
  have hopened : B.Opened k (middle ++ first :: older) := ⟨first, by simp, hfirst⟩
  obtain ⟨later, clearing, earlier, heq, hclears, hlater⟩ :=
    hh.of_append.1 k k' hsecond hne hopened
  -- the first opening touches its key, so it is older than the clearing event
  have htouches : B.touches first k := B.touches_of_opens first k hfirst
  have hne : first ≠ clearing := by
    rintro rfl
    exact B.not_touches_of_clears first k hclears htouches
  rcases List.append_eq_append_iff.mp heq with ⟨rest, hl, hr⟩ | ⟨rest, hl, hr⟩
  · cases rest with
    | nil => exact absurd (List.cons.inj hr).1 hne
    | cons x rest =>
      obtain ⟨rfl, -⟩ := List.cons.inj hr
      exact absurd htouches (hlater first (by simp [hl]))
  · cases rest with
    | nil => exact absurd (List.cons.inj hr).1.symm hne
    | cons x rest =>
      obtain ⟨rfl, -⟩ := List.cons.inj hr
      exact ⟨later, clearing, rest, hl, hclears, hlater⟩

end Barrier

end CfwRs.Lib
