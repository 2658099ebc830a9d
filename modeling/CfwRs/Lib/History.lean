import Mathlib

namespace CfwRs.Lib.History

variable {σ ι : Type*}

/-- One executed step together with the states around it. -/
structure Entry (σ ι : Type*) where
  before : σ
  input : ι
  after : σ

/-- A finite run of a transition system with the steps it took, the newest first. -/
inductive Run (start : σ → Prop) (step : σ → ι → σ → Prop) : List (Entry σ ι) → σ → Prop
  | start {s} : start s → Run start step [] s
  | step {t s s' i} :
      Run start step t s → step s i s' → Run start step (⟨s, i, s'⟩ :: t) s'

variable {start : σ → Prop} {step : σ → ι → σ → Prop} {t : List (Entry σ ι)} {s : σ}

theorem Run.invariant {I : σ → Prop} (h₀ : ∀ s, start s → I s)
    (hs : ∀ s i s', I s → step s i s' → I s') (h : Run start step t s) : I s := by
  induction h with
  | start h => exact h₀ _ h
  | step _ h ih => exact hs _ _ _ ih h

variable {e : Entry σ ι} {held : σ → Bool}

theorem Run.of_suffix (h : Run start step t s) {older} (he : e :: older <:+ t) :
    Run start step older e.before ∧ step e.before e.input e.after := by
  induction h with
  | start _ => simp at he
  | step hr hs ih =>
    rcases List.suffix_cons_iff.mp he with heq | hmem
    · obtain ⟨rfl, rfl⟩ := List.cons.inj heq
      exact ⟨hr, hs⟩
    · exact ih hmem

/-- The newest steps of a history, as far back as `held` was true of the state they left. -/
def during (held : σ → Bool) (t : List (Entry σ ι)) : List (Entry σ ι) :=
  t.takeWhile fun e ↦ held e.before

theorem during_cons_of_held (h : held e.before = true) :
    during held (e :: t) = e :: during held t := List.takeWhile_cons_of_pos h

theorem during_cons_of_not_held (h : held e.before = false) :
    during held (e :: t) = [] := List.takeWhile_cons_of_neg (by simp [h])

section Execute

variable (next : σ → ι → σ)

def execute (p : List (Entry σ ι) × σ) (is : List ι) : List (Entry σ ι) × σ :=
  is.foldl (fun p i ↦ (⟨p.2, i, next p.2 i⟩ :: p.1, next p.2 i)) p

theorem execute_append (p : List (Entry σ ι) × σ) (is js : List ι) :
    execute next p (is ++ js) = execute next (execute next p is) js := List.foldl_append

theorem Run.execute {next} (hn : ∀ s i, step s i (next s i)) (is : List ι)
    (h : Run start step t s) :
    Run start step (History.execute next (t, s) is).1 (History.execute next (t, s) is).2 := by
  induction is generalizing t s with
  | nil => exact h
  | cons i is ih => exact ih (h.step (hn s i))

end Execute

end CfwRs.Lib.History
