import CfwRs.Lib.Durable

namespace CfwRs.Lib.Durable

variable {σ ε ε' α β : Type} {R R' : σ → σ → Prop}

/-- Run from `s`, `x` moves along `R` only and ends as `Q` says. -/
def Moves (R : σ → σ → Prop) (x : Durable σ ε α) (Q : Except ε α → σ → Prop) (s : σ) : Prop :=
  x.wp (R s) (fun r t ↦ R s t ∧ Q r t) s

/-- Moves along `R`, whatever it returns. -/
abbrev Roams (R : σ → σ → Prop) (x : Durable σ ε α) (s : σ) : Prop :=
  Moves R x (returns fun _ _ ↦ True) s

variable {s : σ}
variable {Q : Except ε α → σ → Prop} {f : α → Durable σ ε β} {x : Durable σ ε α}
variable {Q' : Except ε α → σ → Prop} {c : Except ε α}

theorem Moves.mono (h : Moves R x Q s) (hQ : ∀ r t, R s t → Q r t → Q' r t) : Moves R x Q' s :=
  wp_mono h (fun _ ht ↦ ht) fun r t ht ↦ ⟨ht.1, hQ r t ht.1 ht.2⟩

theorem Moves.along (h : Moves R' x Q s) (hR : ∀ t, R' s t → R s t)
    (hQ : ∀ r t, R' s t → Q r t → Q' r t) : Moves R x Q' s :=
  wp_mono h hR fun r t ht ↦ ⟨hR t ht.1, hQ r t ht.1 ht.2⟩

theorem Moves.post {P Q} (h : Moves R x (returns P) s)
    (hQ : ∀ a t, R s t → P a t → Q a t) : Moves R x (returns Q) s := by
  refine h.mono fun r t ht hr ↦ ?_
  cases r with
  | ok a => exact hQ a t ht hr
  | error e => trivial

theorem Moves.catching {Q} (h : Moves R x (fun r ↦ Q (.ok r)) s) :
    Moves R (x.catching : Durable σ ε' _) Q s :=
  wp_catching.mpr h

theorem Moves.handle {f} {Q : Except ε' α → σ → Prop}
    (h : Moves R x (fun r ↦ Q (handled f r)) s) : Moves R (x.handle f) Q s :=
  wp_handle.mpr h

variable [IsPreorder σ R]

theorem moves_pure {a} (h : Q (.ok a) s) :
    Moves R (pure a : Durable σ ε α) Q s := wp_pure.mpr ⟨refl_of R s, h⟩

theorem moves_attempt (h : Q c s) : Moves R (attempt c) Q s := wp_attempt.mpr ⟨refl_of R s, h⟩

omit [IsPreorder σ R] in
theorem moves_step {f} {Q : Except ε Unit → σ → Prop} (hR : R s (f s))
    (h : Q (.ok ()) (f s)) : Moves R (step f) Q s := wp_step.mpr ⟨hR, hR, h⟩

theorem Moves.bind {P Q} (hx : Moves R x P s)
    (herror : ∀ e t, R s t → P (.error e) t → Q (.error e) t)
    (hok : ∀ a t, R s t → P (.ok a) t → Moves R (f a) Q t) : Moves R (x >>= f) Q s := by
  refine wp_bind_of hx (fun e t h ↦ ⟨h.1, herror e t h.1 h.2⟩) fun a t h ↦ ?_
  refine wp_mono (hok a t h.1 h.2) (fun u hu ↦ trans_of R h.1 hu) fun r u hu ↦ ?_
  exact ⟨trans_of R h.1 hu.1, hu.2⟩

theorem Moves.bind_returns {P Q} (hx : Moves R x (returns P) s)
    (hok : ∀ a t, R s t → P a t → Moves R (f a) (returns Q) t) : Moves R (x >>= f) (returns Q) s :=
  hx.bind (fun _ _ _ _ ↦ trivial) hok

theorem Moves.bind_any {P Q} (hx : Moves R x (returns P) s)
    (hok : ∀ a t, Moves R (f a) (returns Q) t) : Moves R (x >>= f) (returns Q) s :=
  hx.bind_returns fun a t _ _ ↦ hok a t

theorem moves_attempt_bind {Q} (herror : ∀ e, c = .error e → Q (.error e) s)
    (hok : ∀ a, c = .ok a → Moves R (f a) Q s) : Moves R (attempt c >>= f) Q s := by
  rw [Moves, wp_bind, wp_attempt]
  cases c with
  | ok a => exact hok a rfl
  | error e => exact ⟨refl_of R s, herror e rfl⟩

omit [IsPreorder σ R] in
theorem moves_read_bind {q Q} (h : Moves R (f (q s)) Q s) : Moves R (read q >>= f) Q s := by
  exact h

end CfwRs.Lib.Durable
