import Mathlib

namespace CfwRs.Lib

variable {σ ε α β : Type}

/-- Imperative code that may fail: a failure keeps the state it was reached in. -/
abbrev Action (σ ε α : Type) := EStateM ε σ α

def check (c : Except ε α) : Action σ ε α := fun s ↦
  match c with
  | .ok a => .ok a s
  | .error e => .error e s

variable {s s' : σ} {a : α} {b : β} {e : ε}
variable {c : Except ε α} {f : α → Action σ ε β} {t : σ} {x : Action σ ε α}

@[simp] theorem run_bind_eq_ok :
    (x >>= f).run s = .ok b s' ↔ ∃ a t, x.run s = .ok a t ∧ (f a).run t = .ok b s' := by
  simp only [EStateM.run, bind, EStateM.bind]
  cases x s <;> simp

@[simp] theorem run_bind_eq_error : (x >>= f).run s = .error e s' ↔
      x.run s = .error e s' ∨ ∃ a t, x.run s = .ok a t ∧ (f a).run t = .error e s' := by
  simp only [EStateM.run, bind, EStateM.bind]
  cases x s <;> simp

@[simp] theorem run_pure_eq_ok {c} : (pure c : Action σ ε α).run s = .ok a s' ↔ c = a ∧ s = s' := by
  simp [EStateM.run, pure, EStateM.pure]

theorem run_discard_eq_ok {u} :
    (do let _ ← x : Action σ ε Unit).run s = .ok u s' ↔ ∃ a, x.run s = .ok a s' := by
  simp only [run_bind_eq_ok, run_pure_eq_ok, true_and, exists_eq_right]

@[simp] theorem run_pure_ne_error {c} : (pure c : Action σ ε α).run s ≠ .error e s' := by
  simp [EStateM.run, pure, EStateM.pure]

@[simp] theorem run_get_eq_ok : (get : Action σ ε σ).run s = .ok t s' ↔ s = t ∧ s = s' := by
  simp [EStateM.run, get, getThe, MonadStateOf.get, EStateM.get]

@[simp] theorem run_get_ne_error : (get : Action σ ε σ).run s ≠ .error e s' := by
  simp [EStateM.run, get, getThe, MonadStateOf.get, EStateM.get]

@[simp] theorem run_set_eq_ok {u} : (set t : Action σ ε PUnit).run s = .ok u s' ↔ t = s' := by
  simp [EStateM.run, set, EStateM.set]

@[simp] theorem run_set_ne_error : (set t : Action σ ε PUnit).run s ≠ .error e s' := by
  simp [EStateM.run, set, EStateM.set]

@[simp] theorem run_check_eq_ok :
    (check c : Action σ ε α).run s = .ok a s' ↔ c = .ok a ∧ s = s' := by
  cases c <;> simp [EStateM.run, check]

@[simp] theorem run_check_eq_error :
    (check c : Action σ ε α).run s = .error e s' ↔ c = .error e ∧ s = s' := by
  cases c <;> simp [EStateM.run, check]

@[simp] theorem run_check_bind_eq_ok :
    (check c >>= f).run s = .ok b s' ↔ ∃ a, c = .ok a ∧ (f a).run s = .ok b s' := by
  cases c <;> simp [EStateM.run, bind, EStateM.bind, check]

@[simp] theorem run_get_bind_eq_ok {g : σ → Action σ ε β} :
    (get >>= g).run s = .ok b s' ↔ (g s).run s = .ok b s' := Iff.rfl

@[simp] theorem run_set_bind_eq_ok {f : PUnit → Action σ ε β} :
    (set t >>= f).run s = .ok b s' ↔ (f ⟨⟩).run t = .ok b s' := Iff.rfl

def AtomicAt (s : σ) (x : Action σ ε α) : Prop := ∀ e s', x.run s = .error e s' → s' = s

namespace AtomicAt

variable {c : Except ε α} {x : Action σ ε α} {f : α → Action σ ε β}

theorem of_check : AtomicAt s (check c) := by
  intro e s' h
  exact (run_check_eq_error.mp h).2.symm

theorem of_pure : AtomicAt s (pure a : Action σ ε α) := fun _ _ h ↦ absurd h run_pure_ne_error

theorem of_set {t : σ} : AtomicAt s (set t : Action σ ε PUnit) :=
  fun _ _ h ↦ absurd h run_set_ne_error

theorem check_bind (h : ∀ a, c = .ok a → AtomicAt s (f a)) : AtomicAt s (check c >>= f) := by
  intro e s' he
  rcases run_bind_eq_error.mp he with he | ⟨a, t, hok, he⟩
  · exact of_check e s' he
  · obtain ⟨hc, rfl⟩ := run_check_eq_ok.mp hok
    exact h a hc e s' he

theorem get_bind {g : σ → Action σ ε β} (h : AtomicAt s (g s)) : AtomicAt s (get >>= g) := by
  intro e s' he
  rcases run_bind_eq_error.mp he with he | ⟨a, t, hok, he⟩
  · exact absurd he run_get_ne_error
  · obtain ⟨rfl, rfl⟩ := run_get_eq_ok.mp hok
    exact h e s' he

/-- Once the state has changed, nothing may fail any more. -/
theorem bind (hx : AtomicAt s x)
    (hf : ∀ a t, x.run s = .ok a t → ∀ e s', (f a).run t ≠ .error e s') : AtomicAt s (x >>= f) := by
  intro e s' he
  rcases run_bind_eq_error.mp he with he | ⟨a, t, hok, he⟩
  · exact hx e s' he
  · exact absurd he (hf a t hok e s')

theorem ite {p : Prop} [Decidable p] {y} (hx : AtomicAt s x) (hy : AtomicAt s y) :
    AtomicAt s (if p then x else y) := by
  split
  · exact hx
  · exact hy

end AtomicAt

/-- Wherever `x` ends from `s`: with an answer and a state in `Q`, or failing in a state in `E`. -/
def Ends (x : Action σ ε α) (s : σ) (Q : α → σ → Prop) (E : σ → Prop) : Prop :=
  match x.run s with
  | .ok a t => Q a t
  | .error _ t => E t

namespace Ends

variable {x : Action σ ε α} {f : α → Action σ ε β} {Q : α → σ → Prop} {R : β → σ → Prop}
  {E : σ → Prop} {c : Except ε α}

theorem of_pure (h : Q a s) : Ends (pure a : Action σ ε α) s Q E := h

theorem bind (hx : Ends x s (fun a t ↦ Ends (f a) t R E) E) : Ends (x >>= f) s R E := by
  simp only [Ends, EStateM.run, Bind.bind, EStateM.bind] at hx ⊢
  cases h : x s with
  | ok a t => simpa [h] using hx
  | error e t => simpa [h] using hx

theorem mono {Q'} {E'} (h : Ends x s Q E)
    (hQ : ∀ a t, Q a t → Q' a t) (hE : ∀ t, E t → E' t) : Ends x s Q' E' := by
  unfold Ends at h ⊢
  split
  · next a t hr =>
    rw [hr] at h
    exact hQ a t h
  · next e t hr =>
    rw [hr] at h
    exact hE t h

theorem of_check (hE : E s) (h : ∀ a, c = .ok a → Q a s) : Ends (check c) s Q E := by
  cases c with
  | ok a => exact h a rfl
  | error e => exact hE

theorem of_get_bind {g : σ → Action σ ε β} (h : Ends (g s) s R E) : Ends (get >>= g) s R E := h

theorem of_set_bind {t} {g : PUnit → Action σ ε β} (h : Ends (g ⟨⟩) t R E) :
    Ends (set t >>= g) s R E := h

theorem of_run_ok (h : Ends x s Q E) {t} (hr : x.run s = .ok a t) : Q a t := by
  simpa [Ends, hr] using h

end Ends

/-- The state `x` leaves behind, whether it answers or fails. -/
def leaves (x : Action σ ε α) (s : σ) : σ :=
  match x.run s with
  | .ok _ t | .error _ t => t

theorem Ends.leaves {Q} {E} (h : Ends x s Q E) (hQ : ∀ a t, Q a t → E t) : E (leaves x s) := by
  unfold Ends at h
  unfold Lib.leaves
  split at h
  · next a t hr =>
    simpa using hQ a t h
  · next e t hr => simpa using h

end CfwRs.Lib
