import Mathlib

namespace CfwRs.Lib

variable {σ ε ε' α β : Type}

/-- What a run of storage code did: the stores that its durable steps left, in order, and how it
ended. -/
structure Durable.Outcome (σ ε α : Type) where
  visited : List σ
  result : Except ε α

/-- Storage code: it reads a store, changes it in durable steps, and may fail. -/
def Durable (σ ε α : Type) := σ → Durable.Outcome σ ε α

namespace Durable

def final (x : Durable σ ε α) (s : σ) : σ := (x s).visited.getLastD s

instance : Monad (Durable σ ε) where
  pure a := fun _ ↦ ⟨[], .ok a⟩
  bind x f := fun s ↦
    match (x s).result with
    | .ok a => ⟨(x s).visited ++ (f a (x.final s)).visited, (f a (x.final s)).result⟩
    | .error e => ⟨(x s).visited, .error e⟩

def read (q : σ → α) : Durable σ ε α := fun s ↦ ⟨[], .ok (q s)⟩

def attempt (c : Except ε α) : Durable σ ε α := fun _ ↦ ⟨[], c⟩

abbrev lifted (f : ε' → ε) (c : Except ε' α) : Durable σ ε α := attempt (c.mapError f)

def step (f : σ → σ) : Durable σ ε Unit := fun s ↦ ⟨[f s], .ok ()⟩

def exchange (f : σ → σ × α) : Durable σ ε α := fun s ↦ ⟨[(f s).1], .ok (f s).2⟩

def catching (x : Durable σ ε α) : Durable σ ε' (Except ε α) := fun s ↦
  ⟨(x s).visited, .ok (x s).result⟩

def handled (h : ε → Except ε' α) : Except ε α → Except ε' α
  | .ok a => .ok a
  | .error e => h e

def handle (x : Durable σ ε α) (h : ε → Except ε' α) : Durable σ ε' α := fun s ↦
  ⟨(x s).visited, handled h (x s).result⟩

/-- Run from `s`, `x` only visits stores in `C` and ends as `Q` says. -/
def wp (x : Durable σ ε α) (C : σ → Prop) (Q : Except ε α → σ → Prop) (s : σ) : Prop :=
  (∀ t ∈ (x s).visited, C t) ∧ Q (x s).result (x.final s)

/-- The condition on what follows a computation that may have failed. -/
def after (f : α → Durable σ ε β) (C : σ → Prop) (Q : Except ε β → σ → Prop) :
    Except ε α → σ → Prop
  | .ok a, t => (f a).wp C Q t
  | .error e, t => Q (.error e) t

variable {C : σ → Prop} {s : σ}
variable {E : σ → Prop} {P : α → σ → Prop} {Q : Except ε α → σ → Prop} {a : α} {c : Except ε α}
  {e : ε} {f : α → Durable σ ε β} {x : Durable σ ε α}

@[simp] theorem after_ok {Q} : after f C Q (.ok a) s ↔ (f a).wp C Q s := Iff.rfl

@[simp] theorem after_error {Q} : after f C Q (.error e) s ↔ Q (.error e) s := Iff.rfl

theorem getLastD_append (l m : List σ) : (l ++ m).getLastD s = m.getLastD (l.getLastD s) := by
  simp only [List.getLastD_eq_getLast?, List.getLast?_append]
  cases m.getLast? <;> rfl

variable {C' : σ → Prop} {Q' : Except ε α → σ → Prop} {g : α → Durable σ ε β} {t : σ}

@[simp] theorem wp_pure : (pure a : Durable σ ε α).wp C Q s ↔ Q (.ok a) s := by
  simp [wp, pure, final]

@[simp] theorem wp_bind {Q} : (x >>= f).wp C Q s ↔ x.wp C (after f C Q) s := by
  simp only [wp, bind, final]
  cases (x s).result with
  | ok a =>
    simp only [List.mem_append, getLastD_append]
    constructor
    · rintro ⟨hv, hq⟩
      exact ⟨fun t ht ↦ hv t (.inl ht), fun t ht ↦ hv t (.inr ht), hq⟩
    · rintro ⟨hx, hf, hq⟩
      exact ⟨fun t ht ↦ ht.elim (hx t) (hf t), hq⟩
  | error e => simp only [after]

@[simp] theorem wp_read {q} : (read q : Durable σ ε α).wp C Q s ↔ Q (.ok (q s)) s := by
  simp [wp, read, final]

@[simp] theorem wp_attempt : (attempt c : Durable σ ε α).wp C Q s ↔ Q c s := by
  simp [wp, attempt, final]

@[simp] theorem wp_step {f} {Q : Except ε Unit → σ → Prop} :
    (step f).wp C Q s ↔ C (f s) ∧ Q (.ok ()) (f s) := by
  simp [wp, step, final]

@[simp] theorem wp_exchange {f} : (exchange f).wp C Q s ↔ C (f s).1 ∧ Q (.ok (f s).2) (f s).1 := by
  simp [wp, exchange, final]

@[simp] theorem wp_catching {Q} :
    (catching x : Durable σ ε' _).wp C Q s ↔ x.wp C (fun r ↦ Q (.ok r)) s := Iff.rfl

@[simp] theorem wp_handle {h} {Q : Except ε' α → σ → Prop} :
    (x.handle h).wp C Q s ↔ x.wp C (fun r ↦ Q (handled h r)) s := Iff.rfl

theorem wp_mono (h : x.wp C Q s) (hC : ∀ t, C t → C' t) (hQ : ∀ r t, Q r t → Q' r t) :
    x.wp C' Q' s :=
  ⟨fun t ht ↦ hC t (h.1 t ht), hQ _ _ h.2⟩

theorem wp_post (h : x.wp C Q s) (hQ : ∀ r t, Q r t → Q' r t) : x.wp C Q' s :=
  ⟨h.1, hQ _ _ h.2⟩

theorem wp_and (h : x.wp C Q s) (h' : x.wp C' Q' s) :
    x.wp (fun t ↦ C t ∧ C' t) (fun r t ↦ Q r t ∧ Q' r t) s :=
  ⟨fun t ht ↦ ⟨h.1 t ht, h'.1 t ht⟩, h.2, h'.2⟩

theorem wp_and_any (h : x.wp C Q s) (h' : x.wp (fun _ ↦ True) Q' s) :
    x.wp C (fun r t ↦ Q r t ∧ Q' r t) s := ⟨h.1, h.2, h'.2⟩

theorem wp_exact (h : x.wp C Q s) :
    x.wp C (fun r t ↦ Q r t ∧ r = (x s).result ∧ t = x.final s) s := ⟨h.1, h.2, rfl, rfl⟩

theorem wp_bind_of {R Q} (hx : x.wp C R s)
    (herror : ∀ e t, R (.error e) t → Q (.error e) t) (hok : ∀ a t, R (.ok a) t → (f a).wp C Q t) :
    (x >>= f).wp C Q s := by
  rw [wp_bind]
  refine wp_mono hx (fun _ h ↦ h) fun r t h ↦ ?_
  cases r with
  | ok a => exact hok a t h
  | error e => exact herror e t h

def returns (P : α → σ → Prop) : Except ε α → σ → Prop
  | .ok a, t => P a t
  | .error _, _ => True

@[simp] theorem returns_ok : returns P (.ok a : Except ε α) s ↔ P a s := Iff.rfl

@[simp] theorem returns_error : returns P (.error e : Except ε α) s ↔ True := Iff.rfl

theorem wp_bind_returns {Q} (hx : x.wp C (returns P) s)
    (hf : ∀ a t, P a t → (f a).wp C (returns Q) t) : (x >>= f).wp C (returns Q) s :=
  wp_bind_of hx (fun _ _ _ ↦ trivial) hf

theorem wp_bind_any {Q} (hf : ∀ a t, (f a).wp (fun _ ↦ True) (returns Q) t) :
    (x >>= f).wp (fun _ ↦ True) (returns Q) s := by
  refine wp_bind_returns (P := fun _ _ ↦ True) ⟨fun _ _ ↦ trivial, ?_⟩ fun a t _ ↦ hf a t
  cases (x s).result <;> trivial

theorem wp_attempt_bind {Q} (herror : ∀ e, c = .error e → Q (.error e) s)
    (hok : ∀ a, c = .ok a → (f a).wp C Q s) : (attempt c >>= f).wp C Q s := by
  rw [wp_bind, wp_attempt]
  cases c with
  | ok a => exact hok a rfl
  | error e => exact herror e rfl

theorem wp_attempt_returns : (attempt c).wp C (returns P) s ↔ ∀ a, c = .ok a → P a s := by
  cases c <;> simp

theorem after_returns {Q} (h : ∀ a, c = .ok a → (f a).wp C (returns Q) s) :
    after f C (returns Q) c s := by
  cases c with
  | ok a => exact h a rfl
  | error e => trivial

theorem wp_attempt_bind_returns {Q} (h : ∀ a, c = .ok a → (f a).wp C (returns Q) s) :
    (attempt c >>= f).wp C (returns Q) s :=
  wp_bind.mpr (wp_attempt.mpr (after_returns h))

/-- The condition that the store ends in `C` in any case, and as `P` says after a normal end. -/
def keeps (C : σ → Prop) (P : α → σ → Prop) : Except ε α → σ → Prop
  | .ok a, t => C t ∧ P a t
  | .error _, t => C t

theorem wp_bind_keeps {Q} (hx : x.wp C (keeps C P) s)
    (hf : ∀ a t, C t → P a t → (f a).wp C (keeps C Q) t) : (x >>= f).wp C (keeps C Q) s :=
  wp_bind_of hx (fun _ _ h ↦ h) fun a t h ↦ hf a t h.1 h.2

theorem wp_attempt_bind_keeps {Q} (hs : C s)
    (hf : ∀ a, c = .ok a → (f a).wp C (keeps C Q) s) : (attempt c >>= f).wp C (keeps C Q) s := by
  rw [wp_bind, wp_attempt]
  cases c with
  | ok a => exact hf a rfl
  | error e => exact hs

/-- The condition `P` on normal ends and `E` on failures. -/
def ends (E : σ → Prop) (P : α → σ → Prop) : Except ε α → σ → Prop
  | .ok a, t => P a t
  | .error _, t => E t

@[simp] theorem ends_ok : ends E P (.ok a : Except ε α) s ↔ P a s := Iff.rfl

@[simp] theorem ends_error : ends E P (.error e : Except ε α) s ↔ E s := Iff.rfl

theorem wp_bind_ends {Q} (hx : x.wp C (ends E P) s)
    (hf : ∀ a t, P a t → (f a).wp C (ends E Q) t) : (x >>= f).wp C (ends E Q) s :=
  wp_bind_of hx (fun _ _ h ↦ h) hf

theorem wp_catching_bind {R} {f}
    {Q : Except ε' β → σ → Prop} (hx : x.wp C R s) (hf : ∀ r t, R r t → (f r).wp C Q t) :
    (x.catching >>= f).wp C Q s :=
  wp_bind.mpr (wp_catching.mpr (wp_post hx hf))

theorem wp_read_bind {q Q} : (read q >>= f).wp C Q s ↔ (f (q s)).wp C Q s := by
  rw [wp_bind, wp_read, after_ok]

abbrev Stays (C : σ → Prop) (x : Durable σ ε α) (s : σ) : Prop := x.wp C (fun _ ↦ C) s

theorem Stays.bind (hx : Stays C x s) (hf : ∀ a t, C t → Stays C (f a) t) : Stays C (x >>= f) s :=
  wp_bind_of hx (fun _ _ h ↦ h) hf

theorem Stays.forget (h : Stays C x s) : Stays C (do let _ ← x; return ()) s :=
  h.bind fun _ _ ht ↦ wp_pure.mpr ht

theorem stays_of_ends (h : x.wp C (ends E P) s) (hE : ∀ t, E t → C t) (hP : ∀ a t, P a t → C t) :
    Stays C x s := by
  refine wp_mono h (fun _ h ↦ h) fun r t hr ↦ ?_
  cases r with
  | ok a => exact hP a t hr
  | error e => exact hE t hr

theorem returns_of_ends {Q} (h : x.wp C (ends E P) s) (hP : ∀ a t, P a t → Q a t) :
    x.wp (fun _ ↦ True) (returns Q) s := by
  refine wp_mono h (fun _ _ ↦ trivial) fun r t hr ↦ ?_
  cases r with
  | ok a => exact hP a t hr
  | error e => trivial

theorem mapError_ok {f : ε' → ε} : (Except.ok a : Except ε' α).mapError f = .ok a := rfl

/-- The rules that run a computation until it reads, in one name. -/
theorem wp_run :
    (∀ {σ ε α β : Type} {C : σ → Prop} {s : σ} {x : Durable σ ε α} {f : α → Durable σ ε β}
      {Q : Except ε β → σ → Prop}, (x >>= f).wp C Q s ↔ x.wp C (after f C Q) s) ∧
    (∀ {σ ε α : Type} {C : σ → Prop} {s : σ} {a : α} {Q : Except ε α → σ → Prop},
      (pure a : Durable σ ε α).wp C Q s ↔ Q (.ok a) s) ∧
    (∀ {σ ε α : Type} {C : σ → Prop} {s : σ} {c : Except ε α} {Q : Except ε α → σ → Prop},
      (attempt c).wp C Q s ↔ Q c s) ∧
    (∀ {σ ε α : Type} {C : σ → Prop} {s : σ} {q : σ → α} {Q : Except ε α → σ → Prop},
      (read q).wp C Q s ↔ Q (.ok (q s)) s) ∧
    (∀ {σ ε α β : Type} {C : σ → Prop} {s : σ} {a : α} {f : α → Durable σ ε β}
      {Q : Except ε β → σ → Prop}, after f C Q (.ok a) s ↔ (f a).wp C Q s) ∧
    (∀ {σ ε α β : Type} {C : σ → Prop} {s : σ} {e : ε} {f : α → Durable σ ε β}
      {Q : Except ε β → σ → Prop}, after f C Q (.error e) s ↔ Q (.error e) s) ∧
    ∀ {ε ε' α : Type} {a : α} {f : ε → ε'}, (Except.ok a).mapError f = .ok a :=
  ⟨wp_bind, wp_pure, wp_attempt, wp_read, after_ok, after_error, rfl⟩

theorem mapError_eq_ok {c : Except ε' α} {f : ε' → ε} : c.mapError f = .ok a ↔ c = .ok a := by
  cases c <;> simp [Except.mapError]

theorem lifted_bind_returns {c : Except ε' α} {f : ε' → ε} {Q : β → σ → Prop}
    (h : ∀ a, c = .ok a → (g a).wp C (returns Q) s) : (lifted f c >>= g).wp C (returns Q) s :=
  wp_attempt_bind_returns fun a ha ↦ h a (mapError_eq_ok.mp ha)

theorem lifted_bind_keeps {c : Except ε' α} {f : ε' → ε} {Q : β → σ → Prop} (hs : C s)
    (h : ∀ a, c = .ok a → (g a).wp C (keeps C Q) s) : (lifted f c >>= g).wp C (keeps C Q) s :=
  wp_attempt_bind_keeps hs fun a ha ↦ h a (mapError_eq_ok.mp ha)

def Crash (x : Durable σ ε α) (s t : σ) : Prop := t = s ∨ t ∈ (x s).visited

theorem crash_final : Crash x s (x.final s) := by
  unfold Crash final
  cases h : (x s).visited.getLast? with
  | none => exact .inl (by simp [List.getLast?_eq_none_iff.mp h])
  | some t =>
    refine .inr ?_
    rw [List.getLastD_eq_getLast?, h]
    exact List.mem_of_getLast? h

theorem crash_getD (k : Nat) : Crash x s ((x s).visited.getD k s) := by
  rw [List.getD_eq_getElem?_getD]
  cases h : (x s).visited[k]? with
  | none => exact .inl rfl
  | some t => exact .inr (List.mem_of_getElem? h)

theorem Crash.of_wp (h : Crash x s t) (hs : C s) (hx : x.wp C Q s) : C t := by
  rcases h with rfl | h
  · exact hs
  · exact hx.1 t h

theorem exists_crash (h : ¬x.wp C (fun _ _ ↦ True) s) : ∃ t, Crash x s t ∧ ¬C t := by
  refine Classical.byContradiction fun hnone ↦ h ⟨fun t ht ↦ ?_, trivial⟩
  exact Classical.byContradiction fun hC ↦ hnone ⟨t, .inr ht, hC⟩

/-- The stores that any number of interrupted runs of `x` may leave. -/
def Interrupted (x : Durable σ ε α) : σ → σ → Prop := Relation.ReflTransGen (Crash x)

/-- Code that keeps its own starting condition at every crash can be repeated until it completes. -/
theorem Interrupted.of_wp (h : Interrupted x s t) (hs : C s) (hx : ∀ s, C s → x.wp C Q s) :
    C t := by
  induction h with
  | refl => exact hs
  | tail _ hcrash ih => exact hcrash.of_wp ih (hx _ ih)

end Durable

end CfwRs.Lib
