import Mathlib

namespace CfwRs.Lib.Checked

universe u v

variable {ε : Type u} {α β : Type v}

/-- A guard of fallible code: nothing when the condition holds, otherwise the error. -/
def require (p : Prop) [Decidable p] (e : ε) : Except ε PUnit.{v + 1} :=
  if p then .ok ⟨⟩ else .error e

variable {e e' : ε} {p : Prop} {u : PUnit.{v + 1}}

@[simp] theorem require_eq_ok [Decidable p] : require p e = .ok u ↔ p := by
  unfold require
  split <;> simp_all

theorem require_pos [Decidable p] (h : p) : require.{u, v} p e = .ok ⟨⟩ := if_pos h

@[simp] theorem require_eq_error [Decidable p] : require.{u, v} p e = .error e' ↔ ¬p ∧ e = e' := by
  unfold require
  split <;> simp_all

/-- A guard written the other way round: the error when the condition holds. -/
def reject (p : Prop) [Decidable p] (e : ε) : Except ε PUnit.{v + 1} :=
  if p then .error e else .ok ⟨⟩

@[simp] theorem reject_eq_ok [Decidable p] : reject p e = .ok u ↔ ¬p := by
  unfold reject
  split <;> simp_all

@[simp] theorem reject_eq_error [Decidable p] : reject.{u, v} p e = .error e' ↔ p ∧ e = e' := by
  unfold reject
  split <;> simp_all

theorem reject_neg [Decidable p] (h : ¬p) : reject.{u, v} p e = .ok ⟨⟩ := if_neg h

variable {a : α} {b : β} {f : α → Except ε β} {o : Option α} {x : Except ε α}

@[simp] theorem bind_eq_ok : (x >>= f) = .ok b ↔ ∃ a, x = .ok a ∧ f a = .ok b := by
  cases x <;> simp [bind, Except.bind]

theorem bind_eq_error : (x >>= f) = .error e ↔ x = .error e ∨ ∃ a, x = .ok a ∧ f a = .error e := by
  cases x <;> simp [bind, Except.bind]

@[simp] theorem pure_eq_ok {b : α} : (pure a : Except ε α) = .ok b ↔ a = b := by
  simp [pure, Except.pure]

theorem map_snd_eq_ok {x : Except ε (α × β)} : x.map Prod.snd = .ok b ↔ ∃ a, x = .ok (a, b) := by
  rcases x with e | ⟨a, b'⟩ <;> simp [Except.map]

def unwrap (o : Option α) (e : ε) : Except ε α :=
  match o with
  | some a => .ok a
  | none => .error e

@[simp] theorem unwrap_eq_ok : unwrap o e = .ok a ↔ o = some a := by
  cases o <;> simp [unwrap]

@[simp] theorem unwrap_eq_error : unwrap o e = .error e' ↔ o = none ∧ e = e' := by
  cases o <;> simp [unwrap]

/-- The rules that take a successful computation apart, in one name. -/
theorem ok_iff : (∀ {ε α β : Type} {x : Except ε α} {f : α → Except ε β} {b : β},
      (x >>= f) = .ok b ↔ ∃ a, x = .ok a ∧ f a = .ok b) ∧
    (∀ {ε α : Type} {a b : α}, (pure a : Except ε α) = .ok b ↔ a = b) ∧
    (∀ {ε : Type} {e : ε} {u : Unit} {p : Prop} [Decidable p], require p e = .ok u ↔ p) ∧
    (∀ {ε : Type} {e : ε} {u : Unit} {p : Prop} [Decidable p], reject p e = .ok u ↔ ¬p) ∧
    ∀ {ε α : Type} {e : ε} {a : α} {o : Option α}, unwrap o e = .ok a ↔ o = some a :=
  ⟨bind_eq_ok, pure_eq_ok, require_eq_ok, reject_eq_ok, unwrap_eq_ok⟩

def each {γ : Type} (f : γ → Except ε PUnit.{v + 1}) : List γ → Except ε PUnit.{v + 1}
  | [] => .ok ⟨⟩
  | c :: l => do
    f c
    each f l

@[simp] theorem each_eq_ok {γ : Type} {f : γ → Except ε PUnit.{v + 1}} {l : List γ} :
    each f l = .ok u ↔ ∀ c ∈ l, f c = .ok ⟨⟩ := by
  induction l with
  | nil => simp [each]
  | cons c l ih =>
    rw [each]
    cases h : f c <;> simp [h, ih]

section Avoids

variable {e e' : ε} {x : Except ε α}

/-- A computation that cannot fail with a certain error. -/
def Avoids (e : ε) (x : Except ε α) : Prop := x ≠ .error e

theorem avoids_ok (a : α) : Avoids e (.ok a : Except ε α) := by simp [Avoids]

theorem Avoids.bind {f : α → Except ε β} (hx : Avoids e x)
    (hf : ∀ a, x = .ok a → Avoids e (f a)) : Avoids e (x >>= f) := by
  intro h
  rcases bind_eq_error.mp h with h | ⟨a, ha, h⟩
  · exact hx h
  · exact hf a ha h

theorem avoids_reject {p : Prop} [Decidable p] (h : e' ≠ e) :
    Avoids e (reject.{u, v} p e') := fun hp ↦ h (reject_eq_error.mp hp).2

theorem avoids_require {p : Prop} [Decidable p] (h : e' ≠ e) :
    Avoids e (require.{u, v} p e') := fun hp ↦ h (require_eq_error.mp hp).2

theorem avoids_unwrap {o : Option α} (h : e' ≠ e) : Avoids e (unwrap o e') :=
  fun ho ↦ h (unwrap_eq_error.mp ho).2

theorem avoids_each {γ : Type} {f : γ → Except ε PUnit.{v + 1}} {l : List γ}
    (h : ∀ c ∈ l, Avoids e (f c)) : Avoids e (each f l) := by
  induction l with
  | nil => exact avoids_ok _
  | cons c l ih =>
    exact (h c List.mem_cons_self).bind fun _ _ ↦ ih fun d hd ↦ h d (List.mem_cons_of_mem c hd)

end Avoids

end CfwRs.Lib.Checked
