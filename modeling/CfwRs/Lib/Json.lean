import CfwRs.Lib.Bytes

namespace CfwRs.Lib

def ascii (s : String) : Bytes := s.toList.map fun c ↦ c.toNat.toUInt8

/-- The JSON values that canonical records are made of. -/
inductive Json
  | null
  | num (n : ℕ)
  | str (s : Bytes)
  | arr (items : List Json)
  | obj (fields : List (Bytes × Json))

namespace Json

def decimal (n : ℕ) : Bytes :=
  if n = 0 then [48] else (Nat.digits 10 n).reverse.map fun d ↦ (48 + d).toUInt8

def quoted (s : Bytes) : Bytes := 34 :: s ++ [34]

def separator (first : Bool) : Bytes := if first then [] else [44]

mutual

/-- The canonical text of a value, without blanks and with its keys in the order given. -/
def render : Json → Bytes
  | .null => ascii "null"
  | .num n => decimal n
  | .str s => quoted s
  | .arr items => 91 :: renderItems true items
  | .obj fields => 123 :: renderFields true fields

def renderItems : Bool → List Json → Bytes
  | _, [] => [93]
  | first, j :: js => separator first ++ (render j ++ renderItems false js)

def renderFields : Bool → List (Bytes × Json) → Bytes
  | _, [] => [125]
  | first, (k, v) :: rest =>
    separator first ++ (quoted k ++ 58 :: (render v ++ renderFields false rest))

end

def PlainText (s : Bytes) : Prop := ∀ b ∈ s, b ≠ 34

instance (s : Bytes) : Decidable (PlainText s) := List.decidableBAll (· ≠ 34) s

mutual

def Plain : Json → Prop
  | .null => True
  | .num _ => True
  | .str s => PlainText s
  | .arr items => PlainItems items
  | .obj fields => PlainFields fields

def PlainItems : List Json → Prop
  | [] => True
  | j :: js => Plain j ∧ PlainItems js

def PlainFields : List (Bytes × Json) → Prop
  | [] => True
  | (k, v) :: rest => PlainText k ∧ Plain v ∧ PlainFields rest

end

def isDigit (b : UInt8) : Bool := 48 ≤ b ∧ b ≤ 57

def Stops (r : Bytes) : Prop := ∀ b ∈ r.head?, isDigit b = false

theorem digit_toUInt8 {d} (h : d < 10) :
    isDigit (48 + d).toUInt8 = true ∧ (48 + d).toUInt8.toNat = 48 + d := by
  interval_cases d <;> decide

variable {a b : Json} {fields : List (Bytes × Json)} {items : List Json} {k n : ℕ} {r s : Bytes}

theorem isDigit_of_mem_decimal {b} (h : b ∈ decimal n) : isDigit b = true := by
  unfold decimal at h
  split at h
  · rw [List.mem_singleton] at h
    rw [h]
    decide
  · obtain ⟨d, hd, rfl⟩ := List.mem_map.mp h
    exact (digit_toUInt8 (Nat.digits_lt_base (by decide) (List.mem_reverse.mp hd))).1

theorem decimal_ne_nil (n : ℕ) : decimal n ≠ [] := by
  unfold decimal
  split
  · simp
  · next h => simp [Nat.digits_eq_nil_iff_eq_zero, h]

def value (s : Bytes) : ℕ := Nat.ofDigits 10 (s.reverse.map fun b ↦ b.toNat - 48)

theorem value_decimal (n : ℕ) : value (decimal n) = n := by
  unfold value decimal
  split
  · next h => rw [h]; rfl
  · have hmap : ∀ l : List ℕ, (∀ d ∈ l, d < 10) →
        (l.map fun d ↦ (48 + d).toUInt8).map (fun b ↦ b.toNat - 48) = l := by
      intro l hl
      rw [List.map_map]
      refine (List.map_congr_left fun d hd ↦ ?_).trans (List.map_id l)
      rw [Function.comp_apply, (digit_toUInt8 (hl d hd)).2]
      exact Nat.add_sub_cancel_left 48 d
    rw [← List.map_reverse, List.reverse_reverse,
      hmap _ fun d hd ↦ Nat.digits_lt_base (by decide) hd, Nat.ofDigits_digits]

theorem length_decimal_le (hk : 0 < k) (h : n < 10 ^ k) : (decimal n).length ≤ k := by
  unfold decimal
  split
  · exact hk
  · simpa using (Nat.digits_length_le_iff (by decide) n).mpr h

theorem takeWhile_append_stop {p l} (hl : ∀ b ∈ l, p b = true)
    (hr : ∀ b ∈ r.head?, p b = false) : (l ++ r).takeWhile p = l := by
  rw [List.takeWhile_append_of_pos hl]
  cases r with
  | nil => simp
  | cons b r => simp [hr b rfl]

theorem decimal_append_inj {m} (hr : Stops r) (hs : Stops s)
    (h : decimal m ++ r = decimal n ++ s) : m = n ∧ r = s := by
  have htake := congrArg (List.takeWhile isDigit) h
  rw [takeWhile_append_stop (fun _ ↦ isDigit_of_mem_decimal) hr,
    takeWhile_append_stop (fun _ ↦ isDigit_of_mem_decimal) hs] at htake
  rw [htake, List.append_cancel_left_eq] at h
  rw [← value_decimal m, htake, value_decimal]
  exact ⟨rfl, h⟩

theorem quoted_append_inj {a b} (ha : PlainText a) (hb : PlainText b)
    (h : quoted a ++ r = quoted b ++ s) : a = b ∧ r = s := by
  simp only [quoted, List.cons_append, List.append_assoc, List.cons.injEq, true_and] at h
  have hplain {l : Bytes} (hl : PlainText l) : ∀ c ∈ l, (c != 34) = true := by
    simpa [PlainText] using hl
  have htake := congrArg (List.takeWhile (· != 34)) h
  rw [takeWhile_append_stop (hplain ha) (by simp),
    takeWhile_append_stop (hplain hb) (by simp)] at htake
  rw [htake, List.append_cancel_left_eq, List.cons.injEq] at h
  exact ⟨htake, h.2⟩

def tag : Json → ℕ
  | .null => 0
  | .num _ => 1
  | .str _ => 2
  | .arr _ => 3
  | .obj _ => 4

def kind (b : UInt8) : ℕ :=
  if isDigit b then 1 else if b = 110 then 0 else if b = 34 then 2 else if b = 91 then 3
  else if b = 123 then 4 else 5

theorem exists_render_eq_cons (j : Json) : ∃ b t, render j = b :: t ∧ kind b = tag j := by
  cases j with
  | null => exact ⟨110, ascii "ull", by decide, (by decide : kind 110 = 0)⟩
  | num n =>
    obtain ⟨b, t, hbt⟩ := List.exists_cons_of_ne_nil (decimal_ne_nil n)
    have hb : isDigit b = true := isDigit_of_mem_decimal (n := n) (by simp [hbt])
    exact ⟨b, t, by rw [render, hbt], by simp [kind, hb, tag]⟩
  | str s => exact ⟨34, s ++ [34], by simp [render, quoted], (by decide : kind 34 = 2)⟩
  | arr items => exact ⟨91, _, by rw [render], (by decide : kind 91 = 3)⟩
  | obj fields => exact ⟨123, _, by rw [render], (by decide : kind 123 = 4)⟩

theorem tag_eq_of_append_eq (h : render a ++ r = render b ++ s) : tag a = tag b := by
  obtain ⟨x, t, hx, hkx⟩ := exists_render_eq_cons a
  obtain ⟨y, u, hy, hky⟩ := exists_render_eq_cons b
  rw [hx, hy, List.cons_append, List.cons_append, List.cons.injEq] at h
  rw [← hkx, ← hky, h.1]

theorem render_append_ne_close (j : Json) (r s : Bytes) : render j ++ r ≠ 93 :: s := by
  intro h
  obtain ⟨x, t, hx, hkx⟩ := exists_render_eq_cons j
  rw [hx, List.cons_append, List.cons.injEq] at h
  rw [h.1] at hkx
  have h5 : kind 93 = 5 := by decide
  cases j <;> simp [tag, h5] at hkx

theorem stops_renderItems (js : List Json) (r : Bytes) : Stops (renderItems false js ++ r) := by
  cases js <;> simp only [renderItems, separator, Bool.false_eq_true, if_false, List.cons_append,
    Stops, List.head?_cons, Option.mem_def, Option.some.injEq, forall_eq'] <;> decide

theorem stops_renderFields (fs : List (Bytes × Json)) (r : Bytes) :
    Stops (renderFields false fs ++ r) := by
  rcases fs with _ | ⟨⟨k, v⟩, fs⟩ <;> simp only [renderFields, separator, Bool.false_eq_true,
    if_false, List.cons_append, Stops, List.head?_cons, Option.mem_def, Option.some.injEq,
    forall_eq'] <;> decide

mutual

/-- Canonical text is prefix free, as long as no digit follows a number. -/
theorem render_append_inj : ∀ (a b : Json) (r s : Bytes), Plain a → Plain b → Stops r → Stops s →
    render a ++ r = render b ++ s → a = b ∧ r = s
  | .null, b, r, s, _, _, _, _, h => by
    have htag := tag_eq_of_append_eq h
    cases b <;> simp [tag] at htag
    exact ⟨rfl, List.append_cancel_left h⟩
  | .num m, b, r, s, _, _, hr, hs, h => by
    have htag := tag_eq_of_append_eq h
    cases b <;> simp [tag] at htag
    simp only [render] at h
    obtain ⟨rfl, hrs⟩ := decimal_append_inj hr hs h
    exact ⟨rfl, hrs⟩
  | .str x, b, r, s, ha, hb, _, _, h => by
    have htag := tag_eq_of_append_eq h
    cases b <;> simp [tag] at htag
    simp only [Plain] at ha hb
    simp only [render] at h
    obtain ⟨rfl, hrs⟩ := quoted_append_inj ha hb h
    exact ⟨rfl, hrs⟩
  | .arr items, b, r, s, ha, hb, _, _, h => by
    have htag := tag_eq_of_append_eq h
    cases b <;> simp [tag] at htag
    simp only [Plain] at ha hb
    simp only [render, List.cons_append, List.cons.injEq, true_and] at h
    obtain ⟨rfl, hrs⟩ := renderItems_append_inj true items _ r s ha hb h
    exact ⟨rfl, hrs⟩
  | .obj fields, b, r, s, ha, hb, _, _, h => by
    have htag := tag_eq_of_append_eq h
    cases b <;> simp [tag] at htag
    simp only [Plain] at ha hb
    simp only [render, List.cons_append, List.cons.injEq, true_and] at h
    obtain ⟨rfl, hrs⟩ := renderFields_append_inj true fields _ r s ha hb h
    exact ⟨rfl, hrs⟩

theorem renderItems_append_inj : ∀ (first : Bool) (as bs : List Json) (r s : Bytes),
    PlainItems as → PlainItems bs → renderItems first as ++ r = renderItems first bs ++ s →
    as = bs ∧ r = s
  | first, [], bs, r, s, _, _, h => by
    cases bs with
    | nil => exact ⟨rfl, List.append_cancel_left h⟩
    | cons b bs =>
      cases first <;> simp only [renderItems, separator, List.cons_append, List.nil_append,
        List.append_assoc, Bool.false_eq_true, if_false, if_true] at h
      · exact absurd (List.cons.inj h).1 (by decide)
      · exact absurd h.symm (render_append_ne_close b _ _)
  | first, a :: as, bs, r, s, ha, hb, h => by
    cases bs with
    | nil =>
      cases first <;> simp only [renderItems, separator, List.cons_append, List.nil_append,
        List.append_assoc, Bool.false_eq_true, if_false, if_true] at h
      · exact absurd (List.cons.inj h).1 (by decide)
      · exact absurd h (render_append_ne_close a _ _)
    | cons b bs =>
      simp only [PlainItems] at ha hb
      simp only [renderItems, List.append_assoc, List.append_cancel_left_eq] at h
      obtain ⟨rfl, hrest⟩ := render_append_inj a b _ _ ha.1 hb.1 (stops_renderItems as r)
        (stops_renderItems bs s) h
      obtain ⟨rfl, hrs⟩ := renderItems_append_inj false as bs r s ha.2 hb.2 hrest
      exact ⟨rfl, hrs⟩

theorem renderFields_append_inj : ∀ (first : Bool) (as bs : List (Bytes × Json)) (r s : Bytes),
    PlainFields as → PlainFields bs → renderFields first as ++ r = renderFields first bs ++ s →
    as = bs ∧ r = s
  | first, [], bs, r, s, _, _, h => by
    cases bs with
    | nil => exact ⟨rfl, List.append_cancel_left h⟩
    | cons b bs =>
      cases first <;> exact absurd (List.cons.inj h).1 (by decide)
  | first, (k, v) :: as, bs, r, s, ha, hb, h => by
    cases bs with
    | nil => cases first <;> exact absurd (List.cons.inj h).1 (by decide)
    | cons b bs =>
      obtain ⟨l, w⟩ := b
      simp only [PlainFields] at ha hb
      simp only [renderFields, List.append_assoc, List.append_cancel_left_eq, List.cons_append] at h
      obtain ⟨rfl, hvalue⟩ := quoted_append_inj ha.1 hb.1 h
      rw [List.cons.injEq] at hvalue
      obtain ⟨rfl, hrest⟩ := render_append_inj v w _ _ ha.2.1 hb.2.1 (stops_renderFields as r)
        (stops_renderFields bs s) hvalue.2
      obtain ⟨rfl, hrs⟩ := renderFields_append_inj false as bs r s ha.2.2 hb.2.2 hrest
      exact ⟨rfl, hrs⟩

end

theorem render_injective (ha : Plain a) (hb : Plain b) (h : render a = render b) : a = b :=
  (render_append_inj a b [] [] ha hb (by simp [Stops]) (by simp [Stops]) (by rw [h])).1

theorem length_separator_le (first : Bool) : (separator first).length ≤ 1 := by
  cases first <;> simp [separator]

theorem length_renderFields_le {a} (first : Bool)
    (h : (fields.all fun kv ↦ kv.1.length ≤ a) = true) : (renderFields first fields).length + 1 ≤
      fields.foldr (fun kv n ↦ a + 4 + (render kv.2).length + n) 2 := by
  induction fields generalizing first with
  | nil => simp [renderFields]
  | cons kv fields ih =>
    rw [List.all_cons, Bool.and_eq_true, decide_eq_true_iff] at h
    have hsep := length_separator_le first
    have hrest := ih false h.2
    simp only [renderFields, quoted, List.length_append, List.length_cons, List.length_nil,
      List.foldr_cons]
    omega

theorem length_render_obj_le {a n} (h : (fields.all fun kv ↦ kv.1.length ≤ a) = true)
    (hn : fields.foldr (fun kv n ↦ a + 4 + (render kv.2).length + n) 2 ≤ n) :
    (render (.obj fields)).length ≤ n := by
  exact (length_renderFields_le true h).trans hn

theorem length_renderItems_le {b} (first : Bool) (h : ∀ j ∈ items, (render j).length ≤ b) :
    (renderItems first items).length ≤ 1 + items.length * (b + 1) := by
  induction items generalizing first with
  | nil => simp [renderItems]
  | cons j items ih =>
    have hsep := length_separator_le first
    have hitem := h j List.mem_cons_self
    have hrest := ih false fun j hj ↦ h j (List.mem_cons_of_mem _ hj)
    simp only [renderItems, List.length_append, List.length_cons, Nat.add_mul] at hrest ⊢
    omega

theorem length_render_arr_le {b} (h : ∀ j ∈ items, (render j).length ≤ b) :
    (render (.arr items)).length ≤ 2 + items.length * (b + 1) := by
  have hitems := length_renderItems_le true h
  rw [render, List.length_cons]
  omega

theorem length_render_num_le (hk : 0 < k) (h : n < 10 ^ k) : (render (.num n)).length ≤ k := by
  exact length_decimal_le hk h

theorem length_render_word (n : UInt64) : (render (.num n.toNat)).length ≤ 20 :=
  length_render_num_le (by decide) (n.toNat_lt.trans (by decide))

theorem length_render_str (s : Bytes) : (render (.str s)).length = s.length + 2 := by
  simp [render, quoted]

section

variable {α : Type} {f : α → Json}

def optional (f : α → Json) : Option α → Json
  | some a => f a
  | none => .null

theorem render_comp_injective (hplain : ∀ a, Plain (f a)) (hf : ∀ a b, f a = f b → a = b) :
    Function.Injective fun a ↦ render (f a) :=
  fun a b h ↦ hf a b (render_injective (hplain a) (hplain b) h)

variable {a : Option α}

theorem optional_injective (hf : ∀ a b, f a = f b → a = b) (hnull : ∀ a, f a ≠ .null) {b : Option α}
    (h : optional f a = optional f b) : a = b := by
  cases a with
  | none =>
    cases b with
    | none => rfl
    | some b => exact absurd h.symm (hnull b)
  | some a =>
    cases b with
    | none => exact absurd h (hnull a)
    | some b => rw [hf a b h]

theorem plain_optional (hf : ∀ a, Plain (f a)) (a : Option α) : Plain (optional f a) := by
  cases a with
  | none => simp [optional, Plain]
  | some a => exact hf a

theorem length_render_optional_le {n} (hf : ∀ x ∈ a, (render (f x)).length ≤ n) (hn : 4 ≤ n) :
    (render (optional f a)).length ≤ n := by
  cases a with
  | none => simpa [optional, render, ascii] using hn
  | some a => exact hf a rfl

end

attribute [irreducible] render

end Json

end CfwRs.Lib
