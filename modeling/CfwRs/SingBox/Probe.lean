import CfwRs.Lib.JsonValue

namespace CfwRs.SingBox

open Lib

/-- `value["key"]`, where a missing field and a value without fields read as `null`. -/
def field (value : JsonValue) (key : String) : JsonValue :=
  match value with
  | .object fields => (fields.lookup key).getD .null
  | _ => .null

def asStr : JsonValue → Option String
  | .string s => some s
  | _ => none

mutual

/-- Whether every rule set the value names is a tag in `loadable`. -/
def namesOnly (loadable : List String) : JsonValue → Bool
  | .object fields => fieldsNameOnly loadable fields
  | .array items => itemsNameOnly loadable items
  | _ => true

def itemsNameOnly (loadable : List String) : List JsonValue → Bool
  | [] => true
  | item :: items => namesOnly loadable item && itemsNameOnly loadable items

def fieldsNameOnly (loadable : List String) : List (String × JsonValue) → Bool
  | [] => true
  | (key, nested) :: fields =>
    (if key = "rule_set" then
      match nested with
      | .array tags => tags.all fun tag ↦ (asStr tag).any (· ∈ loadable)
      | _ => false
    else namesOnly loadable nested) && fieldsNameOnly loadable fields

end

mutual

/-- Whether a rule, or a rule in its logical tree, has `match_response`. -/
def matchesResponse : JsonValue → Bool
  | .object fields => ((fields.lookup "match_response") matches some (.bool true)) ||
      subrulesMatch fields
  | _ => false

def subrulesMatch : List (String × JsonValue) → Bool
  | [] => false
  | (key, nested) :: fields =>
    if key = "rules" then
      match nested with
      | .array rules => someMatches rules
      | _ => false
    else subrulesMatch fields

def someMatches : List JsonValue → Bool
  | [] => false
  | rule :: rules => matchesResponse rule || someMatches rules

end

def readsResponse (rule : JsonValue) : Bool :=
  (field rule "action" matches .string "respond") || matchesResponse rule

def hasTag : JsonValue → Bool
  | .object fields => (fields.lookup "tag").isSome
  | _ => false

def isAnonymousEvaluate (rule : JsonValue) : Bool :=
  (field rule "action" matches .string "evaluate") && !hasTag rule

/-- What `retain` has kept so far, and whether it kept the latest anonymous evaluate. -/
structure Retained where
  evaluateKept : Bool
  rules : List JsonValue

variable (loadable : List String)

def keeps (s : Retained) (rule : JsonValue) : Bool :=
  namesOnly loadable rule && (s.evaluateKept || !readsResponse rule)

def Retained.visit (s : Retained) (rule : JsonValue) : Retained where
  evaluateKept := if isAnonymousEvaluate rule then keeps loadable s rule else s.evaluateKept
  rules := if keeps loadable s rule then s.rules ++ [rule] else s.rules

def retained (rules : List JsonValue) : Retained := rules.foldl (Retained.visit loadable) ⟨true, []⟩

def retainLoadableRules (rules : List JsonValue) : List JsonValue := (retained loadable rules).rules

/-- The names in the value of a `rule_set`: what is not a tag in an array has no name. -/
def ruleSets : JsonValue → List (Option String)
  | .array tags => tags.map asStr
  | _ => [none]

/-- The value names a rule set, in itself or in what it nests. -/
inductive Names : JsonValue → Option String → Prop
  | ruleSet {fields nested name} : ("rule_set", nested) ∈ fields → name ∈ ruleSets nested →
      Names (.object fields) name
  | nested {fields key nested name} : (key, nested) ∈ fields → key ≠ "rule_set" →
      Names nested name → Names (.object fields) name
  | item {items item name} : item ∈ items → Names item name → Names (.array items) name

def Loadable (name : Option String) : Prop := ∃ tag ∈ loadable, name = some tag

/-- The latest anonymous evaluate of the rules is `evaluate`, between `before` and `since`. -/
structure Latest (rules before : List JsonValue) (evaluate : JsonValue)
    (since : List JsonValue) : Prop where
  split : rules = before ++ evaluate :: since
  evaluates : isAnonymousEvaluate evaluate
  last : ∀ rule ∈ since, ¬isAnonymousEvaluate rule

/-- The rule that follows `before` is kept. -/
def Kept (before : List JsonValue) (rule : JsonValue) : Prop :=
  retainLoadableRules loadable (before ++ [rule]) = retainLoadableRules loadable before ++ [rule]

def Removed (before : List JsonValue) (rule : JsonValue) : Prop :=
  retainLoadableRules loadable (before ++ [rule]) = retainLoadableRules loadable before

variable {loadable} {rules before since : List JsonValue} {rule evaluate : JsonValue}

theorem names_object_cons {key nested name fields} : Names (.object ((key, nested) :: fields)) name ↔
      (if key = "rule_set" then name ∈ ruleSets nested else Names nested name) ∨
        Names (.object fields) name := by
  constructor
  · intro h
    cases h with
    | ruleSet hmem hname =>
      rcases List.mem_cons.mp hmem with heq | hmem
      · obtain ⟨rfl, rfl⟩ := Prod.mk.inj heq
        exact .inl (by simpa using hname)
      · exact .inr (.ruleSet hmem hname)
    | nested hmem hkey hname =>
      rcases List.mem_cons.mp hmem with heq | hmem
      · obtain ⟨rfl, rfl⟩ := Prod.mk.inj heq
        exact .inl (by simpa [hkey] using hname)
      · exact .inr (.nested hmem hkey hname)
  · rintro (h | h)
    · split at h
      · next hkey => exact .ruleSet (hkey ▸ List.mem_cons_self) h
      · next hkey => exact .nested List.mem_cons_self hkey h
    · cases h with
      | ruleSet hmem hname => exact .ruleSet (List.mem_cons_of_mem _ hmem) hname
      | nested hmem hkey hname => exact .nested (List.mem_cons_of_mem _ hmem) hkey hname

theorem ruleSets_loadable (nested : JsonValue) : (match nested with
      | .array tags => tags.all fun tag ↦ (asStr tag).any (· ∈ loadable)
      | _ => false) = true ↔ ∀ name ∈ ruleSets nested, Loadable loadable name := by
  cases nested <;> simp [ruleSets, Loadable, Option.any_eq_true, and_comm]

mutual

theorem namesOnly_iff (value : JsonValue) :
    namesOnly loadable value ↔ ∀ name, Names value name → Loadable loadable name := by
  match value with
  | .object fields =>
    rw [namesOnly, fieldsNameOnly_iff]
  | .array items =>
    rw [namesOnly, itemsNameOnly_iff]
    constructor
    · rintro h name (_ | _ | ⟨hmem, hname⟩)
      exact h _ hmem name hname
    · exact fun h item hmem name hname ↦ h name (.item hmem hname)
  | .null | .bool _ | .number _ | .string _ => exact iff_of_true (by simp [namesOnly]) nofun

theorem itemsNameOnly_iff (items) : itemsNameOnly loadable items ↔
    ∀ item ∈ items, ∀ name, Names item name → Loadable loadable name := by
  match items with
  | [] => simp [itemsNameOnly]
  | item :: items =>
    rw [itemsNameOnly, Bool.and_eq_true, namesOnly_iff, itemsNameOnly_iff, List.forall_mem_cons]

theorem fieldsNameOnly_iff (fields : List (String × JsonValue)) : fieldsNameOnly loadable fields ↔
    ∀ name, Names (.object fields) name → Loadable loadable name := by
  match fields with
  | [] => exact iff_of_true (by simp [fieldsNameOnly]) (by rintro name (⟨⟨⟩, _⟩ | ⟨⟨⟩, _, _⟩))
  | (key, nested) :: fields =>
    simp only [fieldsNameOnly, Bool.and_eq_true, fieldsNameOnly_iff fields, names_object_cons,
      or_imp, forall_and]
    refine and_congr ?_ .rfl
    split
    · exact ruleSets_loadable nested
    · exact namesOnly_iff nested

end

theorem retained_concat : retained loadable (rules ++ [rule]) =
    (retained loadable rules).visit loadable rule := by
  simp [retained]

theorem kept_iff : keeps loadable (retained loadable before) rule ↔ Kept loadable before rule := by
  rw [Kept, retainLoadableRules, retained_concat, Retained.visit, retainLoadableRules]
  split <;> simp

theorem removed_iff :
    ¬keeps loadable (retained loadable before) rule ↔ Removed loadable before rule := by
  rw [Removed, retainLoadableRules, retained_concat, Retained.visit, retainLoadableRules]
  split <;> simp

variable (loadable) in
/-- What is kept of the first rules is kept whatever follows. -/
theorem retain_append (before since) : ∃ rest, rest.Sublist since ∧
    retainLoadableRules loadable (before ++ since) = retainLoadableRules loadable before ++ rest := by
  induction since using List.reverseRecOn with
  | nil => exact ⟨[], .refl _, by simp⟩
  | append_singleton since rule ih =>
    obtain ⟨rest, hsub, hrest⟩ := ih
    rw [← List.append_assoc]
    by_cases hk : keeps loadable (retained loadable (before ++ since)) rule
    · refine ⟨rest ++ [rule], hsub.append (.refl _), ?_⟩
      rw [kept_iff.mp hk, hrest, List.append_assoc]
    · exact ⟨rest, hsub.trans (List.sublist_append_left _ _), (removed_iff.mp hk).trans hrest⟩

theorem retain_names_only (h : rule ∈ retainLoadableRules loadable rules) :
    namesOnly loadable rule := by
  induction rules using List.reverseRecOn with
  | nil => cases h
  | append_singleton rules last ih =>
    by_cases hk : keeps loadable (retained loadable rules) last
    · rw [kept_iff.mp hk, List.mem_append, List.mem_singleton] at h
      rcases h with h | rfl
      · exact ih h
      · exact (Bool.and_eq_true_iff.mp hk).1
    · exact ih (removed_iff.mp hk ▸ h)

theorem exists_latest (h : ∃ evaluate ∈ rules, isAnonymousEvaluate evaluate) :
    ∃ before evaluate since, Latest rules before evaluate since := by
  induction rules using List.reverseRecOn with
  | nil => simp at h
  | append_singleton rules last ih =>
    by_cases hlast : isAnonymousEvaluate last
    · exact ⟨rules, last, [], rfl, hlast, nofun⟩
    · obtain ⟨evaluate, hmem, he⟩ := h
      rcases List.mem_append.mp hmem with hmem | hmem
      · obtain ⟨before, evaluate, since, rfl, he, hsince⟩ := ih ⟨evaluate, hmem, he⟩
        refine ⟨before, evaluate, since ++ [last], by simp, he, fun rule hrule ↦ ?_⟩
        rcases List.mem_append.mp hrule with hrule | hrule
        · exact hsince rule hrule
        · exact List.mem_singleton.mp hrule ▸ hlast
      · exact absurd (List.mem_singleton.mp hmem ▸ he) hlast

/-- The flag says what became of the latest anonymous evaluate. -/
theorem Latest.evaluateKept (h : Latest rules before evaluate since) :
    (retained loadable rules).evaluateKept = keeps loadable (retained loadable before) evaluate := by
  obtain ⟨rfl, hevaluates, hlast⟩ := h
  induction since using List.reverseRecOn with
  | nil => simp [retained_concat, Retained.visit, hevaluates]
  | append_singleton since rule ih =>
    have hrule : isAnonymousEvaluate rule = false := by simpa using hlast rule (by simp)
    rw [← List.cons_append, ← List.append_assoc, retained_concat, Retained.visit, hrule]
    exact ih fun rule hmem ↦ hlast rule (List.mem_append_left _ hmem)

/-- Every reader that is kept reads the rule it read before, and what is removed names a rule set
that is not loadable or reads a rule that is removed. -/
theorem retain_keeps_bindings (loadable : List String) (rules : List JsonValue)
    (hbound : ∀ before rule since, rules = before ++ rule :: since → readsResponse rule →
      ∃ evaluate ∈ before, isAnonymousEvaluate evaluate) :
    (retainLoadableRules loadable rules).Sublist rules ∧
    (∀ rule ∈ retainLoadableRules loadable rules, ∀ name, Names rule name →
      Loadable loadable name) ∧ ∀ before rule since, rules = before ++ rule :: since →
      (∃ rest, rest.Sublist since ∧ retainLoadableRules loadable rules =
        retainLoadableRules loadable (before ++ [rule]) ++ rest) ∧
      (Kept loadable before rule ∧ (readsResponse rule → ∃ first evaluate last kept,
          Latest before first evaluate last ∧ kept.Sublist last ∧
          retainLoadableRules loadable before =
            retainLoadableRules loadable first ++ evaluate :: kept) ∨
        Removed loadable before rule ∧ ((∃ name, Names rule name ∧ ¬Loadable loadable name) ∨
          readsResponse rule ∧ ∃ first evaluate last, Latest before first evaluate last ∧
            Removed loadable first evaluate)) := by
  refine ⟨?_, fun rule h ↦ (namesOnly_iff rule).mp (retain_names_only h), ?_⟩
  · obtain ⟨rest, hsub, hrest⟩ := retain_append loadable [] rules
    exact hrest ▸ hsub
  intro before rule since hsplit
  refine ⟨?_, ?_⟩
  · obtain ⟨rest, hsub, hrest⟩ := retain_append loadable (before ++ [rule]) since
    exact ⟨rest, hsub, by rw [hsplit, ← hrest, List.append_assoc, List.singleton_append]⟩
  by_cases hk : keeps loadable (retained loadable before) rule
  · refine .inl ⟨kept_iff.mp hk, fun hreads ↦ ?_⟩
    obtain ⟨first, evaluate, last, hlatest⟩ := exists_latest (hbound before rule since hsplit hreads)
    have hflag : (retained loadable before).evaluateKept := by
      simpa [hreads] using (Bool.and_eq_true_iff.mp hk).2
    have hkept := kept_iff.mp (hlatest.evaluateKept ▸ hflag)
    obtain ⟨rest, hsub, hrest⟩ := retain_append loadable (first ++ [evaluate]) last
    refine ⟨first, evaluate, last, rest, hlatest, hsub, ?_⟩
    rw [hkept, List.append_assoc, List.singleton_append, List.append_assoc,
      List.singleton_append] at hrest
    rw [hlatest.split, hrest]
  · refine .inr ⟨removed_iff.mp hk, ?_⟩
    by_cases hnames : namesOnly loadable rule
    · have hread : (retained loadable before).evaluateKept = false ∧ readsResponse rule := by
        simpa [keeps, hnames] using hk
      obtain ⟨first, evaluate, last, hlatest⟩ :=
        exists_latest (hbound before rule since hsplit hread.2)
      refine .inr ⟨hread.2, first, evaluate, last, hlatest, removed_iff.mp ?_⟩
      rw [← hlatest.evaluateKept, hread.1]
      exact Bool.false_ne_true
    · rw [namesOnly_iff] at hnames
      push Not at hnames
      exact .inl hnames

def boundRules : List JsonValue :=
  [.object [("action", .string "evaluate"), ("rule_set", .array [.string "ads"])],
    .object [("action", .string "respond")]]

theorem boundRules_keep_bindings : readsResponse (.object [("action", .string "respond")]) ∧
    (retainLoadableRules ["ads"] boundRules).Sublist boundRules := by
  refine ⟨by decide, (retain_keeps_bindings ["ads"] boundRules fun before rule since h hr ↦ ?_).1⟩
  match before with
  | [] =>
    obtain ⟨rfl, -⟩ := List.cons.inj h
    exact absurd hr (by decide)
  | evaluate :: _ =>
    obtain ⟨rfl, -⟩ := List.cons.inj h
    exact ⟨_, List.mem_cons_self, by decide⟩

end CfwRs.SingBox
