import CfwRs.Lib.Action
import CfwRs.SingBox.Settings

namespace CfwRs.SingBox

open Lib Lib.Checked
open Relation (TransGen)

/-- The outbounds as far as their dependencies tell them apart: four types of them are groups, and
all but two of the others are remote. -/
inductive ProfileOutbound
  | direct (tag : String)
  | block (tag : String)
  | group (tag : String) (outbounds : List String)
  | remote (tag : String)
deriving DecidableEq

def ProfileOutbound.tag : ProfileOutbound → String
  | direct tag | block tag | group tag _ | remote tag => tag

def ProfileOutbound.groupMembers : ProfileOutbound → Option (List String)
  | group _ outbounds => some outbounds
  | _ => none

structure ProfileDocument where
  outbounds : List ProfileOutbound
  detours : List (String × String)

namespace ProfileDocument

variable (doc : ProfileDocument)

def tags : List String := doc.outbounds.map (·.tag)

def byTag (tag : String) : Option ProfileOutbound := doc.outbounds.reverse.find? (·.tag = tag)

/-- What an outbound is followed to: the members of a group, then the target of a detour. -/
def dependencies (tag : String) : List String :=
  ((doc.byTag tag).bind (·.groupMembers)).getD [] ++ (doc.detours.lookup tag).toList

/-- The memo table of the search. The number of calls and the tags that were expanded are kept only
to be reasoned about. -/
structure Search where
  completed : String → Option ℕ
  calls : ℕ
  expanded : List String

def Search.start : Search := ⟨fun _ ↦ none, 0, []⟩

def depthError : ConfigError :=
  .unsupportedPolicyShape "$.outbounds" "outbound dependency depth exceeds 32"

def cycleError : ConfigError :=
  .unsupportedPolicyShape "$.outbounds" "group references form a cycle"

/-- `visiting` has at most 32 tags, and `room` says how many more it may take. -/
def validateGroupPath (room : ℕ) (visiting : List String) (tag : String) :
    Action Search ConfigError ℕ := do
  let s ← get
  set { s with calls := s.calls + 1 }
  match s.completed tag with
  | some depth => pure depth
  | none =>
    match room with
    | 0 => check (.error depthError)
    | room + 1 =>
      if tag ∈ visiting then check (.error cycleError)
      else do
        let s ← get
        set { s with expanded := tag :: s.expanded }
        let depth ← (doc.dependencies tag).foldlM (fun depth next ↦ do
          let below ← validateGroupPath room (tag :: visiting) next
          pure (max depth (1 + below))) 1
        check (require (depth ≤ 32) depthError)
        let s ← get
        set { s with completed := Function.update s.completed tag (some depth) }
        pure depth

/-- The part of `validate_routing` that is about the dependencies of one outbound. -/
def validateOutbound (outbound : ProfileOutbound) : Action Search ConfigError Unit := do
  check (require (∀ member ∈ outbound.groupMembers.getD [], member ∈ doc.tags)
    (.unsupportedPolicyShape "$.outbounds" "group member must name a declared outbound"))
  let _ ← doc.validateGroupPath 32 [] outbound.tag
  pure ()

def validateDependencies : Action Search ConfigError Unit :=
  forM doc.outbounds doc.validateOutbound

def Depends (a b : String) : Prop := a ∈ doc.tags ∧ b ∈ doc.dependencies a

/-- There is no cycle, and no path of more than 32 nodes. -/
def Shallow : Prop :=
  (∀ tag, ¬TransGen doc.Depends tag tag) ∧
    ∀ path : List String, path.IsChain doc.Depends → path.length ≤ 32

def edges : ℕ :=
  (doc.outbounds.map fun outbound ↦ (outbound.groupMembers.getD []).length).sum + doc.detours.length

variable {doc}

section Depth

/-- The longest path from an outbound has this number of nodes. -/
structure Measures (doc : ProfileDocument) (tag : String) (depth : ℕ) : Prop where
  bound : ∀ path, (tag :: path).IsChain doc.Depends → path.length + 1 ≤ depth
  attained : ∃ path, (tag :: path).IsChain doc.Depends ∧ path.length + 1 = depth

def Measured (doc : ProfileDocument) (s : Search) : Prop :=
  ∀ tag depth, s.completed tag = some depth → doc.Measures tag depth ∧ depth ≤ 32

variable {E : Search → Prop} {s : Search}
variable {tag : String} {visiting : List String}

theorem Measured.complete {depth} (hs : doc.Measured s) (h : doc.Measures tag depth)
    (hle : depth ≤ 32) :
    doc.Measured { s with completed := Function.update s.completed tag (some depth) } := by
  intro other d (hd : Function.update s.completed tag (some depth) other = some d)
  by_cases heq : other = tag
  · subst heq
    rw [Function.update_self, Option.some.injEq] at hd
    exact hd ▸ ⟨h, hle⟩
  · rw [Function.update_of_ne heq] at hd
    exact hs other d hd

/-- The loop over what an outbound depends on finds the longest path that starts there. -/
theorem ends_dependencies {visit : String → Action Search ConfigError ℕ} {next : List String}
    (hvisit : ∀ n ∈ next, ∀ s, doc.Measured s →
      Ends (visit n) s (fun d t ↦ doc.Measured t ∧ doc.Measures n d ∧ d ≤ 32) E)
    (depth : ℕ) (hs : doc.Measured s) :
    Ends (next.foldlM (fun depth n ↦ do
      let below ← visit n
      pure (max depth (1 + below))) depth) s
      (fun d t ↦ doc.Measured t ∧ depth ≤ d ∧
        (∀ n ∈ next, ∀ path, (n :: path).IsChain doc.Depends → path.length + 2 ≤ d) ∧
        (d = depth ∨ ∃ n ∈ next, ∃ path, (n :: path).IsChain doc.Depends ∧ path.length + 2 = d))
      E := by
  induction next generalizing depth s with
  | nil => exact .of_pure ⟨hs, le_rfl, nofun, .inl rfl⟩
  | cons n next ih =>
    refine .bind (.bind ((hvisit n List.mem_cons_self s hs).mono (fun d t ⟨ht, hd, _⟩ ↦ ?_)
      fun _ h ↦ h))
    refine .of_pure ((ih (fun m hm ↦ hvisit m (List.mem_cons_of_mem n hm)) _ ht).mono ?_
      fun _ h ↦ h)
    rintro result u ⟨hu, hle, hbound, hattained⟩
    have hfirst := hd.bound
    refine ⟨hu, (le_max_left _ _).trans hle, fun m hm path hpath ↦ ?_, ?_⟩
    · rcases List.mem_cons.mp hm with rfl | hm
      · have := hfirst path hpath
        omega
      · exact hbound m hm path hpath
    · rcases hattained with hmax | ⟨m, hm, hpath⟩
      · rcases le_total depth (1 + d) with hlt | hge
        · obtain ⟨path, hpath, hlength⟩ := hd.attained
          exact .inr ⟨n, List.mem_cons_self, path, hpath, by omega⟩
        · exact .inl (by omega)
      · exact .inr ⟨m, List.mem_cons_of_mem n hm, hpath⟩

theorem not_shallow_of_length {path : List String} (hpath : path.IsChain doc.Depends)
    (hlong : 32 < path.length) : ¬doc.Shallow := fun h ↦ absurd (h.2 path hpath) (by omega)

theorem transGen_of_mem (hchain : (tag :: visiting).IsChain (flip doc.Depends)) :
    ∀ v ∈ visiting, TransGen doc.Depends v tag := by
  induction visiting generalizing tag with
  | nil => nofun
  | cons w visiting ih =>
    obtain ⟨hstep, hrest⟩ := List.isChain_cons_cons.mp hchain
    intro v hv
    rcases List.mem_cons.mp hv with rfl | hv
    · exact .single hstep
    · exact (ih hrest v hv).tail hstep

/-- The search measures an outbound, or what it has visited shows a cycle or a path that is too
long. -/
theorem ends_validateGroupPath (hclosed : ∀ a b, doc.Depends a b → b ∈ doc.tags) {room : ℕ}
    (hroom : room + visiting.length = 32) (hchain : (tag :: visiting).IsChain (flip doc.Depends))
    (htag : tag ∈ doc.tags) (hs : doc.Measured s) : Ends (doc.validateGroupPath room visiting tag) s
      (fun d t ↦ doc.Measured t ∧ doc.Measures tag d ∧ d ≤ 32) (fun _ ↦ ¬doc.Shallow) := by
  induction room generalizing visiting tag s with
  | zero =>
    unfold validateGroupPath
    refine .of_get_bind (.of_set_bind ?_)
    cases hc : s.completed tag with
    | some depth => exact .of_pure ⟨hs, hs tag depth hc⟩
    | none =>
      have hpath := List.isChain_reverse.mpr hchain
      exact not_shallow_of_length hpath (by simp; omega)
  | succ room ih =>
    unfold validateGroupPath
    refine .of_get_bind (.of_set_bind ?_)
    cases hc : s.completed tag with
    | some depth => exact .of_pure ⟨hs, hs tag depth hc⟩
    | none =>
      dsimp only
      split
      · next hmem => exact .of_check (fun h ↦ h.1 tag (transGen_of_mem hchain tag hmem)) nofun
      · refine .of_get_bind (.of_set_bind (.bind ?_))
        have hedge (n) (hn : n ∈ doc.dependencies tag) : doc.Depends tag n := ⟨htag, hn⟩
        have hs' : doc.Measured ⟨s.completed, s.calls + 1, tag :: s.expanded⟩ := hs
        refine (ends_dependencies (fun n hn t ht ↦ ?_) 1 hs').mono ?_ fun _ h ↦ h
        · exact ih (by simp; omega) (List.isChain_cons_cons.mpr ⟨hedge n hn, hchain⟩)
            (hclosed tag n (hedge n hn)) ht
        · rintro depth t ⟨ht, hone, hbound, hattained⟩
          have hmeasures : doc.Measures tag depth := by
            refine ⟨fun path hpath ↦ ?_, ?_⟩
            · cases path with
              | nil => simpa using hone
              | cons n path =>
                obtain ⟨hstep, hrest⟩ := List.isChain_cons_cons.mp hpath
                exact hbound n hstep.2 path hrest
            · rcases hattained with rfl | ⟨n, hn, path, hpath, hlength⟩
              · exact ⟨[], by simp, rfl⟩
              · exact ⟨n :: path, List.isChain_cons_cons.mpr ⟨hedge n hn, hpath⟩, hlength⟩
          refine .bind ?_
          by_cases hle : depth ≤ 32
          · rw [require_pos hle]
            exact .of_pure (.of_get_bind (.of_set_bind (.of_pure
              ⟨ht.complete hmeasures hle, hmeasures, hle⟩)))
          · obtain ⟨path, hpath, hlength⟩ := hmeasures.attained
            refine .of_check (not_shallow_of_length hpath ?_) fun _ h ↦ absurd (require_eq_ok.mp h) hle
            simp only [List.length_cons]
            omega

end Depth

section Work

def Search.work (doc : ProfileDocument) (s : Search) : ℕ :=
  (s.expanded.map fun tag ↦ (doc.dependencies tag).length).sum

/-- Every tag that was expanded is in the table or still being visited. -/
structure Accounted (visiting : List String) (s : Search) : Prop where
  nodup : s.expanded.Nodup
  settled : ∀ tag ∈ s.expanded, (s.completed tag).isSome ∨ tag ∈ visiting

/-- All calls since `s` but `n` are paid for by the edges of what was expanded. -/
def Charged (doc : ProfileDocument) (n : ℕ) (s t : Search) : Prop :=
  t.calls + s.work doc ≤ s.calls + n + t.work doc

variable {s : Search} {visiting : List String}

theorem Charged.trans {n m t u} (h : doc.Charged n s t) (h' : doc.Charged m t u) :
    doc.Charged (n + m) s u := by
  unfold Charged at *
  omega

theorem charged_dependencies {visit : String → Action Search ConfigError ℕ}
    (hvisit : ∀ n s, Accounted visiting s → Ends (visit n) s
      (fun _ t ↦ Accounted visiting t ∧ doc.Charged 1 s t)
      fun t ↦ t.expanded.Nodup ∧ doc.Charged 1 s t)
    (next : List String) (depth : ℕ) (hs : Accounted visiting s) :
    Ends (next.foldlM (fun depth n ↦ do
      let below ← visit n
      pure (max depth (1 + below))) depth) s
      (fun _ t ↦ Accounted visiting t ∧ doc.Charged next.length s t)
      fun t ↦ t.expanded.Nodup ∧ doc.Charged next.length s t := by
  induction next generalizing depth s with
  | nil => exact .of_pure ⟨hs, le_rfl⟩
  | cons n next ih =>
    rw [List.length_cons, Nat.add_comm]
    refine .bind (.bind ((hvisit n s hs).mono (fun d t ⟨ht, hst⟩ ↦ ?_) fun t ⟨ht, hst⟩ ↦ ⟨ht, ?_⟩))
    · exact .of_pure ((ih _ ht).mono (fun _ u hu ↦ ⟨hu.1, hst.trans hu.2⟩)
        fun u hu ↦ ⟨hu.1, hst.trans hu.2⟩)
    · unfold Charged at *
      omega

theorem charged_validateGroupPath {room : ℕ} {tag} (hs : Accounted visiting s) :
    Ends (doc.validateGroupPath room visiting tag) s
      (fun _ t ↦ Accounted visiting t ∧ doc.Charged 1 s t)
      fun t ↦ t.expanded.Nodup ∧ doc.Charged 1 s t := by
  induction room generalizing visiting tag s with
  | zero =>
    unfold validateGroupPath
    refine .of_get_bind (.of_set_bind ?_)
    cases s.completed tag with
    | some depth => exact .of_pure ⟨⟨hs.nodup, hs.settled⟩, le_rfl⟩
    | none => exact .of_check ⟨hs.nodup, le_rfl⟩ nofun
  | succ room ih =>
    unfold validateGroupPath
    refine .of_get_bind (.of_set_bind ?_)
    cases hc : s.completed tag with
    | some depth => exact .of_pure ⟨⟨hs.nodup, hs.settled⟩, le_rfl⟩
    | none =>
      dsimp only
      split
      · exact .of_check ⟨hs.nodup, le_rfl⟩ nofun
      · next hnew =>
        have hexpanded : Accounted (tag :: visiting)
            ⟨s.completed, s.calls + 1, tag :: s.expanded⟩ := by
          refine ⟨List.nodup_cons.mpr ⟨fun hmem ↦ ?_, hs.nodup⟩, fun other hother ↦ ?_⟩
          · rcases hs.settled tag hmem with hsome | hvisiting
            · simp [hc] at hsome
            · exact hnew hvisiting
          · rcases List.mem_cons.mp hother with rfl | hother
            · exact .inr List.mem_cons_self
            · exact (hs.settled other hother).imp_right (List.mem_cons_of_mem tag)
        have hpaid {t : Search} (ht : doc.Charged (doc.dependencies tag).length
            ⟨s.completed, s.calls + 1, tag :: s.expanded⟩ t) : doc.Charged 1 s t := by
          simp only [Charged, Search.work, List.map_cons, List.sum_cons] at ht ⊢
          omega
        refine .of_get_bind (.of_set_bind (.bind ((charged_dependencies (fun n t ht ↦ ih ht)
          (doc.dependencies tag) 1 hexpanded).mono (fun depth t ⟨ht, hcharged⟩ ↦ ?_)
          fun t ⟨ht, hcharged⟩ ↦ ⟨ht, hpaid hcharged⟩)))
        refine .bind (.of_check ⟨ht.nodup, hpaid hcharged⟩ fun _ _ ↦ ?_)
        refine .of_get_bind (.of_set_bind (.of_pure ⟨⟨ht.nodup, fun other hother ↦ ?_⟩, hpaid hcharged⟩))
        by_cases heq : other = tag
        · subst heq
          simp
        · dsimp only
          rw [Function.update_of_ne heq]
          refine (ht.settled other hother).imp_right fun hmem ↦ ?_
          exact (List.mem_cons.mp hmem).resolve_left heq

/-- Sums over parts that are told apart by a key do not exceed the sum over the whole. -/
theorem sum_parts_le {α : Type} (l : List α) (key : α → String) (weight : α → ℕ)
    {keys : List String} (hkeys : keys.Nodup) :
    (keys.map fun k ↦ ((l.filter fun a ↦ key a = k).map weight).sum).sum ≤ (l.map weight).sum := by
  induction l with
  | nil => simp
  | cons a l ih =>
    have hone : (keys.map fun k ↦ if key a = k then weight a else 0).sum ≤ weight a := by
      clear ih
      induction keys with
      | nil => simp
      | cons k keys ih =>
        obtain ⟨hk, hrest⟩ := List.nodup_cons.mp hkeys
        rw [List.map_cons, List.sum_cons]
        split
        · next heq =>
          have hzero : ∀ n ∈ keys.map fun k ↦ if key a = k then weight a else 0, n = 0 := by
            intro n hn
            obtain ⟨k', hk', rfl⟩ := List.mem_map.mp hn
            exact if_neg fun h ↦ hk (heq.symm.trans h ▸ hk')
          rw [List.sum_eq_zero hzero, Nat.add_zero]
        · simpa using ih hrest
    have hsplit (k : String) : (((a :: l).filter fun a ↦ key a = k).map weight).sum =
        (if key a = k then weight a else 0) + ((l.filter fun a ↦ key a = k).map weight).sum := by
      by_cases heq : key a = k <;> simp [heq]
    simp only [hsplit, List.sum_map_add]
    exact Nat.add_le_add hone ih

theorem length_dependencies_le (tag : String) : (doc.dependencies tag).length ≤
    ((doc.outbounds.filter fun o ↦ o.tag = tag).map fun o ↦ (o.groupMembers.getD []).length).sum +
    ((doc.detours.filter fun d ↦ d.1 = tag).map fun _ ↦ 1).sum := by
  rw [dependencies, List.length_append]
  refine Nat.add_le_add ?_ ?_
  · cases ho : doc.byTag tag with
    | none => simp
    | some outbound =>
      have hmem := List.mem_reverse.mp (List.mem_of_find?_eq_some ho)
      have htag : outbound.tag = tag := by simpa using List.find?_some ho
      exact List.single_le_sum (by simp) _ (List.mem_map_of_mem
        (List.mem_filter.mpr ⟨hmem, by simpa using htag⟩))
  · cases hd : doc.detours.lookup tag with
    | none => simp
    | some target =>
      obtain ⟨before, rest, hsplit, -⟩ := List.lookup_eq_some_iff.mp hd
      simp [hsplit]
      omega

theorem work_le_edges {s : Search} (h : s.expanded.Nodup) : s.work doc ≤ doc.edges := by
  calc s.work doc
      ≤ (s.expanded.map fun tag ↦
          ((doc.outbounds.filter fun o ↦ o.tag = tag).map fun o ↦
            (o.groupMembers.getD []).length).sum +
          ((doc.detours.filter fun d ↦ d.1 = tag).map fun _ ↦ 1).sum).sum :=
        List.sum_le_sum fun tag _ ↦ length_dependencies_le tag
    _ ≤ _ := by
      rw [List.sum_map_add]
      refine Nat.add_le_add (sum_parts_le _ _ _ h) ((sum_parts_le _ Prod.fst _ h).trans ?_)
      simp

end Work

section Document

variable {a b : String} {outbounds : List ProfileOutbound} {s : Search}

theorem exists_longer (h : TransGen doc.Depends a b) {path}
    (hpath : (b :: path).IsChain doc.Depends) :
    ∃ path', (a :: path').IsChain doc.Depends ∧ path.length < path'.length := by
  induction h generalizing path with
  | single hab => exact ⟨_, List.isChain_cons_cons.mpr ⟨hab, hpath⟩, by simp⟩
  | tail _ hbc ih =>
    obtain ⟨path', hpath', hlt⟩ := ih (List.isChain_cons_cons.mpr ⟨hbc, hpath⟩)
    exact ⟨path', hpath', (Nat.lt_succ_self _).trans hlt⟩

/-- Outbounds that were all measured make a shallow graph: a cycle would have paths of any length. -/
theorem shallow_of_measures (h : ∀ tag ∈ doc.tags, ∃ d ≤ 32, doc.Measures tag d) : doc.Shallow := by
  have hbound (path : List String) (hpath : path.IsChain doc.Depends) : path.length ≤ 32 := by
    match path, hpath with
    | [], _ => simp
    | [_], _ => simp
    | a :: b :: path, hpath =>
      obtain ⟨d, hle, hd⟩ := h a (List.isChain_cons_cons.mp hpath).1.1
      exact (hd.bound _ hpath).trans hle
  refine ⟨fun tag hcycle ↦ ?_, hbound⟩
  have hgrows (n : ℕ) : ∃ path, (tag :: path).IsChain doc.Depends ∧ n ≤ path.length := by
    induction n with
    | zero => exact ⟨[], by simp⟩
    | succ n ih =>
      obtain ⟨path, hpath, hn⟩ := ih
      obtain ⟨path', hpath', hlt⟩ := exists_longer hcycle hpath
      exact ⟨path', hpath', hn.trans_lt hlt⟩
  obtain ⟨path, hpath, hn⟩ := hgrows 32
  have hle := hbound _ hpath
  rw [List.length_cons] at hle
  omega

variable (doc) in
def Accepts : Prop := ∃ t, doc.validateDependencies.run .start = .ok () t

/-- Tags are unique, and what the outbounds depend on is declared. -/
structure WellFormed (doc : ProfileDocument) : Prop where
  unique : doc.tags.Nodup
  members : ∀ outbound ∈ doc.outbounds, ∀ member ∈ outbound.groupMembers.getD [], member ∈ doc.tags
  detours : ∀ detour ∈ doc.detours, detour.2 ∈ doc.tags

theorem WellFormed.closed (h : doc.WellFormed) (hab : doc.Depends a b) : b ∈ doc.tags := by
  rcases List.mem_append.mp hab.2 with hb | hb
  · cases ho : doc.byTag a with
    | none => simp [ho] at hb
    | some outbound =>
      exact h.members outbound (List.mem_reverse.mp (List.mem_of_find?_eq_some ho)) b
        (by simpa [ho] using hb)
  · rw [Option.mem_toList] at hb
    obtain ⟨before, rest, hsplit, -⟩ := List.lookup_eq_some_iff.mp hb
    exact h.detours (a, b) (by simp [hsplit])

theorem ends_validateDependencies (h : doc.WellFormed) (hsub : outbounds ⊆ doc.outbounds)
    (hs : doc.Measured s) : Ends (forM outbounds doc.validateOutbound) s
      (fun _ _ ↦ ∀ outbound ∈ outbounds, ∃ d ≤ 32, doc.Measures outbound.tag d)
      (fun _ ↦ ¬doc.Shallow) := by
  induction outbounds generalizing s with
  | nil => exact .of_pure nofun
  | cons outbound outbounds ih =>
    have hmem := hsub List.mem_cons_self
    rw [List.forM_cons, validateOutbound, require_pos (h.members outbound hmem)]
    refine .bind (.bind (.of_pure (.bind ((ends_validateGroupPath (fun _ _ ↦ h.closed) rfl (by simp)
      (List.mem_map_of_mem hmem) hs).mono (fun d t ⟨ht, hd, hle⟩ ↦ .of_pure ?_) fun _ h ↦ h))))
    refine (ih (fun o ho ↦ hsub (List.mem_cons_of_mem _ ho)) ht).mono ?_ fun _ h ↦ h
    intro _ _ hrest o ho
    rcases List.mem_cons.mp ho with rfl | ho
    · exact ⟨d, hle, hd⟩
    · exact hrest o ho

theorem accepts_iff_shallow (h : doc.WellFormed) : doc.Accepts ↔ doc.Shallow := by
  have hends := ends_validateDependencies h (List.Subset.refl _) (s := .start) nofun
  unfold Ends at hends
  unfold Accepts validateDependencies
  split at hends
  · next _ t hr =>
    refine iff_of_true ⟨t, hr⟩ (shallow_of_measures fun tag htag ↦ ?_)
    obtain ⟨outbound, hmem, rfl⟩ := List.mem_map.mp htag
    exact hends outbound hmem
  · next e t hr => exact iff_of_false (fun ⟨t, ht⟩ ↦ by simp [hr] at ht) hends

theorem byTag_eq_some (h : doc.tags.Nodup) {tag} {outbound} :
    doc.byTag tag = some outbound ↔ outbound ∈ doc.outbounds ∧ outbound.tag = tag := by
  constructor
  · intro ho
    exact ⟨List.mem_reverse.mp (List.mem_of_find?_eq_some ho), by simpa using List.find?_some ho⟩
  · rintro ⟨hmem, rfl⟩
    cases ho : doc.byTag outbound.tag with
    | none =>
      have hnone := List.find?_eq_none.mp ho outbound (List.mem_reverse.mpr hmem)
      simp at hnone
    | some other =>
      have hother := List.mem_reverse.mp (List.mem_of_find?_eq_some ho)
      have htag : other.tag = outbound.tag := by simpa using List.find?_some ho
      rw [List.inj_on_of_nodup_map h hother hmem htag]

theorem shallow_of_perm {doc' : ProfileDocument} (h : doc.tags.Nodup)
    (hperm : doc'.outbounds.Perm doc.outbounds) (hdetours : doc'.detours = doc.detours) :
    doc'.Shallow ↔ doc.Shallow := by
  have htags : doc'.tags.Perm doc.tags := hperm.map _
  have hdepends : doc'.Depends = doc.Depends := by
    funext a b
    have hbyTag : doc'.byTag a = doc.byTag a := by
      refine Option.ext fun outbound ↦ ?_
      rw [byTag_eq_some (htags.nodup_iff.mpr h), byTag_eq_some h, hperm.mem_iff]
    rw [Depends, Depends, dependencies, dependencies, hbyTag, hdetours, htags.mem_iff]
  rw [Shallow, Shallow, hdepends]

theorem charged_validateDependencies (hs : Accounted [] s) :
    Ends (forM outbounds doc.validateOutbound) s
      (fun _ t ↦ t.expanded.Nodup ∧ doc.Charged outbounds.length s t)
      fun t ↦ t.expanded.Nodup ∧ doc.Charged outbounds.length s t := by
  induction outbounds generalizing s with
  | nil => exact .of_pure ⟨hs.nodup, le_rfl⟩
  | cons outbound outbounds ih =>
    have hmore {n : ℕ} {t : Search} (ht : doc.Charged n s t) (m : ℕ) : doc.Charged (m + n) s t := by
      unfold Charged at *
      omega
    rw [List.length_cons]
    refine .bind (.bind (.of_check ⟨hs.nodup, hmore (n := 0) le_rfl _⟩ fun _ _ ↦ .bind
      ((charged_validateGroupPath hs).mono (fun d t ⟨ht, hst⟩ ↦ .of_pure ?_) fun t ht ↦
        ⟨ht.1, hmore ht.2 _⟩)))
    rw [Nat.add_comm]
    exact (ih ht).mono (fun _ u hu ↦ ⟨hu.1, hst.trans hu.2⟩) fun u hu ↦ ⟨hu.1, hst.trans hu.2⟩

/-- The dependency check accepts exactly the documents without a cycle and without a path of more
than 32 nodes, in whatever order the outbounds are declared, and it expands no tag twice, whatever
the document is. -/
theorem dependency_check_exact (doc : ProfileDocument) :
    (doc.WellFormed → (doc.Accepts ↔ doc.Shallow) ∧
      ∀ doc' : ProfileDocument, doc'.outbounds.Perm doc.outbounds → doc'.detours = doc.detours →
        (doc'.Accepts ↔ doc.Accepts)) ∧ (leaves doc.validateDependencies .start).expanded.Nodup ∧
    (leaves doc.validateDependencies .start).calls ≤ doc.outbounds.length + doc.edges := by
  refine ⟨fun h ↦ ⟨accepts_iff_shallow h, fun doc' hperm hdetours ↦ ?_⟩, ?_⟩
  · have htags : doc'.tags.Perm doc.tags := hperm.map _
    have h' : doc'.WellFormed := by
      refine ⟨htags.nodup_iff.mpr h.unique, fun o ho m hm ↦ ?_, fun d hd ↦ ?_⟩
      · exact htags.mem_iff.mpr (h.members o (hperm.mem_iff.mp ho) m hm)
      · exact htags.mem_iff.mpr (h.detours d (hdetours ▸ hd))
    rw [accepts_iff_shallow h, accepts_iff_shallow h', shallow_of_perm h.unique hperm hdetours]
  · have hends : Ends (forM doc.outbounds doc.validateOutbound) .start _ _ :=
      charged_validateDependencies ⟨List.nodup_nil, nofun⟩
    obtain ⟨hnodup, hcharged⟩ := hends.leaves fun _ _ h ↦ h
    refine ⟨hnodup, ?_⟩
    have hwork : Search.work doc _ ≤ doc.edges := work_le_edges hnodup
    have hstart : Search.start.calls = 0 ∧ Search.start.work doc = 0 := ⟨rfl, rfl⟩
    rw [Charged] at hcharged
    rw [validateDependencies]
    omega

def detouredGroup : ProfileDocument :=
  ⟨[.group "proxy" ["direct"], .direct "direct", .remote "node"], [("node", "proxy")]⟩

theorem detouredGroup_checked : detouredGroup.WellFormed ∧ detouredGroup.Shallow := by
  have h : detouredGroup.WellFormed := by
    constructor <;> decide
  have hok : (detouredGroup.validateDependencies.run .start matches .ok _ _) = true := by
    decide +kernel
  have haccepts : detouredGroup.Accepts := by
    cases hr : detouredGroup.validateDependencies.run .start with
    | ok _ t => exact ⟨t, hr⟩
    | error _ _ => simp [hr] at hok
  exact ⟨h, ((dependency_check_exact detouredGroup).1 h).1.mp haccepts⟩

end Document

end ProfileDocument

end CfwRs.SingBox
