import CfwRs.SingBox.Settings

namespace CfwRs.SingBox

open Lib.Checked

/-- What stands between two dots of a name. A text is given as its labels. -/
abbrev Label := List Char

inductive PatternPrefix
  | plus
  | dot
  | plain
deriving DecidableEq

/-- A pattern by its labels. A regular expression asks for its own labels at the end of a host, and
its prefix says how many labels may stand before them. -/
inductive DomainPattern
  | exact (body : List Label)
  | suffix (body : List Label)
  | regex ( kind : PatternPrefix) (body : List Label)

namespace DomainPattern

def invalid : ConfigError :=
  .unsupportedPolicyShape "domain pattern"
    "expected bounded domain labels, whole-label * wildcards, or a leading +. or ."

def validLabel (label : Label) : Bool :=
  label ≠ [] && label.length ≤ 63 && (label = ['*'] ||
    label.head? ≠ some '-' && label.getLast? ≠ some '-' &&
      label.all fun c ↦ c.isAlphanum || c = '-')

def strip : List Label → PatternPrefix × List Label
  | ['+'] :: label :: labels => (.plus, label :: labels)
  | [] :: label :: labels => (.dot, label :: labels)
  | labels => (.plain, labels)

def textLength (pattern : List Label) : ℕ := (pattern.map List.length).sum + (pattern.length - 1)

def build ( kind : PatternPrefix) (body : List Label) : DomainPattern :=
  if ['*'] ∈ body then .regex kind body
  else match kind with
    | .plus => .suffix body
    | .plain => .exact body
    | .dot => .regex .dot body

def parse (pattern : List Label) : Except ConfigError DomainPattern := do
  require (1 ≤ textLength pattern ∧ textLength pattern ≤ 255) invalid
  -- Neither prefix has a letter, so that it may be taken off before the rest is lowered.
  let body := (strip pattern).2.map (List.map Char.toLower)
  require (body.all validLabel) invalid
  pure (build (strip pattern).1 body)

def rank : Label → ℕ
  | ['+'] | [] => 0
  | ['*'] => 1
  | _ => 2

def specificity (pattern : List Label) : List ℕ := pattern.reverse.map rank

def admits : PatternPrefix → List Label → Bool
  | .plus, lead => lead.all (· ≠ [])
  | .dot, lead => lead ≠ [] && lead.all (· ≠ [])
  | .plain, lead => lead = []

/-- `(?i)` also takes `ſ` for an `s` and the Kelvin sign for a `k`. -/
def folds (c d : Char) : Bool :=
  d.toLower = c || c = 's' && d = '\u017f' || c = 'k' && d = '\u212a'

def matchesLabel (label host : Label) : Bool :=
  if label = ['*'] then host ≠ [] else List.Forall₂ (fun c d ↦ folds c d) label host

/-- The labels of a host in lower case, without the dots at its end. -/
def normalize (host : List Label) : List Label :=
  ((host.map (List.map Char.toLower)).reverse.dropWhile (· = [])).reverse

def matchesHost (host : List Label) : DomainPattern → Bool
  | .exact body => normalize host = body
  | .suffix body => body.isSuffixOf (normalize host)
  | .regex kind body =>
    let lead := (normalize host).length - body.length
    body.length ≤ (normalize host).length && admits kind ((normalize host).take lead) &&
      (body.zip ((normalize host).drop lead)).all fun p ↦ matchesLabel p.1 p.2

end DomainPattern

open DomainPattern

/-- The selector of a policy: the labels of a text without a dataset's prefix, or a dataset. -/
inductive DnsSelector
  | name (pattern : List Label)
  | dataset (value : String)

structure DomainDnsPolicy where
  domain : DnsSelector

namespace DomainDnsPolicy

def pattern (policy : DomainDnsPolicy) : List Label :=
  match policy.domain with
  | .name pattern => pattern
  | .dataset _ => []

def isDomain (isAddress : List Label → Bool) (policy : DomainDnsPolicy) : Bool :=
  match policy.domain with
  | .name pattern => !isAddress pattern && (parse pattern).isOk
  | .dataset _ => false

def matchesHost (policy : DomainDnsPolicy) (host : List Label) : Bool :=
  match parse policy.pattern with
  | .ok pattern => pattern.matchesHost host
  | .error _ => false

end DomainDnsPolicy

def precedes (a b : DomainDnsPolicy × ℕ) : Bool :=
  specificity b.1.pattern ≤ specificity a.1.pattern

/-- The loop over the segments of domain patterns, each of which is sorted in its place. -/
def orderSegments (isAddress : List Label → Bool) :
    List (DomainDnsPolicy × ℕ) → List (DomainDnsPolicy × ℕ)
  | [] => []
  | policy :: rest =>
    if policy.1.isDomain isAddress then
      (policy :: rest.takeWhile (·.1.isDomain isAddress)).mergeSort precedes ++
        orderSegments isAddress (rest.dropWhile (·.1.isDomain isAddress))
    else policy :: orderSegments isAddress rest
termination_by l => l.length
decreasing_by
  all_goals simp only [List.length_cons]
  · exact Nat.lt_succ_of_le (List.dropWhile_sublist _).length_le
  · exact Nat.lt_succ_self _

def orderedPolicies (isAddress : List Label → Bool) (policies : List DomainDnsPolicy) :
    List (DomainDnsPolicy × ℕ) := orderSegments isAddress policies.zipIdx

/-- The way a label trie goes to a pattern: an exact label before `*`, and `*` before a suffix
wildcard, which also comes after the end of the name. -/
def trieWay (pattern : List Label) : List ℕ :=
  specificity pattern ++ if (strip pattern).1 = .plain then [3] else []

/-- The specificity and the way of a pattern that follows `n` labels of a host and no more. -/
inductive Way : ℕ → List ℕ → List ℕ → Prop
  | done : Way 0 [] [3]
  | suffix {n} : Way (n + 1) [0] [0]
  | label {n rank s w} : 1 ≤ rank → Way n s w → Way (n + 1) (rank :: s) (rank :: w)

theorem Way.lt_of_lt {n s t w v} (hs : Way n s w) (ht : Way n t v) (h : w < v) : s < t := by
  induction hs generalizing t v with
  | done =>
    cases ht
    exact absurd h (List.lt_irrefl _)
  | suffix =>
    cases ht with
    | suffix => exact h
    | label hrank => exact List.cons_lt_cons_iff.mpr (.inl hrank)
  | label hrank _ ih =>
    cases ht with
    | suffix =>
      rcases List.cons_lt_cons_iff.mp h with h | ⟨rfl, -⟩
      · exact absurd h (Nat.not_lt_zero _)
      · cases hrank
    | label _ ht =>
      rw [List.cons_lt_cons_iff] at h ⊢
      exact h.imp_right (And.imp_right (ih ht))

theorem Way.of_plain {ranks} (h : ∀ rank ∈ ranks, 1 ≤ rank) :
    Way ranks.length ranks (ranks ++ [3]) := by
  induction ranks with
  | nil => exact .done
  | cons rank ranks ih =>
    rw [List.forall_mem_cons] at h
    exact .label h.1 (ih h.2)

theorem Way.of_suffix {ranks n} (h : ∀ rank ∈ ranks, 1 ≤ rank)
    (hn : ranks.length < n) : Way n (ranks ++ [0]) (ranks ++ [0]) := by
  induction ranks generalizing n with
  | nil =>
    obtain ⟨n, rfl⟩ := Nat.exists_eq_add_one.mpr hn
    exact .suffix
  | cons rank ranks ih =>
    obtain ⟨n, rfl⟩ := Nat.exists_eq_add_one.mpr (Nat.zero_lt_of_lt hn)
    rw [List.forall_mem_cons] at h
    exact .label h.1 (ih h.2 (Nat.lt_of_succ_lt_succ hn))

theorem rank_pos {label} (h : validLabel (label.map Char.toLower)) : 1 ≤ rank label := by
  unfold rank
  split
  · exact absurd h (by decide)
  · exact absurd h (by decide)
  · exact Nat.le_refl 1
  · exact Nat.le_succ 1

theorem length_of_plain {host body} (h : (build .plain body).matchesHost host) :
    body.length = (normalize host).length := by
  unfold build at h
  split at h
  · simp only [DomainPattern.matchesHost, admits, Bool.and_eq_true, decide_eq_true_eq,
      List.take_eq_nil_iff] at h
    obtain ⟨⟨hle, hlead | hhost⟩, -⟩ := h
    · omega
    · simp_all
  · simp only [DomainPattern.matchesHost, decide_eq_true_eq] at h
    rw [h]

theorem strip_cases (pattern : List Label) : strip pattern = (.plain, pattern) ∨
    (strip pattern).1 ≠ .plain ∧ specificity pattern = specificity (strip pattern).2 ++ [0] ∧
      pattern.length = (strip pattern).2.length + 1 := by
  unfold strip
  split
  · exact .inr ⟨nofun, by simp [specificity, rank], rfl⟩
  · exact .inr ⟨nofun, by simp [specificity, rank], rfl⟩
  · exact .inl rfl

theorem way_of_matches {policy : DomainDnsPolicy} {host}
    (h : policy.matchesHost host) (hlen : policy.pattern.length ≤ (normalize host).length) :
    Way (normalize host).length (specificity policy.pattern) (trieWay policy.pattern) := by
  unfold DomainDnsPolicy.matchesHost at h
  cases hp : parse policy.pattern with
  | error e => simp [hp] at h
  | ok parsed =>
    rw [hp] at h
    simp only [parse, bind_eq_ok, require_eq_ok] at hp
    obtain ⟨_, -, _, hvalid, hbuild⟩ := hp
    cases Except.ok.inj hbuild
    have hranks : ∀ rank ∈ specificity (strip policy.pattern).2, 1 ≤ rank := by
      intro r hr
      obtain ⟨label, hmem, rfl⟩ := List.mem_map.mp hr
      simp only [List.all_map, List.all_eq_true] at hvalid
      exact rank_pos (hvalid label (List.mem_reverse.mp hmem))
    have hlength : (specificity (strip policy.pattern).2).length = (strip policy.pattern).2.length := by
      simp [specificity]
    rcases strip_cases policy.pattern with hplain | ⟨hkind, hspecificity, hcount⟩
    · rw [trieWay, hplain]
      rw [hplain] at h hranks hlength
      have hhost := length_of_plain h
      rw [List.length_map] at hhost
      rw [← hhost, ← hlength]
      exact .of_plain hranks
    · rw [trieWay, if_neg hkind, hspecificity, List.append_nil]
      exact .of_suffix hranks (by omega)

theorem orderedPolicies_of_domain {isAddress policies}
    (h : ∀ policy ∈ policies, policy.isDomain isAddress) :
    orderedPolicies isAddress policies = policies.zipIdx.mergeSort precedes := by
  have hall : ∀ p ∈ policies.zipIdx, p.1.isDomain isAddress :=
    fun p hp ↦ h _ (List.fst_mem_of_mem_zipIdx hp)
  rw [orderedPolicies]
  generalize policies.zipIdx = pairs at hall
  cases pairs with
  | nil => simp [orderSegments]
  | cons pair pairs =>
    rw [List.forall_mem_cons] at hall
    rw [orderSegments, if_pos hall.1, List.takeWhile_eq_self_iff.mpr hall.2,
      List.dropWhile_eq_nil_iff.mpr hall.2, orderSegments, List.append_nil]

theorem precedes_trans (a b c : DomainDnsPolicy × ℕ) (hab : precedes a b) (hbc : precedes b c) :
    precedes a c := by
  simp only [precedes, decide_eq_true_eq] at *
  exact hbc.trans hab

theorem precedes_total (a b : DomainDnsPolicy × ℕ) : precedes a b || precedes b a := by
  simp only [precedes, Bool.or_eq_true, decide_eq_true_eq]
  exact le_total ..

def apexPolicies : List DomainDnsPolicy :=
  [⟨.name [['+'], ['d', 'e']]⟩, ⟨.name [['d', 'e']]⟩]

end CfwRs.SingBox
