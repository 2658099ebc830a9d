import CfwRs.SingBox.DnsPolicy

namespace CfwRs.SingBox.DomainPattern

open Lib.Checked

/-- The text of some labels. -/
def text (labels : List Label) : List Char := ['.'].intercalate labels

/-- The labels of a name, in lower case. -/
def labels (name : List Char) : List Label := (name.map Char.toLower).splitOn '.'

def dotted (labels : List Label) : List Char := labels.flatMap (· ++ ['.'])

/-- The texts of the generated expression: any labels that its lead stands for, each with its dot,
those of its body, and perhaps a dot. Neither `[^.]` nor a character of a label matches a dot. -/
def MatchesExpression ( kind : PatternPrefix) (body : List Label) (host : List Char) : Prop :=
  ∃ lead parts, admits kind lead ∧ List.Forall₂ (fun label part ↦ matchesLabel label part) body parts ∧
    (∀ label ∈ lead ++ parts, '.' ∉ label) ∧
      (host = dotted lead ++ text parts ∨ host = dotted lead ++ text parts ++ ['.'])

def matchesText (host : List Char) (pattern : DomainPattern) : Prop :=
  let host := (host.rdropWhile (· = '.')).map Char.toLower
  match pattern with
  | .exact body => host = text body
  | .suffix body => host = text body ∨ ∃ lead, host = lead ++ text body ∧ lead.getLast? = some '.'
  | .regex kind body => MatchesExpression kind body host

/-- The labels of a host match those of a pattern from the right. -/
def ByLabels ( kind : PatternPrefix) (pattern host : List Label) : Prop :=
  ∃ lead rest, host = lead ++ rest ∧ admits kind lead ∧
    List.Forall₂ (fun label host ↦ label = ['*'] ∨ label = host) pattern rest

theorem forall₂_iff_of_mem {α β : Type} {R S : α → β → Prop} {l} {p}
    (h : ∀ a ∈ l, ∀ b ∈ p, (R a b ↔ S a b)) : List.Forall₂ R l p ↔ List.Forall₂ S l p := by
  rw [List.forall₂_iff_zip, List.forall₂_iff_zip]
  refine and_congr_right fun _ ↦ forall₂_congr fun a b ↦ imp_congr_right fun hmem ↦ ?_
  exact h a (List.of_mem_zip hmem).1 b (List.of_mem_zip hmem).2

theorem nil_mem_splitOn (w : List Char) : [] ∈ (w ++ ['.']).splitOn '.' := by
  rw [List.splitOn_append_cons_self]
  simp

theorem of_mem_splitOn {w : List Char} {label} (h : label ∈ w.splitOn '.') :
    ∀ c ∈ label, c ∈ w ∧ c ≠ '.' := by
  induction w generalizing label with
  | nil => simp_all
  | cons a w ih =>
    rw [List.splitOn_cons_eq_if_modifyHead] at h
    split at h
    · grind
    · cases hw : w.splitOn '.' with
      | nil => simp [hw] at h
      | cons first rest => grind [List.modifyHead_cons]

theorem text_append {lead rest} (h : rest ≠ []) :
    text (lead ++ rest) = dotted lead ++ text rest := by
  induction lead with
  | nil => rfl
  | cons label lead ih =>
    rw [text, List.cons_append, List.intercalate_cons_of_ne_nil (by simp [h]), ← text, ih]
    simp [dotted]

/-- A text determines its labels. -/
theorem splitOn_eq_iff {lead rest} (hne : rest ≠ [])
    (hdot : ∀ label ∈ lead ++ rest, '.' ∉ label) {w : List Char} :
    w.splitOn '.' = lead ++ rest ↔ w = dotted lead ++ text rest := by
  rw [← text_append hne]
  constructor
  · intro h
    rw [← h, text, List.intercalate_splitOn]
  · rintro rfl
    exact List.splitOn_intercalate _ hdot (by simp [hne])

theorem dot_notMem_of_valid {label} (h : validLabel label) : '.' ∉ label := by
  intro hdot
  simp only [validLabel, Bool.and_eq_true, Bool.or_eq_true, decide_eq_true_eq,
    List.all_eq_true] at h
  rcases h.2 with rfl | ⟨-, hall⟩
  · simp at hdot
  · simpa using hall _ hdot

theorem eq_text_iff {body} (hbody : ∀ label ∈ body, validLabel label) (hne : body ≠ [])
    {w : List Char} : w = text body ↔ w.splitOn '.' = body := by
  have hdot : ∀ label ∈ [] ++ body, '.' ∉ label :=
    fun label hlabel ↦ dot_notMem_of_valid (hbody label hlabel)
  exact (splitOn_eq_iff hne hdot).symm

section

variable {host given : List Char} (hhost : ∀ label ∈ labels host, label ≠ [])
  (hfold : ∀ label ∈ labels host, '\u017f' ∉ label ∧ '\u212a' ∉ label)
include hhost

theorem trimmed_eq (hgiven : given = host ∨ given = host ++ ['.']) :
    (given.rdropWhile (· = '.')).map Char.toLower = host.map Char.toLower := by
  have hhost : host.rdropWhile (· = '.') = host := by
    rw [List.rdropWhile_eq_self_iff]
    intro hne hlast
    refine hhost [] ?_ rfl
    rw [labels, ← List.dropLast_append_getLast hne, of_decide_eq_true hlast, List.map_append]
    exact nil_mem_splitOn _
  rcases hgiven with rfl | rfl
  · rw [hhost]
  · rw [List.rdropWhile_concat_pos _ _ _ (by simp), hhost]

include hfold in
theorem matchesLabel_iff {label part : Label} (hpart : part ∈ labels host) :
    matchesLabel label part ↔ label = ['*'] ∨ label = part := by
  unfold matchesLabel
  split
  · next hany => simp [hany, hhost part hpart]
  · next hany =>
    rw [or_iff_right hany, decide_eq_true_iff, ← List.forall₂_eq_eq_eq]
    refine forall₂_iff_of_mem fun _ _ d hd ↦ ?_
    obtain ⟨c, -, rfl⟩ := List.mem_map.mp (of_mem_splitOn hpart d hd).1
    have hs : c.toLower ≠ '\u017f' := fun h ↦ (hfold part hpart).1 (h ▸ hd)
    have hk : c.toLower ≠ '\u212a' := fun h ↦ (hfold part hpart).2 (h ▸ hd)
    simp [folds, hs, hk, eq_comm]

variable { kind : PatternPrefix} {body : List Label} (hbody : ∀ label ∈ body, validLabel label)
  (hne : body ≠ [])
include hne

include hfold in
theorem matchesExpression_iff :
    MatchesExpression kind body (host.map Char.toLower) ↔ ByLabels kind body (labels host) := by
  have hrest {R : Label → Label → Prop} {rest : List Label} (h : List.Forall₂ R body rest) :
      rest ≠ [] := fun hnil ↦ hne (by simpa [hnil] using h.length_eq)
  have hlabels {rest : List Label} (h : ∀ label ∈ rest, label ∈ labels host) :
      List.Forall₂ (fun label part ↦ matchesLabel label part) body rest ↔
        List.Forall₂ (fun label part ↦ label = ['*'] ∨ label = part) body rest :=
    forall₂_iff_of_mem fun _ _ _ hpart ↦ matchesLabel_iff hhost hfold (h _ hpart)
  constructor
  · rintro ⟨lead, parts, hadmits, hparts, hdot, htext⟩
    have hsplit : labels host = lead ++ parts := by
      refine (splitOn_eq_iff (hrest hparts) hdot).mpr (htext.resolve_right fun htext ↦ ?_)
      exact hhost [] (by rw [labels, htext]; exact nil_mem_splitOn _) rfl
    exact ⟨lead, parts, hsplit, hadmits, (hlabels (by simp_all)).mp hparts⟩
  · rintro ⟨lead, parts, hsplit, hadmits, hparts⟩
    have hdot : ∀ label ∈ lead ++ parts, '.' ∉ label := fun label hlabel hdot ↦
      (of_mem_splitOn (hsplit ▸ hlabel : label ∈ labels host) _ hdot).2 rfl
    exact ⟨lead, parts, hadmits, (hlabels (by simp_all)).mpr hparts, hdot,
      .inl ((splitOn_eq_iff (hrest hparts) hdot).mp hsplit)⟩

include hbody in
theorem suffix_iff : (host.map Char.toLower = text body ∨ ∃ lead,
      host.map Char.toLower = lead ++ text body ∧ lead.getLast? = some '.') ↔
    ∃ lead, labels host = lead ++ body ∧ admits .plus lead := by
  constructor
  · rintro (htext | ⟨lead, htext, hlast⟩)
    · exact ⟨[], (eq_text_iff hbody hne).mp htext, rfl⟩
    · obtain ⟨lead, rfl⟩ := List.getLast?_eq_some_iff.mp hlast
      have hsplit : labels host = lead.splitOn '.' ++ body := by
        rw [labels, htext, List.append_assoc, List.singleton_append, List.splitOn_append_cons_self,
          (eq_text_iff hbody hne).mp rfl]
      refine ⟨_, hsplit, List.all_eq_true.mpr fun label hlabel ↦ decide_eq_true (hhost label ?_)⟩
      exact hsplit ▸ List.mem_append_left _ hlabel
  · rintro ⟨lead, hsplit, -⟩
    have htext := (splitOn_eq_iff hne fun label hlabel hdot ↦
      (of_mem_splitOn (hsplit ▸ hlabel : label ∈ labels host) _ hdot).2 rfl).mp hsplit
    rcases List.eq_nil_or_concat lead with rfl | ⟨lead, label, rfl⟩
    · exact .inl htext
    · exact .inr ⟨_, htext, by simp [dotted]⟩

end

theorem byLabels_of_plain {kind body host} (h : ['*'] ∉ body) :
    ByLabels kind body host ↔ ∃ lead, host = lead ++ body ∧ admits kind lead := by
  have hsame (rest : List Label) := forall₂_iff_of_mem (p := rest) fun label hlabel host _ ↦
    or_iff_right (a := label = ['*']) (b := label = host) fun h' ↦ h (h' ▸ hlabel)
  simp only [List.forall₂_eq_eq_eq] at hsame
  constructor
  · rintro ⟨lead, rest, hhost, hadmits, hrest⟩
    exact ⟨lead, (hsame rest).mp hrest ▸ hhost, hadmits⟩
  · rintro ⟨lead, hhost, hadmits⟩
    exact ⟨lead, body, hhost, hadmits, (hsame body).mpr rfl⟩

end CfwRs.SingBox.DomainPattern
