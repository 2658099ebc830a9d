import CfwRs.WindowsAuthority.JournalView

namespace CfwRs.WindowsAuthority

open Lib Lib.Checked Lib.Durable JournalView

namespace JournalAnchor

theorem validateCursor_eq_ok {c} : validateCursor c = .ok () ↔ ∀ x ∈ c, x.validate = .ok () := by
  cases c <;> simp [validateCursor]

theorem validate_eq_ok {a : JournalAnchor} :
    a.validate = .ok () ↔ a.schemaVersion = 1 ∧ (∀ c ∈ a.committed, c.validate = .ok ()) ∧
      (∀ p ∈ a.pending, p.validate = .ok ()) ∧
      ∀ p ∈ a.pending, JournalCursor.Advances a.committed p := by
  simp only [validate, ok_iff, exists_const, not_not]
  constructor
  · rintro ⟨hschema, _, hcommitted, _, hpending, hadvances⟩
    exact ⟨hschema, validateCursor_eq_ok.mp hcommitted, validateCursor_eq_ok.mp hpending, hadvances⟩
  · rintro ⟨hschema, hcommitted, hpending, hadvances⟩
    exact ⟨hschema, (), validateCursor_eq_ok.mpr hcommitted, (), validateCursor_eq_ok.mpr hpending,
      hadvances⟩

theorem new_eq {storeId committed pending}
    (h : (JournalAnchor.mk 1 storeId committed pending).validate = .ok ()) :
    new storeId committed pending = .ok ⟨1, storeId, committed, pending⟩ := by
  simp only [new, h]
  rfl

end JournalAnchor

namespace WindowsAuthorityJournal

open JournalCodec

def settledAnchor (storeId : Uuid) (committed : Option JournalCursor) : JournalAnchor where
  schemaVersion := 1
  storeId := storeId
  committed := committed
  pending := none

variable {committed : Option JournalCursor} {storeId : Uuid}

@[simp] theorem committed_settledAnchor :
    (settledAnchor storeId committed).committed = committed := rfl

@[simp] theorem pending_settledAnchor : (settledAnchor storeId committed).pending = none := rfl

theorem settledAnchor_valid (h : ∀ c ∈ committed, c.validate = .ok ()) :
    (settledAnchor storeId committed).validate = .ok () :=
  JournalAnchor.validate_eq_ok.mpr ⟨rfl, h, by simp, by simp⟩

structure Files (v : JournalView) (g : UInt64) (journal journalTemp head headTemp : Option Bytes) :
    Prop where
  journal_eq : v.files (.record (.journal g)) = journal
  journalTemp_eq : v.files (.temporary (.journal g)) = journalTemp
  head_eq : v.files (.record (.head g)) = head
  headTemp_eq : v.files (.temporary (.head g)) = headTemp

/-- The marker is in place, and every other file belongs to one of the generations. -/
structure Tidy (v : JournalView) (storeId : Uuid) (generations : List UInt64) : Prop where
  marker_eq : v.files (.record .marker) = some (markerBytes storeId)
  entries : ∀ name, v.files name ≠ none →
    name = .record .marker ∨ ∃ g ∈ generations, name.generation = some g

def Restartable (state : AuthorityCommittedState) : Prop := ∃ action, state.action = .ok action

theorem Restartable.ready {state} (h : Restartable state) : ∀ x ∈ some state, Restartable x := by
  rintro _ ⟨⟩
  exact h

variable (serde : SerdeJson)

/-- The committed history ends with `state`, and nothing is under way, except that files of an
`older` generation may be left. -/
structure Committed (v : JournalView) (storeId : Uuid) (cursor : JournalCursor)
    (older : List UInt64) (journal : Bytes) (state : AuthorityCommittedState) : Prop where
  anchor_eq : v.anchor = some (settledAnchor storeId (some cursor))
  tidy : Tidy v storeId (cursor.generation :: older)
  files : Files v cursor.generation (some journal) none (some cursor.text) none
  endsAt : EndsAt serde cursor journal state
  older_lt : ∀ g ∈ older, g < cursor.generation
  older_few : older.length ≤ 1

/-- A store that has an anchor, and at most its marker and the temporary of that. -/
structure Marking (v : JournalView) (storeId : Uuid) : Prop where
  anchor_eq : v.anchor = some (settledAnchor storeId none)
  entries : ∀ name, v.files name ≠ none → name = .record .marker ∨ name = .temporary .marker
  contents : ∀ name, ∀ b ∈ v.files name, b = markerBytes storeId

inductive Vacant (v : JournalView) : Prop
  | untouched (anchor_eq : v.anchor = none) (no_files : ∀ name, v.files name = none)
  | anchored {storeId : Uuid} (h : Marking v storeId)

/-- The storage between two operations, and the last state of its history. -/
inductive Settled (v : JournalView) : Option AuthorityCommittedState → Prop
  | vacant (h : Vacant v) : Settled v none
  | committed {storeId cursor older journal state}
      (h : Committed serde v storeId cursor older journal state) : Settled v (some state)

/-- Storage with an anchor and a marker in which nothing is pending. -/
inductive Anchored (v : JournalView) : JournalAnchor → Option AuthorityCommittedState → Prop
  | marked {storeId : Uuid} (anchor_eq : v.anchor = some (settledAnchor storeId none))
      (tidy : Tidy v storeId []) : Anchored v (settledAnchor storeId none) none
  | committed {storeId cursor older journal state}
      (h : Committed serde v storeId cursor older journal state) :
      Anchored v (settledAnchor storeId (some cursor)) (some state)

/-- Storage as a completed recovery leaves it: no file is left over. -/
inductive Rested (v : JournalView) : Option AuthorityCommittedState → Option JournalCursor → Prop
  | untouched (anchor_eq : v.anchor = none) (no_files : ∀ name, v.files name = none) :
      Rested v none none
  | marked {storeId : Uuid} (anchor_eq : v.anchor = some (settledAnchor storeId none))
      (tidy : Tidy v storeId []) : Rested v none none
  | committed {storeId cursor journal state} (h : Committed serde v storeId cursor [] journal state) :
      Rested v (some state) (some cursor)

/-- What a pending record is written after: `old` is what its generation holds already, `others` the
generation that holds the committed history otherwise. -/
inductive Origin (v : JournalView) (pending : JournalCursor) (journal : Bytes)
    (state : AuthorityCommittedState) : Option JournalCursor → Option (Bytes × JournalCursor) →
      List UInt64 → Option AuthorityCommittedState → Prop
  | first (enrolls : state.transition = .enrollOff) : Origin v pending journal state none none [] none
  | continued {cursor before prior}
      (same : cursor.generation = pending.generation) (ends : EndsAt serde cursor before prior)
      (extends_before : before <+: journal) :
      Origin v pending journal state (some cursor) (some (before, cursor)) [] (some prior)
  | opened {cursor before prior} (other : cursor.generation ≠ pending.generation)
      (files : Files v cursor.generation (some before) none (some cursor.text) none)
      (ends : EndsAt serde cursor before prior) (checkpoint_eq : prior.checkpoint = .ok state) :
      Origin v pending journal state (some cursor) none [cursor.generation] (some prior)

/-- The anchor names a pending record, which is to make `journal` of the journal of its
generation. -/
structure Pending (v : JournalView) (anchor : JournalAnchor) (pending : JournalCursor)
    (old : Option (Bytes × JournalCursor)) (others : List UInt64) (journal : Bytes)
    (prior : Option AuthorityCommittedState) (state : AuthorityCommittedState) : Prop where
  anchor_eq : v.anchor = some anchor
  valid : anchor.validate = .ok ()
  pending_eq : anchor.pending = some pending
  tidy : Tidy v anchor.storeId (pending.generation :: others)
  endsAt : EndsAt serde pending journal state
  origin : Origin serde v pending journal state anchor.committed old others prior

/-- How far the files of the pending record's generation have come. -/
inductive Progress (v : JournalView) (pending : JournalCursor) (old : Option (Bytes × JournalCursor))
    (journal : Bytes) (returnable : Prop) : Prop
  | unpublished {journalTemp}
      (files : Files v pending.generation (old.map (·.1)) journalTemp (old.map (·.2.text)) none)
      (temp_eq : ∀ b ∈ journalTemp, b = journal) (hreturnable : returnable)
  | published {journalTemp head headTemp}
      (files : Files v pending.generation (some journal) journalTemp head headTemp)
      (temp_eq : ∀ b ∈ journalTemp, b = journal)
      (head_eq : head = old.map (·.2.text) ∨ head = some pending.text)
      (headTemp_eq : ∀ b ∈ headTemp, b = pending.text)

/-- The views that an append or a recovery may leave, when the history that they stand for ends in
`P`. A pending record may be given up as long as the journal with it is not published, so both ends
count once its temporary has been written. -/
inductive LeadsTo (P : Option AuthorityCommittedState → Prop) (v : JournalView) : Prop
  | settled {prior : Option AuthorityCommittedState} (h : Settled serde v prior) (hp : P prior)
  | announced {anchor pending old others journal prior state}
      (h : Pending serde v anchor pending old others journal prior state)
      (files : Files v pending.generation (old.map (·.1)) none (old.map (·.2.text)) none)
      (hp : P prior)
  | underway {anchor pending old others journal prior state}
      (h : Pending serde v anchor pending old others journal prior state)
      (progress : Progress v pending old journal (P prior)) (hs : P (some state))

variable {serde} {v w : JournalView} {g : UInt64} {name : EntryName} {bytes : Bytes}

theorem recordName_of_generation {name : RecordName} (h : name.generation = some g) :
    0 < g ∧ (name = .journal g ∨ name = .head g) := by
  cases name with
  | marker => cases h
  | journal k =>
    obtain ⟨hpos, hk⟩ := Option.ite_none_right_eq_some.mp h
    obtain rfl := Option.some.inj hk
    exact ⟨hpos, .inl rfl⟩
  | head k =>
    obtain ⟨hpos, hk⟩ := Option.ite_none_right_eq_some.mp h
    obtain rfl := Option.some.inj hk
    exact ⟨hpos, .inr rfl⟩

theorem generation_of_name {name : RecordName} (hpos : 0 < g)
    (h : name = .journal g ∨ name = .head g) : name.generation = some g := by
  rcases h with rfl | rfl
  · exact if_pos hpos
  · exact if_pos hpos

theorem names_of_generation (h : name.generation = some g) :
    0 < g ∧ (name = .record (.journal g) ∨ name = .record (.head g) ∨
      name = .temporary (.journal g) ∨ name = .temporary (.head g)) := by
  cases name with
  | record name =>
    obtain ⟨hpos, rfl | rfl⟩ := recordName_of_generation h
    · exact ⟨hpos, .inl rfl⟩
    · exact ⟨hpos, .inr (.inl rfl)⟩
  | temporary name =>
    obtain ⟨hpos, rfl | rfl⟩ := recordName_of_generation h
    · exact ⟨hpos, .inr (.inr (.inl rfl))⟩
    · exact ⟨hpos, .inr (.inr (.inr rfl))⟩
  | other text => cases h

namespace Files

variable {journal journalTemp head headTemp : Option Bytes}

section

variable (h : Files v g journal journalTemp head headTemp)
include h

theorem congr (he : ∀ name : RecordName, name = .journal g ∨ name = .head g →
      w.files (.record name) = v.files (.record name) ∧
        w.files (.temporary name) = v.files (.temporary name)) :
    Files w g journal journalTemp head headTemp where
  journal_eq := (he _ (.inl rfl)).1.trans h.journal_eq
  journalTemp_eq := (he _ (.inl rfl)).2.trans h.journalTemp_eq
  head_eq := (he _ (.inr rfl)).1.trans h.head_eq
  headTemp_eq := (he _ (.inr rfl)).2.trans h.headTemp_eq

theorem put_journal :
    Files (v.put (.record (.journal g)) bytes) g (some bytes) journalTemp head headTemp := by
  constructor <;> simp [files_put, h.journalTemp_eq, h.head_eq, h.headTemp_eq]

theorem put_journalTemp :
    Files (v.put (.temporary (.journal g)) bytes) g journal (some bytes) head headTemp := by
  constructor <;> simp [files_put, h.journal_eq, h.head_eq, h.headTemp_eq]

theorem remove_journalTemp :
    Files (v.remove (.temporary (.journal g))) g journal none head headTemp := by
  constructor <;> simp [files_remove, h.journal_eq, h.head_eq, h.headTemp_eq]

theorem put_head :
    Files (v.put (.record (.head g)) bytes) g journal journalTemp (some bytes) headTemp := by
  constructor <;> simp [files_put, h.journal_eq, h.journalTemp_eq, h.headTemp_eq]

theorem put_headTemp :
    Files (v.put (.temporary (.head g)) bytes) g journal journalTemp head (some bytes) := by
  constructor <;> simp [files_put, h.journal_eq, h.journalTemp_eq, h.head_eq]

theorem remove_headTemp :
    Files (v.remove (.temporary (.head g))) g journal journalTemp head none := by
  constructor <;> simp [files_remove, h.journal_eq, h.journalTemp_eq, h.head_eq]

end

end Files

namespace Tidy

variable {storeId : Uuid} {generations : List UInt64}

section

variable (h : Tidy v storeId generations)
include h

theorem put (hg : name.generation = some g) (hmem : g ∈ generations) :
    Tidy (v.put name bytes) storeId generations where
  marker_eq := by
    rw [files_put, if_neg]
    · exact h.marker_eq
    · rintro rfl
      cases hg
  entries other ho := by
    rw [files_put] at ho
    split at ho
    · next heq => exact .inr ⟨g, hmem, heq ▸ hg⟩
    · exact h.entries other ho

theorem remove (hg : name.generation = some g) : Tidy (v.remove name) storeId generations where
  marker_eq := by
    rw [files_remove, if_neg]
    · exact h.marker_eq
    · rintro rfl
      cases hg
  entries other ho := by
    rw [files_remove] at ho
    split at ho
    · exact absurd rfl ho
    · exact h.entries other ho

theorem congr (he : w.files = v.files) : Tidy w storeId generations := by
  constructor
  · rw [he]
    exact h.marker_eq
  · rw [he]
    exact h.entries

end

theorem drop (h : Tidy v storeId (g :: generations)) (hf : Files v g none none none none) :
    Tidy v storeId generations where
  marker_eq := h.marker_eq
  entries name hn := by
    rcases h.entries name hn with hmarker | ⟨k, hk, hgen⟩
    · exact .inl hmarker
    · rcases List.mem_cons.mp hk with rfl | hk
      · exfalso
        rcases (names_of_generation hgen).2 with rfl | rfl | rfl | rfl
        · exact hn hf.journal_eq
        · exact hn hf.head_eq
        · exact hn hf.journalTemp_eq
        · exact hn hf.headTemp_eq
      · exact .inr ⟨k, hk, hgen⟩

section

variable (h : Tidy v storeId generations)
include h

theorem files_none (hpos : 0 < g) (hg : g ∉ generations) : Files v g none none none none := by
  have hnone : ∀ name : EntryName, name.generation = some g → v.files name = none := by
    intro name hname
    by_contra hn
    rcases h.entries name hn with rfl | ⟨k, hk, hgen⟩
    · cases hname
    · exact hg (Option.some.inj (hname.symm.trans hgen) ▸ hk)
  have hjournal : RecordName.generation (.journal g) = some g := if_pos hpos
  have hhead : RecordName.generation (.head g) = some g := if_pos hpos
  exact ⟨hnone _ hjournal, hnone _ hjournal, hnone _ hhead, hnone _ hhead⟩

theorem mono {more} (hsub : generations ⊆ more) : Tidy v storeId more where
  marker_eq := h.marker_eq
  entries name hn := (h.entries name hn).imp_right fun ⟨k, hk, hgen⟩ ↦ ⟨k, hsub hk, hgen⟩

theorem markerTemp_eq : v.files (.temporary .marker) = none := by
  by_contra hn
  rcases h.entries _ hn with hmarker | ⟨k, -, hgen⟩
  · cases hmarker
  · cases hgen

end

end Tidy

variable {anchor : JournalAnchor} {pending : JournalCursor} {old : Option (Bytes × JournalCursor)}
  {others : List UInt64} {journal : Bytes} {prior : Option AuthorityCommittedState}
  {state : AuthorityCommittedState}

theorem Origin.congr {before : Option JournalCursor}
    (h : Origin serde v pending journal state before old others prior)
    (he : ∀ name : EntryName, name.generation ≠ some pending.generation →
      w.files name = v.files name) : Origin serde w pending journal state before old others prior := by
  cases h with
  | first enrolls => exact .first enrolls
  | continued same ends extends_before => exact .continued same ends extends_before
  | opened other files ends checkpoint_eq =>
    refine .opened other (files.congr fun name hname ↦ ?_) ends checkpoint_eq
    have hne : name.generation ≠ some pending.generation := by
      rw [generation_of_name ends.generation_pos hname]
      exact fun h ↦ other (Option.some.inj h)
    exact ⟨he (.record name) hne, he (.temporary name) hne⟩

namespace Pending

section

variable (h : Pending serde v anchor pending old others journal prior state)
include h

theorem put (hg : name.generation = some pending.generation) :
    Pending serde (v.put name bytes) anchor pending old others journal prior state := by
  refine ⟨h.anchor_eq, h.valid, h.pending_eq, h.tidy.put hg List.mem_cons_self, h.endsAt,
    h.origin.congr fun other ho ↦ ?_⟩
  rw [files_put, if_neg]
  rintro rfl
  exact ho hg

theorem remove (hg : name.generation = some pending.generation) :
    Pending serde (v.remove name) anchor pending old others journal prior state := by
  refine ⟨h.anchor_eq, h.valid, h.pending_eq, h.tidy.remove hg, h.endsAt,
    h.origin.congr fun other ho ↦ ?_⟩
  rw [files_remove, if_neg]
  rintro rfl
  exact ho hg

theorem generation_journal :
    RecordName.generation (.journal pending.generation) = some pending.generation :=
  generation_of_name h.endsAt.generation_pos (.inl rfl)

theorem generation_head :
    RecordName.generation (.head pending.generation) = some pending.generation :=
  generation_of_name h.endsAt.generation_pos (.inr rfl)

theorem advances : JournalCursor.Advances anchor.committed pending :=
  (JournalAnchor.validate_eq_ok.mp h.valid).2.2.2 pending h.pending_eq

theorem committed_valid : ∀ c ∈ anchor.committed, c.validate = .ok () :=
  (JournalAnchor.validate_eq_ok.mp h.valid).2.1

theorem others_lt : (∀ k ∈ others, k < pending.generation) ∧ others.length ≤ 1 := by
  have hadvances := h.advances
  have horigin := h.origin
  generalize anchor.committed = before at hadvances horigin
  cases horigin with
  | first => simp
  | continued => simp
  | @opened cursor _ _ other =>
    have hopens := (JournalCursor.advances_other (Ne.symm other)).mp hadvances
    obtain ⟨hmax, hnext⟩ := checkedSucc_eq_some.mp hopens.1
    refine ⟨fun k hk ↦ ?_, le_refl 1⟩
    rw [List.mem_singleton.mp hk, ← hnext]
    exact lt_add_one hmax

theorem promote (hf : Files v pending.generation (some journal) none (some pending.text) none) :
    Committed serde (v.setAnchor (settledAnchor anchor.storeId (some pending))) anchor.storeId
      pending others journal state where
  anchor_eq := rfl
  tidy := h.tidy.congr rfl
  files := hf.congr fun _ _ ↦ ⟨rfl, rfl⟩
  endsAt := h.endsAt
  older_lt := h.others_lt.1
  older_few := h.others_lt.2

theorem clear (hf : Files v pending.generation (old.map (·.1)) none (old.map (·.2.text)) none) :
    Anchored serde (v.setAnchor (settledAnchor anchor.storeId anchor.committed))
      (settledAnchor anchor.storeId anchor.committed) prior := by
  have htidy := h.tidy
  have horigin := h.origin
  generalize anchor.committed = before at horigin
  cases horigin with
  | first => exact .marked rfl ((htidy.drop hf).congr rfl)
  | continued same ends =>
    exact .committed ⟨rfl, by rw [same]; exact htidy.congr rfl,
      by rw [same]; exact hf.congr fun _ _ ↦ ⟨rfl, rfl⟩, ends, by simp, by simp⟩
  | opened other files ends =>
    exact .committed ⟨rfl, (htidy.drop hf).congr rfl, files.congr fun _ _ ↦ ⟨rfl, rfl⟩, ends, by simp,
      by simp⟩

end

end Pending

theorem Tidy.eq_marker (h : Tidy v storeId []) (hn : v.files name ≠ none) :
    name = .record .marker := by
  rcases h.entries name hn with hname | ⟨k, hk, -⟩
  · exact hname
  · cases hk

theorem Tidy.marking (h : Tidy v storeId [])
    (hanchor : v.anchor = some (settledAnchor storeId none)) : Marking v storeId where
  anchor_eq := hanchor
  entries _ hn := .inl (h.eq_marker hn)
  contents name b hb := by
    obtain rfl := h.eq_marker (Option.ne_none_iff_exists'.mpr ⟨b, hb⟩)
    exact Option.some.inj (hb.symm.trans h.marker_eq)

namespace Marking

variable {storeId : Uuid}

theorem put (h : Marking v storeId) (hname : name = .record .marker ∨ name = .temporary .marker) :
    Marking (v.put name (markerBytes storeId)) storeId where
  anchor_eq := h.anchor_eq
  entries other hn := by
    rw [files_put] at hn
    split at hn
    · next heq => exact heq ▸ hname
    · exact h.entries other hn
  contents other b hb := by
    rw [files_put] at hb
    split at hb
    · exact (Option.some.inj hb).symm
    · exact h.contents other b hb

theorem remove (h : Marking v storeId) : Marking (v.remove name) storeId where
  anchor_eq := h.anchor_eq
  entries other hn := by
    rw [files_remove] at hn
    split at hn
    · exact absurd rfl hn
    · exact h.entries other hn
  contents other b hb := by
    rw [files_remove] at hb
    split at hb
    · cases hb
    · exact h.contents other b hb

theorem tidy (h : Marking v storeId) (hmarker : v.files (.record .marker) ≠ none)
    (htemp : v.files (.temporary .marker) = none) : Tidy v storeId [] where
  marker_eq := by
    obtain ⟨b, hb⟩ := Option.ne_none_iff_exists'.mp hmarker
    rw [hb, h.contents _ b hb]
  entries other hn := by
    rcases h.entries other hn with rfl | rfl
    · exact .inl rfl
    · exact absurd htemp hn

end Marking

theorem Anchored.settled (h : Anchored serde v anchor prior) : Settled serde v prior := by
  cases h with
  | marked anchor_eq tidy => exact .vacant (.anchored (tidy.marking anchor_eq))
  | committed h => exact .committed h

theorem Rested.settled {cursor} (h : Rested serde v prior cursor) : Settled serde v prior := by
  cases h with
  | untouched anchor_eq no_files => exact .vacant (.untouched anchor_eq no_files)
  | marked anchor_eq tidy => exact (Anchored.marked anchor_eq tidy).settled
  | committed h => exact .committed h

end WindowsAuthorityJournal

end CfwRs.WindowsAuthority
