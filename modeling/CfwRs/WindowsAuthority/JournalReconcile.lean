import CfwRs.WindowsAuthority.JournalLayout

namespace CfwRs.WindowsAuthority.WindowsAuthorityJournal

open Lib Lib.Checked Lib.Durable JournalCodec Storage JournalView

variable {j : WindowsAuthorityJournal} {s : Storage} {v : JournalView} {C : Storage → Prop}
  {R : JournalView → Prop} {storeId : Uuid} {generations : List UInt64} {cursor : JournalCursor}
  {journal : Bytes} {state : AuthorityCommittedState} {P : Option AuthorityCommittedState → Prop}

def entriesOf (g : UInt64) : List EntryName :=
  [.record (.journal g), .record (.head g), .temporary (.journal g), .temporary (.head g)]

theorem length_flatMap_entriesOf (generations : List UInt64) :
    (generations.flatMap entriesOf).length = generations.length * 4 := by
  simp [entriesOf]

variable {g : UInt64} {head : Option JournalCursor} {names : List EntryName}

theorem mem_entriesOf {name} (h : name.generation = some g) : name ∈ entriesOf g := by
  rcases (names_of_generation h).2 with rfl | rfl | rfl | rfl <;> simp [entriesOf]

def knownNames (generations : List UInt64) : List EntryName :=
  (.record .marker :: generations.flatMap entriesOf).filter fun name ↦ name.recognized

theorem wp_inspectEntries_tidy (h : s.Shows v) (ht : Tidy v storeId generations)
    (hfew : generations.length ≤ 2) {Q} :
    j.inspectEntries.wp C Q s ↔ Q (.ok (j.enumerate s.files.keys)) s := by
  have hlength : (knownNames generations).length ≤ maxEntries := by
    refine (List.length_filter_le _ _).trans ?_
    rw [List.length_cons, length_flatMap_entriesOf, maxEntries]
    omega
  refine wp_inspectEntries j h hlength (fun name hname ↦ ?_) fun name hn ↦ ?_
  · exact of_decide_eq_true (List.mem_filter.mp hname).2
  · rcases ht.entries name hn with rfl | ⟨g, hg, hgen⟩
    · exact List.mem_filter.mpr ⟨List.mem_cons_self, by decide⟩
    · refine List.mem_filter.mpr ⟨List.mem_cons_of_mem _ ?_, decide_eq_true (.inr (.inr ?_))⟩
      · exact List.mem_flatMap.mpr ⟨g, hg, mem_entriesOf hgen⟩
      · rw [hgen, Option.isSome_some]

theorem wp_readCommitted (h : s.Shows v)
    (hf : Files v cursor.generation (some journal) none (some cursor.text) none)
    (hends : EndsAt j.serde cursor journal state)
    {Q : Except JournalStoreError DecodedJournal → Storage → Prop} :
    (j.readCommitted cursor).wp C Q s ↔
      Q (.ok ⟨state, cursor.sequence, cursor.committedLength, cursor.recordSha256⟩) s := by
  have htemp : ∀ {n : ℕ}, ∀ b ∈ v.files (.temporary (.journal cursor.generation)), b.length ≤ n := by
    simp [hf.journalTemp_eq]
  have hheadTemp : ∀ {n : ℕ}, ∀ b ∈ v.files (.temporary (.head cursor.generation)), b.length ≤ n := by
    simp [hf.headTemp_eq]
  have hdecode : JournalCursor.decode j.serde cursor.text = .ok cursor :=
    JournalCursor.decode_eq_ok.mpr ⟨rfl, hends.valid⟩
  simp [readCommitted, readTemporary, validating, wp_run, wp_readEntry h htemp,
    wp_readEntry h hheadTemp, hf.journalTemp_eq, hf.headTemp_eq, reject, wp_requiredRead h hf.journal_eq hends.length_le,
    wp_requiredRead h hf.head_eq cursor.length_text_le, hends.decodes, hends.verifyCursor, hdecode,
    require]

variable {Q : Except JournalStoreError Unit → Storage → Prop} {image : PendingImage}

theorem wp_ensureMarker_tidy (h : s.Shows v) (anchor)
    (ht : Tidy v anchor.storeId generations) : (j.ensureMarker anchor).wp C Q s ↔ Q (.ok ()) s := by
  have hmarker : ∀ b ∈ v.files (.record .marker), b.length ≤ 64 := by
    intro b hb
    cases hb.symm.trans ht.marker_eq
    rw [markerBytes, length_uuidText]
    decide
  have htemp : ∀ b ∈ v.files (.temporary .marker), b.length ≤ 64 := by simp [ht.markerTemp_eq]
  simp only [ensureMarker, readFile, readTemporary, wp_run, wp_readEntry h hmarker,
    wp_readEntry h htemp, ht.marker_eq, ht.markerTemp_eq, require]
  simp

theorem wp_inspectEntries_marking (h : s.Shows v) (hm : Marking v storeId) {Q} :
    j.inspectEntries.wp C Q s ↔ Q (.ok (j.enumerate s.files.keys)) s := by
  have hknown : ∀ name ∈ [EntryName.record .marker, .temporary .marker], name.recognized := by decide
  refine wp_inspectEntries j h (by decide) hknown fun name hn ↦ ?_
  rcases hm.entries name hn with rfl | rfl <;> simp

theorem ensureMarker_wp (h : s.Shows v) (hm : Marking v storeId) (hp : P none)
    (hQ : ∀ t w, t.Shows w → Marking w storeId → Tidy w storeId [] → Q (.ok ()) t) :
    (j.ensureMarker (settledAnchor storeId none)).wp (On (LeadsTo j.serde P)) Q s := by
  have hsmall : ∀ name, ∀ b ∈ v.files name, b.length ≤ 64 := by
    intro name b hb
    rw [hm.contents name b hb, markerBytes, length_uuidText]
    decide
  have hcontents : (∀ b ∈ v.files (.record .marker),
        b = markerBytes (settledAnchor storeId none).storeId) ∧
      ∀ b ∈ v.files (.temporary .marker), b = markerBytes (settledAnchor storeId none).storeId :=
    ⟨hm.contents _, hm.contents _⟩
  simp only [ensureMarker, readFile, readTemporary, wp_run, wp_readEntry h (hsmall _),
    require_pos hcontents]
  split
  · next hdone =>
    rw [wp_pure]
    exact hQ s v h hm (hm.tidy (Option.isSome_iff_ne_none.mp hdone.1) (by simpa using hdone.2))
  · have hempty : ¬((settledAnchor storeId none).committed.isSome = true ∨
        (settledAnchor storeId none).pending.isSome = true) := by simp
    have hnames : ∀ name ∈ j.enumerate s.files.keys,
        name = .record .marker ∨ name = .temporary .marker :=
      fun name hname ↦ hm.entries name ((mem_enumerate j h).mp hname)
    simp only [wp_run, reject_neg hempty, wp_inspectEntries_marking h hm, require_pos hnames]
    refine discardTemporary_wp h (.settled (.vacant (.anchored hm.remove)) hp) fun t ht ↦ ?_
    have hm' : Marking (v.remove (.temporary .marker)) storeId := hm.remove
    have hgone : (v.remove (.temporary .marker)).files (.temporary .marker) = none := by
      rw [files_remove, if_pos rfl]
    refine publishFile_wp ht (by rw [markerBytes, length_uuidText]; decide) (fun b hb ↦ ?_) hgone
      (.settled (.vacant (.anchored (hm'.put (.inr rfl)))) hp)
      (.settled (.vacant (.anchored (hm'.put (.inl rfl)))) hp) fun u hu ↦ ?_
    · rw [hm'.contents _ b hb, markerBytes, length_uuidText]
      decide
    · refine hQ u _ hu (hm'.put (.inl rfl)) ((hm'.put (.inl rfl)).tidy ?_ ?_)
      · simp [files_put]
      · simpa [files_put] using hgone

variable {anchor : JournalAnchor} {pending : JournalCursor} {old : Option (Bytes × JournalCursor)}
  {others : List UInt64} {prior : Option AuthorityCommittedState}

theorem decodeHead_text (h : ∀ c ∈ head, c.validate = .ok ()) :
    j.decodeHead (head.map JournalCursor.text) = .ok head := by
  cases head with
  | none => rfl
  | some c =>
    rw [Option.map_some, decodeHead, JournalCursor.decode_eq_ok.mpr ⟨rfl, h c rfl⟩]
    rfl

theorem length_map_text : ∀ b ∈ head.map JournalCursor.text, b.length ≤ Limits.maxHeadBytes := by
  intro b hb
  obtain ⟨c, -, rfl⟩ := Option.map_eq_some_iff.mp hb
  exact c.length_text_le

theorem wp_loadPending (h : s.Shows v) {published journalTemp} {headTemp}
    (hf : Files v g published journalTemp (head.map JournalCursor.text)
      (headTemp.map JournalCursor.text))
    (hpublished : ∀ b ∈ published, b.length ≤ Limits.maxJournalBytes)
    (htemp : ∀ b ∈ journalTemp, b.length ≤ Limits.maxJournalBytes)
    (hhead : ∀ c ∈ head, c.validate = .ok ()) (hheadTemp : ∀ c ∈ headTemp, c.validate = .ok ())
    {Q : Except JournalStoreError PendingImage → Storage → Prop} :
    (j.loadPending g).wp C Q s ↔ Q (.ok ⟨published, journalTemp, head, headTemp⟩) s := by
  obtain ⟨h1, h2, h3, h4⟩ := hf
  have hp : ∀ b ∈ v.files (.record (.journal g)), b.length ≤ Limits.maxJournalBytes := h1 ▸ hpublished
  have ht : ∀ b ∈ v.files (.temporary (.journal g)), b.length ≤ Limits.maxJournalBytes := h2 ▸ htemp
  have hh : ∀ b ∈ v.files (.record (.head g)), b.length ≤ Limits.maxHeadBytes := h3 ▸ length_map_text
  have hht : ∀ b ∈ v.files (.temporary (.head g)), b.length ≤ Limits.maxHeadBytes :=
    h4 ▸ length_map_text
  simp [loadPending, readFile, readTemporary, validating, wp_run, wp_readEntry h hp,
    wp_readEntry h ht, wp_readEntry h hh, wp_readEntry h hht, h1, h2, h3, h4, decodeHead_text hhead,
    decodeHead_text hheadTemp]

namespace Pending

section

variable (h : Pending j.serde v anchor pending old others journal prior state)
include h

theorem same_eq :
    anchor.committed.filter (fun c ↦ c.generation = pending.generation) = old.map (·.2) := by
  have horigin := h.origin
  generalize anchor.committed = before at horigin
  cases horigin with
  | first => rfl
  | continued same => simp [same]
  | opened other => simp [other]

theorem old_valid : ∀ c ∈ old.map (·.2), c.validate = .ok () := by
  rw [← h.same_eq]
  intro c hc
  exact h.committed_valid c (Option.mem_filter_iff.mp hc).1

theorem old_ends {before c} (hold : old = some (before, c)) :
    c.generation = pending.generation ∧ c.Continues pending ∧ before <+: journal ∧
      ∃ st, EndsAt j.serde c before st := by
  have hadvances := h.advances
  have horigin := h.origin
  generalize anchor.committed = committed at hadvances horigin
  cases horigin with
  | first => cases hold
  | continued same ends extends_before =>
    cases hold
    exact ⟨same, (JournalCursor.advances_same same.symm).mp hadvances, extends_before, _, ends⟩
  | opened => cases hold

theorem old_length : ∀ b ∈ old.map (·.1), b.length ≤ Limits.maxJournalBytes := by
  intro b hb
  obtain ⟨⟨before, c⟩, hold, rfl⟩ := Option.map_eq_some_iff.mp hb
  obtain ⟨-, -, -, st, ends⟩ := h.old_ends hold
  exact ends.length_le

theorem checkOrigin_ok (hs : s.Shows v) : ∃ previous,
      (∀ (C : Storage → Prop) (Q : Except JournalStoreError (Option DecodedJournal) → Storage → Prop),
        (j.readOther (anchor.committed.filter fun c ↦ c.generation ≠ pending.generation)).wp C Q s ↔
          Q (.ok previous) s) ∧ j.checkOrigin journal state previous (old.map (·.2)) = .ok () := by
  have horigin := h.origin
  generalize anchor.committed = before at horigin
  cases horigin with
  | first enrolls =>
    refine ⟨none, fun C Q ↦ ?_, require_pos enrolls⟩
    rw [Option.filter_none, readOther, wp_pure]
  | @continued cursor before _ same ends extends_before =>
    refine ⟨none, fun C Q ↦ ?_, ?_⟩
    · simp [Option.filter, same, readOther]
    · obtain ⟨rest, rfl⟩ := extends_before
      have hlength : cursor.committedLength.toNat ≤ (before ++ rest).length := by
        rw [ends.length_eq, List.length_append]
        exact Nat.le_add_right _ _
      have htake : (before ++ rest).take cursor.committedLength.toNat = before := by
        rw [ends.length_eq, List.take_left]
      simp only [Option.map_some, checkOrigin, htake, ends.decodes, require_pos hlength]
      exact ends.verifyCursor
  | @opened cursor before st other files ends checkpoint_eq =>
    refine ⟨some ⟨st, cursor.sequence, cursor.committedLength, cursor.recordSha256⟩, fun C Q ↦ ?_, ?_⟩
    · have hfilter : (some cursor).filter (fun c ↦ c.generation ≠ pending.generation) = some cursor := by
        simp [other]
      simp only [hfilter, readOther, wp_run, wp_readCommitted hs files ends]
    · simp only [checkOrigin, checkpoint_eq]
      exact require_pos rfl

theorem publishedCandidate_old :
    j.publishedCandidate pending (old.map (·.2)) (old.map (·.1)) = .ok none := by
  cases hold : old with
  | none => rfl
  | some o =>
    obtain ⟨before, c⟩ := o
    obtain ⟨same, hcontinues, -, st, ends⟩ := h.old_ends hold
    have hcursor := ends.cursor_eq
    rw [same] at hcursor
    have hne : c ≠ pending := by
      rintro rfl
      exact UInt64.lt_irrefl _ hcontinues.2.2
    have hverify : ∃ x ∈ some c, DecodedJournal.verifyCursor
        ⟨st, c.sequence, c.committedLength, c.recordSha256⟩ x = .ok () :=
      ⟨c, rfl, ends.verifyCursor⟩
    simp only [Option.map_some, publishedCandidate, ends.decodes, hcursor, bind, Except.bind,
      if_neg hne, require_pos hverify, pure, Except.pure]

theorem publishedCandidate_new :
    j.publishedCandidate pending (old.map (·.2)) (some journal) = .ok (some journal) := by
  simp [publishedCandidate, h.endsAt.decodes, h.endsAt.cursor_eq]

theorem temporaryCandidate_some (p) :
    j.temporaryCandidate pending p (some journal) = .ok (some journal) := by
  simp [temporaryCandidate, h.endsAt.decodes, h.endsAt.verifyCursor]

end

end Pending

/-- The files of the generation of a pending record, with the heads read. -/
structure Image (v : JournalView) (g : UInt64) (image : PendingImage) : Prop where
  files : Files v g image.journal image.journalTemp (image.head.map JournalCursor.text)
    (image.headTemp.map JournalCursor.text)
  journal_small : ∀ b ∈ image.journal, b.length ≤ Limits.maxJournalBytes
  temp_small : ∀ b ∈ image.journalTemp, b.length ≤ Limits.maxJournalBytes
  head_valid : ∀ c ∈ image.head, c.validate = .ok ()
  headTemp_valid : ∀ c ∈ image.headTemp, c.validate = .ok ()

theorem Pending.image_staged (h : Pending j.serde v anchor pending old others journal prior state)
    {temp} (temp_eq : ∀ b ∈ temp, b = journal)
    (files : Files v pending.generation (old.map (·.1)) temp (old.map (·.2.text)) none) :
    Image v pending.generation ⟨old.map (·.1), temp, old.map (·.2), none⟩ := by
  refine ⟨?_, h.old_length, fun b hb ↦ temp_eq b hb ▸ h.endsAt.length_le, h.old_valid, by simp⟩
  rw [Option.map_map]
  exact files

theorem wp_recoverPending (hs : s.Shows v)
    (h : Pending j.serde v anchor pending old others journal prior state)
    (hi : Image v pending.generation image)
    (hheads : (∀ head ∈ image.head, head = pending ∨ some head = old.map (·.2)) ∧
      ∀ head ∈ image.headTemp, head = pending) {found : Option Bytes}
    (hfound : j.candidate pending (old.map (·.2)) image = .ok found) :
    ∃ previous, j.checkOrigin journal state previous (old.map (·.2)) = .ok () ∧
      ∀ (C : Storage → Prop) (Q : Except JournalStoreError JournalAnchor → Storage → Prop),
        (j.recoverPending anchor).wp C Q s ↔
          (j.settleCandidate anchor pending (old.map (·.2)) previous image found).wp C Q s := by
  obtain ⟨previous, hread, hcheck⟩ := h.checkOrigin_ok hs
  refine ⟨previous, hcheck, fun C Q ↦ ?_⟩
  simp only [recoverPending, validating, h.pending_eq, unwrap, wp_run, h.same_eq, hread,
    wp_loadPending hs hi.files hi.journal_small hi.temp_small hi.head_valid hi.headTemp_valid,
    require_pos hheads, hfound]

variable (j) in
/-- How the settling of a pending record ends: with an anchor that has nothing pending. -/
def Resolved (P : Option AuthorityCommittedState → Prop)
    (r : Except JournalStoreError JournalAnchor) (t : Storage) : Prop :=
  ∃ w a x, r = .ok a ∧ t.Shows w ∧ Anchored j.serde w a x ∧ P x

section

variable (hs : s.Shows v)
include hs

section

variable (h : Pending j.serde v anchor pending old others journal prior state)
include h

theorem wp_recoverPending_staged {temp} (temp_eq : ∀ b ∈ temp, b = journal)
    (files : Files v pending.generation (old.map (·.1)) temp (old.map (·.2.text)) none) :
    ∃ previous, j.checkOrigin journal state previous (old.map (·.2)) = .ok () ∧
      ∀ (C : Storage → Prop) (Q : Except JournalStoreError JournalAnchor → Storage → Prop),
        (j.recoverPending anchor).wp C Q s ↔
          (j.settleCandidate anchor pending (old.map (·.2)) previous
            ⟨old.map (·.1), temp, old.map (·.2), none⟩ temp).wp C Q s := by
  refine wp_recoverPending hs h (h.image_staged temp_eq files)
    ⟨fun head hhead ↦ .inr hhead.symm, by simp⟩ ?_
  simp only [candidate, h.publishedCandidate_old, bind, Except.bind]
  cases hb : temp with
  | none => rfl
  | some b =>
    rw [temp_eq b hb]
    exact h.temporaryCandidate_some _

section

variable (hf : Files v pending.generation (old.map (·.1)) none (old.map (·.2.text)) none)
include hf

theorem wp_checkUnchanged :
    (j.checkUnchanged (old.map (·.2)) ⟨old.map (·.1), none, old.map (·.2), none⟩).wp C Q s ↔
      Q (.ok ()) s := by
  cases hold : old with
  | none => simp [checkUnchanged, reject]
  | some o =>
    obtain ⟨same, -, -, st, ends⟩ := h.old_ends hold
    rw [hold, ← same] at hf
    simp [checkUnchanged, wp_readCommitted hs hf ends]

theorem recoverPending_wp_unpublished (hp : P prior) :
    (j.recoverPending anchor).wp (On (LeadsTo j.serde P)) (Resolved j P) s := by
  obtain ⟨previous, -, hwp⟩ := wp_recoverPending_staged hs h (by simp) hf
  have hclean : ¬((none : Option JournalCursor).isSome = true ∨ old.map (·.2) ≠ old.map (·.2)) := by
    simp
  have hvalid : (settledAnchor anchor.storeId anchor.committed).validate = .ok () :=
    settledAnchor_valid h.committed_valid
  have hcleared := h.clear hf
  rw [hwp]
  simp only [settleCandidate, abandonPending, validating, wp_run, reject_neg hclean,
    wp_checkUnchanged hs h hf, JournalAnchor.new_eq hvalid, ← h.anchor_eq]
  refine replaceAnchor_wp hs hvalid (.settled hcleared.settled hp) fun t ht ↦ ?_
  rw [after_ok, wp_pure]
  exact ⟨_, _, _, rfl, ht, hcleared, hp⟩

end

variable (progress : Progress v pending old journal (P prior)) (hstate : P (some state))

include progress hstate in
/-- The journal of the pending record is published, whatever had come of it before. -/
theorem republishJournal_wp {α : Type} {k}
    {Q : Except JournalStoreError α → Storage → Prop} (hk : ∀ t w head headTemp, t.Shows w →
      Pending j.serde w anchor pending old others journal prior state →
      Files w pending.generation (some journal) none head headTemp →
      w.files (.temporary (.head pending.generation)) =
        v.files (.temporary (.head pending.generation)) →
      (head = old.map (·.2.text) ∨ head = some pending.text) →
      (∀ b ∈ headTemp, b = pending.text) → (k ()).wp (On (LeadsTo j.serde P)) Q t) :
    (discardTemporary (.journal pending.generation)
      (v.files (.temporary (.journal pending.generation))).isSome >>= fun _ ↦
        publishFile (.journal pending.generation) journal Limits.maxJournalBytes >>= k).wp
      (On (LeadsTo j.serde P)) Q s := by
  have hremove : Pending j.serde (v.remove (.temporary (.journal pending.generation))) anchor pending
      old others journal prior state := h.remove h.generation_journal
  have hgone : (v.remove (.temporary (.journal pending.generation))).files
      (.temporary (.journal pending.generation)) = none := by
    rw [files_remove, if_pos rfl]
  have hsame : ((v.remove (.temporary (.journal pending.generation))).put
      (.record (.journal pending.generation)) journal).files
        (.temporary (.head pending.generation)) =
      v.files (.temporary (.head pending.generation)) := by
    simp [files_put, files_remove]
  rw [wp_bind]
  cases progress with
  | unpublished files temp_eq hreturnable =>
    have hfiles := files.remove_journalTemp
    refine discardTemporary_wp hs (.announced hremove hfiles hreturnable) fun t ht ↦ ?_
    rw [after_ok, wp_bind]
    refine publishFile_wp ht h.endsAt.length_le (by rw [hfiles.journal_eq]; exact h.old_length) hgone
      (.underway (hremove.put h.generation_journal)
        (.unpublished hfiles.put_journalTemp (by simp) hreturnable) hstate)
      (.underway (hremove.put h.generation_journal)
        (.published hfiles.put_journal (by simp) (.inl rfl) (by simp)) hstate) fun u hu ↦ ?_
    exact hk u _ _ _ hu (hremove.put h.generation_journal) hfiles.put_journal hsame (.inl rfl)
      (by simp)
  | published files temp_eq head_eq headTemp_eq =>
    have hfiles := files.remove_journalTemp
    refine discardTemporary_wp hs
      (.underway hremove (.published hfiles (by simp) head_eq headTemp_eq) hstate) fun t ht ↦ ?_
    rw [after_ok, wp_bind]
    refine publishFile_wp ht h.endsAt.length_le
      (by rw [hfiles.journal_eq]; simpa using h.endsAt.length_le) hgone
      (.underway (hremove.put h.generation_journal)
        (.published hfiles.put_journalTemp (by simp) head_eq headTemp_eq) hstate)
      (.underway (hremove.put h.generation_journal)
        (.published hfiles.put_journal (by simp) head_eq headTemp_eq) hstate) fun u hu ↦ ?_
    exact hk u _ _ _ hu (hremove.put h.generation_journal) hfiles.put_journal hsame head_eq
      headTemp_eq

theorem commitPending_wp {head} (hf : Files v pending.generation (some journal) none head none)
    (hhead : head = old.map (·.2.text) ∨ head = some pending.text) (hstate : P (some state))
    {Q : Except JournalStoreError JournalAnchor → Storage → Prop}
    (hQ : ∀ t w, t.Shows w → Committed j.serde w anchor.storeId pending others journal state →
      Q (.ok (settledAnchor anchor.storeId (some pending))) t) :
    (commitPending anchor pending).wp (On (LeadsTo j.serde P)) Q s := by
  have hvalid : (settledAnchor anchor.storeId (some pending)).validate = .ok () :=
    settledAnchor_valid (by simpa using h.endsAt.valid)
  have hsmall : ∀ b ∈ v.files (.record (.head pending.generation)),
      b.length ≤ Limits.maxHeadBytes := by
    rw [hf.head_eq]
    rcases hhead with rfl | rfl
    · intro b hb
      obtain ⟨o, -, rfl⟩ := Option.map_eq_some_iff.mp hb
      exact o.2.length_text_le
    · simpa using pending.length_text_le
  have hput : Pending j.serde (v.put (.record (.head pending.generation)) pending.text) anchor pending
      old others journal prior state := h.put h.generation_head
  simp only [commitPending, validating, JournalCursor.encode_eq h.endsAt.valid, wp_run]
  refine publishFile_wp hs pending.length_text_le hsmall hf.headTemp_eq
    (.underway (h.put h.generation_head) (.published hf.put_headTemp (by simp) hhead (by simp)) hstate)
    (.underway hput (.published hf.put_head (by simp) (.inr rfl) (by simp)) hstate) fun t ht ↦ ?_
  have hpromoted := hput.promote hf.put_head
  simp only [wp_run, JournalAnchor.new_eq hvalid, ← hput.anchor_eq]
  refine replaceAnchor_wp ht hvalid (.settled (.committed hpromoted) hstate) fun u hu ↦ ?_
  rw [after_ok, wp_pure]
  exact hQ u _ hu hpromoted

include progress hstate in
theorem completePending_wp (hi : Image v pending.generation image) :
    (completePending anchor pending image journal).wp (On (LeadsTo j.serde P)) (Resolved j P) s := by
  rw [completePending, ← Option.isSome_map (f := JournalCursor.text), ← hi.files.headTemp_eq,
    ← hi.files.journalTemp_eq]
  refine republishJournal_wp hs h progress hstate fun t w head headTemp ht hw hf hsame head_eq
    headTemp_eq ↦ ?_
  have hremove : Pending j.serde (w.remove (.temporary (.head pending.generation))) anchor pending
      old others journal prior state := hw.remove h.generation_head
  rw [← hsame, wp_bind]
  refine discardTemporary_wp ht (.underway hremove
    (.published hf.remove_headTemp (by simp) head_eq (by simp)) hstate) fun u hu ↦ ?_
  refine commitPending_wp hu hremove hf.remove_headTemp head_eq hstate fun x y hx hy ↦ ?_
  exact ⟨y, _, _, rfl, hx, .committed hy, hstate⟩

include progress hstate in
theorem settleCandidate_wp (hi : Image v pending.generation image) {previous}
    (hcheck : j.checkOrigin journal state previous (old.map (·.2)) = .ok ()) :
    (j.settleCandidate anchor pending (old.map (·.2)) previous image (some journal)).wp
      (On (LeadsTo j.serde P)) (Resolved j P) s := by
  simp only [settleCandidate, validating, h.endsAt.decodes, h.endsAt.verifyCursor, hcheck, wp_run]
  exact completePending_wp hs h progress hstate hi

include progress hstate in
theorem recoverPending_wp :
    (j.recoverPending anchor).wp (On (LeadsTo j.serde P)) (Resolved j P) s := by
  have hmax := h.endsAt.length_le
  cases progress with
  | @unpublished journalTemp files temp_eq hreturnable =>
    cases hj : journalTemp with
    | none => exact recoverPending_wp_unpublished hs h (hj ▸ files) hreturnable
    | some b =>
      obtain rfl := temp_eq b hj
      obtain ⟨previous, hcheck, hwp⟩ := wp_recoverPending_staged hs h temp_eq files
      rw [hwp, hj]
      exact settleCandidate_wp hs h (.unpublished files temp_eq hreturnable) hstate
        (hj ▸ h.image_staged temp_eq files) hcheck
  | @published journalTemp head headTemp files temp_eq head_eq headTemp_eq =>
    obtain ⟨c, rfl, hc⟩ : ∃ c : Option JournalCursor, head = c.map JournalCursor.text ∧
        ∀ x ∈ c, x = pending ∨ some x = old.map (·.2) := by
      rcases head_eq with rfl | rfl
      · exact ⟨old.map (·.2), by rw [Option.map_map]; rfl, fun x hx ↦ .inr hx.symm⟩
      · exact ⟨some pending, rfl, fun x hx ↦ .inl (Option.some.inj hx).symm⟩
    obtain ⟨d, rfl, hd⟩ : ∃ d : Option JournalCursor, headTemp = d.map JournalCursor.text ∧
        ∀ x ∈ d, x = pending := by
      cases headTemp with
      | none => exact ⟨none, rfl, by simp⟩
      | some b => exact ⟨some pending, by rw [headTemp_eq b rfl]; rfl, by simp⟩
    have hvalid : ∀ x, (x = pending ∨ some x = old.map (·.2)) → x.validate = .ok () := by
      rintro x (rfl | hx)
      · exact h.endsAt.valid
      · exact h.old_valid x hx.symm
    have htemp : ∀ b ∈ journalTemp, b.length ≤ Limits.maxJournalBytes :=
      fun b hb ↦ temp_eq b hb ▸ hmax
    have hi : Image v pending.generation ⟨some journal, journalTemp, c, d⟩ :=
      ⟨files, by simpa using hmax, htemp, fun x hx ↦ hvalid x (hc x hx),
        fun x hx ↦ hvalid x (.inl (hd x hx))⟩
    have hfound : j.candidate pending (old.map (·.2)) ⟨some journal, journalTemp, c, d⟩ =
        .ok (some journal) := by
      simp only [candidate, h.publishedCandidate_new, bind, Except.bind]
      cases hj : journalTemp with
      | none => rfl
      | some b =>
        rw [temp_eq b hj]
        exact h.temporaryCandidate_some _
    obtain ⟨previous, hcheck, hwp⟩ := wp_recoverPending hs h hi ⟨hc, hd⟩ hfound
    rw [hwp]
    exact settleCandidate_wp hs h (.published files temp_eq head_eq headTemp_eq) hstate hi hcheck

end

end

theorem checkCleanup_ok {files current} (h : ∀ name ∈ names, ¬name.unfinished current ∧
      (name.obsolete current → validateEntry (files.lookup name) = .ok ())) :
    checkCleanup files current names = .ok () := by
  induction names with
  | nil => rfl
  | cons name names ih =>
    obtain ⟨⟨hfinished, hobsolete⟩, hrest⟩ := List.forall_mem_cons.mp h
    rw [checkCleanup, reject_neg hfinished, ih hrest]
    by_cases ho : name.obsolete current
    · rw [if_pos ho, hobsolete ho]
      rfl
    · rw [if_neg ho]
      rfl

variable {older : List UInt64} {name : EntryName}

namespace Committed

section

variable (h : Committed j.serde v storeId cursor older journal state)
include h

theorem remove (ho : name.obsolete cursor.generation) :
    Committed j.serde (v.remove name) storeId cursor older journal state := by
  obtain ⟨g, hg, hlt⟩ := ho
  refine ⟨h.anchor_eq, h.tidy.remove hg, h.files.congr fun other hother ↦ ?_, h.endsAt, h.older_lt,
    h.older_few⟩
  have hgen := generation_of_name h.endsAt.generation_pos hother
  have hne : ∀ n : EntryName, n.generation = some cursor.generation → n ≠ name := by
    rintro n hn rfl
    rw [hn] at hg
    exact UInt64.lt_irrefl _ (Option.some.inj hg ▸ hlt)
  simp [files_remove, if_neg (hne (.record other) hgen), if_neg (hne (.temporary other) hgen)]

theorem not_unfinished (hn : v.files name ≠ none) : ¬name.unfinished cursor.generation := by
  rintro (rfl | ⟨g, hg, hlt | ⟨rfl, htemp⟩⟩)
  · exact hn h.tidy.markerTemp_eq
  · rcases h.tidy.entries name hn with rfl | ⟨k, hk, hgen⟩
    · cases hg
    · cases hg.symm.trans hgen
      rcases List.mem_cons.mp hk with rfl | hk
      · exact UInt64.lt_irrefl _ hlt
      · exact UInt64.lt_irrefl _ (UInt64.lt_trans hlt (h.older_lt g hk))
  · rcases (names_of_generation hg).2 with rfl | rfl | rfl | rfl
    · cases htemp
    · cases htemp
    · exact hn h.files.journalTemp_eq
    · exact hn h.files.headTemp_eq

theorem clean (hnone : ∀ name, v.files name ≠ none → ¬name.obsolete cursor.generation) :
    Committed j.serde v storeId cursor [] journal state := by
  refine ⟨h.anchor_eq, ⟨h.tidy.marker_eq, fun name hn ↦ ?_⟩, h.files, h.endsAt, by simp, by simp⟩
  rcases h.tidy.entries name hn with hmarker | ⟨g, hg, hgen⟩
  · exact .inl hmarker
  · refine .inr ⟨g, ?_, hgen⟩
    rcases List.mem_cons.mp hg with rfl | hg
    · exact List.mem_cons_self
    · exact absurd ⟨g, hgen, h.older_lt g hg⟩ (hnone name hn)

end

end Committed

/-- The entries are unlinked one after the other, and every moment is a committed one. -/
theorem unlinkAll_wp (hs : s.Shows v) (h : Committed j.serde v storeId cursor older journal state)
    (hp : P (some state)) (hnodup : names.Nodup)
    (hnames : ∀ name ∈ names, v.files name ≠ none ∧ name.obsolete cursor.generation)
    (hQ : ∀ t w, t.Shows w → Committed j.serde w storeId cursor older journal state →
      (∀ name, w.files name = if name ∈ names then none else v.files name) → Q (.ok ()) t) :
    (unlinkAll names).wp (On (LeadsTo j.serde P)) Q s := by
  induction names generalizing s v with
  | nil =>
    rw [unlinkAll, wp_pure]
    exact hQ s v hs h (by simp)
  | cons name names ih =>
    obtain ⟨⟨hfile, hobsolete⟩, hrest⟩ := List.forall_mem_cons.mp hnames
    obtain ⟨hnot, hnodup⟩ := List.nodup_cons.mp hnodup
    have hremoved := h.remove hobsolete
    rw [unlinkAll, wp_bind, wp_unlinkManagedEntry hs hfile]
    refine ⟨⟨_, hs.remove, .settled (.committed hremoved) hp⟩, ?_⟩
    refine ih hs.remove hremoved hnodup (fun other ho ↦ ⟨?_, (hrest other ho).2⟩) fun t w ht hw hf ↦ ?_
    · rw [files_remove, if_neg]
      · exact (hrest other ho).1
      · rintro rfl
        exact hnot ho
    · refine hQ t w ht hw fun other ↦ ?_
      rw [hf other, files_remove]
      by_cases heq : other = name
      · simp [heq]
      · simp [heq]

theorem wp_cleanupOld (hs : s.Shows v) (h : Committed j.serde v storeId cursor older journal state) :
    (j.cleanupOld (settledAnchor storeId (some cursor))).wp C Q s ↔
      (unlinkAll ((j.enumerate s.files.keys).filter fun name ↦
        name.obsolete cursor.generation)).wp C Q s := by
  have hfew : (cursor.generation :: older).length ≤ 2 := Nat.succ_le_succ h.older_few
  have hcheck : checkCleanup s.files cursor.generation (j.enumerate s.files.keys) = .ok () := by
    refine checkCleanup_ok fun name hname ↦ ?_
    have hn := (mem_enumerate j hs).mp hname
    refine ⟨h.not_unfinished hn, fun _ ↦ ?_⟩
    obtain ⟨b, hb⟩ := Option.ne_none_iff_exists'.mp hn
    have hlookup := hs.lookup_eq name
    rw [lookup, hb] at hlookup
    rw [hlookup]
    rfl
  have hsettled : ¬(settledAnchor storeId (some cursor)).pending.isSome = true := by simp
  simp only [cleanupOld, committed_settledAnchor, wp_run, unwrap, reject_neg hsettled,
    wp_inspectEntries_tidy hs h.tidy hfew, hcheck]

theorem cleanupOld_wp (hs : s.Shows v) (h : Committed j.serde v storeId cursor older journal state)
    (hp : P (some state))
    (hQ : ∀ t w, t.Shows w → Committed j.serde w storeId cursor [] journal state → Q (.ok ()) t) :
    (j.cleanupOld (settledAnchor storeId (some cursor))).wp (On (LeadsTo j.serde P)) Q s := by
  rw [wp_cleanupOld hs h]
  refine unlinkAll_wp hs h hp ?_ (fun name hname ↦ ?_) fun t w ht hw hf ↦ ?_
  · exact ((j.enumerate_perm _).nodup_iff.mpr s.files.nodupKeys).filter _
  · obtain ⟨hmem, ho⟩ := List.mem_filter.mp hname
    exact ⟨(mem_enumerate j hs).mp hmem, of_decide_eq_true ho⟩
  · refine hQ t w ht (hw.clean fun name hn ho ↦ ?_)
    rw [hf name] at hn
    split at hn
    · exact hn rfl
    · next hnot =>
      exact hnot (List.mem_filter.mpr ⟨(mem_enumerate j hs).mpr hn, decide_eq_true ho⟩)

theorem wp_cleanupOld_clean (hs : s.Shows v)
    (h : Committed j.serde v storeId cursor [] journal state) :
    (j.cleanupOld (settledAnchor storeId (some cursor))).wp C Q s ↔ Q (.ok ()) s := by
  have hnone : (j.enumerate s.files.keys).filter (fun name ↦ name.obsolete cursor.generation) = [] := by
    refine List.filter_eq_nil_iff.mpr fun name hname ho ↦ ?_
    obtain ⟨g, hg, hlt⟩ := of_decide_eq_true ho
    rcases h.tidy.entries name ((mem_enumerate j hs).mp hname) with rfl | ⟨k, hk, hgen⟩
    · cases hg
    · rw [← Option.some.inj (hg.symm.trans hgen)] at hk
      exact UInt64.lt_irrefl _ (List.mem_singleton.mp hk ▸ hlt)
  rw [wp_cleanupOld hs h, hnone, unlinkAll, wp_pure]

theorem settlePending_settledAnchor {c} :
    j.settlePending (settledAnchor storeId c) = pure (settledAnchor storeId c) := rfl

/-- What a recovery tells the machine to do is what its state asks for. -/
def Consistent (recovery : JournalRecovery) : Prop :=
  match recovery.committed with
  | none => recovery = emptyRecovery
  | some state => state.restartAction = .ok recovery.action

theorem Restartable.restartAction (h : Restartable state) (hvalid : state.validate = .ok ()) :
    ∃ action, state.restartAction = .ok action := by
  rw [AuthorityCommittedState.restartAction, hvalid]
  exact h

variable (j) in
def Recovered (P : Option AuthorityCommittedState → Prop)
    (r : Except JournalStoreError JournalRecovery) (t : Storage) : Prop :=
  ∃ recovery w, r = .ok recovery ∧ t.Shows w ∧
    Rested j.serde w recovery.committed recovery.cursor ∧ P recovery.committed ∧ Consistent recovery

section

variable (hs : s.Shows v)
include hs

theorem wp_recoverSettled_marked (ht : Tidy v storeId [])
    {Q : Except JournalStoreError JournalRecovery → Storage → Prop} :
    (j.recoverSettled (settledAnchor storeId none)).wp C Q s ↔ Q (.ok emptyRecovery) s := by
  have hnames : ∀ name ∈ j.enumerate s.files.keys, name = .record .marker :=
    fun name hname ↦ ht.eq_marker ((mem_enumerate j hs).mp hname)
  simp [recoverSettled, wp_inspectEntries_tidy hs ht (Nat.zero_le 2), require_pos hnames]

theorem recoverSettled_wp (h : Anchored j.serde v anchor prior) (hp : P prior)
    (hP : ∀ state, P (some state) → Restartable state) :
    (j.recoverSettled anchor).wp (On (LeadsTo j.serde P)) (Recovered j P) s := by
  cases h with
  | marked anchor_eq tidy =>
    rw [wp_recoverSettled_marked hs tidy]
    exact ⟨_, v, rfl, hs, .marked anchor_eq tidy, hp, rfl⟩
  | @committed storeId cursor older journal state h =>
    obtain ⟨action, hrestart⟩ := (hP state hp).restartAction h.endsAt.state_valid
    simp only [recoverSettled, validating, committed_settledAnchor, wp_run,
      wp_readCommitted hs h.files h.endsAt, hrestart]
    refine cleanupOld_wp hs h hp fun t w ht hw ↦ ?_
    rw [after_ok, wp_pure]
    exact ⟨_, w, rfl, ht, .committed hw, hp, hrestart⟩

theorem recoverAnchored_wp (h : Anchored j.serde v anchor prior) (hp : P prior)
    (hP : ∀ state, P (some state) → Restartable state) :
    (j.settlePending anchor >>= j.recoverSettled).wp (On (LeadsTo j.serde P)) (Recovered j P) s := by
  have hsettled : j.settlePending anchor = pure anchor := by cases h <;> rfl
  rw [hsettled, wp_bind, wp_pure]
  exact recoverSettled_wp hs h hp hP

theorem wp_recoverLocked_untouched (anchor_eq : v.anchor = none)
    (no_files : ∀ name, v.files name = none) {Q} :
    j.recoverLocked.wp C Q s ↔ Q (.ok emptyRecovery) s := by
  have hnames : j.enumerate s.files.keys = [] := by
    refine List.eq_nil_iff_forall_not_mem.mpr fun name hname ↦ ?_
    exact (mem_enumerate j hs).mp hname (no_files name)
  have hlisting : ∀ name, v.files name ≠ none → name ∈ ([] : List EntryName) :=
    fun name hn ↦ absurd (no_files name) hn
  simp [recoverLocked, wp_inspectEntries j hs (Nat.zero_le _) (by simp) hlisting,
    wp_loadAnchor j hs, anchor_eq, require_pos hnames]

theorem wp_recoverLocked_tidy (hanchor : v.anchor = some anchor)
    (ht : Tidy v anchor.storeId generations) (hfew : generations.length ≤ 2) {Q} :
    j.recoverLocked.wp C Q s ↔ (j.settlePending anchor >>= j.recoverSettled).wp C Q s := by
  simp [recoverLocked, wp_inspectEntries_tidy hs ht hfew, wp_loadAnchor j hs, hanchor,
    wp_ensureMarker_tidy hs anchor ht]

theorem recoverUnsettled_wp (h : Pending j.serde v anchor pending old others journal prior state)
    (hresolve : (j.recoverPending anchor).wp (On (LeadsTo j.serde P)) (Resolved j P) s)
    (hP : ∀ state, P (some state) → Restartable state) :
    j.recoverLocked.wp (On (LeadsTo j.serde P)) (Recovered j P) s := by
  have hsome : anchor.pending.isSome = true := by rw [h.pending_eq, Option.isSome_some]
  rw [wp_recoverLocked_tidy hs h.anchor_eq h.tidy (Nat.succ_le_succ h.others_lt.2), settlePending,
    if_pos hsome, wp_bind]
  refine wp_mono hresolve (fun _ ht ↦ ht) ?_
  rintro r t ⟨w, a, x, rfl, ht, hw, hx⟩
  exact recoverSettled_wp ht hw hx hP

end

/-- Recovery completes from every store that an append or a recovery can have left. -/
theorem recoverLocked_wp (h : On (LeadsTo j.serde P) s)
    (hP : ∀ state, P (some state) → Restartable state) :
    j.recoverLocked.wp (On (LeadsTo j.serde P)) (Recovered j P) s := by
  obtain ⟨v, hs, h⟩ := h
  cases h with
  | settled h hp =>
    cases h with
    | vacant h =>
      cases h with
      | untouched anchor_eq no_files =>
        rw [wp_recoverLocked_untouched hs anchor_eq no_files]
        exact ⟨_, v, rfl, hs, .untouched anchor_eq no_files, hp, rfl⟩
      | anchored hm =>
        simp only [recoverLocked, wp_run, wp_inspectEntries_marking hs hm, wp_loadAnchor j hs,
          hm.anchor_eq]
        refine ensureMarker_wp hs hm hp fun t w ht hw htidy ↦ ?_
        exact recoverAnchored_wp ht (.marked hw.anchor_eq htidy) hp hP
    | committed h =>
      rw [wp_recoverLocked_tidy hs h.anchor_eq h.tidy (Nat.succ_le_succ h.older_few)]
      exact recoverAnchored_wp hs (.committed h) hp hP
  | announced h files hp =>
    exact recoverUnsettled_wp hs h (recoverPending_wp_unpublished hs h files hp) hP
  | underway h progress hstate =>
    exact recoverUnsettled_wp hs h (recoverPending_wp hs h progress hstate) hP

theorem wp_recoverLocked_rested (hs : s.Shows v) {position}
    (h : Rested j.serde v prior position) (hr : ∀ state ∈ prior, Restartable state) :
    ∃ recovery, recovery.committed = prior ∧ recovery.cursor = position ∧ Consistent recovery ∧
      ∀ (C : Storage → Prop) (Q : Except JournalStoreError JournalRecovery → Storage → Prop),
        j.recoverLocked.wp C Q s ↔ Q (.ok recovery) s := by
  cases h with
  | untouched anchor_eq no_files =>
    exact ⟨emptyRecovery, rfl, rfl, rfl, fun C Q ↦ wp_recoverLocked_untouched hs anchor_eq no_files⟩
  | @marked storeId anchor_eq tidy =>
    refine ⟨emptyRecovery, rfl, rfl, rfl, fun C Q ↦ ?_⟩
    rw [wp_recoverLocked_tidy hs anchor_eq tidy (Nat.zero_le 2), settlePending_settledAnchor, wp_bind,
      wp_pure, after_ok, wp_recoverSettled_marked hs tidy]
  | @committed storeId cursor journal state h =>
    obtain ⟨action, hrestart⟩ := (hr state rfl).restartAction h.endsAt.state_valid
    refine ⟨⟨some state, some cursor, action⟩, rfl, rfl, hrestart, fun C Q ↦ ?_⟩
    rw [wp_recoverLocked_tidy hs h.anchor_eq h.tidy (Nat.le_succ 1), settlePending_settledAnchor]
    simp [recoverSettled, validating, wp_run,
      wp_readCommitted hs h.files h.endsAt, hrestart, wp_cleanupOld_clean hs h]

end CfwRs.WindowsAuthority.WindowsAuthorityJournal
