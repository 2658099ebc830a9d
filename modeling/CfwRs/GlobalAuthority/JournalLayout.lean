import CfwRs.GlobalAuthority.JournalStore

namespace CfwRs.GlobalAuthority

open Lib Lib.Checked Lib.Durable JournalStore

namespace JournalStore

variable {s : JournalStore} {name source target : EntryName} {file : JournalFile}

theorem lookup_put :
    (s.put target file).lookup name = if name = target then some file else s.lookup name :=
  Directory.lookup_insert

theorem lookup_remove :
    (s.remove target).lookup name = if name = target then none else s.lookup name :=
  Directory.lookup_erase

theorem lookup_rename (h : s.lookup source = some file) : (s.rename source target).lookup name =
      if name = target then some file else if name = source then none else s.lookup name :=
  Directory.lookup_rename h

theorem rename_eq (h : s.lookup source = some file) :
    s.rename source target = (s.remove source).put target file :=
  congrArg (mk · s.keychain) (Directory.rename_eq h)

theorem mem_keys : name ∈ s.files.keys ↔ ∃ file, s.lookup name = some file :=
  Directory.mem_keys

@[simp] theorem keychain_put : (s.put name file).keychain = s.keychain := rfl

@[simp] theorem keychain_remove : (s.remove name).keychain = s.keychain := rfl

@[simp] theorem keychain_rename : (s.rename source target).keychain = s.keychain := rfl

@[simp] theorem keychain_setAnchor {anchor} :
    (s.setAnchor anchor).keychain = .ok (some anchor) := rfl

@[simp] theorem lookup_setAnchor {anchor} : (s.setAnchor anchor).lookup name = s.lookup name := rfl

end JournalStore

namespace AuthorityJournalAnchorCursor

theorem matches_iff {c : AuthorityJournalAnchorCursor} {h} : c.Matches h ↔ h = c.head := by
  obtain ⟨n, l, d, _, _⟩ := h
  simp [Matches, head]

end AuthorityJournalAnchorCursor

namespace DescriptorRelativeAuthorityJournalStore

open AuthorityJournalRecoveryReducer

/-- The files of one generation, all of them in order and within the bounds of the reader. -/
structure Files (s : JournalStore) (g : UInt64) (journal head temporaryHead : Option Bytes) :
    Prop where
  journal_eq : s.lookup (.journal g) = journal.map (⟨·, true⟩)
  head_eq : s.lookup (.head g) = head.map (⟨·, true⟩)
  temporary_eq : s.lookup (.temporaryHead g) = temporaryHead.map (⟨·, true⟩)
  journal_small : ∀ b ∈ journal, b.length ≤ AuthorityJournalLimits.maximumJournalBytes
  head_small : ∀ b ∈ head, b.length ≤ AuthorityJournalLimits.maximumHeadBytes
  temporary_small : ∀ b ∈ temporaryHead, b.length ≤ AuthorityJournalLimits.maximumHeadBytes

def legacyNames : List EntryName := [.legacyJournal, .legacyHead, .legacyTemporaryHead]

theorem generation_of_mem_legacyNames {name} (h : name ∈ legacyNames) : name.generation = none := by
  simp only [legacyNames, List.mem_cons, List.not_mem_nil, or_false] at h
  rcases h with rfl | rfl | rfl <;> rfl

/-- The directory around the files of the newest generation `top`. -/
structure Tidy (s : JournalStore) (storeID : AuthorityIdentifier) (top : UInt64) : Prop where
  no_legacy : ∀ name ∈ legacyNames, s.lookup name = none
  marker : s.lookup .storeMarker = some ⟨markerData storeID, true⟩
  wellFormed : ∀ name file, s.lookup name = some file → name.wellFormed = true
  entries : ∀ name file, s.lookup name = some file → ∀ g ∈ name.generation,
    g ≤ top ∧ file.secure = true

variable (decoder : JSONDecoder)

/-- The journal is a valid chain of records that ends at the cursor, and `state` is its last. -/
structure EndsAt (cursor : AuthorityJournalAnchorCursor) (journal : Bytes)
    (state : AuthorityCommittedState) : Prop where
  describes : ∃ records, Describes decoder journal cursor.head records state
  revision_eq : state.revision = cursor.stateRevision

variable {decoder} in
theorem EndsAt.length_le {cursor journal state} (h : EndsAt decoder cursor journal state) :
    cursor.committedLength.toNat ≤ cursor.sequence.toNat * 2048 := by
  obtain ⟨records, hd⟩ := h.describes
  have hlength : cursor.committedLength.toNat = journal.length := hd.length_eq
  have hsequence : cursor.sequence.toNat = records.length := hd.sequence_eq
  have hbound := hd.isLog.1.length_le (a := 1024) fun _ payload state haccept ↦ by
    obtain rfl := AuthorityJournalCodec.accept_eq_ok.mp haccept
    exact state.length_text_le
  rw [hlength, hsequence]
  exact hbound.trans (Nat.mul_le_mul_left _ (by decide))

def Restartable (state : AuthorityCommittedState) : Prop :=
  ∃ action, restartPosture state = .recovering action

def settledAnchor (storeID : AuthorityIdentifier)
    (committed : Option AuthorityJournalAnchorCursor) : AuthorityJournalAnchor where
  storeID := storeID
  committed := committed
  pending := none
  advances := by simp

/-- The committed history of the store ends with `state`, and nothing is under way. -/
structure Committed (s : JournalStore) (storeID : AuthorityIdentifier)
    (cursor : AuthorityJournalAnchorCursor) (journal : Bytes) (state : AuthorityCommittedState) :
    Prop where
  keychain_eq : s.keychain = .ok (some (settledAnchor storeID (some cursor)))
  tidy : Tidy s storeID cursor.generation
  files : Files s cursor.generation (some journal) (some cursor.head.text) none
  endsAt : EndsAt decoder cursor journal state

/-- Nothing has been committed: no generation has left a file, and there may be no anchor or no
marker yet. -/
structure Vacant (s : JournalStore) : Prop where
  no_legacy : ∀ name ∈ legacyNames, s.lookup name = none
  wellFormed : ∀ name file, s.lookup name = some file → name.wellFormed = true
  entries : ∀ name file, s.lookup name = some file → name.generation = none
  anchor : s.keychain = .ok none ∧ s.lookup .storeMarker = none ∨
    ∃ storeID, s.keychain = .ok (some (settledAnchor storeID none)) ∧
      ∀ file ∈ s.lookup .storeMarker, file = ⟨markerData storeID, true⟩

/-- The store between two operations, and the last state of its history. -/
inductive Settled (s : JournalStore) : Option AuthorityCommittedState → Prop
  | vacant (h : Vacant s) : Settled s none
  | committed {storeID cursor journal state}
      (h : Committed decoder s storeID cursor journal state) : Settled s (some state)

/-- What a pending record is written after: `old` is what its generation holds already. -/
inductive Origin (s : JournalStore) (pending : AuthorityJournalAnchorCursor) :
    Option AuthorityJournalAnchorCursor → Option (Bytes × AuthorityJournalHead) →
      Option AuthorityCommittedState → Prop
  | first : Origin s pending none none none
  | continued {cursor journal state} (same : cursor.generation = pending.generation)
      (ends : EndsAt decoder cursor journal state) :
      Origin s pending (some cursor) (some (journal, cursor.head)) (some state)
  | opened {cursor journal state} (other : cursor.generation ≠ pending.generation)
      (files : Files s cursor.generation (some journal) (some cursor.head.text) none)
      (ends : EndsAt decoder cursor journal state) :
      Origin s pending (some cursor) none (some state)

/-- How far the files of the pending record's generation have come once it is in the journal. -/
inductive Progress (s : JournalStore) (g : UInt64) (old : Option (Bytes × AuthorityJournalHead))
    (journal : Bytes) (head : AuthorityJournalHead) : Prop
  | journalWritten (files : Files s g (some journal) (old.map (·.2.text)) none)
  | headWritten (files : Files s g (some journal) (old.map (·.2.text)) (some head.text))
  | headReplaced (files : Files s g (some journal) (some head.text) none)

/-- The anchor names a pending record; the directory is somewhere on the way to it. -/
structure Pending (s : JournalStore) (anchor : AuthorityJournalAnchor)
    (pending : AuthorityJournalAnchorCursor) (old : Option (Bytes × AuthorityJournalHead))
    (journal : Bytes) (prior : Option AuthorityCommittedState) (state : AuthorityCommittedState) :
    Prop where
  keychain_eq : s.keychain = .ok (some anchor)
  pending_eq : anchor.pending = some pending
  tidy : Tidy s anchor.storeID pending.generation
  endsAt : EndsAt decoder pending journal state
  origin : Origin decoder s pending anchor.committed old prior

/-- The stores that an append or a recovery may leave, when the history that they stand for ends in
`P`: a pending record counts from the moment it is in the journal. -/
inductive LeadsTo (P : Option AuthorityCommittedState → Prop) (s : JournalStore) : Prop
  | settled {prior} (h : Settled decoder s prior) (hp : P prior)
  | announced {anchor pending old journal prior state}
      (h : Pending decoder s anchor pending old journal prior state)
      (files : Files s pending.generation (old.map (·.1)) (old.map (·.2.text)) none) (hp : P prior)
  | written {anchor pending old journal prior state}
      (h : Pending decoder s anchor pending old journal prior state)
      (progress : Progress s pending.generation old journal pending.head) (hs : P (some state))

variable {decoder} {s : JournalStore} {storeID : AuthorityIdentifier} {top g : UInt64}
  {name : EntryName} {file : JournalFile} {journal head temporaryHead : Option Bytes}

namespace Files

theorem congr {t} (h : Files s g journal head temporaryHead)
    (he : ∀ name : EntryName, name.generation = some g → t.lookup name = s.lookup name) :
    Files t g journal head temporaryHead where
  journal_eq := (he _ rfl).trans h.journal_eq
  head_eq := (he _ rfl).trans h.head_eq
  temporary_eq := (he _ rfl).trans h.temporary_eq
  journal_small := h.journal_small
  head_small := h.head_small
  temporary_small := h.temporary_small

theorem put_journal (h : Files s g journal head temporaryHead) {data}
    (hsmall : data.length ≤ AuthorityJournalLimits.maximumJournalBytes) :
    Files (s.put (.journal g) ⟨data, true⟩) g (some data) head temporaryHead where
  journal_eq := by simp [lookup_put]
  head_eq := by simp [lookup_put, h.head_eq]
  temporary_eq := by simp [lookup_put, h.temporary_eq]
  journal_small := by simpa using hsmall
  head_small := h.head_small
  temporary_small := h.temporary_small

theorem put_temporaryHead (h : Files s g journal head none) (newHead : AuthorityJournalHead) :
    Files (s.put (.temporaryHead g) ⟨newHead.text, true⟩) g journal head (some newHead.text) where
  journal_eq := by simp [lookup_put, h.journal_eq]
  head_eq := by simp [lookup_put, h.head_eq]
  temporary_eq := by simp [lookup_put]
  journal_small := h.journal_small
  head_small := h.head_small
  temporary_small := by
    rintro b ⟨⟩
    exact newHead.length_text_le

theorem rename_temporaryHead {data} (h : Files s g journal head (some data)) :
    Files (s.rename (.temporaryHead g) (.head g)) g journal (some data) none where
  journal_eq := by simp [lookup_rename h.temporary_eq, h.journal_eq]
  head_eq := by simp [lookup_rename h.temporary_eq]
  temporary_eq := by simp [lookup_rename h.temporary_eq]
  journal_small := h.journal_small
  head_small := h.temporary_small
  temporary_small := by simp

end Files

theorem checkFile_map {maximumBytes data} (h : ∀ b ∈ data, b.length ≤ maximumBytes) :
    checkFile name maximumBytes (data.map (⟨·, true⟩)) = .ok data := by
  cases data with
  | none => rfl
  | some b => simp [checkFile, h b rfl, pure, Except.pure]

theorem wp_loadImage (h : Files s g journal head temporaryHead) {C} {Q} :
    (loadImage g).wp C Q s ↔ Q (.ok ⟨journal, head, temporaryHead.isSome⟩) s := by
  simp [loadImage, h.journal_eq, h.head_eq,
    h.temporary_eq, checkFile_map h.journal_small, checkFile_map h.head_small]

namespace Tidy

theorem wellFormed_pos (hw : name.wellFormed = true) (hg : g ∈ name.generation) : 0 < g := by
  cases name <;> simp_all [EntryName.wellFormed, EntryName.generation]

section

variable (h : Tidy s storeID top)
include h

theorem marker_isSome : (s.lookup .storeMarker).isSome = true := by
  simp [h.marker]

theorem congr {t} (he : ∀ name, t.lookup name = s.lookup name) : Tidy t storeID top where
  no_legacy name hn := (he name).trans (h.no_legacy name hn)
  marker := (he _).trans h.marker
  wellFormed name file hf := h.wellFormed name file (he name ▸ hf)
  entries name file hf := h.entries name file (he name ▸ hf)

theorem put (hg : name.generation = some g) (hpos : 0 < g) (hle : g ≤ top) {data} :
    Tidy (s.put name ⟨data, true⟩) storeID top := by
  have hne : ∀ other : EntryName, other.generation = none → other ≠ name := by
    rintro other ho rfl
    simp [ho] at hg
  refine ⟨fun other ho ↦ ?_, ?_, fun other file hf ↦ ?_, fun other file hf ↦ ?_⟩
  · rw [lookup_put, if_neg (hne other ?_)]
    · exact h.no_legacy other ho
    · exact generation_of_mem_legacyNames ho
  · rw [lookup_put, if_neg (hne _ rfl)]
    exact h.marker
  · rw [lookup_put] at hf
    split at hf
    · next heq =>
      subst heq
      cases other <;> simp_all [EntryName.generation, EntryName.wellFormed]
    · exact h.wellFormed other file hf
  · rw [lookup_put] at hf
    split at hf
    · next heq =>
      subst heq
      obtain rfl := Option.some.inj hf
      intro g' hg'
      cases hg.symm.trans hg'
      exact ⟨hle, rfl⟩
    · exact h.entries other file hf

theorem remove (hg : name.generation.isSome = true) : Tidy (s.remove name) storeID top := by
  have hne : ∀ other : EntryName, other.generation = none → other ≠ name := by
    rintro other ho rfl
    simp [ho] at hg
  have hsub : ∀ other file, (s.remove name).lookup other = some file →
      s.lookup other = some file := by
    intro other file hf
    rw [lookup_remove] at hf
    split at hf
    · cases hf
    · exact hf
  refine ⟨fun other ho ↦ ?_, ?_, fun other file hf ↦ h.wellFormed other file (hsub _ _ hf),
    fun other file hf ↦ h.entries other file (hsub _ _ hf)⟩
  · rw [lookup_remove, if_neg (hne other ?_)]
    · exact h.no_legacy other ho
    · exact generation_of_mem_legacyNames ho
  · rw [lookup_remove, if_neg (hne _ rfl)]
    exact h.marker

theorem rename (hpos : 0 < g) (hle : g ≤ top) {data}
    (hf : s.lookup (.temporaryHead g) = some ⟨data, true⟩) :
    Tidy (s.rename (.temporaryHead g) (.head g)) storeID top := by
  rw [rename_eq hf]
  exact (h.remove rfl).put rfl hpos hle

theorem raise {top'} (hle : top ≤ top') : Tidy s storeID top' :=
  ⟨h.no_legacy, h.marker, h.wellFormed, fun name file hf g hg ↦
    ⟨UInt64.le_trans (h.entries name file hf g hg).1 hle, (h.entries name file hf g hg).2⟩⟩

theorem lt_of_files (hf : Files s top none none none) (hn : s.lookup name = some file)
    (hg : g ∈ name.generation) : g < top := by
  refine UInt64.lt_of_le_of_ne (h.entries name file hn g hg).1 ?_
  rintro rfl
  cases name <;> simp_all [EntryName.generation, hf.journal_eq, hf.head_eq, hf.temporary_eq]

end

end Tidy

variable {anchor : AuthorityJournalAnchor} {pending : AuthorityJournalAnchorCursor}
  {before : Option AuthorityJournalAnchorCursor} {old : Option (Bytes × AuthorityJournalHead)}
  {data : Bytes} {prior : Option AuthorityCommittedState} {state : AuthorityCommittedState}

theorem Origin.congr {t} (h : Origin decoder s pending before old prior)
    (he : ∀ name : EntryName, name.generation ≠ some pending.generation →
      t.lookup name = s.lookup name) : Origin decoder t pending before old prior := by
  cases h with
  | first => exact .first
  | continued same ends => exact .continued same ends
  | opened other files ends =>
    refine .opened other (files.congr fun name hn ↦ he name ?_) ends
    rw [hn]
    exact fun h ↦ other (Option.some.inj h)

namespace Pending

section

variable (h : Pending decoder s anchor pending old data prior state)
include h

theorem of_files {t} (hk : t.keychain = s.keychain) (ht : Tidy t anchor.storeID pending.generation)
    (he : ∀ name : EntryName, name.generation ≠ some pending.generation →
      t.lookup name = s.lookup name) : Pending decoder t anchor pending old data prior state :=
  ⟨hk.trans h.keychain_eq, h.pending_eq, ht, h.endsAt, h.origin.congr he⟩

theorem put (hg : name.generation = some pending.generation) {b} :
    Pending decoder (s.put name ⟨b, true⟩) anchor pending old data prior state := by
  refine h.of_files rfl (h.tidy.put hg pending.generation_pos (UInt64.le_refl _)) fun other ho ↦ ?_
  rw [lookup_put, if_neg]
  rintro rfl
  exact ho hg

theorem rename {b} (hf : s.lookup (.temporaryHead pending.generation) = some ⟨b, true⟩) :
    Pending decoder (s.rename (.temporaryHead pending.generation) (.head pending.generation))
      anchor pending old data prior state := by
  refine h.of_files keychain_rename
    (h.tidy.rename pending.generation_pos (UInt64.le_refl _) hf) fun other ho ↦ ?_
  rw [lookup_rename hf, if_neg, if_neg]
  · rintro rfl
    exact ho rfl
  · rintro rfl
    exact ho rfl

theorem promote (hf : Files s pending.generation (some data) (some pending.head.text) none) :
    Committed decoder (s.setAnchor (settledAnchor anchor.storeID (some pending))) anchor.storeID
      pending data state :=
  ⟨rfl, h.tidy.congr fun _ ↦ rfl, hf.congr fun _ _ ↦ rfl, h.endsAt⟩

theorem advances : AuthorityJournalAnchorCursor.Advances anchor.committed pending :=
  anchor.advances pending h.pending_eq

end

theorem continued {oldJournal head}
    (h : Pending decoder s anchor pending (some (oldJournal, head)) data prior state) :
    ∃ cursor, anchor.committed = some cursor ∧ head = cursor.head ∧
      cursor.generation = pending.generation ∧ (∃ st, EndsAt decoder cursor oldJournal st) ∧
      cursor.Continues pending := by
  have hadv := h.advances
  have horigin := h.origin
  generalize anchor.committed = before at hadv horigin
  cases horigin with
  | @continued cursor _ st same ends =>
    rw [AuthorityJournalAnchorCursor.Advances, if_pos same.symm] at hadv
    exact ⟨cursor, rfl, rfl, same, ⟨st, ends⟩, hadv⟩

theorem clear (h : Pending decoder s anchor pending old data prior state)
    (hf : Files s pending.generation (old.map (·.1)) (old.map (·.2.text)) none) :
    Settled decoder (s.setAnchor (settledAnchor anchor.storeID anchor.committed)) prior := by
  have hadv := h.advances
  have horigin := h.origin
  generalize anchor.committed = before at hadv horigin
  cases horigin with
  | first =>
    -- The first record goes into generation 1, so no generation has a file.
    refine .vacant ⟨h.tidy.no_legacy, h.tidy.wellFormed, fun name file hn ↦ ?_,
      .inr ⟨anchor.storeID, rfl, fun file hm ↦ ?_⟩⟩
    · cases hg : name.generation with
      | none => rfl
      | some g =>
        have hlt := h.tidy.lt_of_files hf hn hg
        have hpos := Tidy.wellFormed_pos (h.tidy.wellFormed name file hn) hg
        rw [hadv.1, UInt64.lt_iff_toNat_lt] at hlt
        rw [UInt64.lt_iff_toNat_lt] at hpos
        simp at hlt hpos
        omega
    · exact Option.some.inj (hm.symm.trans h.tidy.marker)
  | continued same ends =>
    exact .committed ⟨rfl, same ▸ h.tidy.congr fun _ ↦ rfl, same ▸ hf.congr fun _ _ ↦ rfl, ends⟩
  | @opened cursor journal state other files ends =>
    rw [AuthorityJournalAnchorCursor.Advances, if_neg fun he ↦ other he.symm] at hadv
    obtain ⟨hmax, hnext⟩ := checkedSucc_eq_some.mp hadv.1
    refine .committed ⟨rfl, ⟨h.tidy.no_legacy, h.tidy.marker, h.tidy.wellFormed,
      fun name file hn g hg ↦ ?_⟩, files.congr fun _ _ ↦ rfl, ends⟩
    have hlt := h.tidy.lt_of_files hf hn hg
    rw [← hnext, UInt64.lt_iff_toNat_lt, toNat_add_one hmax] at hlt
    exact ⟨UInt64.le_iff_toNat_le.mpr (Nat.le_of_lt_succ hlt), (h.tidy.entries name file hn g hg).2⟩

end Pending


end DescriptorRelativeAuthorityJournalStore

end CfwRs.GlobalAuthority
