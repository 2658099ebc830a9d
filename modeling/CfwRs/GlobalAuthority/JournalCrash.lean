import CfwRs.GlobalAuthority.JournalReconcile

namespace CfwRs.GlobalAuthority

open Lib Lib.Checked Lib.Durable AuthorityJournalLimits AuthorityJournalCodec

namespace DescriptorRelativeAuthorityJournalStore

open AuthorityJournalRecoveryReducer

variable {decoder : JSONDecoder} {s : JournalStore} {capacity : RecordCapacity}
  {storeID : AuthorityIdentifier} {cursor : AuthorityJournalAnchorCursor} {journal : Bytes}
  {state next : AuthorityCommittedState} {prior : Option AuthorityCommittedState}
  {before : Option AuthorityJournalAnchorCursor} {old : Option (Bytes × AuthorityJournalHead)}
  {g : UInt64} {P : Option AuthorityCommittedState → Prop}

/-- `next` can be the record after those of the journal, if any. -/
structure Extends (decoder : JSONDecoder) (old : Option (Bytes × AuthorityJournalHead))
    (next : AuthorityCommittedState) (records : List (LogRecord AuthorityCommittedState)) :
    Prop where
  chained : (format decoder).Chained 1 (.fill 32 0) none 0
    ((old.map (·.1)).getD []) records
  digest_eq : LogFormat.endDigest (.fill 32 0) records = (linkTo (old.map (·.2))).previousDigest
  sequence_eq : (linkTo (old.map (·.2))).priorSequence.toNat = records.length
  length_eq : (linkTo (old.map (·.2))).oldLength.toNat = ((old.map (·.1)).getD []).length
  follows : (records.map (·.state) ++ [next]).IsChain Follows

theorem extends_none : Extends decoder none next [] :=
  ⟨.nil, rfl, rfl, rfl, by simp⟩

theorem extends_some (h : EndsAt decoder cursor journal state) (hf : Follows state next) :
    ∃ records, Extends decoder (some (journal, cursor.head)) next records := by
  obtain ⟨records, hd⟩ := h.describes
  obtain ⟨r, hr, rfl, hdigest⟩ := hd.last
  refine ⟨records, hd.isLog.1, ?_, hd.sequence_eq, hd.length_eq, ?_⟩
  · simpa [LogFormat.endDigest, hr, linkTo] using hdigest
  · rw [List.isChain_append]
    refine ⟨hd.follows, by simp, fun a ha b hb ↦ ?_⟩
    simp only [List.getLast?_map, hr, Option.map_some, Option.mem_def, Option.some.injEq,
      List.head?_cons] at ha hb
    exact ha ▸ hb ▸ hf

variable {frame : Bytes} {length : ℕ} {record : AuthorityCommittedState}
  {records : List (LogRecord AuthorityCommittedState)}

theorem Extends.ne_nil (h : Extends decoder old next records) : old.map (·.1) ≠ some [] := by
  rcases old with _ | ⟨journal, head⟩
  · simp
  · intro hnil
    obtain rfl := Option.some.inj hnil
    have hlength : head.committedLength.toNat = 0 := h.length_eq
    have hpos := UInt64.lt_iff_toNat_lt.mp head.length_pos
    omega

/-- The frame of `next` after the records that `link` stands for. -/
def nextFrame (link : Link) (next : AuthorityCommittedState) : Bytes :=
  logFrame magic (link.priorSequence.toNat + 1) link.previousDigest next.text

structure PointsAfter (cursor : AuthorityJournalAnchorCursor) (link : Link)
    (next : AuthorityCommittedState) : Prop where
  sequence_eq : cursor.sequence = link.priorSequence + 1
  length_eq : cursor.committedLength = link.oldLength + UInt64.ofNat (nextFrame link next).length
  digest_eq : cursor.recordSHA256 = Sha256.hash (nextFrame link next)
  revision_eq : cursor.stateRevision = next.revision
  room : link.priorSequence.toNat < maximumRecords
  small : link.oldLength.toNat + (nextFrame link next).length ≤
    maximumJournalBytes

theorem linkTo_some (head) :
    linkTo (some head) = ⟨head.sequence, head.committedLength, head.recordSHA256⟩ := rfl

theorem encodeRecord_eq_nextFrame (link : Link) (next) (h : link.priorSequence < maxWord) :
    encodeRecord next (link.priorSequence + 1) link.previousDigest =
      .ok (nextFrame link next, Sha256.hash (nextFrame link next)) := by
  rw [encodeRecord_eq, toNat_add_one h, ← nextFrame]

theorem nextFrame_pos {link} : 0 < (nextFrame link next).length := by
  simp [nextFrame, LogFormat.headerBytes]

theorem exists_pointsAfter (link : Link) (next) (hroom : link.priorSequence.toNat < maximumRecords)
    (hsmall : link.oldLength.toNat + (nextFrame link next).length ≤
      maximumJournalBytes) (hg : 0 < g) :
    ∃ cursor : AuthorityJournalAnchorCursor, cursor.generation = g ∧ PointsAfter cursor link next := by
  have hrecords : maximumRecords = 4096 := rfl
  have hbytes : maximumJournalBytes < 2 ^ 64 := by decide
  have hframe : 0 < (nextFrame link next).length := nextFrame_pos
  have hsequence : 0 < link.priorSequence + 1 := by
    rw [UInt64.lt_iff_toNat_lt, toNat_add_one (lt_maxWord_iff.mpr (by omega))]
    exact Nat.succ_pos _
  have hlength : 0 < link.oldLength + UInt64.ofNat (nextFrame link next).length := by
    rw [UInt64.lt_iff_toNat_lt, toNat_add_ofNat (by omega)]
    exact Nat.lt_add_left _ hframe
  exact ⟨⟨g, _, _, _, _, hg, hsequence, hlength, next.revision_pos⟩, rfl, rfl, rfl, rfl, rfl, hroom,
    hsmall⟩

namespace PointsAfter

variable {link : Link} (h : PointsAfter cursor link next)
include h

theorem checkedSucc_priorSequence : checkedSucc link.priorSequence = some cursor.sequence := by
  have hroom := h.room
  have hrecords : maximumRecords = 4096 := rfl
  rw [checkedSucc_eq_some, lt_maxWord_iff]
  exact ⟨by omega, h.sequence_eq.symm⟩

theorem toNat_committedLength :
    cursor.committedLength.toNat = link.oldLength.toNat + (nextFrame link next).length := by
  rw [h.length_eq, toNat_add_ofNat (h.small.trans_lt (by decide))]

theorem oldLength_lt : link.oldLength < cursor.committedLength := by
  rw [UInt64.lt_iff_toNat_lt, h.toNat_committedLength]
  exact Nat.lt_add_of_pos_right nextFrame_pos

end PointsAfter

theorem Extends.endsAt (h : Extends decoder old next records)
    (hc : PointsAfter cursor (linkTo (old.map (·.2))) next) : EndsAt decoder cursor
      ((old.map (·.1)).getD [] ++ nextFrame (linkTo (old.map (·.2))) next) next := by
  have hsnoc := h.chained.snoc (fits_text next) (accept_eq_ok.mpr rfl)
  obtain ⟨hmax, hnext⟩ := checkedSucc_eq_some.mp hc.checkedSucc_priorSequence
  have hsequence : cursor.sequence.toNat = records.length + 1 := by
    rw [← hnext, toNat_add_one hmax, h.sequence_eq]
  have hlength := hc.toNat_committedLength
  have hroom := hc.room
  have hsmall := hc.small
  have hdigest := hc.digest_eq
  simp only [nextFrame, h.sequence_eq, h.length_eq, Nat.add_comm _ 1] at hlength hroom hsmall hdigest ⊢
  simp only [h.digest_eq] at hsnoc
  refine ⟨⟨_, ⟨hsnoc, ?_⟩, ⟨_, List.getLast?_concat, rfl, hdigest.symm⟩, ?_, ?_, ?_, ?_⟩,
    hc.revision_eq.symm⟩
  · rw [List.length_append]
    exact hroom
  · rw [List.length_append]
    exact hsequence
  · rw [List.length_append]
    exact hlength
  · rwa [List.length_append]
  · simpa using h.follows

variable {C : JournalStore → Prop} {freshID : AuthorityIdentifier}

theorem wp_writeJournal {head data} (h : Files s g data head none)
    (hne : data ≠ some []) (hlength : length = (data.getD []).length)
    {Q : Except JournalFailure Unit → JournalStore → Prop} :
    (writeJournal g length frame).wp C Q s ↔
      let written := s.put (.journal g) ⟨data.getD [] ++ frame, true⟩
      C written ∧ Q (.ok ()) written := by
  subst hlength
  cases data with
  | none =>
    rw [writeJournal, if_pos (by simp), wp_createExclusive h.journal_eq]
    simp
  | some b =>
    have hpos : ¬b.length = 0 := fun hz ↦ hne (congrArg some (List.length_eq_zero_iff.mp hz))
    have hf := h.journal_eq
    simp only [Option.map_some] at hf
    simp only [writeJournal, Option.getD_some, if_neg hpos, wp_run, hf, unwrap, require, if_true,
      wp_step]

/-- A store in which `next` can become a record of generation `g`. -/
structure Target (decoder : JSONDecoder) (s : JournalStore) (storeID : AuthorityIdentifier)
    (before : Option AuthorityJournalAnchorCursor) (old : Option (Bytes × AuthorityJournalHead))
    (g : UInt64) (prior : Option AuthorityCommittedState) (next : AuthorityCommittedState) :
    Prop where
  keychain_eq : s.keychain = .ok (some (settledAnchor storeID before))
  settled : Settled decoder s prior
  tidy : Tidy s storeID g
  files : Files s g (old.map (·.1)) (old.map (·.2.text)) none
  extend : ∃ records, Extends decoder old next records
  origin : ∀ p : AuthorityJournalAnchorCursor, p.generation = g → Origin decoder s p before old prior
  advances : ∀ p : AuthorityJournalAnchorCursor, p.generation = g → p.stateRevision = next.revision →
    checkedSucc (linkTo (old.map (·.2))).priorSequence = some p.sequence →
    (linkTo (old.map (·.2))).oldLength < p.committedLength →
    AuthorityJournalAnchorCursor.Advances before p
  generation_pos : 0 < g

def Appended (decoder : JSONDecoder) (storeID : AuthorityIdentifier) (g : UInt64)
    (old : Option (Bytes × AuthorityJournalHead)) (next : AuthorityCommittedState)
    (t : JournalStore) : Prop :=
  ∃ cursor journal, Committed decoder t storeID cursor journal next ∧ cursor.generation = g ∧
    PointsAfter cursor (linkTo (old.map (·.2))) next

theorem commitRecord_wp (h : Target decoder s storeID before old g prior next) (hp : P prior)
    (hn : P (some next)) (hgeneration : cursor.generation = g)
    (hadvances : AuthorityJournalAnchorCursor.Advances before cursor)
    (hends : EndsAt decoder cursor ((old.map (·.1)).getD [] ++ frame) next)
    (hlength : length = ((old.map (·.1)).getD []).length) :
    (commitRecord (settledAnchor storeID before) g cursor cursor.head length frame).wp
      (LeadsTo decoder P) (fun r t ↦ r = .ok () ∧
        Committed decoder t storeID cursor ((old.map (·.1)).getD [] ++ frame) next) s := by
  subst hgeneration
  obtain ⟨_, hd⟩ := hends.describes
  have hne : old.map (·.1) ≠ some [] := h.extend.elim fun _ he ↦ he.ne_nil
  let anchor : AuthorityJournalAnchor :=
    { storeID, committed := before, pending := some cursor, advances := by simpa using hadvances }
  have hanchor : AuthorityJournalAnchor.new (settledAnchor storeID before).storeID
      (settledAnchor storeID before).committed (some cursor) = .ok anchor :=
    AuthorityJournalAnchor.new_eq_ok.mpr ⟨rfl, rfl, rfl⟩
  -- The four stores that the append passes through before its last step.
  have hpending : Pending decoder (s.setAnchor anchor) anchor cursor old
      ((old.map (·.1)).getD [] ++ frame) prior next :=
    ⟨rfl, rfl, h.tidy.congr fun _ ↦ rfl, hends,
      (h.origin cursor rfl).congr fun _ _ ↦ rfl⟩
  have hfiles : Files (s.setAnchor anchor) cursor.generation (old.map (·.1)) (old.map (·.2.text))
      none := h.files.congr fun _ _ ↦ rfl
  have hfwritten := hfiles.put_journal hd.small
  have hwritten : Pending decoder ((s.setAnchor anchor).put (.journal cursor.generation)
      ⟨(old.map (·.1)).getD [] ++ frame, true⟩) anchor cursor old _ prior next := hpending.put rfl
  have hhead : Pending decoder (JournalStore.put _ (.temporaryHead cursor.generation)
      ⟨cursor.head.text, true⟩) anchor cursor old _ prior next := hwritten.put rfl
  have hfhead := hfwritten.put_temporaryHead cursor.head
  have hreplaced := hhead.rename hfhead.temporary_eq
  have hfreplaced := hfhead.rename_temporaryHead
  have hcommitted := hreplaced.promote hfreplaced
  simp only [commitRecord, anchoring, validating, hanchor, wp_run, wp_compareAndSwap h.keychain_eq,
    wp_writeJournal hfiles hne hlength, encodeHead_eq,
    wp_replaceHead hfwritten, new_settledAnchor, wp_compareAndSwap hreplaced.keychain_eq]
  exact ⟨.announced hpending hfiles hp, .written hwritten (.journalWritten hfwritten) hn,
    .written hhead (.headWritten hfhead) hn, .written hreplaced (.headReplaced hfreplaced) hn,
    .settled (.committed hcommitted) hn, trivial, hcommitted⟩

theorem length_nextFrame_le (link : Link) (next) : (nextFrame link next).length ≤ 2048 := by
  have htext := next.length_text_le
  rw [nextFrame, LogFormat.length_logFrame, LogFormat.headerBytes]
  omega

def Room (capacity : RecordCapacity) (link : Link) (next : AuthorityCommittedState) : Prop :=
  link.priorSequence < capacity.records ∧
    link.oldLength.toNat + (nextFrame link next).length ≤ maximumJournalBytes

theorem room_of_first (capacity) (next) : Room capacity (linkTo none) next := by
  have hframe := length_nextFrame_le (linkTo none) next
  have hzero : (linkTo none).oldLength.toNat = 0 := rfl
  have hmax : maximumJournalBytes = 33554432 := rfl
  exact ⟨UInt64.lt_iff_toNat_lt.mpr (Nat.lt_of_le_of_lt (Nat.zero_le _) capacity.room), by omega⟩

def Full (capacity : RecordCapacity) (cursor : AuthorityJournalAnchorCursor)
    (next : AuthorityCommittedState) : Prop :=
  capacity.records.toNat ≤ cursor.sequence.toNat ∨ next.transition = .prepare ∧
    capacity.records.toNat - minimumLifecycleFinishRecords ≤
      cursor.sequence.toNat

/-- The number of records decides about the compaction: the bytes would only be too many later. -/
theorem shouldCompact_eq_true (state) (hfull : Full capacity cursor next) :
    shouldCompact capacity next (recoveryAt cursor state) = .ok true := by
  have hsequence : cursor.head.sequence = cursor.sequence := rfl
  simp only [shouldCompact, recoveryAt, hsequence, UInt64.le_iff_toNat_le]
  rcases hfull with hfull | hfull
  · rw [if_pos hfull]
    rfl
  · by_cases hle : capacity.records.toNat ≤ cursor.sequence.toNat
    · rw [if_pos hle]
      rfl
    · rw [if_neg hle, if_pos hfull]
      rfl

theorem shouldCompact_eq_false (h : EndsAt decoder cursor journal state)
    (hfull : ¬Full capacity cursor next) :
    shouldCompact capacity next (recoveryAt cursor state) = .ok false ∧
      Room capacity (linkTo (some cursor.head)) next := by
  obtain ⟨hlt, hprepare⟩ := not_or.mp hfull
  have hlength := h.length_le
  have hframe := length_nextFrame_le (linkTo (some cursor.head)) next
  have hbounded := capacity.bounded
  have hrecords : maximumRecords = 4096 := rfl
  have hbytes : maximumJournalBytes = 33554432 := rfl
  have hreserve : minimumLifecycleFinishRecords *
    (headerBytes + maximumRecordPayloadBytes) = 459368 := rfl
  have hmax : cursor.head.sequence < maxWord := lt_maxWord_iff.mpr (by
    change cursor.sequence.toNat + 1 < _
    omega)
  have hencode := encodeRecord_eq_nextFrame (linkTo (some cursor.head)) next hmax
  rw [linkTo_some] at hframe hencode ⊢
  simp only [Room, shouldCompact, recoveryAt] at hframe hencode ⊢
  generalize nextFrame _ next = frame at hencode hframe ⊢
  have hafter : shouldCompactAfter next cursor.head frame = false := by
    change cursor.head.committedLength.toNat ≤ _ at hlength
    simp only [shouldCompactAfter, decide_eq_false_iff_not, not_or]
    exact ⟨by omega, fun h ↦ by omega⟩
  have hroom : cursor.head.sequence < capacity.records := by
    exact Nat.lt_of_not_le hlt
  refine ⟨?_, hroom, ?_⟩
  · rw [if_neg (UInt64.not_le.mpr hroom)]
    refine (if_neg hprepare).trans ?_
    rw [hencode]
    exact congrArg Except.ok hafter
  · change cursor.head.committedLength.toNat ≤ _ at hlength
    omega

section Append

variable (h : Target decoder s storeID before old g prior next)
  {recovery : AuthorityJournalRecovery} (hrecovery : recovery.head = old.map (·.2)) (hp : P prior)
include h hrecovery hp

theorem append_wp_of_room (hroom : Room capacity (linkTo (old.map (·.2))) next)
    (hn : P (some next)) :
    (append capacity next recovery (settledAnchor storeID before) g).wp (LeadsTo decoder P)
      (fun r t ↦ (∃ head, r = .ok head) ∧ Appended decoder storeID g old next t) s := by
  obtain ⟨hcapacity, hsmall⟩ := hroom
  obtain ⟨records, hextends⟩ := h.extend
  have hrecords := Nat.lt_of_lt_of_le (UInt64.lt_iff_toNat_lt.mp hcapacity) capacity.bounded
  obtain ⟨c, hgeneration, hc⟩ := exists_pointsAfter _ next hrecords hsmall h.generation_pos
  obtain ⟨hmax, -⟩ := checkedSucc_eq_some.mp hc.checkedSucc_priorSequence
  have hadvances := h.advances c hgeneration hc.revision_eq hc.checkedSucc_priorSequence
    hc.oldLength_lt
  have hcommit := commitRecord_wp h hp hn hgeneration hadvances (hextends.endsAt hc)
    hextends.length_eq
  simp only [append, hrecovery]
  generalize hlink : linkTo (old.map (·.2)) = link at *
  have hbytes : link.oldLength.toNat ≤ maximumJournalBytes ∧ (nextFrame link next).length ≤
        maximumJournalBytes - link.oldLength.toNat := by omega
  have hhead : AuthorityJournalHead.new (link.priorSequence + 1)
      (link.oldLength + UInt64.ofNat (nextFrame link next).length)
      (Sha256.hash (nextFrame link next)) = .ok c.head :=
    AuthorityJournalHead.new_eq_ok.mpr ⟨hc.sequence_eq, hc.length_eq, hc.digest_eq⟩
  have hcursor : AuthorityJournalAnchorCursor.new g c.head.sequence c.head.committedLength
      c.head.recordSHA256 next.revision = .ok c :=
    AuthorityJournalAnchorCursor.new_eq_ok.mpr ⟨hgeneration, rfl, rfl, rfl, hc.revision_eq⟩
  simp only [require, if_pos hcapacity, validating, encodeRecord_eq_nextFrame _ next hmax, wp_run,
    if_pos hbytes, hhead, anchoring, hcursor]
  refine wp_post hcommit ?_
  rintro r t ⟨rfl, ht⟩
  rw [after_ok, wp_pure]
  exact ⟨⟨_, rfl⟩, c, _, ht, hgeneration, hlink ▸ hc⟩

end Append

variable (h : Committed decoder s storeID cursor journal state)

include h in
theorem Committed.target (hf : Follows state next) :
    Target decoder s storeID (some cursor) (some (journal, cursor.head)) cursor.generation
      (some state) next where
  keychain_eq := h.keychain_eq
  settled := .committed h
  tidy := h.tidy
  files := h.files
  extend := extends_some h.endsAt hf
  origin p hp := .continued hp.symm h.endsAt
  advances p hp hrevision hsequence hlength := by
    have hfollows := hf.2.1
    rw [h.endsAt.revision_eq, ← hrevision] at hfollows
    rw [AuthorityJournalAnchorCursor.Advances, if_pos hp]
    exact ⟨hsequence, hfollows, hlength⟩
  generation_pos := cursor.generation_pos

theorem Tidy.files_of_lt {top} (h : Tidy s storeID top) (hlt : top < g) :
    Files s g none none none := by
  have hnone : ∀ name : EntryName, name.generation = some g → s.lookup name = none := by
    intro name hname
    cases hf : s.lookup name with
    | none => rfl
    | some file => exact absurd hlt (UInt64.not_lt.mpr (h.entries name file hf g hname).1)
  exact ⟨hnone _ rfl, hnone _ rfl, hnone _ rfl, by simp, by simp, by simp⟩

include h in
theorem Committed.checkpoint_target (hmax : cursor.generation < maxWord)
    (hrevision : next.revision = state.revision) :
    Target decoder s storeID (some cursor) none (cursor.generation + 1) (some state) next where
  keychain_eq := h.keychain_eq
  settled := .committed h
  tidy := h.tidy.raise (UInt64.le_of_lt (lt_add_one hmax))
  files := h.tidy.files_of_lt (lt_add_one hmax)
  extend := ⟨[], extends_none⟩
  origin p hp := .opened (fun he ↦ UInt64.ne_of_lt (lt_add_one hmax) (he.trans hp)) h.files h.endsAt
  advances p hp hrev hsequence _ := by
    have hne : ¬p.generation = cursor.generation := fun he ↦
      UInt64.ne_of_lt (lt_add_one hmax) (he.symm.trans hp)
    obtain ⟨-, hone⟩ := checkedSucc_eq_some.mp hsequence
    rw [AuthorityJournalAnchorCursor.Advances, if_neg hne]
    refine ⟨checkedSucc_eq_some.mpr ⟨hmax, hp.symm⟩, hone.symm, ?_⟩
    rw [hrev, hrevision, h.endsAt.revision_eq]
  generation_pos := UInt64.lt_of_lt_of_le cursor.generation_pos (UInt64.le_of_lt (lt_add_one hmax))

theorem Vacant.target (h : Vacant s) (hk : s.keychain = .ok (some (settledAnchor storeID none)))
    (hm : s.lookup .storeMarker = some ⟨markerData storeID, true⟩) :
    Target decoder s storeID none none 1 none next := by
  have htidy : Tidy s storeID 0 := ⟨h.no_legacy, hm, h.wellFormed, fun name file hf g hg ↦ by
    simp [h.entries name file hf] at hg⟩
  refine ⟨hk, .vacant h, htidy.raise (by decide), htidy.files_of_lt (by decide), ⟨[], extends_none⟩,
    fun p _ ↦ .first, fun p hp _ hsequence _ ↦ ?_, by decide⟩
  obtain ⟨-, hone⟩ := checkedSucc_eq_some.mp hsequence
  exact ⟨hp, hone.symm⟩

theorem checkpoint_eq_ok (h : checkpoint state = .ok record) :
    record.installationID = state.installationID ∧ record.epoch = state.epoch ∧
      record.generation = state.generation ∧ record.revision = state.revision ∧
      record.transition = .checkpoint ∧ record.state = state.state :=
  have hfields := AuthorityCommittedState.new_eq_ok.mp h
  ⟨hfields.1, hfields.2.1, hfields.2.2.1, hfields.2.2.2.1, hfields.2.2.2.2.1, hfields.2.2.2.2.2.1⟩

theorem Restartable.checkpoint (h : Restartable state) (hc : checkpoint state = .ok record) :
    Restartable record := by
  obtain ⟨-, -, -, -, htransition, hstate⟩ := checkpoint_eq_ok hc
  obtain ⟨action, ha⟩ := h
  unfold Restartable
  simp only [restartPosture] at ha ⊢
  rw [hstate, htransition]
  cases hs : state.state <;> simp_all

theorem follows_of_checkpoint (h : Follows state next) (hc : checkpoint state = .ok record) :
    Follows record next := by
  obtain ⟨hinstallation, hepoch, hgeneration, hrevision, -, -⟩ := checkpoint_eq_ok hc
  simpa only [Follows, hinstallation, hepoch, hgeneration, hrevision] using h

/-- What compaction asks of the last record: another generation, and a record that can be repeated
as a checkpoint. -/
def Compactable (cursor : AuthorityJournalAnchorCursor) (state : AuthorityCommittedState) : Prop :=
  cursor.generation < maxWord ∧ state.transition ≠ .enrollOff

theorem exists_checkpoint (h : state.transition ≠ .enrollOff) : ∃ record, checkpoint state = .ok record :=
  ⟨{ state with
      transition := .checkpoint
      enroll_genesis := by simp
      root_pos := fun _ ↦ state.root_pos h }, AuthorityCommittedState.new_eq_ok.mpr (by simp)⟩

include h in
theorem compact_wp (hp : P (some state))
    (hc : ∀ record, checkpoint state = .ok record → P (some record))
    (hcompactable : Compactable cursor state) :
    (compact capacity state (settledAnchor storeID (some cursor))).wp (LeadsTo decoder P)
      (fun r t ↦ ∃ cursor' journal' record, checkpoint state = .ok record ∧
        Committed decoder t storeID cursor' journal' record ∧ cursor'.sequence = 1 ∧
        r = .ok (settledAnchor storeID (some cursor'))) s := by
  obtain ⟨record, hrecord⟩ := exists_checkpoint hcompactable.2
  have htarget := h.checkpoint_target hcompactable.1 (checkpoint_eq_ok hrecord).2.2.2.1
  have hcommitted : (settledAnchor storeID (some cursor)).committed = some cursor := rfl
  have hguard : cursor.generation < maxWord ∧ state.transition ≠ .enrollOff := hcompactable
  simp only [compact, hcommitted, unwrap, require, if_pos hguard, validating, hrecord, wp_run]
  refine wp_post (append_wp_of_room htarget rfl hp (room_of_first capacity record) (hc record hrecord)) ?_
  rintro r t ⟨⟨head, rfl⟩, cursor', journal', hcommit, hgeneration, hpoints⟩
  have hnew : (settledAnchor storeID (some cursor')).pending = none ∧
      ∃ c ∈ (settledAnchor storeID (some cursor')).committed,
        c.generation = cursor'.generation := ⟨rfl, cursor', rfl, rfl⟩
  simp only [wp_run, wp_load, hcommit.keychain_eq, ← hgeneration]
  rw [if_pos hnew, after_ok, wp_bind]
  refine wp_post (enforceGenerationRetention_wp hcommit (hc record hrecord)) ?_
  rintro r u ⟨rfl, hu⟩
  rw [after_ok, wp_pure]
  exact ⟨cursor', journal', record, rfl, hu, hpoints.sequence_eq, rfl⟩

theorem wp_compact_of_not_compactable (h : ¬Compactable cursor state) {Q} :
    (compact capacity state (settledAnchor storeID (some cursor))).wp C Q s ↔
      Q (.error (.storage .capacityExhausted)) s := by
  have hcommitted : (settledAnchor storeID (some cursor)).committed = some cursor := rfl
  have hguard : ¬(cursor.generation < maxWord ∧ state.transition ≠ .enrollOff) := h
  simp [compact, hcommitted, unwrap, require, if_neg hguard]

/-- The journal has no room for `next`, and none can be made. -/
def Exhausted (capacity : RecordCapacity) (cursor : AuthorityJournalAnchorCursor)
    (state next : AuthorityCommittedState) : Prop :=
  Full capacity cursor next ∧ ¬Compactable cursor state

include h in
/-- Compaction may replace the last record by its checkpoint; `next` still follows it, and has room. -/
theorem makeRoom_wp (hf : Follows state next) (hr : Restartable state) (hp : P (some state))
    (hc : ∀ record, checkpoint state = .ok record → P (some record)) :
    (makeRoom decoder capacity next (recoveryAt cursor state)
      (settledAnchor storeID (some cursor))).wp (LeadsTo decoder P)
      (fun r t ↦ (r = .error (.storage .capacityExhausted) ∧ t = s ∧ Exhausted capacity cursor state next) ∨
        ¬Exhausted capacity cursor state next ∧ ∃ cursor' journal' state',
          r = .ok (recoveryAt cursor' state', settledAnchor storeID (some cursor')) ∧
          Committed decoder t storeID cursor' journal' state' ∧ Follows state' next ∧ P (some state') ∧
          Room capacity (linkTo (some cursor'.head)) next ∧
          (¬Full capacity cursor next → cursor' = cursor ∧ journal' = journal)) s := by
  have hcommitted : (recoveryAt cursor state).committedState = some state := rfl
  simp only [makeRoom, hcommitted]
  by_cases hfull : Full capacity cursor next
  · simp only [validating, shouldCompact_eq_true state hfull, wp_run, if_true]
    by_cases hcompactable : Compactable cursor state
    · refine wp_post (compact_wp h hp hc hcompactable) ?_
      rintro r t ⟨cursor', journal', record, hrecord, hcommit, hone, rfl⟩
      have hnotfull : ¬Full capacity cursor' next := by
        have hroom := capacity.room
        rw [Full, hone]
        have : (1 : UInt64).toNat = 1 := rfl
        omega
      rw [after_ok, wp_bind, wp_recoveryForCommittedAnchor hcommit,
        verdict_of_restartable (hr.checkpoint hrecord), after_ok, wp_pure, after_ok,
        wp_pure]
      exact .inr ⟨fun h ↦ h.2 hcompactable, cursor', journal', record, rfl, hcommit,
        follows_of_checkpoint hf hrecord, hc record hrecord,
        (shouldCompact_eq_false hcommit.endsAt hnotfull).2, fun h ↦ absurd hfull h⟩
    · rw [wp_compact_of_not_compactable hcompactable]
      exact .inl ⟨rfl, rfl, hfull, hcompactable⟩
  · obtain ⟨hshould, hroom⟩ := shouldCompact_eq_false h.endsAt hfull
    simp only [validating, hshould, wp_run, Bool.false_eq_true, if_false]
    exact .inr ⟨fun h ↦ hfull h.1, cursor, journal, state, rfl, h, hf, hp, hroom, fun _ ↦ ⟨rfl, rfl⟩⟩

theorem ensureAnchorForAppend_wp (h : Vacant s) (hp : P none) :
    (ensureAnchorForAppend freshID emptyRecovery).wp (LeadsTo decoder P)
      (fun r t ↦ ∃ storeID, r = .ok (settledAnchor storeID none) ∧ Vacant t ∧
        t.keychain = .ok (some (settledAnchor storeID none))) s := by
  simp only [ensureAnchorForAppend, wp_bind, wp_load]
  rcases h.anchor with ⟨hk, hm⟩ | ⟨storeID, hk, -⟩
  · have hcreated : Vacant (s.setAnchor (settledAnchor freshID none)) :=
      ⟨h.no_legacy, h.wellFormed, h.entries, .inr ⟨freshID, rfl, by simp [hm]⟩⟩
    simp only [hk, wp_run, wp_entryExists, hm, Option.isSome_none, emptyRecovery, and_self, require,
      if_true, anchoring, new_settledAnchor, wp_compareAndSwap hk]
    exact ⟨.settled (.vacant hcreated) hp, freshID, rfl, hcreated, rfl⟩
  · simp only [hk, wp_run, settledAnchor, emptyRecovery, require, if_true]
    exact ⟨storeID, rfl, h, rfl⟩

theorem Vacant.put_marker (h : Vacant s)
    (hk : s.keychain = .ok (some (settledAnchor storeID none))) :
    Vacant (s.put .storeMarker ⟨markerData storeID, true⟩) := by
  have hentry : ∀ name file, (s.put .storeMarker ⟨markerData storeID, true⟩).lookup name = some file →
      name = .storeMarker ∨ s.lookup name = some file := by
    intro name file hf
    rw [JournalStore.lookup_put] at hf
    split at hf
    · next heq => exact .inl heq
    · exact .inr hf
  refine ⟨fun name hn ↦ ?_, fun name file hf ↦ ?_, fun name file hf ↦ ?_,
    .inr ⟨storeID, hk, by simp [JournalStore.lookup_put]⟩⟩
  · rw [JournalStore.lookup_put, if_neg]
    · exact h.no_legacy name hn
    · rintro rfl
      simp [legacyNames] at hn
  · rcases hentry name file hf with rfl | hf
    · rfl
    · exact h.wellFormed name file hf
  · rcases hentry name file hf with rfl | hf
    · rfl
    · exact h.entries name file hf

theorem ensureStoreMarker_wp (h : Vacant s)
    (hk : s.keychain = .ok (some (settledAnchor storeID none))) (hp : P none) :
    (ensureStoreMarker storeID).wp (LeadsTo decoder P)
      (fun r t ↦ r = .ok () ∧ Vacant t ∧ t.keychain = .ok (some (settledAnchor storeID none)) ∧
        t.lookup .storeMarker = some ⟨markerData storeID, true⟩) s := by
  have hmarker : ∀ file ∈ s.lookup .storeMarker, file = ⟨markerData storeID, true⟩ := by
    rcases h.anchor with ⟨hnone, -⟩ | ⟨id, hsome, hm⟩
    · simp [hnone] at hk
    · have hid := Option.some.inj (Except.ok.inj (hsome.symm.trans hk))
      simp only [settledAnchor, AuthorityJournalAnchor.mk.injEq, and_true] at hid
      exact hid ▸ hm
  simp only [ensureStoreMarker, wp_run, wp_entryExists]
  cases hm : s.lookup .storeMarker with
  | some file =>
    obtain rfl := hmarker file hm
    rw [Option.isSome_some, if_pos rfl, wp_verifyStoreMarker hm]
    exact ⟨rfl, h, hk, hm⟩
  | none =>
    have hmarked := h.put_marker hk
    rw [if_neg (by simp), wp_createExclusive hm]
    exact ⟨.settled (.vacant hmarked) hp, rfl, hmarked, hk, by simp [JournalStore.lookup_put]⟩

theorem validateCommit_some (h : validateCommit next (some state) = .ok ()) : Follows state next := by
  simp only [validateCommit, ok_iff, exists_const] at h
  obtain ⟨hinstallation, revision, hrevision, rfl, hroot⟩ := h
  exact ⟨hinstallation, hrevision, hroot⟩

/-- What an append that is given up at any point leaves: the history before it, that history
compacted, or the one that it was to commit. -/
def Outcome (prior : Option AuthorityCommittedState) (next : AuthorityCommittedState)
    (final : Option AuthorityCommittedState) : Prop :=
  final = prior ∨ (∃ state record, prior = some state ∧ checkpoint state = .ok record ∧
    final = some record) ∨ final = some next

theorem appendFirst_wp (h : Vacant s) (hp : P none) (hn : P (some next)) :
    (appendRecovered decoder capacity freshID next emptyRecovery).wp (LeadsTo decoder P)
      (fun r t ↦ (∃ head, r = .ok head) ∧ ∃ storeID, Appended decoder storeID 1 none next t) s := by
  rw [appendRecovered, wp_bind]
  refine wp_post (ensureAnchorForAppend_wp h hp) ?_
  rintro r t ⟨storeID, rfl, hvacant, hk⟩
  rw [after_ok, wp_bind]
  refine wp_post (ensureStoreMarker_wp hvacant hk hp) ?_
  rintro r u ⟨rfl, hvacant, hk, hm⟩
  rw [after_ok, makeRoom, emptyRecovery, wp_bind, wp_pure, after_ok]
  refine wp_post (append_wp_of_room (hvacant.target hk hm) rfl hp
    (room_of_first capacity next) hn) ?_
  exact fun r t ht ↦ ⟨ht.1, storeID, ht.2⟩

include h in
theorem wp_appendRecovered {Q} :
    (appendRecovered decoder capacity freshID next (recoveryAt cursor state)).wp C Q s ↔
      (makeRoom decoder capacity next (recoveryAt cursor state)
        (settledAnchor storeID (some cursor))).wp C (after (fun p ↦ append capacity next p.1 p.2
          ((p.2.committed.map (·.generation)).getD 1)) C Q) s := by
  have hanchor : (recoveryAt cursor state).committedState = none ↔
      (settledAnchor storeID (some cursor)).committed = none := by
    simp [recoveryAt, settledAnchor]
  have hnone : (settledAnchor storeID (some cursor)).pending = none := rfl
  rw [appendRecovered]
  simp only [ensureAnchorForAppend, wp_run, wp_load, h.keychain_eq, hnone, require, if_true,
    if_pos hanchor]
  rw [ensureStoreMarker, wp_bind, wp_entryExists, h.tidy.marker_isSome]
  exact (wp_verifyStoreMarker h.tidy.marker).trans wp_bind

include h in
/-- Every later append either commits its record or finds the journal exhausted. -/
theorem appendNext_wp (hr : Restartable state) (hf : Follows state next) (hp : P (some state))
    (hc : ∀ record, checkpoint state = .ok record → P (some record)) (hn : P (some next)) :
    (appendRecovered decoder capacity freshID next (recoveryAt cursor state)).wp (LeadsTo decoder P)
      (fun r t ↦ (r = .error (.storage .capacityExhausted) ∧ t = s ∧ Exhausted capacity cursor state next) ∨
        (∃ head, r = .ok head) ∧ ¬Exhausted capacity cursor state next ∧ Settled decoder t (some next) ∧
          (¬Full capacity cursor next →
            Appended decoder storeID cursor.generation (some (journal, cursor.head)) next t)) s := by
  rw [wp_appendRecovered h]
  refine wp_post (makeRoom_wp h hf hr hp hc) ?_
  rintro r t (⟨rfl, rfl, hexhausted⟩ | ⟨hnot, cursor', journal', state', rfl, hcommitted, hf', hp', hroom,
    hsame⟩)
  · exact .inl ⟨rfl, rfl, hexhausted⟩
  · rw [after_ok]
    refine wp_post (append_wp_of_room (hcommitted.target hf') rfl hp' hroom hn) ?_
    rintro r u ⟨hok, happended⟩
    refine .inr ⟨hok, hnot, ?_, fun hfull ↦ ?_⟩
    · obtain ⟨_, _, hu, -, -⟩ := happended
      exact .committed hu
    · obtain ⟨rfl, rfl⟩ := hsame hfull
      exact happended

def Ready (prior : Option AuthorityCommittedState) : Prop := ∀ state ∈ prior, Restartable state

theorem Ready.restartable (h : Ready prior) (state) (hs : some state = prior) :
    Restartable state := h state hs.symm

theorem appendCommitted_wp (h : LeadsTo decoder (· = prior) s) (hready : Ready prior) :
    (appendCommitted decoder capacity freshID next).wp (LeadsTo decoder (Outcome prior next))
      (keeps (LeadsTo decoder (Outcome prior next)) fun _ t ↦ Settled decoder t (some next)) s := by
  refine wp_bind_keeps (P := fun recovery t ↦ Recovered decoder t recovery ∧
    recovery.committedState = prior) ?_ fun recovery t ht hrecovery ↦ ?_
  · rw [wp_handle]
    refine wp_mono (recoverLocked_wp_restartable h hready.restartable)
      (fun t ht ↦ ht.mono fun o ho ↦ .inl ho) ?_
    rintro r t ⟨recovery, rfl, hrecovered, rfl⟩
    exact ⟨.settled hrecovered.settled (.inl rfl), hrecovered, rfl⟩
  · refine wp_attempt_bind_keeps ht fun _ _ ↦ wp_attempt_bind_keeps ht fun _ hvalid ↦ ?_
    obtain ⟨hrecovered, rfl⟩ := hrecovery
    cases hrecovered with
    | vacant hv =>
      refine wp_post (appendFirst_wp hv (.inl rfl) (.inr (.inr rfl))) ?_
      rintro r u ⟨⟨head, rfl⟩, storeID, cursor, journal, hcommitted, -, -⟩
      exact ⟨.settled (.committed hcommitted) (.inr (.inr rfl)), .committed hcommitted⟩
    | committed hc hr =>
      refine wp_post (appendNext_wp hc hr (validateCommit_some hvalid) (.inl rfl)
        (fun record hrecord ↦ .inr (.inl ⟨_, record, rfl, hrecord, rfl⟩)) (.inr (.inr rfl))) ?_
      rintro r u (⟨rfl, rfl, -⟩ | ⟨⟨head, rfl⟩, -, hsettled, -⟩)
      · exact ht
      · exact ⟨.settled hsettled (.inr (.inr rfl)), hsettled⟩

include h in
theorem appendCommitted_wp_of_committed (hr : Restartable state)
    (hv : validateCommit next (some state) = .ok ()) :
    (appendCommitted decoder capacity freshID next).wp (LeadsTo decoder fun _ ↦ True)
      (fun r t ↦ (r = .error (.storage .capacityExhausted) ∧ Exhausted capacity cursor state next) ∨
        (∃ head, r = .ok head) ∧ ¬Exhausted capacity cursor state next ∧ Settled decoder t (some next) ∧
          (¬Full capacity cursor next →
            Appended decoder storeID cursor.generation (some (journal, cursor.head)) next t)) s := by
  obtain ⟨action, ha⟩ := hr
  have hrecovering : requireRecovering (recoveryAt cursor state) = .ok () := by
    simp only [recoveryAt, ha]
    rfl
  rw [appendCommitted, wp_bind, wp_handle]
  refine wp_mono (recoverLocked_wp_committed h ⟨action, ha⟩) (fun _ h ↦ h.mono fun _ _ ↦ trivial) ?_
  rintro r t ⟨rfl, ht⟩
  have hvalid : validateCommit next (recoveryAt cursor state).committedState = .ok () := hv
  simp only [handled, wp_run, hrecovering, hvalid]
  refine wp_post (appendNext_wp ht ⟨action, ha⟩ (validateCommit_some hv) trivial (fun _ _ ↦ trivial)
    trivial) ?_
  rintro r u (⟨rfl, -, hexhausted⟩ | hcommitted)
  · exact .inl ⟨rfl, hexhausted⟩
  · exact .inr hcommitted

theorem LeadsTo.exact (h : LeadsTo decoder P s) : ∃ prior, P prior ∧ LeadsTo decoder (· = prior) s := by
  cases h with
  | settled h hp => exact ⟨_, hp, .settled h rfl⟩
  | announced h files hp => exact ⟨_, hp, .announced h files rfl⟩
  | written h progress hs => exact ⟨_, hs, .written h progress rfl⟩

theorem Ready.outcome (h : Ready prior) (hn : Restartable next) {final}
    (ho : Outcome prior next final) : Ready final := by
  rcases ho with rfl | ⟨state, record, rfl, hrecord, rfl⟩ | rfl
  · exact h
  · rintro _ ⟨⟩
    exact (h state rfl).checkpoint hrecord
  · exact fun x hx ↦ hn.ready x hx.symm

/-- The stores that appends and recoveries may come to, whether they complete or not, from a store
with a valid history. -/
inductive Reached (decoder : JSONDecoder) (capacity : RecordCapacity) : JournalStore → Prop
  | settled {s : JournalStore} {prior : Option AuthorityCommittedState}
      (h : Settled decoder s prior) (hr : Ready prior) : Reached decoder capacity s
  | append {s t freshID state} (h : Reached decoder capacity s) (hr : Restartable state)
      (hc : Crash (appendCommitted decoder capacity freshID state) s t) : Reached decoder capacity t
  | recover {s t : JournalStore} (h : Reached decoder capacity s) (hc : Crash (recover decoder) s t) :
      Reached decoder capacity t

theorem Reached.leadsTo (h : Reached decoder capacity s) :
    ∃ prior, Ready prior ∧ LeadsTo decoder (· = prior) s := by
  induction h with
  | settled h hr => exact ⟨_, hr, .settled h rfl⟩
  | append _ hr hc ih =>
    obtain ⟨prior, hready, hleads⟩ := ih
    have hcrash := hc.of_wp (hleads.mono fun o ho ↦ .inl ho) (appendCommitted_wp hleads hready)
    obtain ⟨final, hfinal, hleads⟩ := hcrash.exact
    exact ⟨final, hready.outcome hr hfinal, hleads⟩
  | recover _ hc ih =>
    obtain ⟨prior, hready, hleads⟩ := ih
    exact ⟨prior, hready, hc.of_wp hleads (recover_wp hready.restartable hleads)⟩

/-- What the recovery that completes from `s` does: it answers with a history in `P`, does not
quarantine the Authority, and leaves nothing pending. -/
structure Recovers (decoder : JSONDecoder) (P : Option AuthorityCommittedState → Prop)
    (s : JournalStore) (recovery : AuthorityJournalRecovery) : Prop where
  returns : (recover decoder s).result = .ok recovery
  within : P recovery.committedState
  recovering : ∃ action, recovery.posture = .recovering action
  settled : ∀ anchor, ((recover decoder).final s).keychain = .ok (some anchor) →
    anchor.pending = none

theorem LeadsTo.recovers (h : LeadsTo decoder P s) (hP : ∀ state, P (some state) → Restartable state) :
    ∃ recovery, Recovers decoder P s recovery := by
  obtain ⟨-, recovery, hresult, hrecovered, hp⟩ := recover_wp hP h
  exact ⟨recovery, hresult, hp, hrecovered.recovering, fun _ hk ↦ hrecovered.no_pending hk⟩

theorem appendCommitted_wp_of_vacant (h : Vacant s) (hv : validateCommit next none = .ok ()) :
    (appendCommitted decoder capacity freshID next).wp (LeadsTo decoder fun _ ↦ True)
      (fun r t ↦ (∃ head, r = .ok head) ∧ ∃ storeID, Appended decoder storeID 1 none next t) s := by
  have hleads : LeadsTo decoder (· = none) s := .settled (.vacant h) rfl
  rw [appendCommitted, wp_bind, wp_handle]
  refine wp_mono (recoverLocked_wp_restartable hleads nofun) (fun _ h ↦ h.mono fun _ _ ↦ trivial) ?_
  rintro r t ⟨recovery, rfl, hrecovered, hnone⟩
  cases hrecovered with
  | committed => cases hnone
  | vacant ht =>
    have hvalid : validateCommit next emptyRecovery.committedState = .ok () := hv
    simp only [handled, wp_run, hvalid]
    exact appendFirst_wp ht trivial trivial

section Samples

def freshStore : JournalStore where
  files := ∅
  keychain := .ok none

theorem vacant_freshStore : Vacant freshStore := by
  have hnone : ∀ name, freshStore.lookup name = none := fun name ↦ AList.lookup_empty name
  exact ⟨fun name _ ↦ hnone name, by simp [hnone], by simp [hnone], .inl ⟨rfl, hnone _⟩⟩

def sampleEnrolled : AuthorityCommittedState where
  installationID := .fill 16 1
  epoch := 0
  generation := 0
  revision := 1
  transition := .enrollOff
  state := .off
  operation := none
  revision_pos := by decide
  off_no_operation := by simp
  enroll_genesis := by simp
  root_pos := by simp

def sampleRecovering : AuthorityCommittedState where
  installationID := .fill 16 1
  epoch := 1
  generation := 1
  revision := 2
  transition := .reconcileOff
  state := .recovering
  operation := none
  revision_pos := by decide
  off_no_operation := by simp
  enroll_genesis := by simp
  root_pos := by decide

noncomputable def enrolledStore : JournalStore :=
  (appendCommitted .canonical .production (.fill 16 2) sampleEnrolled).final freshStore

theorem appended_enrolledStore :
    ∃ storeID, Appended .canonical storeID 1 none sampleEnrolled enrolledStore := by
  have happend : (appendCommitted .canonical .production (.fill 16 2) sampleEnrolled).wp _ _
      freshStore := appendCommitted_wp_of_vacant vacant_freshStore rfl
  exact happend.2.2

/-- However often an append and the recoveries after it are interrupted, the recovery that completes
finds the history before the append, that history compacted, or the one the append was to commit, and
it finds the last if the append had returned. -/
theorem append_atomic_under_crashes (h : Reached decoder capacity s) {prior : AuthorityJournalRecovery}
    (hprior : (recover decoder s).result = .ok prior) (hr : Restartable next)
    {freshID : AuthorityIdentifier} {t u : JournalStore}
    (hcrash : Crash (appendCommitted decoder capacity freshID next) s t)
    (hrecover : Interrupted (recover decoder) t u) :
    (∃ recovery, Recovers decoder (Outcome prior.committedState next) u recovery) ∧
      ∀ head, (appendCommitted decoder capacity freshID next s).result = .ok head →
        t = (appendCommitted decoder capacity freshID next).final s →
        ∃ recovery, Recovers decoder (· = some next) u recovery := by
  obtain ⟨before, hready, hleads⟩ := h.leadsTo
  obtain ⟨recovery, hrecovers⟩ := hleads.recovers hready.restartable
  cases hprior.symm.trans hrecovers.returns
  have hbefore := hrecovers.within
  subst hbefore
  have happend : (appendCommitted decoder capacity freshID next).wp _ _ s :=
    appendCommitted_wp hleads hready
  have hfinish : ∀ P : Option AuthorityCommittedState → Prop, (∀ o, P o → Ready o) →
      LeadsTo decoder P t → ∃ recovery, Recovers decoder P u recovery := fun P hP ht ↦ by
    have hrestart : ∀ state, P (some state) → Restartable state := fun state hp ↦ hP _ hp state rfl
    exact (hrecover.of_wp ht fun _ ↦ recover_wp hrestart).recovers hrestart
  refine ⟨hfinish _ (fun o ho ↦ hready.outcome hr ho) (hcrash.of_wp (hleads.mono fun o ho ↦ .inl ho)
    happend), fun head hresult hfinal ↦ hfinish _ ?_ ?_⟩
  · rintro _ rfl x hx
    exact hr.ready x hx.symm
  · have hkept := happend.2
    rw [hresult, ← hfinal] at hkept
    exact .settled hkept.2 rfl

theorem enrollment_recovered :
    ∃ recovery, Recovers .canonical (· = some sampleEnrolled) enrolledStore recovery := by
  have happend : (appendCommitted .canonical .production (.fill 16 2) sampleEnrolled).wp _ _
      freshStore := appendCommitted_wp_of_vacant vacant_freshStore rfl
  obtain ⟨-, ⟨head, hok⟩, -⟩ := happend
  exact (append_atomic_under_crashes (.settled (.vacant vacant_freshStore) (by rintro _ ⟨⟩)) rfl
    ⟨_, rfl⟩ crash_final .refl).2 head hok rfl

/-- Nothing is interrupted here, and still the committed state comes back quarantined. -/
theorem unrestartable_state_quarantined :
    let append := appendCommitted .canonical .production (.fill 16 2) sampleRecovering
    (∃ recovery, Recovers .canonical (· = some sampleEnrolled) enrolledStore recovery) ∧
      validateCommit sampleRecovering (some sampleEnrolled) = .ok () ∧
      (∃ head, (append enrolledStore).result = .ok head) ∧
      (recover .canonical (append.final enrolledStore)).result = .ok (quarantine .invalidState) := by
  obtain ⟨storeID, cursor, journal, h, -, hc⟩ := appended_enrolledStore
  have hr : Restartable sampleEnrolled := ⟨_, rfl⟩
  have hleads : LeadsTo .canonical (· = some sampleEnrolled) enrolledStore :=
    .settled (.committed h) rfl
  have hfull : ¬Full .production cursor sampleRecovering := by
    rw [Full, hc.sequence_eq]
    decide
  have happend : (appendCommitted .canonical .production (.fill 16 2) sampleRecovering).wp _ _
      enrolledStore := appendCommitted_wp_of_committed h hr rfl
  obtain ⟨-, ⟨-, hexhausted, -⟩ | ⟨hok, -, hsettled, -⟩⟩ := happend
  · exact absurd hexhausted hfull
  exact ⟨hleads.recovers hr.ready, rfl, hok, recover_quarantines rfl (.settled hsettled rfl)⟩

end Samples

end DescriptorRelativeAuthorityJournalStore

end CfwRs.GlobalAuthority
