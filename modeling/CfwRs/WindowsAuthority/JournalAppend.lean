import CfwRs.WindowsAuthority.JournalReconcile

namespace CfwRs.WindowsAuthority.WindowsAuthorityJournal

open Lib Lib.Checked Lib.Durable JournalCodec Storage AuthorityCommittedState

variable {j : WindowsAuthorityJournal} {s : Storage} {v : JournalView} {C : Storage → Prop}
  {storeId : Uuid} {cursor : JournalCursor} {journal : Bytes}
  {state next : AuthorityCommittedState} {P : Option AuthorityCommittedState → Prop}
  {before : Option JournalCursor} {pending : JournalCursor} {old : Option (Bytes × JournalCursor)}
  {others : List UInt64} {prior : Option AuthorityCommittedState}

def pendingAnchor (storeId : Uuid) (before : Option JournalCursor) (pending : JournalCursor) :
    JournalAnchor where
  schemaVersion := 1
  storeId := storeId
  committed := before
  pending := some pending

variable (j) in
/-- Storage into which a record can go: with it, the journal of its generation is `journal`. -/
structure Target (v : JournalView) (storeId : Uuid) (before : Option JournalCursor)
    (pending : JournalCursor) (old : Option (Bytes × JournalCursor)) (others : List UInt64)
    (journal : Bytes) (prior : Option AuthorityCommittedState) (state : AuthorityCommittedState) :
    Prop where
  anchor_eq : v.anchor = some (settledAnchor storeId before)
  valid : (pendingAnchor storeId before pending).validate = .ok ()
  tidy : Tidy v storeId (pending.generation :: others)
  files : Files v pending.generation (old.map (·.1)) none (old.map (·.2.text)) none
  endsAt : EndsAt j.serde pending journal state
  origin : Origin j.serde v pending journal state before old others prior

theorem Target.announce (h : Target j v storeId before pending old others journal prior state) :
    Pending j.serde (v.setAnchor (pendingAnchor storeId before pending))
      (pendingAnchor storeId before pending) pending old others journal prior state where
  anchor_eq := rfl
  valid := h.valid
  pending_eq := rfl
  tidy := h.tidy.congr rfl
  endsAt := h.endsAt
  origin := h.origin.congr fun _ _ ↦ rfl

variable {Q : Except JournalStoreError JournalAnchor → Storage → Prop}

theorem commit_wp (hs : s.Shows v)
    (h : Target j v storeId before pending old others journal prior state) (hp : P prior)
    (hstate : P (some state))
    (hQ : ∀ t w, t.Shows w → Committed j.serde w storeId pending others journal state →
      Q (.ok (settledAnchor storeId (some pending))) t) :
    (commit (settledAnchor storeId before) pending journal).wp (On (LeadsTo j.serde P)) Q s := by
  have hannounced := h.announce
  have hfiles : Files (v.setAnchor (pendingAnchor storeId before pending)) pending.generation
      (old.map (·.1)) none (old.map (·.2.text)) none := h.files.congr fun _ _ ↦ ⟨rfl, rfl⟩
  have hput : Pending j.serde ((v.setAnchor (pendingAnchor storeId before pending)).put
      (.record (.journal pending.generation)) journal) (pendingAnchor storeId before pending) pending
      old others journal prior state := hannounced.put hannounced.generation_journal
  have hnew : JournalAnchor.new (settledAnchor storeId before).storeId
      (settledAnchor storeId before).committed (some pending) =
      .ok (pendingAnchor storeId before pending) := JournalAnchor.new_eq h.valid
  simp only [commit, validating, hnew, wp_run, ← h.anchor_eq]
  refine replaceAnchor_wp hs h.valid (.announced hannounced hfiles hp) fun t ht ↦ ?_
  rw [after_ok, wp_bind]
  refine publishFile_wp ht h.endsAt.length_le
    (by rw [hfiles.journal_eq]; exact hannounced.old_length) hfiles.journalTemp_eq
    (.underway (hannounced.put hannounced.generation_journal)
      (.unpublished hfiles.put_journalTemp (by simp) hp) hstate)
    (.underway hput (.published hfiles.put_journal (by simp) (.inl rfl) (by simp)) hstate)
    fun u hu ↦ ?_
  exact commitPending_wp hu hput hfiles.put_journal (.inl rfl) hstate hQ

variable {g sequence : UInt64} {bytes : Bytes} {previous : Digest}

variable (j) in
/-- Where the next record goes: after nothing at all, after the last record of its generation, or,
as a checkpoint, into the next generation. -/
inductive Place (v : JournalView) (storeId : Uuid) (next : AuthorityCommittedState) :
    Option JournalCursor → UInt64 → Bytes → UInt64 → Digest → Option (Bytes × JournalCursor) →
      List UInt64 → Option AuthorityCommittedState → Prop
  | first (anchor_eq : v.anchor = some (settledAnchor storeId none)) (tidy : Tidy v storeId [])
      (valid : next.validate = .ok ()) (enrolls : next.transition = .enrollOff) :
      Place v storeId next none 1 [] 1 (.fill 32 0) none [] none
  | continued {cursor : JournalCursor} {journal : Bytes} {state : AuthorityCommittedState}
      {sequence : UInt64} (h : Committed j.serde v storeId cursor [] journal state)
      (hnext : next.validateSuccessor state = .ok ())
      (hsucc : checkedSucc cursor.sequence = some sequence) :
      Place v storeId next (some cursor) cursor.generation journal sequence cursor.recordSha256
        (some (journal, cursor)) [] (some state)
  | opened {cursor : JournalCursor} {journal : Bytes} {state : AuthorityCommittedState} {g : UInt64}
      (h : Committed j.serde v storeId cursor [] journal state)
      (hsucc : checkedSucc cursor.generation = some g) (hcheckpoint : state.checkpoint = .ok next) :
      Place v storeId next (some cursor) g [] 1 (.fill 32 0) none [cursor.generation] (some state)

def Room (sequence : UInt64) (bytes : Bytes) (previous : Digest) (next : AuthorityCommittedState) :
    Prop :=
  sequence.toNat ≤ Limits.maxRecords ∧
    (bytes ++ recordFrame sequence previous next).length ≤ Limits.maxJournalBytes

theorem checkpoint_eq_ok (h : state.checkpoint = .ok next) :
    next.validate = .ok () ∧ next = { state with transition := .checkpoint } := by
  simp only [checkpoint, ok_iff] at h
  obtain ⟨_, hvalid, rfl⟩ := h
  exact ⟨hvalid, rfl⟩

theorem revision_of_validate (h : next.validate = .ok ()) : next.revision ≠ 0 := by
  simp only [validate, ok_iff, not_or] at h
  obtain ⟨_, -, _, ⟨hrevision, -⟩, -⟩ := h
  exact hrevision

theorem revision_of_enrollOff (h : next.validate = .ok ()) (henroll : next.transition = .enrollOff) :
    next.revision = 1 := by
  simp only [validate, henroll, if_true, ok_iff, not_or, not_not] at h
  obtain ⟨_, -, _, -, _, -, _, -, _, -, _, -, _, ⟨-, -, hrevision, -⟩, -⟩ := h
  exact hrevision

theorem length_recordFrame (sequence : UInt64) (previous : Digest) (next) :
    headerBytes < (recordFrame sequence previous next).length := by
  have hpos : 0 < next.text.length := List.length_pos_iff.mpr (render_obj_ne_nil _)
  rw [recordFrame, LogFormat.length_logFrame]
  exact Nat.lt_add_of_pos_right hpos

namespace Place

section

variable (h : Place j v storeId next before g bytes sequence previous old others prior)
include h

theorem valid : next.validate = .ok () := by
  cases h with
  | first _ _ valid => exact valid
  | continued _ hnext => exact valid_of_successor hnext
  | opened _ _ hcheckpoint => exact (checkpoint_eq_ok hcheckpoint).1

theorem sequence_pos : sequence ≠ 0 := by
  cases h with
  | first => decide
  | continued h _ hsucc =>
    obtain ⟨hlt, rfl⟩ := checkedSucc_eq_some.mp hsucc
    exact fun h0 ↦ by simpa [toNat_add_one hlt] using congrArg UInt64.toNat h0
  | opened => decide

theorem opening (h1 : sequence = 1) : previous = .fill 32 0 ∧ Opening next := by
  cases h with
  | first _ _ _ enrolls => exact ⟨rfl, .inl enrolls⟩
  | continued h _ hsucc =>
    have hvalid := h.endsAt.valid
    simp only [JournalCursor.validate, reject_eq_ok, not_or] at hvalid
    obtain ⟨hlt, heq⟩ := checkedSucc_eq_some.mp hsucc
    have hone := toNat_add_one hlt
    rw [heq, h1, UInt64.toNat_one] at hone
    exact absurd (UInt64.toNat_inj.mp (by simp; omega)) hvalid.2.1
  | opened _ _ hcheckpoint =>
    refine ⟨rfl, .inr ?_⟩
    rw [(checkpoint_eq_ok hcheckpoint).2]

theorem link_eq : j.link (settledAnchor storeId before) bytes next = .ok (sequence, previous) := by
  cases h with
  | first => rfl
  | continued h hnext hsucc =>
    simp [link, if_neg h.endsAt.ne_nil, h.endsAt.decodes,
      h.endsAt.verifyCursor, hnext, hsucc, mapError_ok, pure, Except.pure]
  | opened => rfl

theorem generation_ne_zero : g ≠ 0 := by
  cases h with
  | first => decide
  | continued h =>
    have hvalid := h.endsAt.valid
    simp only [JournalCursor.validate, reject_eq_ok, not_or] at hvalid
    exact hvalid.1
  | opened _ hsucc =>
    obtain ⟨hlt, rfl⟩ := checkedSucc_eq_some.mp hsucc
    exact fun h0 ↦ by simpa [toNat_add_one hlt] using congrArg UInt64.toNat h0

theorem cursor_valid (hroom : Room sequence bytes previous next) :
    (cursorAt g sequence (bytes ++ recordFrame sequence previous next)
      (recordFrame sequence previous next) next).validate = .ok () := by
  have hframe := length_recordFrame sequence previous next
  have hbound := hroom.2
  have hlength : (UInt64.ofNat (bytes ++ recordFrame sequence previous next).length).toNat =
      (bytes ++ recordFrame sequence previous next).length := by
    exact Nat.mod_eq_of_lt (hbound.trans_lt (by decide))
  simp only [JournalCursor.validate, reject_eq_ok, cursorAt, hlength, not_or, Nat.not_lt]
  refine ⟨h.generation_ne_zero, h.sequence_pos, hroom.1, ?_, hbound, revision_of_validate h.valid⟩
  rw [List.length_append]
  omega

theorem advances (hroom : Room sequence bytes previous next) :
    JournalCursor.Advances before (cursorAt g sequence (bytes ++ recordFrame sequence previous next)
      (recordFrame sequence previous next) next) := by
  cases h with
  | first _ _ valid enrolls => exact ⟨rfl, rfl, revision_of_enrollOff valid enrolls⟩
  | @continued cursor _ _ _ h hnext hsucc =>
    have hframe := length_recordFrame sequence cursor.recordSha256 next
    have hbound := hroom.2
    refine (JournalCursor.advances_same ?_).mpr ⟨hsucc, ?_, ?_⟩
    · rfl
    · rw [h.endsAt.revision_eq]
      exact checkedSucc_of_successor hnext
    · rw [UInt64.lt_iff_toNat_lt, h.endsAt.length_eq, cursorAt, UInt64.toNat_ofNat',
        Nat.mod_eq_of_lt (hbound.trans_lt (by decide)), List.length_append]
      omega
  | opened h hsucc hcheckpoint =>
    obtain ⟨hlt, heq⟩ := checkedSucc_eq_some.mp hsucc
    have hne : g ≠ _ := heq ▸ (UInt64.ne_of_lt (lt_add_one hlt)).symm
    refine (JournalCursor.advances_other hne).mpr ⟨hsucc, rfl, ?_⟩
    rw [h.endsAt.revision_eq, cursorAt, (checkpoint_eq_ok hcheckpoint).2]

theorem before_valid : ∀ c ∈ before, c.validate = .ok () := by
  cases h with
  | first => simp
  | continued h => simpa using h.endsAt.valid
  | opened h => simpa using h.endsAt.valid

theorem target (hroom : Room sequence bytes previous next) :
    Target j v storeId before (cursorAt g sequence (bytes ++ recordFrame sequence previous next)
      (recordFrame sequence previous next) next) old others
      (bytes ++ recordFrame sequence previous next) prior next := by
  have hcursor := h.cursor_valid hroom
  have hvalid : (pendingAnchor storeId before (cursorAt g sequence
      (bytes ++ recordFrame sequence previous next) (recordFrame sequence previous next)
      next)).validate = .ok () :=
    JournalAnchor.validate_eq_ok.mpr ⟨rfl, h.before_valid, by simpa [pendingAnchor] using hcursor,
      by simpa [pendingAnchor] using h.advances hroom⟩
  cases h with
  | first anchor_eq tidy valid enrolls =>
    exact ⟨anchor_eq, hvalid, tidy.mono (List.nil_subset _),
      tidy.files_none (by decide : (0 : UInt64) < 1) List.not_mem_nil,
      EndsAt.single valid (.inl enrolls) hroom.2 hcursor, .first enrolls⟩
  | continued h hnext hsucc =>
    exact ⟨h.anchor_eq, hvalid, h.tidy, h.files, h.endsAt.snoc hnext hsucc hroom.2 hcursor,
      .continued rfl h.endsAt (List.prefix_append _ _)⟩
  | @opened cursor _ _ _ h hsucc hcheckpoint =>
    obtain ⟨hlt, rfl⟩ := checkedSucc_eq_some.mp hsucc
    obtain ⟨hnext, heq⟩ := checkpoint_eq_ok hcheckpoint
    have hne := UInt64.ne_of_lt (lt_add_one hlt)
    have hopening : Opening next := .inr (by rw [heq])
    refine ⟨h.anchor_eq, hvalid, h.tidy.mono (by simp), h.tidy.files_none ?_ ?_,
      EndsAt.single hnext hopening hroom.2 hcursor, .opened hne h.files h.endsAt hcheckpoint⟩
    · exact UInt64.lt_trans h.endsAt.generation_pos (lt_add_one hlt)
    · exact fun hmem ↦ hne (List.mem_singleton.mp hmem).symm

end

end Place

theorem publish_wp (hs : s.Shows v) (hp : P prior) (hnext : P (some next))
    (h : Place j v storeId next before g bytes sequence previous old others prior)
    (hroom : Room sequence bytes previous next) (hQ : ∀ t w, t.Shows w → Committed j.serde w storeId
      (cursorAt g sequence (bytes ++ recordFrame sequence previous next)
        (recordFrame sequence previous next) next) others
      (bytes ++ recordFrame sequence previous next) next →
      Q (.ok (settledAnchor storeId (some (cursorAt g sequence
        (bytes ++ recordFrame sequence previous next) (recordFrame sequence previous next) next)))) t) :
    (j.publish (settledAnchor storeId before) g bytes next).wp (On (LeadsTo j.serde P)) Q s := by
  have hencode := encodeRecord_eq h.valid h.sequence_pos hroom.1 h.opening
  have hfits : ¬Limits.maxJournalBytes < bytes.length +
      (logFrame magic sequence.toNat previous next.text).length := by
    have hbound := hroom.2
    rw [List.length_append] at hbound
    exact Nat.not_lt.mpr hbound
  have hnew := new_eq_ok.mpr ⟨h.cursor_valid hroom, rfl⟩
  simp only [publish, validating, h.link_eq, hencode, reject_neg hfits, wp_run]
  rw [recordFrame] at hnew
  rw [hnew]
  exact commit_wp hs (h.target hroom) hp hnext hQ

theorem room_of_opening (h : next.validate = .ok ()) : Room 1 [] (.fill 32 0) next := by
  have htext := length_text_le h
  refine ⟨by decide, ?_⟩
  rw [List.nil_append, recordFrame, LogFormat.length_logFrame]
  exact Nat.le_trans (Nat.add_le_add_left htext _) (by decide)

def openingCursor (g : UInt64) (state : AuthorityCommittedState) : JournalCursor :=
  cursorAt g 1 (recordFrame 1 (.fill 32 0) state) (recordFrame 1 (.fill 32 0) state) state

theorem compact_wp (hs : s.Shows v) (h : Committed j.serde v storeId cursor [] journal state)
    (hp : P (some state)) (hc : ∀ record, state.checkpoint = .ok record → P (some record))
    (herror : ∀ e, Q (.error e) s)
    (hQ : ∀ t w g record journal', t.Shows w → state.checkpoint = .ok record →
      Committed j.serde w storeId (openingCursor g record) [] journal' record →
      Q (.ok (settledAnchor storeId (some (openingCursor g record)))) t) :
    (j.compact (settledAnchor storeId (some cursor)) cursor state).wp (On (LeadsTo j.serde P)) Q s := by
  simp only [compact, validating, wp_run]
  cases hsucc : checkedSucc cursor.generation with
  | none => exact herror _
  | some g =>
    cases hrecord : state.checkpoint with
    | error e =>
      rw [unwrap, after_ok, wp_bind, wp_attempt]
      exact herror _
    | ok record =>
      simp only [unwrap, wp_run]
      refine publish_wp hs hp (hc record hrecord) (.opened h hsucc hrecord)
        (room_of_opening (checkpoint_eq_ok hrecord).1) fun t w ht hw ↦ ?_
      rw [after_ok, wp_bind]
      refine cleanupOld_wp ht hw (hc record hrecord) fun u x hu hx ↦ ?_
      rw [after_ok, wp_pure]
      exact hQ u x g record _ hu hrecord hx

theorem validateSuccessor_checkpoint {record}
    (h : next.validateSuccessor state = .ok ()) (hc : state.checkpoint = .ok record) :
    next.validateSuccessor record = .ok () := by
  obtain ⟨hvalid, rfl⟩ := checkpoint_eq_ok hc
  simp only [validateSuccessor, ok_iff] at h ⊢
  obtain ⟨_, hnext, _, -, hrest⟩ := h
  exact ⟨(), hnext, (), hvalid, hrest⟩

variable (j) in
/-- The record makes the journal move on to the next generation first. -/
def Compacts (cursor : JournalCursor) (next : AuthorityCommittedState) : Prop :=
  Begins next ∧ j.needsCompaction cursor

theorem makeRoom_wp (hs : s.Shows v) (h : Committed j.serde v storeId cursor [] journal state)
    (hnext : next.validateSuccessor state = .ok ()) (hp : P (some state))
    (hc : ∀ record, state.checkpoint = .ok record → P (some record))
    (herror : j.Compacts cursor next → ∀ e, Q (.error e) s)
    (hQ : ∀ t w cursor' journal' state', t.Shows w →
      Committed j.serde w storeId cursor' [] journal' state' →
      next.validateSuccessor state' = .ok () → P (some state') →
      (cursor' = cursor ∨ j.Compacts cursor next ∧ cursor'.sequence = 1) →
      Q (.ok (settledAnchor storeId (some cursor'))) t) :
    (j.makeRoom (settledAnchor storeId (some cursor)) (some state) next).wp
      (On (LeadsTo j.serde P)) Q s := by
  simp only [makeRoom, committed_settledAnchor]
  split
  · next hcompacts =>
    refine compact_wp hs h hp hc (herror hcompacts) fun t w g record journal' ht hrecord hw ↦ ?_
    exact hQ t w _ journal' record ht hw (validateSuccessor_checkpoint hnext hrecord)
      (hc record hrecord) (.inr ⟨hcompacts, rfl⟩)
  · rw [wp_pure]
    exact hQ s v cursor journal state hs h hnext hp (.inl rfl)

theorem openAnchor_wp (hs : s.Shows v) {fresh : Uuid} {position : Option JournalCursor}
    (h : Rested j.serde v prior position) (hp : P prior)
    (hmarked : ∀ t w storeId, prior = none → t.Shows w → w.anchor = some (settledAnchor storeId none) →
      Tidy w storeId [] → Q (.ok (settledAnchor storeId none)) t)
    (hcommitted : ∀ storeId cursor journal state, prior = some state → position = some cursor →
      Committed j.serde v storeId cursor [] journal state →
      Q (.ok (settledAnchor storeId (some cursor))) s) :
    (j.openAnchor fresh).wp (On (LeadsTo j.serde P)) Q s := by
  rw [openAnchor, wp_bind, wp_loadAnchor j hs]
  cases h with
  | untouched anchor_eq no_files =>
    have hvalid : (settledAnchor fresh none).validate = .ok () := settledAnchor_valid (by simp)
    have hnew := JournalAnchor.new_eq hvalid
    have hmarking : Marking (v.setAnchor (settledAnchor fresh none)) fresh :=
      ⟨rfl, fun name hn ↦ absurd (no_files name) hn, fun name b hb ↦ by
        simp [no_files] at hb⟩
    simp only [anchor_eq, wp_run, validating, hnew]
    rw [← anchor_eq]
    refine replaceAnchor_wp hs hvalid (.settled (.vacant (.anchored hmarking)) hp) fun t ht ↦ ?_
    rw [after_ok, wp_bind]
    refine ensureMarker_wp ht hmarking hp fun u w hu hw htidy ↦ ?_
    rw [after_ok, wp_pure]
    exact hmarked u w fresh rfl hu hw.anchor_eq htidy
  | @marked storeId anchor_eq tidy =>
    rw [anchor_eq, after_ok, wp_pure]
    exact hmarked s v storeId rfl hs anchor_eq tidy
  | @committed storeId cursor journal state h =>
    rw [h.anchor_eq, after_ok, wp_pure]
    exact hcommitted storeId cursor journal state rfl rfl h

theorem wp_currentJournal (hs : s.Shows v) (h : Committed j.serde v storeId cursor [] journal state)
    {Q : Except JournalStoreError (UInt64 × Bytes) → Storage → Prop} :
    (currentJournal (settledAnchor storeId (some cursor))).wp C Q s ↔
      Q (.ok (cursor.generation, journal)) s := by
  simp [currentJournal, wp_requiredRead hs h.files.journal_eq h.endsAt.length_le]

theorem publishAndClean_wp (hs : s.Shows v)
    (h : Place j v storeId next before g bytes sequence previous old [] prior)
    (hp : P prior) (hnext : P (some next)) (hroom : Room sequence bytes previous next)
    {Q : Except JournalStoreError JournalCursor → Storage → Prop}
    (hQ : ∀ t w cursor journal', t.Shows w → Committed j.serde w storeId cursor [] journal' next →
      cursor.generation = g → cursor.sequence = sequence → Q (.ok cursor) t) :
    (j.publish (settledAnchor storeId before) g bytes next >>= fun anchor ↦
      j.cleanupOld anchor >>= fun _ ↦ attempt (unwrap anchor.committed .storeIdentity)).wp
      (On (LeadsTo j.serde P)) Q s := by
  rw [wp_bind]
  refine publish_wp hs hp hnext h hroom fun t w ht hw ↦ ?_
  rw [after_ok, wp_bind]
  refine cleanupOld_wp ht hw hnext fun u x hu hx ↦ ?_
  rw [after_ok, wp_attempt]
  exact hQ u x _ _ hu hx rfl rfl

/-- A record after one that is not the last of its generation has room: the sizes never bind. -/
theorem room_of_lt (h : EndsAt j.serde cursor journal state) (hnext : next.validate = .ok ())
    (hlt : cursor.sequence < j.recordCapacity) :
    ∃ sequence, checkedSucc cursor.sequence = some sequence ∧
      Room sequence journal cursor.recordSha256 next := by
  have hcapacity := j.le_maxRecords
  have hmax : Limits.maxRecords = 4096 := rfl
  have hbytes : Limits.maxJournalBytes = 33554432 := rfl
  have hheader : LogFormat.headerBytes = 88 := rfl
  have hsequence := UInt64.lt_iff_toNat_lt.mp hlt
  have hword : cursor.sequence < maxWord := lt_maxWord_iff.mpr (by omega)
  have htext := length_text_le hnext
  have hlength := h.length_le_records
  refine ⟨_, checkedSucc_eq_some.mpr ⟨hword, rfl⟩, ?_, ?_⟩
  · rw [toNat_add_one hword]
    omega
  · rw [hheader] at hlength
    rw [List.length_append, recordFrame, LogFormat.length_logFrame]
    omega

/-- Only the number of records ever makes a journal compact, not its size. -/
theorem not_compacts (h : EndsAt j.serde cursor journal state) (hroom : Begins next →
      cursor.sequence.toNat + Limits.lifecycleFinishReserve ≤ j.recordCapacity.toNat) :
    ¬j.Compacts cursor next := by
  rintro ⟨hbegins, hneeds⟩
  have hcapacity := j.le_maxRecords
  have hmax : Limits.maxRecords = 4096 := rfl
  have hsequence := hroom hbegins
  have hlength := h.length_le_records
  rw [← h.length_eq] at hlength
  rcases hneeds with hneeds | hneeds
  · rw [UInt64.lt_iff_toNat_lt, toNat_saturatingAdd, UInt64.toNat_ofNat'] at hneeds
    omega
  · have hheader : LogFormat.headerBytes = 88 := rfl
    have hbytes : (UInt64.ofNat Limits.maxJournalBytes).toNat = 33554432 := by decide
    have hlast : (UInt64.ofNat (Limits.lifecycleFinishReserve *
        (Limits.maxRecordPayload + headerBytes))).toNat = 459368 := by decide
    rw [hheader] at hlength
    rw [UInt64.lt_iff_toNat_lt, toNat_saturatingAdd] at hneeds
    omega

section Recovered

variable {fresh : Uuid} {Q : Except JournalStoreError JournalCursor → Storage → Prop}

theorem appendFirst_wp (hs : s.Shows v) (h : Rested j.serde v none none) (hp : P none)
    (hvalid : next.validate = .ok ()) (henroll : next.transition = .enrollOff)
    (hnext : P (some next)) (hQ : ∀ t w storeId cursor journal, t.Shows w →
      Committed j.serde w storeId cursor [] journal next → cursor.sequence = 1 ∧ cursor.generation = 1 →
      Q (.ok cursor) t) : (j.appendRecovered fresh none next).wp (On (LeadsTo j.serde P)) Q s := by
  have hcheck : checkAppend next none = .ok () := require_eq_ok.mpr henroll
  simp only [appendRecovered, validating, hcheck, wp_run]
  refine openAnchor_wp hs h hp (fun t w storeId _ ht hanchor htidy ↦ ?_) (fun _ _ _ _ hnone ↦ by cases hnone)
  simp only [wp_run]
  refine wp_bind.mp (publishAndClean_wp ht (.first hanchor htidy hvalid henroll) hp hnext
    (room_of_opening hvalid) fun u x cursor journal hu hx hg hsequence ↦ ?_)
  exact hQ u x storeId cursor journal hu hx ⟨hsequence, hg⟩

/-- A later append fails before it writes anything, for want of capacity, or it succeeds. -/
theorem appendNext_wp (hs : s.Shows v) (h : Committed j.serde v storeId cursor [] journal state)
    (hcheck : next.validateSuccessor state = .ok ()) (hp : P (some state))
    (hc : ∀ record, state.checkpoint = .ok record → P (some record)) (hnext : P (some next))
    (herror : j.Compacts cursor next → ∀ e, Q (.error e) s)
    (hfull : j.recordCapacity ≤ cursor.sequence → ∀ t, On (LeadsTo j.serde P) t → Q (.error .capacity) t)
    (hQ : ∀ t w storeId cursor' journal', t.Shows w →
      Committed j.serde w storeId cursor' [] journal' next →
      (j.Compacts cursor next ∨ cursor.sequence < j.recordCapacity ∧
        checkedSucc cursor.sequence = some cursor'.sequence ∧
        cursor'.generation = cursor.generation) → Q (.ok cursor') t) :
    (j.appendRecovered fresh (some state) next).wp (On (LeadsTo j.serde P)) Q s := by
  have happend : checkAppend next (some state) = .ok () := hcheck
  simp only [appendRecovered, validating, happend, wp_run]
  refine openAnchor_wp hs (.committed h) hp (fun _ _ _ hnone ↦ by cases hnone) ?_
  rintro storeId cursor journal state ⟨⟩ ⟨⟩ h
  rw [after_ok, wp_bind]
  refine makeRoom_wp hs h hcheck hp hc herror fun t w cursor' journal' state' ht hw hsucc hp' hsame ↦ ?_
  have hone : (1 : UInt64) < j.recordCapacity := by
    have hreserve := j.reserve_le
    rw [UInt64.lt_iff_toNat_lt, UInt64.toNat_one]
    omega
  rw [after_ok, wp_bind, wp_attempt]
  by_cases hlt : cursor'.sequence < j.recordCapacity
  · have hfree : ¬∃ c ∈ (settledAnchor storeId (some cursor')).committed,
        j.recordCapacity ≤ c.sequence := by simpa using hlt
    obtain ⟨sequence, hsequence, hroom⟩ :=
      room_of_lt hw.endsAt (valid_of_successor hcheck) hlt
    simp only [reject_neg hfree, wp_run, wp_currentJournal ht hw]
    refine wp_bind.mp (publishAndClean_wp ht (.continued hw hsucc hsequence) hp' hnext
      hroom fun u x c b hu hx hg hc' ↦ hQ u x storeId c b hu hx ?_)
    rcases hsame with rfl | ⟨hcompacts, -⟩
    · exact .inr ⟨hlt, hc' ▸ hsequence, hg⟩
    · exact .inl hcompacts
  · rcases hsame with rfl | ⟨-, hsame⟩
    · have hused : ∃ c ∈ (settledAnchor storeId (some cursor')).committed,
          j.recordCapacity ≤ c.sequence := by simpa using hlt
      rw [reject, if_pos hused]
      exact hfull (UInt64.not_lt.mp hlt) t ⟨w, ht, .settled (.committed hw) hp'⟩
    · exact absurd (hsame ▸ hone) hlt

end Recovered

end CfwRs.WindowsAuthority.WindowsAuthorityJournal
