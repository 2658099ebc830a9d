import CfwRs.Lib.ChainedLog
import CfwRs.WindowsAuthority.JournalText

namespace CfwRs.WindowsAuthority

open Lib Lib.Checked

namespace JournalCodec

def magic : FixedBytes 8 := ⟨ascii "CFWWJR01", by decide⟩

def Opening (state : AuthorityCommittedState) : Prop :=
  state.transition = .enrollOff ∨ state.transition = .checkpoint

instance (state : AuthorityCommittedState) : Decidable (Opening state) :=
  inferInstanceAs (Decidable (_ ∨ _))

/-- What the reader demands of a record after the one before it. -/
def follow : Option AuthorityCommittedState → AuthorityCommittedState → Validated Unit
  | some prior, state => state.validateSuccessor prior
  | none, state => require (Opening state) .sequence

def format (serde : SerdeJson) : LogFormat JournalValidationError AuthorityCommittedState where
  magic := magic
  minPayload := 1
  maxPayload := Limits.maxRecordPayload
  maxRecords := Limits.maxRecords
  payload_fits := by decide
  sequence_fits := by decide
  accept last payload := do
    let state ← AuthorityCommittedState.decode serde payload
    follow last state
    pure state
  tooMany := .capacity
  truncated := .truncated
  badMagic := .encoding
  badSize := .capacity
  badSequence := .sequence
  brokenChain := .integrity
  badDigest := .integrity
  badChecksum := .integrity

structure EncodedRecord where
  bytes : Bytes
  digest : Digest

def encodeRecord (state : AuthorityCommittedState) (sequence : UInt64) (previous : Digest) :
    Validated EncodedRecord := do
  reject (sequence = 0 ∨ Limits.maxRecords < sequence.toNat) .capacity
  reject (sequence = 1 ∧ (previous ≠ .fill 32 0 ∨ ¬Opening state)) .sequence
  let payload ← state.encode
  let frame := logFrame magic sequence.toNat previous payload
  pure { bytes := frame, digest := Sha256.hash frame }

structure DecodedJournal where
  state : AuthorityCommittedState
  sequence : UInt64
  committedLength : UInt64
  recordSha256 : Digest
deriving DecidableEq

namespace DecodedJournal

variable (d : DecodedJournal)

def cursor (generation : UInt64) : Validated JournalCursor :=
  JournalCursor.new generation d.sequence d.committedLength d.recordSha256 d.state.revision

def verifyCursor (cursor : JournalCursor) : Validated Unit := do
  cursor.validate
  let own ← d.cursor cursor.generation
  require (own = cursor) .integrity

end DecodedJournal

def decodeJournal (serde : SerdeJson) (bytes : Bytes) : Validated DecodedJournal := do
  reject (bytes = []) .truncated
  reject (Limits.maxJournalBytes < bytes.length) .capacity
  let records ← (format serde).decode bytes
  let last ← unwrap records.getLast? .truncated
  pure
    { state := last.state
      sequence := .ofNat last.sequence
      committedLength := .ofNat last.endOffset
      recordSha256 := last.digest }

variable {serde : SerdeJson}
variable {bytes : Bytes} {c : JournalCursor} {d : DecodedJournal} {sequence : UInt64}
  {state : AuthorityCommittedState}

theorem accept_eq_ok {last payload} : (format serde).accept last payload = .ok state ↔
      state.text = payload ∧ state.validate = .ok () ∧ follow last state = .ok () := by
  simp only [format, ok_iff, AuthorityCommittedState.decode_eq_ok]
  constructor
  · rintro ⟨state, ⟨rfl, hv⟩, _, hf, rfl⟩
    exact ⟨rfl, hv, hf⟩
  · rintro ⟨rfl, hv, hf⟩
    exact ⟨state, ⟨rfl, hv⟩, (), hf, rfl⟩

theorem fits_text (h : state.validate = .ok ()) : (format serde).Fits state.text :=
  ⟨List.length_pos_iff.mpr (render_obj_ne_nil _),
    (AuthorityCommittedState.length_text_le h).trans (by decide : 2048 ≤ Limits.maxRecordPayload)⟩

theorem encodeRecord_eq {previous} (h : state.validate = .ok ()) (hpos : sequence ≠ 0)
    (hmax : sequence.toNat ≤ Limits.maxRecords)
    (hfirst : sequence = 1 → previous = .fill 32 0 ∧ Opening state) :
    encodeRecord state sequence previous = .ok ⟨logFrame magic sequence.toNat previous state.text,
        Sha256.hash (logFrame magic sequence.toNat previous state.text)⟩ := by
  simp only [encodeRecord, ok_iff, exists_const, AuthorityCommittedState.encode_eq h]
  refine ⟨?_, ?_, state.text, rfl, rfl⟩
  · rintro (h0 | hlt)
    · exact hpos h0
    · omega
  · rintro ⟨h1, hbad⟩
    obtain ⟨hprevious, hopening⟩ := hfirst h1
    exact hbad.elim (fun h ↦ h hprevious) fun h ↦ h hopening

theorem new_eq_ok {generation committedLength recordSha256 stateRevision} :
    JournalCursor.new generation sequence committedLength recordSha256 stateRevision = .ok c ↔
      c.validate = .ok () ∧ c = ⟨generation, sequence, committedLength, recordSha256, stateRevision⟩ := by
  simp only [JournalCursor.new, ok_iff]
  constructor
  · rintro ⟨_, h, rfl⟩
    exact ⟨h, rfl⟩
  · rintro ⟨h, rfl⟩
    exact ⟨(), h, rfl⟩

theorem DecodedJournal.verifyCursor_eq_ok : d.verifyCursor c = .ok () ↔ c.validate = .ok () ∧
      c = ⟨c.generation, d.sequence, d.committedLength, d.recordSha256, d.state.revision⟩ := by
  simp only [verifyCursor, DecodedJournal.cursor, ok_iff, new_eq_ok]
  constructor
  · rintro ⟨_, hv, own, ⟨-, rfl⟩, heq⟩
    exact ⟨hv, heq.symm⟩
  · rintro ⟨hv, heq⟩
    exact ⟨(), hv, c, ⟨hv, heq⟩, rfl⟩

theorem decodeJournal_eq_ok : decodeJournal serde bytes = .ok d ↔
      bytes.length ≤ Limits.maxJournalBytes ∧ ∃ records last, (format serde).IsLog bytes records ∧
        records.getLast? = some last ∧
        d = ⟨last.state, .ofNat last.sequence, .ofNat last.endOffset, last.digest⟩ := by
  simp only [decodeJournal, ok_iff, exists_const, LogFormat.decode_eq_ok, Nat.not_lt]
  constructor
  · rintro ⟨-, hlen, records, hlog, last, hlast, rfl⟩
    exact ⟨hlen, records, last, hlog, hlast, rfl⟩
  · rintro ⟨hlen, records, last, hlog, hlast, rfl⟩
    refine ⟨?_, hlen, records, hlog, last, hlast, rfl⟩
    rintro rfl
    generalize hb : ([] : Bytes) = bytes at hlog
    obtain ⟨hchain, -⟩ := hlog
    cases hchain with
    | nil => simp at hlast
    | cons => exact (format serde).frame_append_ne_nil hb.symm

theorem decodeJournal_place {records last} (hlen : bytes.length ≤ Limits.maxJournalBytes)
    (hlog : (format serde).IsLog bytes records) (hlast : records.getLast? = some last) :
    (UInt64.ofNat last.sequence).toNat = records.length ∧
      (UInt64.ofNat last.endOffset).toNat = bytes.length := by
  obtain ⟨hseq, hend⟩ := hlog.1.getLast hlast
  have hmax : records.length ≤ 4096 := hlog.2
  have hbytes : bytes.length ≤ 32 * 1024 * 1024 := hlen
  rw [UInt64.toNat_ofNat', UInt64.toNat_ofNat']
  omega

section Chain

def writeRecord (state : AuthorityCommittedState) (sequence : UInt64) (previous : Digest) :
    Validated (Bytes × Digest) := do
  let record ← encodeRecord state sequence previous
  pure (record.bytes, record.digest)

/-- Encodes the states one after the other, each record with the digest of the one before it. -/
def encodeChain (states : List AuthorityCommittedState) :
    Validated (Bytes × List (LogRecord AuthorityCommittedState)) :=
  LogFormat.writeAll writeRecord states

variable {states : List AuthorityCommittedState}
  {log : Bytes × List (LogRecord AuthorityCommittedState)}

theorem valid_of_encodeChain (h : encodeChain states = .ok log) :
    ∀ state ∈ states.head?, state.validate = .ok () := by
  cases states with
  | nil => simp
  | cons state states =>
    simp only [encodeChain, LogFormat.writeAll, List.foldlM_cons, LogFormat.writeNext, writeRecord, encodeRecord,
      AuthorityCommittedState.encode, ok_iff] at h
    obtain ⟨_, ⟨_, ⟨_, ⟨_, -, _, -, _, ⟨_, hvalid, -⟩, -⟩, -⟩, -⟩, -⟩ := h
    simpa using hvalid

variable (serde) in
theorem agrees : (format serde).Agrees (·.text) writeRecord
    fun last state ↦ state.validate = .ok () ∧ follow last state = .ok () where
  accept _ _ _ := accept_eq_ok
  fits _ _ h := fits_text h.1
  write records state h hmax := by
    have hmax : records.length < 4096 := hmax
    have hn : (UInt64.ofNat (records.length + 1)).toNat = records.length + 1 :=
      UInt64.toNat_ofNat_of_lt' (Nat.lt_of_le_of_lt hmax (by decide : 4096 < UInt64.size))
    rw [writeRecord, encodeRecord_eq h.1, hn]
    · rfl
    · intro h0
      simp [h0] at hn
    · rw [hn]
      exact hmax
    · intro h1
      obtain rfl : records = [] := by simpa [h1] using hn
      exact ⟨rfl, require_eq_ok.mp h.2⟩

/-- The reader accepts exactly the journals that the writer makes of a chain of successors, and
answers with the end of the chain. -/
theorem decodeJournal_exact : decodeJournal serde bytes = .ok d ↔
      ∃ states records last, encodeChain states = .ok (bytes, records) ∧
        (∃ first, states.head? = some first ∧ Opening first) ∧
        states.IsChain (fun prior state ↦ state.validateSuccessor prior = .ok ()) ∧
        states.length ≤ Limits.maxRecords ∧ bytes.length ≤ Limits.maxJournalBytes ∧
        states.getLast? = some last.state ∧ records.getLast? = some last ∧
        d = ⟨last.state, .ofNat states.length, .ofNat bytes.length, last.digest⟩ := by
  rw [decodeJournal_eq_ok]
  constructor
  · rintro ⟨hlen, records, last, hlog, hlast, rfl⟩
    obtain ⟨hsequence, hlength⟩ := hlog.1.getLast hlast
    obtain ⟨hfirst, hchain, hwrite⟩ := (agrees serde).write_of_isLog hlog
    have hmem : last.state ∈ records.map (·.state) := List.mem_map_of_mem (List.mem_of_getLast? hlast)
    have hhead := List.head?_eq_some_head (List.ne_nil_of_mem hmem)
    refine ⟨_, records, last, hwrite, ⟨_, hhead, require_eq_ok.mp (hfirst _ hhead).2⟩,
      hchain.imp fun _ _ h ↦ h.2, ?_, hlen, ?_, hlast, ?_⟩
    · rw [List.length_map]
      exact hlog.2
    · rw [List.getLast?_map, hlast, Option.map_some]
    · rw [List.length_map, hlength, Nat.zero_add, show last.sequence = records.length by omega]
  · rintro ⟨states, records, last, hwrite, ⟨first, hhead, hopening⟩, hchain, hmax, hlen, -, hlast, rfl⟩
    have hfirst : ∀ state ∈ states.head?, state.validate = .ok () ∧ follow none state = .ok () := by
      intro state hstate
      obtain rfl : first = state := Option.some.inj (hhead.symm.trans hstate)
      exact ⟨valid_of_encodeChain hwrite _ hhead, require_eq_ok.mpr hopening⟩
    obtain ⟨b, rs, hlog, hislog, hstates⟩ := (agrees serde).isLog hfirst
      (hchain.imp fun _ _ h ↦ ⟨AuthorityCommittedState.valid_of_successor h, h⟩) hmax
    obtain ⟨rfl, rfl⟩ := Prod.mk.inj (Except.ok.inj (hlog.symm.trans hwrite))
    obtain ⟨hsequence, hlength⟩ := hislog.1.getLast hlast
    refine ⟨hlen, rs, last, hislog, hlast, ?_⟩
    rw [← hstates, List.length_map, hlength, Nat.zero_add, show last.sequence = rs.length by omega]

end Chain

def recordFrame (sequence : UInt64) (previous : Digest) (state : AuthorityCommittedState) : Bytes :=
  logFrame magic sequence.toNat previous state.text

def cursorAt (generation sequence : UInt64) (journal frame : Bytes)
    (state : AuthorityCommittedState) : JournalCursor where
  generation := generation
  sequence := sequence
  committedLength := .ofNat journal.length
  recordSha256 := Sha256.hash frame
  stateRevision := state.revision

variable (serde) in
/-- The journal is a valid chain of records that ends at the cursor, and `state` is its last. -/
structure EndsAt (cursor : JournalCursor) (journal : Bytes) (state : AuthorityCommittedState) :
    Prop where
  decodes : decodeJournal serde journal =
    .ok ⟨state, cursor.sequence, cursor.committedLength, cursor.recordSha256⟩
  revision_eq : cursor.stateRevision = state.revision
  valid : cursor.validate = .ok ()

theorem endsAt_of_verifyCursor {cursor journal}
    (hd : decodeJournal serde journal = .ok d) (hc : d.verifyCursor cursor = .ok ()) :
    EndsAt serde cursor journal d.state := by
  obtain ⟨hv, heq⟩ := DecodedJournal.verifyCursor_eq_ok.mp hc
  obtain ⟨-, hseq, hlen, hsha, hrev⟩ := JournalCursor.mk.inj heq
  refine ⟨?_, hrev, hv⟩
  rw [hseq, hlen, hsha]
  exact hd

namespace EndsAt

variable {cursor pending : JournalCursor} {journal : Bytes} {state next : AuthorityCommittedState}

section

variable (h : EndsAt serde cursor journal state)
include h

theorem verifyCursor : DecodedJournal.verifyCursor
      ⟨state, cursor.sequence, cursor.committedLength, cursor.recordSha256⟩ cursor = .ok () :=
  DecodedJournal.verifyCursor_eq_ok.mpr ⟨h.valid, by rw [← h.revision_eq]⟩

theorem cursor_eq :
    DecodedJournal.cursor ⟨state, cursor.sequence, cursor.committedLength, cursor.recordSha256⟩
      cursor.generation = .ok cursor :=
  new_eq_ok.mpr ⟨h.valid, by rw [← h.revision_eq]⟩

theorem exists_records :
    ∃ records last, (format serde).IsLog journal records ∧ records.getLast? = some last ∧
      last.state = state ∧ last.digest = cursor.recordSha256 ∧
      cursor.sequence.toNat = records.length := by
  obtain ⟨hlen, records, last, hlog, hlast, heq⟩ := decodeJournal_eq_ok.mp h.decodes
  obtain ⟨hstate, hseq, -, hsha⟩ := DecodedJournal.mk.inj heq
  refine ⟨records, last, hlog, hlast, hstate.symm, hsha.symm, ?_⟩
  rw [hseq]
  exact (decodeJournal_place hlen hlog hlast).1

theorem length_eq : cursor.committedLength.toNat = journal.length := by
  obtain ⟨hlen, records, last, hlog, hlast, heq⟩ := decodeJournal_eq_ok.mp h.decodes
  rw [(DecodedJournal.mk.inj heq).2.2.1]
  exact (decodeJournal_place hlen hlog hlast).2

theorem length_le : journal.length ≤ Limits.maxJournalBytes :=
  (decodeJournal_eq_ok.mp h.decodes).1

theorem length_le_records :
    journal.length ≤ cursor.sequence.toNat * (LogFormat.headerBytes + 2048) := by
  obtain ⟨records, last, hlog, -, -, -, hseq⟩ := h.exists_records
  rw [hseq]
  refine hlog.1.length_le fun _ payload state haccept ↦ ?_
  obtain ⟨rfl, hvalid, -⟩ := accept_eq_ok.mp haccept
  exact AuthorityCommittedState.length_text_le hvalid

theorem ne_nil : journal ≠ [] := by
  rintro rfl
  have := h.decodes
  simp [decodeJournal] at this

theorem generation_pos : 0 < cursor.generation := by
  have hvalid := h.valid
  simp only [JournalCursor.validate, reject_eq_ok, not_or] at hvalid
  exact Nat.pos_of_ne_zero fun h0 ↦ hvalid.1 (UInt64.toNat_inj.mp h0)

theorem state_valid : state.validate = .ok () := by
  obtain ⟨records, last, hlog, hlast, rfl, -, -⟩ := h.exists_records
  obtain ⟨_, _, haccept⟩ := hlog.1.accepted (List.mem_of_getLast? hlast)
  exact (accept_eq_ok.mp haccept).2.1

end

variable {generation sequence : UInt64}

theorem of_isLog {records previous}
    (hlog : (format serde).IsLog journal records) (hplace : sequence.toNat = 1 + records.length)
    (hend : LogFormat.endDigest (.fill 32 0) records = previous) (hnext : next.validate = .ok ())
    (hfollow : follow (LogFormat.endState none records) next = .ok ())
    (hbound : (journal ++ recordFrame sequence previous next).length ≤ Limits.maxJournalBytes)
    (hvalid : (cursorAt generation sequence (journal ++ recordFrame sequence previous next)
      (recordFrame sequence previous next) next).validate = .ok ()) :
    EndsAt serde (cursorAt generation sequence (journal ++ recordFrame sequence previous next)
      (recordFrame sequence previous next) next) (journal ++ recordFrame sequence previous next)
      next := by
  have hmax : sequence.toNat ≤ Limits.maxRecords := by
    simp only [JournalCursor.validate, reject_eq_ok, not_or, Nat.not_lt] at hvalid
    exact hvalid.2.2.1
  have hchain := hlog.1.snoc (fits_text hnext) (accept_eq_ok.mpr ⟨rfl, hnext, hfollow⟩)
  rw [hend, ← hplace] at hchain
  refine ⟨decodeJournal_eq_ok.mpr ⟨hbound, _, _, ⟨hchain, ?_⟩, List.getLast?_concat, ?_⟩, rfl, hvalid⟩
  · rw [List.length_append, List.length_singleton, Nat.add_comm, ← hplace]
    exact hmax
  · simp [cursorAt, recordFrame, format]

theorem snoc (h : EndsAt serde cursor journal state) (hnext : next.validateSuccessor state = .ok ())
    (hsucc : checkedSucc cursor.sequence = some sequence)
    (hbound : (journal ++ recordFrame sequence cursor.recordSha256 next).length ≤
      Limits.maxJournalBytes)
    (hvalid : (cursorAt generation sequence (journal ++ recordFrame sequence cursor.recordSha256 next)
      (recordFrame sequence cursor.recordSha256 next) next).validate = .ok ()) :
    EndsAt serde (cursorAt generation sequence
      (journal ++ recordFrame sequence cursor.recordSha256 next)
      (recordFrame sequence cursor.recordSha256 next) next)
      (journal ++ recordFrame sequence cursor.recordSha256 next) next := by
  obtain ⟨records, last, hlog, hlast, hstate, hdigest, hseq⟩ := h.exists_records
  obtain ⟨hlt, heq⟩ := checkedSucc_eq_some.mp hsucc
  refine of_isLog hlog ?_ ?_ (AuthorityCommittedState.valid_of_successor hnext) ?_ hbound hvalid
  · rw [← heq, toNat_add_one hlt, hseq, Nat.add_comm]
  · simp [LogFormat.endDigest, hlast, hdigest]
  · simpa [LogFormat.endState, hlast, hstate, follow] using hnext

theorem single (hnext : next.validate = .ok ()) (hopening : Opening next)
    (hbound : (recordFrame 1 (.fill 32 0) next).length ≤ Limits.maxJournalBytes)
    (hvalid : (cursorAt generation 1 (recordFrame 1 (.fill 32 0) next)
      (recordFrame 1 (.fill 32 0) next) next).validate = .ok ()) :
    EndsAt serde (cursorAt generation 1 (recordFrame 1 (.fill 32 0) next)
      (recordFrame 1 (.fill 32 0) next) next) (recordFrame 1 (.fill 32 0) next) next :=
  have hempty : (format serde).IsLog [] [] := ⟨.nil, Nat.zero_le _⟩
  of_isLog hempty rfl rfl hnext (require_eq_ok.mpr hopening) hbound hvalid

end EndsAt

end JournalCodec

end CfwRs.WindowsAuthority
