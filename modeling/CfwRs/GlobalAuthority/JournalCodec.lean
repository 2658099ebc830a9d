import CfwRs.Lib.ChainedLog
import CfwRs.GlobalAuthority.JournalState

namespace CfwRs.GlobalAuthority

open Lib Lib.Checked Lib.Json

namespace AuthorityJournalLimits

def maximumRecordPayloadBytes : ℕ := 64 * 1024

def maximumRecords : ℕ := 4096

def maximumJournalBytes : ℕ := 32 * 1024 * 1024

def maximumHeadBytes : ℕ := 1024

def minimumLifecycleFinishRecords : ℕ := 7

end AuthorityJournalLimits

namespace Serialize

def identifier (id : AuthorityIdentifier) : Json := .str (uuidText id)

def digest (d : SHA256Digest) : Json := .str (hex d.bytes)

def modeText : AuthorityMode → String
  | .localProxy => "local_proxy"
  | .systemProxy => "system_proxy"
  | .tunnel => "tunnel"

def stateText : AuthorityState → String
  | .recovering => "recovering"
  | .off => "off"
  | .preparing => "preparing"
  | .starting => "starting"
  | .active => "active"
  | .stopping => "stopping"
  | .quarantined => "quarantined"

def transitionText : AuthorityJournalTransition → String
  | .enrollOff => "enroll_off"
  | .checkpoint => "checkpoint"
  | .prepare => "prepare"
  | .bindOwner => "bind_owner"
  | .ready => "ready"
  | .beginStop => "begin_stop"
  | .ownerStopped => "owner_stopped"
  | .abortPrepared => "abort_prepared"
  | .revokeForConsoleChange => "revoke_for_console_change"
  | .revokeForTimeout => "revoke_for_timeout"
  | .globalOff => "global_off"
  | .reconcileOff => "reconcile_off"

/-- A record as `JSONEncoder` writes it: its keys are sorted, absent fields are left out. -/
def committedState (s : AuthorityCommittedState) : Json :=
  match s.operation with
  | some o =>
    .obj
      [(ascii "config_sha256", digest o.configSHA256),
        (ascii "epoch", .num s.epoch.toNat),
        (ascii "generation", .num s.generation.toNat),
        (ascii "installation_id", identifier s.installationID),
        (ascii "lease_id", identifier o.leaseID),
        (ascii "mode", .str (ascii (modeText o.mode))),
        (ascii "operation_id", identifier o.operationID),
        (ascii "owner_uid", .num o.ownerUID.toNat),
        (ascii "revision", .num s.revision.toNat),
        (ascii "schema_version", .num 2),
        (ascii "state", .str (ascii (stateText s.state))),
        (ascii "transition", .str (ascii (transitionText s.transition)))]
  | none =>
    .obj
      [(ascii "epoch", .num s.epoch.toNat),
        (ascii "generation", .num s.generation.toNat),
        (ascii "installation_id", identifier s.installationID),
        (ascii "revision", .num s.revision.toNat),
        (ascii "schema_version", .num 2),
        (ascii "state", .str (ascii (stateText s.state))),
        (ascii "transition", .str (ascii (transitionText s.transition)))]

def head (h : AuthorityJournalHead) : Json :=
  .obj
    [(ascii "committed_length", .num h.committedLength.toNat),
      (ascii "record_sha256", digest h.recordSHA256),
      (ascii "schema_version", .num 2),
      (ascii "sequence", .num h.sequence.toNat)]

end Serialize

def AuthorityCommittedState.text (s : AuthorityCommittedState) : Bytes :=
  (Serialize.committedState s).render

def AuthorityJournalHead.text (h : AuthorityJournalHead) : Bytes := (Serialize.head h).render

/-- The decoder of the platform, of which only the round trip is used. -/
structure JSONDecoder where
  committedState : Bytes → Option AuthorityCommittedState
  head : Bytes → Option AuthorityJournalHead
  committedState_text : ∀ s, committedState s.text = some s
  head_text : ∀ h, head h.text = some h

theorem length_ascii_modeText (m) : (ascii (Serialize.modeText m)).length ≤ 12 := by
  cases m <;> decide

theorem length_ascii_stateText (s) : (ascii (Serialize.stateText s)).length ≤ 11 := by
  cases s <;> decide

theorem length_ascii_transitionText (t) : (ascii (Serialize.transitionText t)).length ≤ 25 := by
  cases t <;> decide

theorem length_render_identifier (id) : (render (Serialize.identifier id)).length = 38 := by
  rw [Serialize.identifier, length_render_str, length_uuidText]

theorem length_render_digest (d) : (render (Serialize.digest d)).length = 66 := by
  rw [Serialize.digest, length_render_str, length_hex, d.length_eq]

theorem AuthorityCommittedState.length_text_le (s : AuthorityCommittedState) :
    s.text.length ≤ 1024 := by
  have hstate := length_ascii_stateText s.state
  have htransition := length_ascii_transitionText s.transition
  have hepoch := length_render_word s.epoch
  have hgeneration := length_render_word s.generation
  have hrevision := length_render_word s.revision
  have hschema : (render (.num 2)).length ≤ 1 := length_render_num_le (by decide) (by decide)
  unfold text Serialize.committedState
  split
  · next o _ =>
    have hmode := length_ascii_modeText o.mode
    have howner : (render (.num o.ownerUID.toNat)).length ≤ 20 :=
      length_render_num_le (by decide) (o.ownerUID.toNat_lt.trans (by decide))
    refine length_render_obj_le (a := 15) rfl ?_
    simp only [List.foldr, length_render_identifier, length_render_digest, length_render_str]
    grind
  · refine length_render_obj_le (a := 15) rfl ?_
    simp only [List.foldr, length_render_identifier, length_render_str]
    omega

theorem AuthorityJournalHead.length_text_le (h : AuthorityJournalHead) : h.text.length ≤ 1024 := by
  have hlength := length_render_word h.committedLength
  have hsequence := length_render_word h.sequence
  have hschema : (render (.num 2)).length ≤ 1 := length_render_num_le (by decide) (by decide)
  refine length_render_obj_le (a := 16) rfl ?_
  simp only [List.foldr, length_render_digest]
  omega

namespace Serialize

@[simp] theorem modeText_inj {a b} : ascii (modeText a) = ascii (modeText b) ↔ a = b := by
  cases a <;> cases b <;> decide

@[simp] theorem stateText_inj {a b} : ascii (stateText a) = ascii (stateText b) ↔ a = b := by
  cases a <;> cases b <;> decide

@[simp] theorem transitionText_inj {a b} :
    ascii (transitionText a) = ascii (transitionText b) ↔ a = b := by
  cases a <;> cases b <;> decide

theorem plain_texts (m) (s) (t) : PlainText (ascii (modeText m)) ∧ PlainText (ascii (stateText s)) ∧
      PlainText (ascii (transitionText t)) := by
  refine ⟨?_, ?_, ?_⟩
  · cases m <;> decide
  · cases s <;> decide
  · cases t <;> decide

theorem plain_committedState (s) : Plain (committedState s) := by
  have hstate := (plain_texts .tunnel s.state s.transition).2
  unfold committedState
  split
  · next o _ =>
    have hmode := (plain_texts o.mode s.state s.transition).1
    simp only [Plain, PlainFields, identifier, digest, plainText_uuidText, plainText_hex, hmode,
      hstate]
    decide
  · simp only [Plain, PlainFields, identifier, plainText_uuidText, hstate]
    decide

theorem plain_head (h) : Plain (head h) := by
  simp only [head, Plain, PlainFields, digest, plainText_hex]
  decide

theorem committedState_injective {s t} (h : committedState s = committedState t) : s = t := by
  obtain ⟨i, e, g, r, tr, st, o, _, _, _, _⟩ := s
  obtain ⟨i', e', g', r', tr', st', o', _, _, _, _⟩ := t
  rcases o with _ | ⟨op, m, c, l, u⟩ <;> rcases o' with _ | ⟨op', m', c', l', u'⟩ <;>
    simp only [committedState, identifier, digest, Json.obj.injEq, Json.num.injEq, Json.str.injEq,
      List.cons.injEq, Prod.mk.injEq, true_and, and_true, reduceCtorEq, and_false, uuidText_inj,
      hex_inj, FixedBytes.bytes_inj, modeText_inj, stateText_inj, transitionText_inj,
      UInt64.toNat_inj, UInt32.toNat_inj] at h
  · obtain ⟨rfl, rfl, rfl, rfl, rfl, rfl⟩ := h
    rfl
  · obtain ⟨rfl, rfl, rfl, rfl, rfl, rfl, rfl, rfl, rfl, rfl, rfl⟩ := h
    rfl

theorem head_injective {h h'} (heq : head h = head h') : h = h' := by
  cases h
  simp only [head, digest, Json.obj.injEq, Json.num.injEq, Json.str.injEq, List.cons.injEq,
    Prod.mk.injEq, true_and, and_true, hex_inj, FixedBytes.bytes_inj, UInt64.toNat_inj] at heq
  obtain ⟨rfl, rfl, rfl⟩ := heq
  rfl

end Serialize

/-- The decoder that accepts nothing but canonical text. -/
noncomputable def JSONDecoder.canonical : JSONDecoder where
  committedState := Function.partialInv AuthorityCommittedState.text
  head := Function.partialInv AuthorityJournalHead.text
  committedState_text := Function.partialInv_left (render_comp_injective
    Serialize.plain_committedState fun _ _ ↦ Serialize.committedState_injective)
  head_text := Function.partialInv_left (render_comp_injective Serialize.plain_head
    fun _ _ ↦ Serialize.head_injective)

def canonicalDecode {α : Type} (decode : Bytes → Option α) (canonicalEncode : α → Bytes)
    (data : Bytes) : Except AuthorityJournalValidationError α := do
  let decoded ← unwrap (decode data) .malformedFrame
  require (canonicalEncode decoded = data) .noncanonicalRecord
  pure decoded

theorem canonicalDecode_eq_ok {α : Type} {decode} {encode}
    (h : ∀ a, decode (encode a) = some a) {data : Bytes} {a : α} :
    canonicalDecode decode encode data = .ok a ↔ encode a = data := by
  simp only [canonicalDecode, ok_iff, exists_const]
  constructor
  · rintro ⟨b, -, hb, rfl⟩
    exact hb
  · rintro rfl
    exact ⟨a, h a, rfl, rfl⟩

namespace AuthorityJournalCodec

def magic : FixedBytes 8 := ⟨ascii "CFWAJR02", by decide⟩

def headerBytes : ℕ := 8 + 4 + 8 + 32 + 32 + 4

def zeroDigest : SHA256Digest := .fill 32 0

variable (decoder : JSONDecoder)

open AuthorityJournalLimits

def format : LogFormat AuthorityJournalValidationError AuthorityCommittedState where
  magic := magic
  minPayload := 0
  maxPayload := maximumRecordPayloadBytes
  maxRecords := maximumRecords
  payload_fits := by decide
  sequence_fits := by decide
  accept _ payload := canonicalDecode decoder.committedState (·.text) payload
  tooMany := .tooManyRecords
  truncated := .truncated
  badMagic := .malformedFrame
  badSize := .recordTooLarge
  badSequence := .reordered
  brokenChain := .brokenHashChain
  badDigest := .invalidPayloadDigest
  badChecksum := .invalidCRC

def encodeRecord (state : AuthorityCommittedState) (sequence : UInt64)
    (previousSHA256 : SHA256Digest) :
    Except AuthorityJournalValidationError (Bytes × SHA256Digest) := do
  require (state.text.length ≤ maximumRecordPayloadBytes) .recordTooLarge
  let frame := logFrame magic sequence.toNat previousSHA256 state.text
  pure (frame, Sha256.hash frame)

def decodeRecords (journal : Bytes) :
    Except AuthorityJournalValidationError (List (LogRecord AuthorityCommittedState)) := do
  require (journal ≠ []) .malformedFrame
  (format decoder).decode journal

def encodeHead (head : AuthorityJournalHead) : Except AuthorityJournalValidationError Bytes := do
  require (head.text.length ≤ maximumHeadBytes) .invalidHead
  pure head.text

def decodeHead (data : Bytes) : Except AuthorityJournalValidationError AuthorityJournalHead := do
  require (data ≠ [] ∧ data.length ≤ maximumHeadBytes) .invalidHead
  canonicalDecode decoder.head (·.text) data

theorem encodeRecord_eq (state : AuthorityCommittedState) (sequence : UInt64)
    (previous) : encodeRecord state sequence previous =
      .ok (logFrame magic sequence.toNat previous state.text,
        Sha256.hash (logFrame magic sequence.toNat previous state.text)) := by
  have hlen := state.length_text_le
  have hfits : state.text.length ≤ maximumRecordPayloadBytes :=
    hlen.trans (by decide)
  simp [encodeRecord, hfits, pure, Except.pure]

theorem encodeHead_eq (head : AuthorityJournalHead) : encodeHead head = .ok head.text := by
  have hfits : head.text.length ≤ maximumHeadBytes := head.length_text_le
  simp [encodeHead, hfits, pure, Except.pure]

variable {decoder}

theorem text_ne_nil (head : AuthorityJournalHead) : head.text ≠ [] := by
  simp [AuthorityJournalHead.text, Serialize.head, render]

theorem decodeHead_eq_ok {data head} : decodeHead decoder data = .ok head ↔ head.text = data := by
  simp only [decodeHead, ok_iff, exists_const, canonicalDecode_eq_ok decoder.head_text]
  constructor
  · exact fun h ↦ h.2
  · rintro rfl
    exact ⟨⟨text_ne_nil head, head.length_text_le⟩, rfl⟩

theorem accept_eq_ok {last payload state} :
    (format decoder).accept last payload = .ok state ↔ state.text = payload :=
  canonicalDecode_eq_ok decoder.committedState_text

theorem fits_text (state : AuthorityCommittedState) : (format decoder).Fits state.text :=
  ⟨Nat.zero_le _, state.length_text_le.trans (by decide : 1024 ≤ maximumRecordPayloadBytes)⟩

theorem decodeRecords_eq_ok {journal records} : decodeRecords decoder journal = .ok records ↔
      journal ≠ [] ∧ (format decoder).IsLog journal records := by
  simp [decodeRecords, LogFormat.decode_eq_ok]

section Chain

/-- Encodes the states one after the other, each record with the digest of the one before it. -/
def encodeChain (states : List AuthorityCommittedState) :
    Except AuthorityJournalValidationError (Bytes × List (LogRecord AuthorityCommittedState)) :=
  LogFormat.writeAll encodeRecord states

variable (decoder) in
theorem agrees : (format decoder).Agrees (·.text) encodeRecord fun _ _ ↦ True where
  accept _ _ _ := accept_eq_ok.trans (and_true _).symm.to_iff
  fits _ state _ := fits_text state
  write records state _ hmax := by
    have hmax : records.length < 4096 := hmax
    have hn : (UInt64.ofNat (records.length + 1)).toNat = records.length + 1 :=
      UInt64.toNat_ofNat_of_lt' (Nat.lt_of_le_of_lt hmax (by decide : 4096 < UInt64.size))
    rw [encodeRecord_eq, hn]
    rfl

/-- What is written for a list of states is read as that list with its heads, and what is read was
written so. -/
theorem decodeRecords_encodeChain :
    (∀ states, states ≠ [] → states.length ≤ maximumRecords →
      ∃ journal records, encodeChain states = .ok (journal, records) ∧
        decodeRecords decoder journal = .ok records ∧ records.map (·.state) = states) ∧
    ∀ journal records, decodeRecords decoder journal = .ok records →
      encodeChain (records.map (·.state)) = .ok (journal, records) := by
  simp only [decodeRecords_eq_ok]
  constructor
  · intro states hne hmax
    obtain ⟨journal, records, hwrite, hlog, rfl⟩ := (agrees decoder).isLog (fun _ _ ↦ trivial)
      (List.pairwise_of_forall fun _ _ ↦ trivial).isChain hmax
    refine ⟨journal, records, hwrite, ⟨?_, hlog⟩, rfl⟩
    rintro rfl
    have hempty : (format decoder).IsLog [] [] := ⟨.nil, Nat.zero_le _⟩
    exact hne (congrArg _ (hlog.unique hempty))
  · rintro journal records ⟨-, hlog⟩
    exact ((agrees decoder).write_of_isLog hlog).2.2

theorem enrollment_read_back : ∃ state journal records, state.transition = .enrollOff ∧
    encodeChain [state] = .ok (journal, records) ∧ decodeRecords .canonical journal = .ok records ∧
      records.map (·.state) = [state] := by
  let state : AuthorityCommittedState :=
    ⟨.fill 16 1, 0, 0, 1, .enrollOff, .off, none, by decide, by decide, by decide, by decide⟩
  obtain ⟨journal, records, h⟩ :=
    (@decodeRecords_encodeChain .canonical).1 [state] (List.cons_ne_nil _ _) (by decide)
  exact ⟨state, journal, records, rfl, h⟩

/-- Of no states nothing is written, which the reader refuses. -/
theorem decodeRecords_refuses_none : ∃ journal records, encodeChain [] = .ok (journal, records) ∧
    decodeRecords .canonical journal = .error .malformedFrame :=
  ⟨[], [], rfl, rfl⟩

end Chain

end AuthorityJournalCodec

end CfwRs.GlobalAuthority
