import CfwRs.WindowsAuthority.JournalModel

namespace CfwRs.WindowsAuthority

open Lib Lib.Checked Lib.Json

namespace JournalCursor

def new (generation sequence committedLength : UInt64) (recordSha256 : Digest)
    (stateRevision : UInt64) : Validated JournalCursor := do
  let value : JournalCursor := { generation, sequence, committedLength, recordSha256, stateRevision }
  value.validate
  pure value

def Continues (c pending : JournalCursor) : Prop :=
  checkedSucc c.sequence = some pending.sequence ∧
    checkedSucc c.stateRevision = some pending.stateRevision ∧
    c.committedLength < pending.committedLength

def Opens (c pending : JournalCursor) : Prop :=
  checkedSucc c.generation = some pending.generation ∧ pending.sequence = 1 ∧
    pending.stateRevision = c.stateRevision

def Begins (pending : JournalCursor) : Prop :=
  pending.generation = 1 ∧ pending.sequence = 1 ∧ pending.stateRevision = 1

def Advances (committed : Option JournalCursor) (pending : JournalCursor) : Prop :=
  match committed with
  | none => pending.Begins
  | some c => if pending.generation = c.generation then Continues c pending else Opens c pending

instance (c p : JournalCursor) : Decidable (Continues c p) := inferInstanceAs (Decidable (_ ∧ _))

instance (c p : JournalCursor) : Decidable (Opens c p) := inferInstanceAs (Decidable (_ ∧ _))

instance (p : JournalCursor) : Decidable p.Begins := inferInstanceAs (Decidable (_ ∧ _))

instance : (committed : Option JournalCursor) → (pending : JournalCursor) →
    Decidable (Advances committed pending)
  | none, p => inferInstanceAs (Decidable p.Begins)
  | some c, p =>
    inferInstanceAs (Decidable (if p.generation = c.generation then Continues c p else Opens c p))

variable {c p : JournalCursor}

theorem advances_same (h : p.generation = c.generation) : Advances (some c) p ↔ Continues c p := by
  rw [Advances, if_pos h]

theorem advances_other (h : p.generation ≠ c.generation) : Advances (some c) p ↔ Opens c p := by
  rw [Advances, if_neg h]

end JournalCursor

structure JournalAnchor where
  schemaVersion : UInt16
  storeId : Uuid
  committed : Option JournalCursor
  pending : Option JournalCursor
deriving DecidableEq

namespace JournalAnchor

def validateCursor : Option JournalCursor → Validated Unit
  | some cursor => cursor.validate
  | none => pure ()

def validate (a : JournalAnchor) : Validated Unit := do
  reject (a.schemaVersion ≠ 1) .unsupportedSchema
  validateCursor a.committed
  validateCursor a.pending
  require (∀ p ∈ a.pending, JournalCursor.Advances a.committed p) .anchor

def new (storeId : Uuid) (committed pending : Option JournalCursor) : Validated JournalAnchor := do
  let value : JournalAnchor := { schemaVersion := 1, storeId, committed, pending }
  value.validate
  pure value

end JournalAnchor

namespace Serialize

def cursor (c : JournalCursor) : Json :=
  .obj
    [(ascii "generation", .num c.generation.toNat),
      (ascii "sequence", .num c.sequence.toNat),
      (ascii "committed_length", .num c.committedLength.toNat),
      (ascii "record_sha256", byteArray c.recordSha256.bytes),
      (ascii "state_revision", .num c.stateRevision.toNat)]

def anchor (a : JournalAnchor) : Json :=
  .obj
    [(ascii "schema_version", .num a.schemaVersion.toNat),
      (ascii "store_id", uuid a.storeId),
      (ascii "committed", optional cursor a.committed),
      (ascii "pending", optional cursor a.pending)]

end Serialize

def JournalCursor.text (c : JournalCursor) : Bytes := (Serialize.cursor c).render

def JournalAnchor.text (a : JournalAnchor) : Bytes := (Serialize.anchor a).render

/-- The reader of `serde_json`, of which only the round trip is used. -/
structure SerdeJson where
  committedState : Bytes → Option AuthorityCommittedState
  cursor : Bytes → Option JournalCursor
  anchor : Bytes → Option JournalAnchor
  committedState_text : ∀ s, committedState s.text = some s
  cursor_text : ∀ c, cursor c.text = some c
  anchor_text : ∀ a, anchor a.text = some a

def encode (text : Bytes) (maximum : ℕ) : Validated Bytes := do
  reject (maximum < text.length) .capacity
  pure text

def decode {α : Type} (fromSlice : Bytes → Option α) (text : α → Bytes) (bytes : Bytes)
    (maximum : ℕ) : Validated α := do
  reject (bytes = [] ∨ maximum < bytes.length) .capacity
  let value ← unwrap (fromSlice bytes) .encoding
  let encoded ← encode (text value) maximum
  require (encoded = bytes) .encoding
  pure value

variable {bytes : Bytes} {maximum : ℕ} {α : Type} {a : α}

theorem encode_eq_ok {text} :
    encode text maximum = .ok bytes ↔ text = bytes ∧ text.length ≤ maximum := by
  simp only [encode, ok_iff, exists_const, Nat.not_lt]
  exact And.comm

variable {fromSlice : Bytes → Option α} {s : AuthorityCommittedState} {text : α → Bytes}
  {validate : α → Validated Unit}

theorem decode_eq_ok (hround : ∀ a, fromSlice (text a) = some a) :
    decode fromSlice text bytes maximum = .ok a ↔
      text a = bytes ∧ bytes ≠ [] ∧ bytes.length ≤ maximum := by
  simp only [decode, ok_iff, encode_eq_ok, exists_const, not_or, Nat.not_lt]
  constructor
  · rintro ⟨⟨hne, hlen⟩, b, -, c, ⟨rfl, -⟩, hb, rfl⟩
    exact ⟨hb, hne, hlen⟩
  · rintro ⟨rfl, hne, hlen⟩
    exact ⟨⟨hne, hlen⟩, a, hround a, text a, ⟨rfl, hlen⟩, rfl, rfl⟩

def encodeValid {α : Type} (validate : α → Validated Unit) (text : α → Bytes) (maximum : ℕ) (a : α) :
    Validated Bytes := do
  validate a
  encode (text a) maximum

def decodeValid {α : Type} (validate : α → Validated Unit) (fromSlice : Bytes → Option α)
    (text : α → Bytes) (maximum : ℕ) (bytes : Bytes) : Validated α := do
  let value ← decode fromSlice text bytes maximum
  validate value
  pure value

theorem encodeValid_eq (h : validate a = .ok ()) (hfits : (text a).length ≤ maximum) :
    encodeValid validate text maximum a = .ok (text a) := by
  simp only [encodeValid, bind_eq_ok, encode_eq_ok]
  exact ⟨(), h, trivial, hfits⟩

theorem decodeValid_eq_ok (hround : ∀ a, fromSlice (text a) = some a)
    (hfits : ∀ a, validate a = .ok () → text a ≠ [] ∧ (text a).length ≤ maximum) :
    decodeValid validate fromSlice text maximum bytes = .ok a ↔
      text a = bytes ∧ validate a = .ok () := by
  simp only [decodeValid, ok_iff, decode_eq_ok hround]
  constructor
  · rintro ⟨a, ⟨rfl, -⟩, _, h, rfl⟩
    exact ⟨rfl, h⟩
  · rintro ⟨rfl, h⟩
    exact ⟨a, ⟨rfl, hfits a h⟩, (), h, rfl⟩

def JournalCursor.encode : JournalCursor → Validated Bytes :=
  encodeValid JournalCursor.validate JournalCursor.text Limits.maxHeadBytes

def JournalAnchor.encode : JournalAnchor → Validated Bytes :=
  encodeValid JournalAnchor.validate JournalAnchor.text Limits.maxAnchorBytes

section

variable (serde : SerdeJson)

def AuthorityCommittedState.decode : Bytes → Validated AuthorityCommittedState :=
  decodeValid AuthorityCommittedState.validate serde.committedState AuthorityCommittedState.text
    Limits.maxRecordPayload

def JournalCursor.decode : Bytes → Validated JournalCursor :=
  decodeValid JournalCursor.validate serde.cursor JournalCursor.text Limits.maxHeadBytes

def JournalAnchor.decode : Bytes → Validated JournalAnchor :=
  decodeValid JournalAnchor.validate serde.anchor JournalAnchor.text Limits.maxAnchorBytes

end

namespace Serialize

theorem length_ascii_modeText (m) : (ascii (modeText m)).length ≤ 12 := by
  cases m <;> decide

theorem length_ascii_stateText (s) : (ascii (stateText s)).length ≤ 11 := by
  cases s <;> decide

theorem length_ascii_transitionText (t) : (ascii (transitionText t)).length ≤ 25 := by
  cases t <;> decide

theorem length_render_uuid (id : Uuid) : (render (uuid id)).length = 38 := by
  rw [uuid, length_render_str, length_uuidText]

theorem length_render_byteArray (b : Bytes) : (render (byteArray b)).length ≤ 2 + b.length * 4 := by
  have hitems : ∀ j ∈ b.map fun x ↦ Json.num x.toNat, (render j).length ≤ 3 := by
    intro j hj
    obtain ⟨x, -, rfl⟩ := List.mem_map.mp hj
    exact length_render_num_le (by decide) (x.toNat_lt.trans (by decide))
  exact (length_render_arr_le hitems).trans_eq (by rw [List.length_map])

theorem length_render_digest (d : Digest) : (render (byteArray d.bytes)).length ≤ 130 := by
  have h := length_render_byteArray d.bytes
  rwa [d.length_eq] at h

theorem length_render_cursor (c) : (render (cursor c)).length ≤ 320 := by
  have hgeneration := length_render_word c.generation
  have hsequence := length_render_word c.sequence
  have hlength := length_render_word c.committedLength
  have hrevision := length_render_word c.stateRevision
  have hdigest := length_render_digest c.recordSha256
  refine length_render_obj_le (a := 16) rfl ?_
  simp only [List.foldr]
  omega

theorem length_render_root (r) : (render (root r)).length ≤ 160 := by
  have hepoch := length_render_word r.epoch
  have hgeneration := length_render_word r.generation
  refine length_render_obj_le (a := 15) rfl ?_
  simp only [List.foldr, length_render_uuid]
  omega

theorem length_render_owner {o} (h : o.validate = .ok ()) : (render (owner o)).length ≤ 400 := by
  have hsid : o.sid.length ≤ 68 := by
    simp only [RecordedOwner.validate, reject_eq_ok, not_or, UInt8.not_lt,
      UInt8.le_iff_toNat_le, UInt8.toNat_ofNat] at h
    omega
  have hbytes := length_render_byteArray o.sid
  have hauthentication := length_render_word o.authenticationId
  have hsession : (render (.num o.sessionId.toNat)).length ≤ 10 :=
    length_render_num_le (by decide) (o.sessionId.toNat_lt.trans (by decide))
  refine length_render_obj_le (a := 17) rfl ?_
  simp only [List.foldr]
  omega

theorem length_render_operation {o} (h : o.validate = .ok ()) :
    (render (operation o)).length ≤ 1000 := by
  simp only [JournalOperation.validate, bind_eq_ok] at h
  obtain ⟨_, howner, -⟩ := h
  have howner := length_render_owner howner
  have hmode := length_ascii_modeText o.mode
  have hconfig := length_render_digest o.configSha256
  have hidentity := length_render_digest o.identitySha256
  refine length_render_obj_le (a := 15) rfl ?_
  simp only [List.foldr, length_render_uuid, length_render_str]
  omega

end Serialize

/-- A valid record fits into a frame with much room to spare. -/
theorem AuthorityCommittedState.length_text_le (h : s.validate = .ok ()) :
    s.text.length ≤ 2048 := by
  have hoperation : s.validateOperation = .ok () := by
    simp only [validate, bind_eq_ok] at h
    obtain ⟨_, -, _, -, _, hoperation, -⟩ := h
    exact hoperation
  have hschema : (render (.num s.schemaVersion.toNat)).length ≤ 5 :=
    length_render_num_le (by decide) (s.schemaVersion.toNat_lt.trans (by decide))
  have hroot := Serialize.length_render_root s.root
  have hallocated := length_render_word s.allocatedGeneration
  have hrevision := length_render_word s.revision
  have htransition := Serialize.length_ascii_transitionText s.transition
  have hstate := Serialize.length_ascii_stateText s.state
  have hvalue : (render (optional Serialize.operation s.operation)).length ≤ 1000 := by
    refine length_render_optional_le (fun o ho ↦ ?_) (by decide)
    rw [validateOperation, ho] at hoperation
    exact Serialize.length_render_operation hoperation
  refine length_render_obj_le (a := 20) rfl ?_
  simp only [List.foldr, length_render_str]
  omega

theorem JournalCursor.length_text_le (c : JournalCursor) : c.text.length ≤ Limits.maxHeadBytes :=
  (Serialize.length_render_cursor c).trans (by decide)

theorem JournalAnchor.length_text_le (a : JournalAnchor) :
    a.text.length ≤ Limits.maxAnchorBytes := by
  have hschema : (render (.num a.schemaVersion.toNat)).length ≤ 5 :=
    length_render_num_le (by decide) (a.schemaVersion.toNat_lt.trans (by decide))
  have hcursor (c : Option JournalCursor) : (render (optional Serialize.cursor c)).length ≤ 320 :=
    length_render_optional_le (fun c _ ↦ Serialize.length_render_cursor c) (by decide)
  have hcommitted := hcursor a.committed
  have hpending := hcursor a.pending
  refine length_render_obj_le (a := 14) rfl ?_
  simp only [List.foldr, Limits.maxAnchorBytes, Serialize.length_render_uuid]
  omega

namespace Serialize

@[simp] theorem modeText_inj {a b} : ascii (modeText a) = ascii (modeText b) ↔ a = b := by
  cases a <;> cases b <;> decide

@[simp] theorem stateText_inj {a b} : ascii (stateText a) = ascii (stateText b) ↔ a = b := by
  cases a <;> cases b <;> decide

@[simp] theorem transitionText_inj {a b} :
    ascii (transitionText a) = ascii (transitionText b) ↔ a = b := by
  cases a <;> cases b <;> decide

theorem plainText_modeText (m) : PlainText (ascii (modeText m)) := by
  cases m <;> decide

theorem plainText_stateText (s) : PlainText (ascii (stateText s)) := by
  cases s <;> decide

theorem plainText_transitionText (t) : PlainText (ascii (transitionText t)) := by
  cases t <;> decide

theorem plain_byteArray (b : Bytes) : Plain (byteArray b) := by
  rw [byteArray, Plain]
  induction b with
  | nil => simp [PlainItems]
  | cons x b ih => simpa [PlainItems, Plain] using ih

theorem plain_uuid (id : Uuid) : Plain (uuid id) := by
  exact plainText_uuidText id

theorem plain_operation (o) : Plain (operation o) := by
  simp only [operation, owner, Plain, PlainFields, plain_uuid, plain_byteArray, plainText_modeText]
  decide

theorem plain_committedState (s) : Plain (committedState s) := by
  have hoperation := plain_optional plain_operation s.operation
  simp only [committedState, root, Plain, PlainFields, plain_uuid, plainText_stateText,
    plainText_transitionText, hoperation]
  decide

theorem plain_cursor (c) : Plain (cursor c) := by
  simp only [cursor, Plain, PlainFields, plain_byteArray]
  decide

theorem plain_anchor (a) : Plain (anchor a) := by
  simp only [anchor, Plain, PlainFields, plain_uuid, plain_optional plain_cursor]
  decide

@[simp] theorem byteArray_inj {a b} : byteArray a = byteArray b ↔ a = b := by
  rw [byteArray, byteArray, Json.arr.injEq, List.map_inj_right]
  simp [UInt8.toNat_inj]

theorem cursor_injective {c d} (h : cursor c = cursor d) : c = d := by
  cases c
  cases d
  simpa [cursor, UInt64.toNat_inj] using h

@[simp] theorem optional_cursor_inj {c d} : optional cursor c = optional cursor d ↔ c = d :=
  ⟨optional_injective (fun _ _ ↦ cursor_injective) (fun c h ↦ by simp [cursor] at h), congrArg _⟩

theorem anchor_injective {a b} (h : anchor a = anchor b) : a = b := by
  cases a
  cases b
  simpa [anchor, uuid, UInt16.toNat_inj] using h

theorem operation_injective {o p} (h : operation o = operation p) : o = p := by
  obtain ⟨_, _, _, _, _, ⟨_, _, _⟩⟩ := o
  obtain ⟨_, _, _, _, _, ⟨_, _, _⟩⟩ := p
  simpa [operation, owner, uuid, UInt64.toNat_inj, UInt32.toNat_inj] using h

@[simp] theorem optional_operation_inj {o p} :
    optional operation o = optional operation p ↔ o = p :=
  ⟨optional_injective (fun _ _ ↦ operation_injective) (fun o h ↦ by simp [operation] at h),
    congrArg _⟩

theorem committedState_injective {s t} (h : committedState s = committedState t) : s = t := by
  obtain ⟨_, ⟨_, _, _⟩, _, _, _, _, _⟩ := s
  obtain ⟨_, ⟨_, _, _⟩, _, _, _, _, _⟩ := t
  simpa [committedState, root, uuid, UInt16.toNat_inj, UInt64.toNat_inj] using h

end Serialize

/-- The reader that accepts nothing but canonical text. -/
noncomputable def SerdeJson.canonical : SerdeJson where
  committedState := Function.partialInv AuthorityCommittedState.text
  cursor := Function.partialInv JournalCursor.text
  anchor := Function.partialInv JournalAnchor.text
  committedState_text := Function.partialInv_left (render_comp_injective
    Serialize.plain_committedState fun _ _ ↦ Serialize.committedState_injective)
  cursor_text := Function.partialInv_left (render_comp_injective Serialize.plain_cursor
    fun _ _ ↦ Serialize.cursor_injective)
  anchor_text := Function.partialInv_left (render_comp_injective Serialize.plain_anchor
    fun _ _ ↦ Serialize.anchor_injective)

theorem render_obj_ne_nil (fields : List (Bytes × Json)) : render (.obj fields) ≠ [] := by
  simp [render]

section

variable {serde : SerdeJson} {bytes : Bytes}
variable {c : JournalCursor} {s : AuthorityCommittedState}

theorem AuthorityCommittedState.encode_eq (h : s.validate = .ok ()) : s.encode = .ok s.text :=
  encodeValid_eq h ((length_text_le h).trans (by decide))

theorem JournalCursor.encode_eq (h : c.validate = .ok ()) : c.encode = .ok c.text :=
  encodeValid_eq h c.length_text_le

theorem JournalAnchor.encode_eq {a : JournalAnchor} (h : a.validate = .ok ()) :
    a.encode = .ok a.text :=
  encodeValid_eq h a.length_text_le

theorem AuthorityCommittedState.decode_eq_ok :
    AuthorityCommittedState.decode serde bytes = .ok s ↔ s.text = bytes ∧ s.validate = .ok () :=
  decodeValid_eq_ok serde.committedState_text fun _ h ↦
    ⟨render_obj_ne_nil _, (length_text_le h).trans (by decide)⟩

theorem JournalCursor.decode_eq_ok :
    JournalCursor.decode serde bytes = .ok c ↔ c.text = bytes ∧ c.validate = .ok () :=
  decodeValid_eq_ok serde.cursor_text fun c _ ↦ ⟨render_obj_ne_nil _, c.length_text_le⟩

theorem JournalAnchor.decode_eq_ok {a} :
    JournalAnchor.decode serde bytes = .ok a ↔ a.text = bytes ∧ a.validate = .ok () :=
  decodeValid_eq_ok serde.anchor_text fun a _ ↦ ⟨render_obj_ne_nil _, a.length_text_le⟩

end

end CfwRs.WindowsAuthority
