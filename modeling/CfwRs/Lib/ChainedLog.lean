import CfwRs.Lib.Checked
import CfwRs.Lib.Crc32
import CfwRs.Lib.Sha256

namespace CfwRs.Lib

open Lib.Checked

/-- An append-only log. A frame carries a payload with its digest and a checksum, its place in the
log and the digest of the frame before it; `accept` reads the payload, given what the frame before
it held. The other fields name the errors of the reader. -/
structure LogFormat (ε α : Type) where
  magic : FixedBytes 8
  minPayload : ℕ
  maxPayload : ℕ
  maxRecords : ℕ
  payload_fits : maxPayload < 256 ^ 4
  sequence_fits : maxRecords + 1 < 256 ^ 8
  accept : Option α → Bytes → Except ε α
  tooMany : ε
  truncated : ε
  badMagic : ε
  badSize : ε
  badSequence : ε
  brokenChain : ε
  badDigest : ε
  badChecksum : ε

/-- A record as the reader finds it, with the place where its frame ends. -/
structure LogRecord (α : Type) where
  sequence : ℕ
  state : α
  digest : FixedBytes 32
  endOffset : ℕ
deriving DecidableEq

/-- The fields that the checksum covers, together with the payload. -/
def framePreamble (magic : FixedBytes 8) (sequence : ℕ) (previous : FixedBytes 32)
    (payload : Bytes) : Bytes :=
  magic.bytes ++ (bigEndian 4 payload.length ++ (bigEndian 8 sequence ++
    (previous.bytes ++ (Sha256.hash payload).bytes)))

def logFrame (magic : FixedBytes 8) (sequence : ℕ) (previous : FixedBytes 32) (payload : Bytes) :
    Bytes :=
  let fields := framePreamble magic sequence previous payload
  fields ++ (bigEndian 4 (crc32 (fields ++ payload)).toNat ++ payload)

namespace LogFormat

variable {ε α : Type} (f : LogFormat ε α)

abbrev frame (sequence : ℕ) (previous : FixedBytes 32) (payload : Bytes) : Bytes :=
  logFrame f.magic sequence previous payload

def headerBytes : ℕ := 8 + 4 + 8 + 32 + 32 + 4

@[simp] theorem length_framePreamble (magic : FixedBytes 8) (n : ℕ) (d : FixedBytes 32)
    (payload : Bytes) : (framePreamble magic n d payload).length = 84 := by
  simp [framePreamble, FixedBytes.length_eq]

@[simp] theorem length_logFrame (magic : FixedBytes 8) (n : ℕ) (d : FixedBytes 32)
    (payload : Bytes) : (logFrame magic n d payload).length = headerBytes + payload.length := by
  simp only [logFrame, List.length_append, length_framePreamble, length_bigEndian, headerBytes]
  omega

/-- Reads the frame that must come next; gives its payload and what follows it. -/
def decodeFrame (sequence : ℕ) (previous : FixedBytes 32) (bytes : Bytes) :
    Except ε (Bytes × Bytes) := do
  require (headerBytes ≤ bytes.length) f.truncated
  require (bytes.take 8 = f.magic.bytes) f.badMagic
  let size := bigEndianValue ((bytes.drop 8).take 4)
  require (f.minPayload ≤ size ∧ size ≤ f.maxPayload) f.badSize
  require (bigEndianValue ((bytes.drop 12).take 8) = sequence) f.badSequence
  require ((bytes.drop 20).take 32 = previous.bytes) f.brokenChain
  require (size ≤ (bytes.drop headerBytes).length) f.truncated
  let payload := (bytes.drop headerBytes).take size
  require ((Sha256.hash payload).bytes = (bytes.drop 52).take 32) f.badDigest
  require ((crc32 (bytes.take 84 ++ payload)).toNat = bigEndianValue ((bytes.drop 84).take 4))
    f.badChecksum
  pure (payload, (bytes.drop headerBytes).drop size)

def Fits (payload : Bytes) : Prop :=
  f.minPayload ≤ payload.length ∧ payload.length ≤ f.maxPayload

variable {b bytes payload : Bytes} {d previous : FixedBytes 32} {last : Option α} {n offset : ℕ}
  {rs rs' : List (LogRecord α)}

theorem exists_append_of_le_length {l : Bytes} (h : n ≤ l.length) :
    ∃ a b, l = a ++ b ∧ a.length = n :=
  ⟨l.take n, l.drop n, (List.take_append_drop n l).symm, List.length_take_of_le h⟩

theorem exists_fields (h : headerBytes ≤ b.length) :
    ∃ m s q p d c body, b = m ++ (s ++ (q ++ (p ++ (d ++ (c ++ body))))) ∧ m.length = 8 ∧
      s.length = 4 ∧ q.length = 8 ∧ p.length = 32 ∧ d.length = 32 ∧ c.length = 4 := by
  unfold headerBytes at h
  obtain ⟨m, b, rfl, hm⟩ := exists_append_of_le_length (n := 8) (l := b) (by omega)
  rw [List.length_append] at h
  obtain ⟨s, b, rfl, hs⟩ := exists_append_of_le_length (n := 4) (l := b) (by omega)
  rw [List.length_append] at h
  obtain ⟨q, b, rfl, hq⟩ := exists_append_of_le_length (n := 8) (l := b) (by omega)
  rw [List.length_append] at h
  obtain ⟨p, b, rfl, hp⟩ := exists_append_of_le_length (n := 32) (l := b) (by omega)
  rw [List.length_append] at h
  obtain ⟨d, b, rfl, hd⟩ := exists_append_of_le_length (n := 32) (l := b) (by omega)
  rw [List.length_append] at h
  obtain ⟨c, b, rfl, hc⟩ := exists_append_of_le_length (n := 4) (l := b) (by omega)
  exact ⟨m, s, q, p, d, c, b, rfl, hm, hs, hq, hp, hd, hc⟩

theorem fields_of_append {m s q p d c} (body : Bytes) (hm : m.length = 8)
    (hs : s.length = 4) (hq : q.length = 8) (hp : p.length = 32) (hd : d.length = 32)
    (hc : c.length = 4) :
    let b := m ++ (s ++ (q ++ (p ++ (d ++ (c ++ body)))))
    b.take 8 = m ∧ (b.drop 8).take 4 = s ∧ (b.drop 12).take 8 = q ∧ (b.drop 20).take 32 = p ∧
      (b.drop 52).take 32 = d ∧ (b.drop 84).take 4 = c ∧ b.drop headerBytes = body ∧
      b.take 84 = m ++ (s ++ (q ++ (p ++ d))) := by
  simp [List.take_append, List.drop_append, headerBytes, hm, hs, hq, hp, hd, hc,
    List.take_of_length_le, List.drop_eq_nil_of_le]

variable {b' rest : Bytes} {d' : FixedBytes 32} {r : LogRecord α} {records : List (LogRecord α)}

/-- The reader accepts exactly the frames that the writer writes. -/
theorem decodeFrame_eq_ok (hn : n < 256 ^ 8) :
    f.decodeFrame n previous bytes = .ok (payload, rest) ↔
      bytes = f.frame n previous payload ++ rest ∧ f.Fits payload := by
  simp only [decodeFrame, ok_iff, exists_const, Prod.mk.injEq]
  constructor
  · rintro ⟨hlen, hmagic, hfits, hseq, hprev, hsize, hdigest, hcrc, rfl, rfl⟩
    obtain ⟨m, s, q, p, d, c, body, rfl, hm, hs, hq, hp, hd, hc⟩ := exists_fields hlen
    obtain ⟨em, es, eq, ep, ed, ec, ebody, epre⟩ := fields_of_append body hm hs hq hp hd hc
    rw [em] at hmagic
    rw [es] at hfits hsize hdigest hcrc ⊢
    rw [eq] at hseq
    rw [ep] at hprev
    rw [ebody] at hsize hdigest hcrc ⊢
    rw [ed] at hdigest
    rw [epre, ec] at hcrc
    have hlength := List.length_take_of_le hsize
    -- Each field is what the writer would have written for this payload.
    have hs' : bigEndian 4 (body.take (bigEndianValue s)).length = s := by
      rw [hlength, bigEndian_bigEndianValue hs]
    have hq' : bigEndian 8 n = q := by rw [← hseq, bigEndian_bigEndianValue hq]
    have hpre : framePreamble f.magic n previous (body.take (bigEndianValue s)) =
        m ++ (s ++ (q ++ (p ++ d))) := by
      rw [framePreamble, hs', hq', hmagic, hprev, hdigest]
    have hc' : bigEndian 4 (bigEndianValue c) = c := bigEndian_bigEndianValue hc
    refine ⟨?_, by rwa [Fits, hlength]⟩
    rw [frame, logFrame, hpre, hcrc, hc']
    simp
  · rintro ⟨rfl, hmin, hmax⟩
    have hsize : payload.length < 256 ^ 4 := hmax.trans_lt f.payload_fits
    have hcrc : (crc32 (framePreamble f.magic n previous payload ++ payload)).toNat < 256 ^ 4 :=
      UInt32.toNat_lt _
    obtain ⟨em, es, eq, ep, ed, ec, ebody, epre⟩ := fields_of_append (payload ++ rest)
      f.magic.length_eq (length_bigEndian 4 payload.length) (length_bigEndian 8 n)
      previous.length_eq (Sha256.hash payload).length_eq
      (length_bigEndian 4 (crc32 (framePreamble f.magic n previous payload ++ payload)).toNat)
    have hframe : f.frame n previous payload ++ rest = f.magic.bytes ++
        (bigEndian 4 payload.length ++ (bigEndian 8 n ++ (previous.bytes ++
          ((Sha256.hash payload).bytes ++
            (bigEndian 4 (crc32 (framePreamble f.magic n previous payload ++ payload)).toNat ++
              (payload ++ rest)))))) := by
      simp [logFrame, framePreamble]
    rw [hframe, em, es, eq, ep, ed, ec, ebody, epre, bigEndianValue_bigEndian hsize,
      bigEndianValue_bigEndian hn, bigEndianValue_bigEndian hcrc, List.take_left, List.drop_left]
    refine ⟨?_, rfl, ⟨hmin, hmax⟩, rfl, rfl, ?_, rfl, rfl, rfl, rfl⟩
    · rw [← hframe, List.length_append, length_logFrame]
      omega
    · simp

/-- Reads at most `budget` frames, the first of which has the given number, predecessor and place;
`last` is the record before it. -/
def decodeFrom : ℕ → ℕ → FixedBytes 32 → Option α → ℕ → Bytes → Except ε (List (LogRecord α))
  | _, _, _, _, _, [] => pure []
  | 0, _, _, _, _, _ :: _ => .error f.tooMany
  | budget + 1, n, previous, last, offset, b :: bs => do
    let (payload, rest) ← f.decodeFrame n previous (b :: bs)
    let state ← f.accept last payload
    let digest := Sha256.hash ((b :: bs).take (headerBytes + payload.length))
    let endOffset := offset + headerBytes + payload.length
    let records ← decodeFrom budget (n + 1) digest (some state) endOffset rest
    pure (⟨n, state, digest, endOffset⟩ :: records)

/-- The bytes are a chain of frames that hold these records. -/
inductive Chained : ℕ → FixedBytes 32 → Option α → ℕ → Bytes → List (LogRecord α) → Prop
  | nil {n : ℕ} {previous : FixedBytes 32} {last : Option α} {offset : ℕ} :
      Chained n previous last offset [] []
  | cons {n previous last offset payload rest state records} (hfits : f.Fits payload)
      (haccept : f.accept last payload = .ok state)
      (htail : Chained (n + 1) (Sha256.hash (f.frame n previous payload)) (some state)
        (offset + headerBytes + payload.length) rest records) :
      Chained n previous last offset (f.frame n previous payload ++ rest)
        (⟨n, state, Sha256.hash (f.frame n previous payload),
          offset + headerBytes + payload.length⟩ :: records)

theorem take_frame_append (n : ℕ) (d : FixedBytes 32) (payload rest : Bytes) :
    (f.frame n d payload ++ rest).take (headerBytes + payload.length) = f.frame n d payload :=
  List.take_left' (length_logFrame f.magic n d payload)

theorem frame_append_ne_nil : f.frame n d payload ++ rest ≠ [] := by
  intro h
  have hlen := congrArg List.length h
  simp [headerBytes] at hlen

theorem decodeFrom_eq_ok {budget} (hn : n + budget ≤ 256 ^ 8) :
    f.decodeFrom budget n previous last offset bytes = .ok records ↔
      f.Chained n previous last offset bytes records ∧ records.length ≤ budget := by
  induction budget generalizing n previous last offset bytes records with
  | zero =>
    cases bytes with
    | nil =>
      simp only [decodeFrom, pure_eq_ok, Nat.le_zero, List.length_eq_zero_iff]
      exact ⟨fun h ↦ h ▸ ⟨.nil, rfl⟩, fun h ↦ h.2.symm⟩
    | cons b bs =>
      simp only [decodeFrom, reduceCtorEq, Nat.le_zero, List.length_eq_zero_iff, false_iff]
      rintro ⟨h, rfl⟩
      generalize hb : b :: bs = bytes at h
      cases h
      simp at hb
  | succ budget ih =>
    cases bytes with
    | nil =>
      simp only [decodeFrom, pure_eq_ok]
      constructor
      · rintro rfl
        exact ⟨.nil, Nat.zero_le _⟩
      · rintro ⟨h, -⟩
        generalize hb : ([] : Bytes) = bytes at h
        cases h with
        | nil => rfl
        | cons => exact absurd hb.symm f.frame_append_ne_nil
    | cons b bs =>
      have hn' : n < 256 ^ 8 := by omega
      simp only [decodeFrom, ok_iff, Prod.exists]
      constructor
      · rintro ⟨payload, rest, hframe, state, haccept, tail, htail, rfl⟩
        obtain ⟨hbytes, hfits⟩ := (f.decodeFrame_eq_ok hn').mp hframe
        rw [hbytes, take_frame_append] at htail ⊢
        obtain ⟨hchain, hlen⟩ := (ih (by omega)).mp htail
        exact ⟨.cons hfits haccept hchain, Nat.succ_le_succ hlen⟩
      · rintro ⟨h, hlen⟩
        generalize hb : b :: bs = bytes at h ⊢
        cases h with
        | nil => simp at hb
        | @cons _ _ _ _ payload rest state tail hfits haccept hchain =>
          refine ⟨payload, rest, (f.decodeFrame_eq_ok hn').mpr ⟨rfl, hfits⟩, state, haccept, tail, ?_⟩
          rw [take_frame_append]
          exact ⟨(ih (by omega)).mpr ⟨hchain, Nat.le_of_succ_le_succ hlen⟩, rfl⟩

/-- The digest that a frame after these records has to name. -/
def endDigest (previous : FixedBytes 32) (records : List (LogRecord α)) : FixedBytes 32 :=
  (records.getLast?.map (·.digest)).getD previous

def endState (last : Option α) (records : List (LogRecord α)) : Option α :=
  (records.getLast?.map (·.state)).or last

theorem endDigest_cons (d : FixedBytes 32) (r : LogRecord α) (rs : List (LogRecord α)) :
    endDigest d (r :: rs) = endDigest r.digest rs := by
  cases rs <;> simp [endDigest, List.getLast?_cons]

theorem endState_cons (l : Option α) (r : LogRecord α) (rs : List (LogRecord α)) :
    endState l (r :: rs) = endState (some r.state) rs := by
  cases rs <;> simp [endState, List.getLast?_cons]

variable {f}

section

variable (h : f.Chained n previous last offset b rs)
include h

theorem Chained.append (h' : f.Chained (n + rs.length) (endDigest previous rs) (endState last rs)
      (offset + b.length) b' rs') : f.Chained n previous last offset (b ++ b') (rs ++ rs') := by
  induction h with
  | nil => simpa [endDigest, endState] using h'
  | @cons n previous last offset payload rest state records hfits haccept _ ih =>
    rw [List.append_assoc]
    refine .cons hfits haccept (ih ?_)
    rw [endDigest_cons, endState_cons] at h'
    have hn : n + 1 + records.length = n + (records.length + 1) := by omega
    have ho : offset + headerBytes + payload.length + rest.length =
        offset + (f.frame n previous payload ++ rest).length := by
      rw [List.length_append, length_logFrame]
      omega
    rwa [hn, ho]

theorem Chained.snoc {state} (hfits : f.Fits payload)
    (haccept : f.accept (endState last rs) payload = .ok state) :
    let frame := f.frame (n + rs.length) (endDigest previous rs) payload
    f.Chained n previous last offset (b ++ frame)
      (rs ++ [⟨n + rs.length, state, Sha256.hash frame, offset + b.length + frame.length⟩]) := by
  intro frame
  have htail : f.Chained (n + rs.length) (endDigest previous rs) (endState last rs)
      (offset + b.length) (frame ++ [])
      [⟨n + rs.length, state, Sha256.hash frame, offset + b.length + headerBytes + payload.length⟩] :=
    .cons hfits haccept .nil
  rw [List.append_nil] at htail
  have hlen : offset + b.length + frame.length =
      offset + b.length + headerBytes + payload.length := by
    rw [length_logFrame, Nat.add_assoc (offset + b.length)]
  rw [hlen]
  exact h.append htail

theorem Chained.getLast (hr : rs.getLast? = some r) :
    r.sequence + 1 = n + rs.length ∧ r.endOffset = offset + b.length := by
  induction h with
  | nil => simp at hr
  | @cons n previous last offset payload rest state records hfits haccept htail ih =>
    have ho : offset + (f.frame n previous payload ++ rest).length =
        offset + headerBytes + payload.length + rest.length := by
      rw [List.length_append, length_logFrame]
      omega
    rw [ho]
    cases htail with
    | nil =>
      obtain rfl := Option.some.inj hr
      simp
    | cons =>
      obtain ⟨hseq, hend⟩ := ih hr
      rw [hseq]
      simp only [List.length_cons]
      omega

theorem Chained.accepted (hr : r ∈ rs) :
    ∃ before payload, f.accept before payload = .ok r.state := by
  induction h with
  | nil => cases hr
  | cons _ haccept _ ih =>
    rcases List.mem_cons.mp hr with rfl | hr
    · exact ⟨_, _, haccept⟩
    · exact ih hr

theorem Chained.length_le {a}
    (ha : ∀ last payload state, f.accept last payload = .ok state → payload.length ≤ a) :
    b.length ≤ rs.length * (headerBytes + a) := by
  induction h with
  | nil => exact Nat.zero_le _
  | cons _ haccept _ ih =>
    have hpayload := ha _ _ _ haccept
    rw [List.length_append, length_logFrame, List.length_cons, Nat.succ_mul]
    omega

end

theorem frame_inj {payload'} (h : f.frame n d payload = f.frame n d' payload') :
    d = d' ∧ payload = payload' := by
  obtain ⟨hpre, hrest⟩ := List.append_inj h (by simp)
  obtain ⟨-, hpayload⟩ := List.append_inj hrest (by simp)
  obtain ⟨-, hpre⟩ := List.append_inj hpre rfl
  obtain ⟨-, hpre⟩ := List.append_inj hpre (by simp)
  obtain ⟨-, hpre⟩ := List.append_inj hpre rfl
  obtain ⟨hd, -⟩ := List.append_inj hpre (by rw [d.length_eq, d'.length_eq])
  exact ⟨FixedBytes.ext_bytes hd, hpayload⟩

variable (f) in
def FrameIn (x b : Bytes) : Prop := x <:+: b ∧ ∃ n d payload, x = f.frame n d payload

theorem FrameIn.append {x} (h : f.FrameIn x b) (a : Bytes) : f.FrameIn x (a ++ b) :=
  ⟨h.1.trans (List.suffix_append a b).isInfix, h.2⟩

theorem frameIn_append_self (n : ℕ) (d : FixedBytes 32) (payload b : Bytes) :
    f.FrameIn (f.frame n d payload) (f.frame n d payload ++ b) :=
  ⟨(List.prefix_append _ b).isInfix, n, d, payload, rfl⟩

/-- The digest of its last frame determines a whole log of a given length, unless two different
frames of the two logs have one digest. -/
theorem Chained.eq_of_endDigest_eq {o o' l l'} (h : f.Chained n d l o b rs)
    (h' : f.Chained n d' l' o' b' rs') (hlen : rs.length = rs'.length) (hne : rs ≠ [])
    (hend : endDigest d rs = endDigest d' rs')
    (hinj : ∀ x y, f.FrameIn x b → f.FrameIn y b' → Sha256.hash x = Sha256.hash y → x = y) :
    d = d' ∧ b = b' := by
  induction h generalizing d' l' o' b' rs' with
  | nil => exact absurd rfl hne
  | @cons n d l o payload rest state records hfits haccept htail ih =>
    cases h' with
    | nil => simp at hlen
    | @cons _ _ _ _ payload' rest' state' records' hfits' haccept' htail' =>
      simp only [List.length_cons, Nat.add_right_cancel_iff] at hlen
      rw [endDigest_cons, endDigest_cons] at hend
      have hframe : Sha256.hash (f.frame n d payload) = Sha256.hash (f.frame n d' payload') ∧
          rest = rest' := by
        by_cases hrecords : records = []
        · subst hrecords
          obtain rfl : records' = [] := List.length_eq_zero_iff.mp hlen.symm
          cases htail
          cases htail'
          exact ⟨hend, rfl⟩
        · exact ih htail' hlen hrecords hend fun x y hx hy ↦ hinj x y (hx.append _) (hy.append _)
      have heq := hinj _ _ (frameIn_append_self n d payload rest)
        (frameIn_append_self n d' payload' rest') hframe.1
      exact ⟨(frame_inj heq).1, by rw [heq, hframe.2]⟩

variable (f)

def IsLog (bytes : Bytes) (records : List (LogRecord α)) : Prop :=
  f.Chained 1 (.fill 32 0) none 0 bytes records ∧ records.length ≤ f.maxRecords

section Writing

variable (text : α → Bytes) (write : α → UInt64 → FixedBytes 32 → Except ε (Bytes × FixedBytes 32))

def extended (log : Bytes × List (LogRecord α)) (state : α) (frame : Bytes)
    (digest : FixedBytes 32) : Bytes × List (LogRecord α) :=
  (log.1 ++ frame, log.2 ++ [⟨log.2.length + 1, state, digest, log.1.length + frame.length⟩])

/-- Writes one record more, with the number and the digest that follow from the log. -/
def writeNext (log : Bytes × List (LogRecord α)) (state : α) :
    Except ε (Bytes × List (LogRecord α)) := do
  let (frame, digest) ← write state (.ofNat (log.2.length + 1)) (endDigest (.fill 32 0) log.2)
  pure (extended log state frame digest)

/-- Writes the states one after the other. -/
def writeAll (states : List α) : Except ε (Bytes × List (LogRecord α)) :=
  states.foldlM (writeNext write) ([], [])

def nextFrame (records : List (LogRecord α)) (state : α) : Bytes :=
  f.frame (records.length + 1) (endDigest (.fill 32 0) records) (text state)

/-- What the writer of a log and its reader have to agree on. -/
structure Agrees (Follows : Option α → α → Prop) : Prop where
  accept : ∀ last payload state, f.accept last payload = .ok state ↔
    text state = payload ∧ Follows last state
  fits : ∀ last state, Follows last state → f.Fits (text state)
  write : ∀ records state, Follows (endState none records) state → records.length < f.maxRecords →
    write state (.ofNat (records.length + 1)) (endDigest (.fill 32 0) records) =
      .ok (f.nextFrame text records state, Sha256.hash (f.nextFrame text records state))

variable {f text write} {Follows : Option α → α → Prop} {states : List α}
  {log : Bytes × List (LogRecord α)} (h : f.Agrees text write Follows)
include h

theorem Agrees.foldlM_cons {state} (hfollows : Follows (endState none log.2) state)
    (hmax : log.2.length < f.maxRecords) : (state :: states).foldlM (writeNext write) log =
      states.foldlM (writeNext write) (extended log state (f.nextFrame text log.2 state)
        (Sha256.hash (f.nextFrame text log.2 state))) := by
  rw [List.foldlM_cons, writeNext, h.write log.2 state hfollows hmax]
  rfl

variable (log) in
theorem Agrees.chained (hlog : f.Chained 1 (.fill 32 0) none 0 log.1 log.2)
    (hfirst : ∀ state ∈ states.head?, Follows (endState none log.2) state)
    (hchain : states.IsChain fun prior state ↦ Follows (some prior) state)
    (hmax : log.2.length + states.length ≤ f.maxRecords) :
    ∃ log', states.foldlM (writeNext write) log = .ok log' ∧
      f.Chained 1 (.fill 32 0) none 0 log'.1 log'.2 ∧
      log'.2.map (·.state) = log.2.map (·.state) ++ states := by
  induction states generalizing log with
  | nil => exact ⟨log, rfl, hlog, by simp⟩
  | cons state states ih =>
    have hfollows := hfirst state rfl
    obtain ⟨hnext, hchain⟩ := List.isChain_cons.mp hchain
    rw [List.length_cons] at hmax
    have hone := hlog.snoc (h.fits _ _ hfollows) ((h.accept _ _ _).mpr ⟨rfl, hfollows⟩)
    rw [Nat.add_comm 1, Nat.zero_add] at hone
    rw [h.foldlM_cons hfollows (by omega)]
    obtain ⟨log', hwrite, hlog', hstates⟩ := ih (extended log state _ _) hone
      (by simpa [extended, endState] using hnext) hchain (by simp [extended]; omega)
    exact ⟨log', hwrite, hlog', by simpa [extended] using hstates⟩

variable (log) in
theorem Agrees.written (hlog : f.Chained n previous last offset b rs) (hn : n = log.2.length + 1)
    (hprevious : previous = endDigest (.fill 32 0) log.2) (hlast : last = endState none log.2)
    (hoffset : offset = log.1.length) (hmax : log.2.length + rs.length ≤ f.maxRecords) :
    (∀ state ∈ (rs.map (·.state)).head?, Follows last state) ∧
      (rs.map (·.state)).IsChain (fun prior state ↦ Follows (some prior) state) ∧
      (rs.map (·.state)).foldlM (writeNext write) log = .ok (log.1 ++ b, log.2 ++ rs) := by
  induction hlog generalizing log with
  | nil => simp [pure, Except.pure]
  | @cons _ _ _ _ payload rest state tail hfits haccept _ ih =>
    subst hn hprevious hlast hoffset
    obtain ⟨rfl, hfollows⟩ := (h.accept _ _ _).mp haccept
    rw [List.length_cons] at hmax
    rw [List.map_cons, h.foldlM_cons hfollows (by omega)]
    obtain ⟨hnext, hchain, htail⟩ := ih (extended log state (f.nextFrame text log.2 state)
        (Sha256.hash (f.nextFrame text log.2 state)))
      (by simp [extended]) (by simp [extended, endDigest, nextFrame]) (by simp [extended, endState])
      (by simp [extended, nextFrame, Nat.add_assoc]) (by simp [extended]; omega)
    refine ⟨by simpa using hfollows, List.isChain_cons.mpr ⟨hnext, hchain⟩, htail.trans ?_⟩
    simp [extended, nextFrame, Nat.add_assoc]

/-- A log is what is written for the states that it holds, and these follow each other. -/
theorem Agrees.write_of_isLog (hlog : f.IsLog b rs) :
    (∀ state ∈ (rs.map (·.state)).head?, Follows none state) ∧
      (rs.map (·.state)).IsChain (fun prior state ↦ Follows (some prior) state) ∧
      writeAll write (rs.map (·.state)) = .ok (b, rs) :=
  h.written ([], []) hlog.1 rfl rfl rfl rfl ((Nat.zero_add _).trans_le hlog.2)

/-- States that follow each other are written as a log of them. -/
theorem Agrees.isLog (hfirst : ∀ state ∈ states.head?, Follows none state)
    (hchain : states.IsChain fun prior state ↦ Follows (some prior) state)
    (hmax : states.length ≤ f.maxRecords) :
    ∃ b rs, writeAll write states = .ok (b, rs) ∧ f.IsLog b rs ∧ rs.map (·.state) = states := by
  obtain ⟨⟨b, rs⟩, hwrite, hlog, hstates⟩ := h.chained ([], []) .nil hfirst hchain
    ((Nat.zero_add _).trans_le hmax)
  have hcount : rs.length = states.length := by
    rw [← List.length_map, hstates]
    rfl
  exact ⟨b, rs, hwrite, ⟨hlog, hcount.trans_le hmax⟩, hstates⟩

end Writing

def decode (bytes : Bytes) : Except ε (List (LogRecord α)) :=
  f.decodeFrom f.maxRecords 1 (.fill 32 0) none 0 bytes

theorem decode_eq_ok : f.decode bytes = .ok records ↔ f.IsLog bytes records :=
  f.decodeFrom_eq_ok (by have := f.sequence_fits; omega)

variable {f}

theorem IsLog.unique (h : f.IsLog b rs) (h' : f.IsLog b rs') : rs = rs' :=
  Except.ok.inj ((f.decode_eq_ok.mpr h).symm.trans (f.decode_eq_ok.mpr h'))

theorem IsLog.eq_of_getLast {r r'} (h : f.IsLog b rs) (h' : f.IsLog b' rs')
    (hr : rs.getLast? = some r) (hr' : rs'.getLast? = some r') (hlen : rs.length = rs'.length)
    (hdigest : r.digest = r'.digest)
    (hinj : ∀ x y, f.FrameIn x b → f.FrameIn y b' → Sha256.hash x = Sha256.hash y → x = y) :
    b = b' ∧ r.state = r'.state := by
  have hne : rs ≠ [] := by
    rintro rfl
    cases hr
  obtain ⟨-, rfl⟩ := h.1.eq_of_endDigest_eq h'.1 hlen hne (by simp [endDigest, hr, hr', hdigest]) hinj
  obtain rfl := h.unique h'
  exact ⟨rfl, congrArg LogRecord.state (Option.some.inj (hr.symm.trans hr'))⟩

end LogFormat

end CfwRs.Lib
