import CfwRs.GlobalAuthority.JournalCodec

namespace CfwRs.GlobalAuthority

open Lib Lib.Checked AuthorityJournalCodec

/-- How checked arithmetic and `throws` end a computation early: with an error that callers can
catch, or with a trap of the process. -/
inductive Abort (ε : Type)
  | thrown (error : ε)
  | trap
deriving DecidableEq

def thrown {ε α : Type} (x : Except ε α) : Except (Abort ε) α := x.mapError .thrown

@[simp] theorem thrown_eq_ok {ε α : Type} {x : Except ε α} {a} : thrown x = .ok a ↔ x = .ok a := by
  cases x <;> simp [thrown, Except.mapError]

structure AuthorityJournalImage where
  journal : Option Bytes
  head : Option Bytes
  hasTemporaryHead : Bool
deriving DecidableEq

/-- The relation between neighbouring records; `prior.revision + 1` must not overflow. -/
def Follows (prior next : AuthorityCommittedState) : Prop :=
  next.installationID = prior.installationID ∧ checkedSucc prior.revision = some next.revision ∧
    ¬PairLess (next.epoch, next.generation) (prior.epoch, prior.generation)

instance (prior next : AuthorityCommittedState) : Decidable (Follows prior next) :=
  inferInstanceAs (Decidable (_ ∧ _))

namespace AuthorityJournalRecoveryReducer

def validatePairs : List AuthorityCommittedState →
    Except (Abort AuthorityJournalValidationError) Unit
  | prior :: next :: rest => do
    thrown (require (next.installationID = prior.installationID) .rollback)
    let expected ← unwrap (checkedSucc prior.revision) .trap
    thrown (require (next.revision = expected)
      (if next.revision ≤ prior.revision then .rollback else .reordered))
    thrown (reject (PairLess (next.epoch, next.generation) (prior.epoch, prior.generation))
      .rollback)
    validatePairs (next :: rest)
  | _ => pure ()

def validateMonotonic (states : List AuthorityCommittedState) :
    Except (Abort AuthorityJournalValidationError) Unit := do
  thrown (require (states.length ≤ AuthorityJournalLimits.maximumRecords) .tooManyRecords)
  validatePairs states

theorem validatePairs_eq_ok {states u} : validatePairs states = .ok u ↔ states.IsChain Follows := by
  induction states with
  | nil => simp [validatePairs]
  | cons prior states ih =>
    cases states with
    | nil => simp [validatePairs]
    | cons next rest =>
      simp only [validatePairs, ok_iff, thrown_eq_ok, List.isChain_cons_cons, Follows]
      grind

variable (decoder : JSONDecoder)

/-- Whether a head is older than the one that is known to have been reached. -/
def fallsBehind (head : AuthorityJournalHead) (minimumHead : Option AuthorityJournalHead) : Prop :=
  ∃ minimum ∈ minimumHead, head.sequence < minimum.sequence ∨
    head.committedLength < minimum.committedLength ∨
    head.sequence = minimum.sequence ∧ head.recordSHA256 ≠ minimum.recordSHA256

instance (head : AuthorityJournalHead) (minimumHead : Option AuthorityJournalHead) :
    Decidable (fallsBehind head minimumHead) :=
  inferInstanceAs (Decidable (∃ minimum ∈ minimumHead, _))

def recoverCommitted (journal headData : Bytes) (minimumHead : Option AuthorityJournalHead) :
    Except (Abort AuthorityJournalValidationError) AuthorityJournalRecovery := do
  let head ← thrown (decodeHead decoder headData)
  thrown (reject (fallsBehind head minimumHead) .rollback)
  thrown (require (journal.length ≤ AuthorityJournalLimits.maximumJournalBytes) .journalTooLarge)
  thrown (require (head.committedLength.toNat ≤ journal.length) .truncated)
  let committedBytes := journal.take head.committedLength.toNat
  let decoded ← thrown (decodeRecords decoder committedBytes)
  let last ← thrown (unwrap decoded.getLast? .invalidHead)
  thrown (require (last.sequence = head.sequence.toNat ∧ last.digest = head.recordSHA256 ∧
    last.endOffset = committedBytes.length) .invalidHead)
  validateMonotonic (decoded.map (·.state))
  pure
    { committedState := some last.state
      head := some head
      posture :=
        if head.committedLength.toNat = journal.length then restartPosture last.state
        else .quarantined .trailingData }

def quarantine (reason : AuthorityJournalValidationError) : AuthorityJournalRecovery where
  committedState := none
  head := none
  posture := .quarantined reason

def nothingCommitted (minimumHead : Option AuthorityJournalHead) : AuthorityJournalRecovery :=
  if minimumHead.isSome then quarantine .rollback
  else { committedState := none, head := none, posture := .recovering .verifyOff }

/-- What a restart makes of the two files; there is no answer when the process traps. -/
def recover (image : AuthorityJournalImage) (minimumHead : Option AuthorityJournalHead) :
    Option AuthorityJournalRecovery :=
  if image.hasTemporaryHead then some (quarantine .interruptedHeadReplacement)
  else
    match image.journal, image.head with
    | none, none => some (nothingCommitted minimumHead)
    | some [], none => some (nothingCommitted minimumHead)
    | none, some _ => some (quarantine .unexpectedHead)
    | some (_ :: _), none => some (quarantine .missingHead)
    | some journal, some headData =>
      match recoverCommitted decoder journal headData minimumHead with
      | .ok recovery => some recovery
      | .error (.thrown reason) => some (quarantine reason)
      | .error .trap => none

/-- The journal is a chain of records that ends with `state`, and `head` points at its end. -/
structure Describes (journal : Bytes) (head : AuthorityJournalHead)
    (records : List (LogRecord AuthorityCommittedState)) (state : AuthorityCommittedState) :
    Prop where
  isLog : (format decoder).IsLog journal records
  last : ∃ r, records.getLast? = some r ∧ r.state = state ∧ r.digest = head.recordSHA256
  sequence_eq : head.sequence.toNat = records.length
  length_eq : head.committedLength.toNat = journal.length
  small : journal.length ≤ AuthorityJournalLimits.maximumJournalBytes
  follows : (records.map (·.state)).IsChain Follows

variable {decoder} {journal : Bytes} {head : AuthorityJournalHead}
  {records : List (LogRecord AuthorityCommittedState)} {state : AuthorityCommittedState}

theorem Describes.ne_nil (h : Describes decoder journal head records state) : journal ≠ [] := by
  rintro rfl
  have hpos := UInt64.lt_iff_toNat_lt.mp head.length_pos
  have hlen := h.length_eq
  simp at hpos hlen
  omega

theorem bind_of_ok {ε α β : Type} {x} {f : α → Except ε β} {a} (h : x = .ok a) :
    (x >>= f) = f a := by rw [h]; rfl

/-- Once a chain ends at its head, only the order of its states is left to be checked. -/
theorem recoverCommitted_eq {r}
    (hlog : (format decoder).IsLog journal records) (hr : records.getLast? = some r)
    (hdigest : r.digest = head.recordSHA256) (hsequence : head.sequence.toNat = records.length)
    (hlength : head.committedLength.toNat = journal.length) (hne : journal ≠ [])
    (hsmall : journal.length ≤ AuthorityJournalLimits.maximumJournalBytes) :
    recoverCommitted decoder journal head.text none =
      validateMonotonic (records.map (·.state)) >>= fun _ ↦ pure
        { committedState := some r.state, head := some head, posture := restartPosture r.state } := by
  obtain ⟨hseq, hend⟩ := hlog.1.getLast hr
  refine (bind_of_ok (thrown_eq_ok.mpr (decodeHead_eq_ok.mpr rfl))).trans ?_
  rw [hlength, List.take_length]
  refine (bind_of_ok (a := ⟨⟩) (by simp [fallsBehind])).trans ?_
  refine (bind_of_ok (a := ⟨⟩) (by simpa using hsmall)).trans ?_
  refine (bind_of_ok (a := ⟨⟩) (by simp)).trans ?_
  refine (bind_of_ok (thrown_eq_ok.mpr (decodeRecords_eq_ok.mpr ⟨hne, hlog⟩))).trans ?_
  refine (bind_of_ok (a := r) (by simp [hr])).trans ?_
  refine (bind_of_ok (a := ⟨⟩) (thrown_eq_ok.mpr (require_eq_ok.mpr
    ⟨by omega, hdigest, by omega⟩))).trans ?_
  rw [if_pos rfl]

theorem recoverCommitted_of_describes (h : Describes decoder journal head records state) :
    recoverCommitted decoder journal head.text none =
      .ok { committedState := some state, head := some head, posture := restartPosture state } := by
  obtain ⟨r, hr, rfl, hdigest⟩ := h.last
  have hmonotonic : validateMonotonic (records.map (·.state)) = .ok () := by
    simp only [validateMonotonic, ok_iff, thrown_eq_ok, exists_const, List.length_map,
      validatePairs_eq_ok]
    exact ⟨h.isLog.2, h.follows⟩
  rw [recoverCommitted_eq h.isLog hr hdigest h.sequence_eq h.length_eq h.ne_nil h.small, hmonotonic]
  rfl

def settled (journal : Bytes) (head : AuthorityJournalHead) : AuthorityJournalImage where
  journal := some journal
  head := some head.text
  hasTemporaryHead := false

theorem recover_of_describes (h : Describes decoder journal head records state) :
    recover decoder (settled journal head) none = some
      { committedState := some state, head := some head, posture := restartPosture state } := by
  have hrecover := recoverCommitted_of_describes h
  simp [recover, settled, hrecover]

variable {action : AuthorityRecoveryAction} {recovery : AuthorityJournalRecovery}

theorem describes_of_recoverCommitted {headData}
    (h : recoverCommitted decoder journal headData none = .ok recovery)
    (hposture : recovery.posture = .recovering action) :
    ∃ head records state, headData = head.text ∧ Describes decoder journal head records state ∧
      recovery =
        { committedState := some state, head := some head, posture := restartPosture state } := by
  simp only [recoverCommitted, bind_eq_ok, thrown_eq_ok, require_eq_ok, unwrap_eq_ok, pure_eq_ok,
    exists_const] at h
  obtain ⟨head, hhead, -, -, hsmall, hle, records, hrecords, last, hlast, ⟨hseq, hdigest, hend⟩, _,
    hmonotonic, rfl⟩ := h
  obtain rfl := (decodeHead_eq_ok.mp hhead)
  have hlength : head.committedLength.toNat = journal.length := by
    by_contra hne
    simp [hne] at hposture
  rw [hlength, List.take_length] at hrecords
  obtain ⟨-, hlog⟩ := decodeRecords_eq_ok.mp hrecords
  simp only [validateMonotonic, bind_eq_ok, thrown_eq_ok, require_eq_ok, exists_const,
    validatePairs_eq_ok] at hmonotonic
  have hsequence := (hlog.1.getLast hlast).1
  refine ⟨head, records, last.state, rfl, ⟨hlog, ⟨last, hlast, rfl, hdigest⟩, by omega, hlength,
    hsmall, hmonotonic.2⟩, ?_⟩
  rw [if_pos hlength]

/-- A journal from which something is recovered has been checked from its first record on. -/
theorem describes_of_recover {image} (h : recover decoder image none = some recovery)
    (hposture : recovery.posture = .recovering action) :
    image.hasTemporaryHead = false ∧ image.head = none ∧ recovery.committedState = none ∨
      ∃ journal head records state, image = settled journal head ∧
        Describes decoder journal head records state ∧ recovery =
          { committedState := some state, head := some head, posture := restartPosture state } := by
  unfold recover at h
  split at h
  · obtain rfl := Option.some.inj h
    simp [quarantine] at hposture
  · next htemp =>
    rw [Bool.not_eq_true] at htemp
    split at h
    · next hhead =>
      obtain rfl := Option.some.inj h
      exact .inl ⟨htemp, hhead, rfl⟩
    · next hhead =>
      obtain rfl := Option.some.inj h
      exact .inl ⟨htemp, hhead, rfl⟩
    · obtain rfl := Option.some.inj h
      simp [quarantine] at hposture
    · obtain rfl := Option.some.inj h
      simp [quarantine] at hposture
    · next journal headData hjournal hhead =>
      split at h
      · next r hr =>
        obtain rfl := Option.some.inj h
        obtain ⟨head, records, state, rfl, hd, hrec⟩ := describes_of_recoverCommitted hr hposture
        obtain ⟨j, hd', t⟩ := image
        cases htemp
        cases hjournal
        cases hhead
        exact .inr ⟨journal, head, records, state, rfl, hd, hrec⟩
      · obtain rfl := Option.some.inj h
        simp [quarantine] at hposture
      · cases h

end AuthorityJournalRecoveryReducer

end CfwRs.GlobalAuthority
