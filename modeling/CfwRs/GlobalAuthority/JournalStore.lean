import CfwRs.Lib.Directory
import CfwRs.Lib.Durable
import CfwRs.GlobalAuthority.JournalRecovery

namespace CfwRs.GlobalAuthority

open Lib Lib.Checked AuthorityJournalLimits AuthorityJournalCodec AuthorityJournalRecoveryReducer

inductive AuthorityJournalAnchorError
  | unavailable (status : Int32)
  | invalidData
  | compareAndSwapFailed
deriving DecidableEq

namespace AuthorityJournalAnchorCursor

def new (generation sequence committedLength : UInt64) (recordSHA256 : SHA256Digest)
    (stateRevision : UInt64) : Except AuthorityJournalAnchorError AuthorityJournalAnchorCursor :=
  if h : 0 < generation ∧ 0 < sequence ∧ 0 < committedLength ∧ 0 < stateRevision then
    .ok { generation, sequence, committedLength, recordSHA256, stateRevision
          generation_pos := h.1, sequence_pos := h.2.1, length_pos := h.2.2.1
          revision_pos := h.2.2.2 }
  else .error .invalidData

theorem new_eq_ok {generation sequence committedLength recordSHA256 stateRevision c} :
    new generation sequence committedLength recordSHA256 stateRevision = .ok c ↔
      c.generation = generation ∧ c.sequence = sequence ∧ c.committedLength = committedLength ∧
        c.recordSHA256 = recordSHA256 ∧ c.stateRevision = stateRevision := by
  unfold new
  constructor
  · intro h
    split at h
    · cases h
      simp
    · cases h
  · rintro ⟨rfl, rfl, rfl, rfl, rfl⟩
    rw [dif_pos ⟨c.generation_pos, c.sequence_pos, c.length_pos, c.revision_pos⟩]

def head (c : AuthorityJournalAnchorCursor) : AuthorityJournalHead where
  sequence := c.sequence
  committedLength := c.committedLength
  recordSHA256 := c.recordSHA256
  sequence_pos := c.sequence_pos
  length_pos := c.length_pos

def Matches (c : AuthorityJournalAnchorCursor) (h : AuthorityJournalHead) : Prop :=
  h.sequence = c.sequence ∧ h.committedLength = c.committedLength ∧ h.recordSHA256 = c.recordSHA256

instance (c : AuthorityJournalAnchorCursor) (h : AuthorityJournalHead) : Decidable (c.Matches h) :=
  inferInstanceAs (Decidable (_ ∧ _))

def Continues (c pending : AuthorityJournalAnchorCursor) : Prop :=
  checkedSucc c.sequence = some pending.sequence ∧
    checkedSucc c.stateRevision = some pending.stateRevision ∧
    c.committedLength < pending.committedLength

def Opens (c pending : AuthorityJournalAnchorCursor) : Prop :=
  checkedSucc c.generation = some pending.generation ∧ pending.sequence = 1 ∧
    pending.stateRevision = c.stateRevision

instance (c p : AuthorityJournalAnchorCursor) : Decidable (Continues c p) :=
  inferInstanceAs (Decidable (_ ∧ _))

instance (c p : AuthorityJournalAnchorCursor) : Decidable (Opens c p) :=
  inferInstanceAs (Decidable (_ ∧ _))

def Advances (committed : Option AuthorityJournalAnchorCursor)
    (pending : AuthorityJournalAnchorCursor) : Prop :=
  match committed with
  | none => pending.generation = 1 ∧ pending.sequence = 1
  | some c => if pending.generation = c.generation then Continues c pending else Opens c pending

instance : (committed : Option AuthorityJournalAnchorCursor) →
    (pending : AuthorityJournalAnchorCursor) → Decidable (Advances committed pending)
  | none, p => inferInstanceAs (Decidable (p.generation = 1 ∧ p.sequence = 1))
  | some c, p =>
    inferInstanceAs (Decidable (if p.generation = c.generation then Continues c p else Opens c p))

end AuthorityJournalAnchorCursor

structure AuthorityJournalAnchor where
  storeID : AuthorityIdentifier
  committed : Option AuthorityJournalAnchorCursor
  pending : Option AuthorityJournalAnchorCursor
  advances : ∀ p ∈ pending, AuthorityJournalAnchorCursor.Advances committed p
deriving DecidableEq

def AuthorityJournalAnchor.new (storeID : AuthorityIdentifier)
    (committed pending : Option AuthorityJournalAnchorCursor) :
    Except AuthorityJournalAnchorError AuthorityJournalAnchor :=
  if h : ∀ p ∈ pending, AuthorityJournalAnchorCursor.Advances committed p then
    .ok { storeID, committed, pending, advances := h }
  else .error .invalidData

open AuthorityJournalAnchor

theorem AuthorityJournalAnchor.new_eq_ok {storeID committed pending anchor} :
    new storeID committed pending = .ok anchor ↔
      anchor.storeID = storeID ∧ anchor.committed = committed ∧ anchor.pending = pending := by
  unfold new
  constructor
  · intro h
    split at h
    · cases h
      simp
    · cases h
  · rintro ⟨rfl, rfl, rfl⟩
    rw [dif_pos anchor.advances]

/-- The names in the store directory. A name that starts like one of a generation but is not the
canonical name of any is `malformed`; every other name is ignored. -/
inductive EntryName
  | legacyJournal | legacyHead | legacyTemporaryHead | storeMarker
  | journal (generation : UInt64)
  | head (generation : UInt64)
  | temporaryHead (generation : UInt64)
  | malformed (text : Bytes)
  | other (text : Bytes)
deriving DecidableEq

inductive AuthorityJournalStorageError
  | systemCall (operation : String)
  | insecureFile (name : EntryName)
  | capacityExhausted | anchorUnavailable
  | recoveryRequired (reason : AuthorityJournalValidationError)
  | nonMonotonicCommit
deriving DecidableEq

/-- The errors of the store, by the Swift type that carries them, and traps. -/
inductive JournalFailure
  | validation (error : AuthorityJournalValidationError)
  | anchor (error : AuthorityJournalAnchorError)
  | storage (error : AuthorityJournalStorageError)
  | trap
deriving DecidableEq

/-- A directory entry; `secure` says whether it is a regular file with the owner, mode and link
count that the store demands. -/
structure JournalFile where
  bytes : Bytes
  secure : Bool
deriving DecidableEq

/-- The directory and what reading the keychain item yields. -/
structure JournalStore where
  files : Directory EntryName JournalFile
  keychain : Except AuthorityJournalAnchorError (Option AuthorityJournalAnchor)

namespace JournalStore

variable (s : JournalStore)

def lookup (name : EntryName) : Option JournalFile := s.files.lookup name

def put (name : EntryName) (file : JournalFile) : JournalStore :=
  { s with files := s.files.insert name file }

def remove (name : EntryName) : JournalStore := { s with files := s.files.erase name }

def rename (source target : EntryName) : JournalStore :=
  { s with files := s.files.rename source target }

def setAnchor (anchor : AuthorityJournalAnchor) : JournalStore :=
  { s with keychain := .ok (some anchor) }

end JournalStore

namespace EntryName

def generation : EntryName → Option UInt64
  | .journal g | .head g | .temporaryHead g => some g
  | _ => none

/-- `generationEntry(named:)` throws for the other names. -/
def wellFormed : EntryName → Bool
  | .journal g | .head g | .temporaryHead g => 0 < g
  | .malformed _ => false
  | _ => true

/-- The place of a generation entry in the order of the names as texts: the leading dot puts the
temporary heads first, then `head` comes before `journal` in each generation. -/
def sortKey : EntryName → ℕ
  | .temporaryHead g => g.toNat
  | .head g => 2 ^ 64 + 2 * g.toNat
  | .journal g => 2 ^ 64 + 2 * g.toNat + 1
  | _ => 0

end EntryName

abbrev StoreCode (α : Type) := Durable JournalStore JournalFailure α

namespace DescriptorRelativeAuthorityJournalStore

open Durable

def validating {α : Type} (x : Except AuthorityJournalValidationError α) : StoreCode α :=
  lifted .validation x

def anchoring {α : Type} (x : Except AuthorityJournalAnchorError α) : StoreCode α :=
  lifted .anchor x

theorem anchoring_bind_returns {α β : Type} {x : Except AuthorityJournalAnchorError α}
    {f} {Q : β → JournalStore → Prop} {C : JournalStore → Prop} {s}
    (h : ∀ a, x = .ok a → (f a).wp C (returns Q) s) : (anchoring x >>= f).wp C (returns Q) s :=
  lifted_bind_returns h

def entryExists (name : EntryName) : StoreCode Bool := read fun s ↦ (s.lookup name).isSome

def checkFile (name : EntryName) (maximumBytes : ℕ) :
    Option JournalFile → Except JournalFailure (Option Bytes)
  | none => pure none
  | some file => do
    require (file.secure = true) (.storage (.insecureFile name))
    require (file.bytes.length ≤ maximumBytes) (.validation .journalTooLarge)
    pure (some file.bytes)

def readOptional (name : EntryName) (maximumBytes : ℕ) : StoreCode (Option Bytes) := do
  let file ← read (·.lookup name)
  attempt (checkFile name maximumBytes file)

def loadImage (generation : UInt64) : StoreCode AuthorityJournalImage := do
  let journal ← readOptional (.journal generation) maximumJournalBytes
  let head ← readOptional (.head generation) maximumHeadBytes
  let hasTemporaryHead ← entryExists (.temporaryHead generation)
  pure { journal, head, hasTemporaryHead }

/-- The names that belong to a generation; one malformed name fails the whole scan. -/
def generationEntries (names : List EntryName) : Except JournalFailure (List EntryName) := do
  require (∀ name ∈ names, name.wellFormed = true) (.validation .invalidGenerationEntry)
  pure (names.filter fun name ↦ name.generation.isSome)

def scanGenerationEntries : StoreCode (List EntryName) := do
  let names ← read fun s ↦ s.files.keys
  attempt (generationEntries names)

def load : StoreCode (Option AuthorityJournalAnchor) := do
  let item ← read (·.keychain)
  anchoring item

def compareAndSwap (expected : Option AuthorityJournalAnchor)
    (replacement : AuthorityJournalAnchor) : StoreCode Unit := do
  let value ← load
  attempt (require (value = expected) (.anchor .compareAndSwapFailed))
  step (·.setAnchor replacement)

def markerData (storeID : AuthorityIdentifier) : Bytes := uuidText storeID

def verifyStoreMarker (storeID : AuthorityIdentifier) : StoreCode Unit := do
  let data ← readOptional .storeMarker 64
  attempt (require (data = some (markerData storeID)) (.validation .anchorMismatch))

def unlinkAll : List EntryName → StoreCode Unit
  | [] => pure ()
  | name :: names => do
    step (·.remove name)
    unlinkAll names

def obsoleteEntries (activeGeneration : UInt64) (entries : List EntryName) : List EntryName :=
  if 1 < activeGeneration then
    (entries.filter fun name ↦ ∃ g ∈ name.generation, g < activeGeneration - 1).mergeSort
      fun a b ↦ a.sortKey ≤ b.sortKey
  else []

def enforceGenerationRetention (activeGeneration : UInt64) : StoreCode Unit := do
  let entries ← scanGenerationEntries
  attempt (reject (∃ name ∈ entries, ∃ g ∈ name.generation, activeGeneration < g)
    (.validation .rollback))
  let obsolete := obsoleteEntries activeGeneration entries
  let files ← read (·.files)
  attempt (require (∀ name ∈ obsolete, ∀ file ∈ files.lookup name, file.secure = true)
    (.validation .invalidGenerationEntry))
  unlinkAll obsolete

def createExclusive (name : EntryName) (data : Bytes) : StoreCode Unit := do
  let existing ← read (·.lookup name)
  attempt (reject (existing.isSome = true) (.storage (.systemCall "openat")))
  step (·.put name { bytes := data, secure := true })

def replaceHead (data : Bytes) (generation : UInt64) : StoreCode Unit := do
  createExclusive (.temporaryHead generation) data
  step (·.rename (.temporaryHead generation) (.head generation))

/-- Appends a frame to the journal file, which must be `oldLength` bytes long: a new generation's
file is created, an existing one must have been left as it was. -/
def writeJournal (generation : UInt64) (oldLength : ℕ) (frame : Bytes) : StoreCode Unit :=
  if oldLength = 0 then createExclusive (.journal generation) frame
  else do
    let existing ← read (·.lookup (.journal generation))
    let file ← attempt (unwrap existing (.storage (.systemCall "openat")))
    attempt (require (file.secure = true) (.storage (.insecureFile (.journal generation))))
    attempt (require (file.bytes.length = oldLength) (.storage (.recoveryRequired .trailingData)))
    step (·.put (.journal generation) { file with bytes := file.bytes ++ frame })

def clearPending (anchor : AuthorityJournalAnchor) : StoreCode AuthorityJournalAnchor := do
  let replacement ← anchoring (new anchor.storeID anchor.committed none)
  compareAndSwap (some anchor) replacement
  pure replacement

def promotePending (anchor : AuthorityJournalAnchor) : StoreCode AuthorityJournalAnchor := do
  let pending ← attempt (unwrap anchor.pending (.validation .anchorMismatch))
  let replacement ← anchoring (new anchor.storeID (some pending) none)
  compareAndSwap (some anchor) replacement
  pure replacement

section Reads

variable {C : JournalStore → Prop} {s : JournalStore}

@[simp] theorem wp_entryExists {name Q} :
    (entryExists name).wp C Q s ↔ Q (.ok (s.lookup name).isSome) s := wp_read

@[simp] theorem wp_readOptional {name maximumBytes Q} : (readOptional name maximumBytes).wp C Q s ↔
      Q (checkFile name maximumBytes (s.lookup name)) s := by
  simp [readOptional]

@[simp] theorem wp_scanGenerationEntries {Q} :
    scanGenerationEntries.wp C Q s ↔ Q (generationEntries s.files.keys) s := by
  simp [scanGenerationEntries]

@[simp] theorem wp_load {Q} : load.wp C Q s ↔ Q (s.keychain.mapError .anchor) s := by
  simp [load, anchoring]

end Reads

variable (decoder : JSONDecoder)

def recoverImage (image : AuthorityJournalImage) : StoreCode AuthorityJournalRecovery :=
  attempt (unwrap (recover decoder image none) .trap)

def acceptRecovery (recovery : AuthorityJournalRecovery) (exact : Prop) [Decidable exact] :
    StoreCode Unit :=
  match recovery.posture with
  | .quarantined reason => attempt (.error (.validation reason))
  | .recovering _ => attempt (require exact (.validation .anchorMismatch))

variable (anchor : AuthorityJournalAnchor)

def recoveryForCommittedAnchor : StoreCode AuthorityJournalRecovery := do
  let committed ← attempt (unwrap anchor.committed (.validation .anchorMismatch))
  let image ← loadImage committed.generation
  let recovery ← recoverImage decoder image
  acceptRecovery recovery (∃ head ∈ recovery.head, ∃ state ∈ recovery.committedState,
    committed.Matches head ∧ state.revision = committed.stateRevision)
  pure recovery

def validatePendingJournal (journal : Bytes) (cursor : AuthorityJournalAnchorCursor) :
    StoreCode Unit := do
  let headData ← validating (encodeHead cursor.head)
  let recovery ← recoverImage decoder
    { journal := some journal, head := some headData, hasTemporaryHead := false }
  acceptRecovery recovery ((∃ state ∈ recovery.committedState,
    state.revision = cursor.stateRevision) ∧ recovery.head = some cursor.head)

variable (pending : AuthorityJournalAnchorCursor)

/-- Completes the replacement of a head that was interrupted before its rename. -/
def finishTemporaryHead (image : AuthorityJournalImage) : StoreCode AuthorityJournalImage :=
  if image.hasTemporaryHead then do
    let temporaryData ← readOptional (.temporaryHead pending.generation)
      maximumHeadBytes
    let temporaryData ← attempt (unwrap temporaryData (.validation .interruptedHeadReplacement))
    let journal ← attempt (unwrap image.journal (.validation .interruptedHeadReplacement))
    let head ← validating (decodeHead decoder temporaryData)
    attempt (require (pending.Matches head) (.validation .interruptedHeadReplacement))
    validatePendingJournal decoder journal pending
    step (·.rename (.temporaryHead pending.generation) (.head pending.generation))
    loadImage pending.generation
  else pure image

def completePending (journal : Bytes) : StoreCode AuthorityJournalAnchor := do
  attempt (require (journal.length = pending.committedLength.toNat) (.validation .anchorMismatch))
  validatePendingJournal decoder journal pending
  let headData ← validating (encodeHead pending.head)
  replaceHead headData pending.generation
  promotePending anchor

/-- Decides about a pending record from a journal and a head that are both there. -/
def settlePending (journal headData : Bytes) : StoreCode AuthorityJournalAnchor := do
  let diskHead ← validating (decodeHead decoder headData)
  if pending.Matches diskHead then do
    validatePendingJournal decoder journal pending
    promotePending anchor
  else if ∃ committed ∈ anchor.committed, committed.generation = pending.generation ∧
      committed.Matches diskHead then
    if ∃ committed ∈ anchor.committed, journal.length = committed.committedLength.toNat then
      clearPending anchor
    else completePending decoder anchor pending journal
  else attempt (.error (.validation .anchorMismatch))

def resolvePending (image : AuthorityJournalImage) : StoreCode AuthorityJournalAnchor :=
  match image.journal, image.head with
  | none, none => clearPending anchor
  | some [], none => do
    step (·.remove (.journal pending.generation))
    clearPending anchor
  | none, some _ => attempt (.error (.validation .anchorMismatch))
  | some journal, some headData => settlePending decoder anchor pending journal headData
  | some journal, none => completePending decoder anchor pending journal

def reconcilePending : StoreCode AuthorityJournalAnchor :=
  match anchor.pending with
  | none => pure anchor
  | some pending => do
    let image ← loadImage pending.generation
    let image ← finishTemporaryHead decoder pending image
    resolvePending decoder anchor pending image

def emptyRecovery : AuthorityJournalRecovery where
  committedState := none
  head := none
  posture := .recovering .verifyOff

def verifyExistingMarker (markerExists : Bool) (storeID : AuthorityIdentifier) : StoreCode Unit :=
  if markerExists then verifyStoreMarker storeID else pure ()

def recoverEmpty : StoreCode AuthorityJournalRecovery := do
  let entries ← scanGenerationEntries
  attempt (require (entries = []) (.validation .orphanedGenerationState))
  pure emptyRecovery

def recoverReconciled (markerExists : Bool) (anchor : AuthorityJournalAnchor) :
    StoreCode AuthorityJournalRecovery :=
  match anchor.committed with
  | none => do
    verifyExistingMarker markerExists anchor.storeID
    recoverEmpty
  | some committed => do
    attempt (require (markerExists = true) (.validation .anchorMissing))
    verifyStoreMarker anchor.storeID
    let recovery ← recoveryForCommittedAnchor decoder anchor
    enforceGenerationRetention committed.generation
    pure recovery

def recoverAnchored (markerExists : Bool) (anchor : AuthorityJournalAnchor) :
    StoreCode AuthorityJournalRecovery := do
  let anchor ← reconcilePending decoder anchor
  recoverReconciled decoder markerExists anchor

def recoverLocked : StoreCode AuthorityJournalRecovery := do
  let legacyJournal ← entryExists .legacyJournal
  let legacyHead ← entryExists .legacyHead
  let legacyTemporaryHead ← entryExists .legacyTemporaryHead
  attempt (reject (legacyJournal = true ∨ legacyHead = true ∨ legacyTemporaryHead = true)
    (.validation .legacyStateRequiresMigration))
  let entries ← scanGenerationEntries
  let markerExists ← entryExists .storeMarker
  match ← load with
  | none => do
    attempt (reject (markerExists = true) (.validation .anchorMissing))
    attempt (require (entries = []) (.validation .orphanedGenerationState))
    pure emptyRecovery
  | some anchor => recoverAnchored decoder markerExists anchor

/-- What `recover()` makes of the errors of `recoverLocked()`; a trap ends the process. -/
def recoveryFor : JournalFailure → Except JournalFailure AuthorityJournalRecovery
  | .anchor (.unavailable _) =>
    .ok { committedState := none, head := none, posture := .recovering .restoreAnchorAccess }
  | .validation reason => .ok (quarantine reason)
  | .anchor _ => .ok (quarantine .anchorMismatch)
  | .storage _ => .ok (quarantine .malformedFrame)
  | .trap => .error .trap

def recover : StoreCode AuthorityJournalRecovery := (recoverLocked decoder).handle recoveryFor

def validateCommit (next : AuthorityCommittedState) (prior : Option AuthorityCommittedState) :
    Except JournalFailure Unit :=
  match prior with
  | none => require (next.transition = .enrollOff ∧ 0 < next.revision) (.storage .nonMonotonicCommit)
  | some prior => do
    require (next.installationID = prior.installationID) (.storage .nonMonotonicCommit)
    let expected ← unwrap (checkedSucc prior.revision) .trap
    require (next.revision = expected) (.storage .nonMonotonicCommit)
    reject (PairLess (next.epoch, next.generation) (prior.epoch, prior.generation))
      (.storage .nonMonotonicCommit)

/-- A new anchor gets `freshID` as its store's identifier. -/
def ensureAnchorForAppend (freshID : AuthorityIdentifier) (recovery : AuthorityJournalRecovery) :
    StoreCode AuthorityJournalAnchor := do
  match ← load with
  | some anchor => do
    attempt (require (anchor.pending = none) (.validation .anchorMismatch))
    attempt (require (recovery.committedState = none ↔ anchor.committed = none)
      (.validation .anchorMismatch))
    pure anchor
  | none => do
    let markerExists ← entryExists .storeMarker
    attempt (require (recovery.committedState = none ∧ markerExists = false)
      (.validation .anchorMissing))
    let created ← anchoring (new freshID none none)
    compareAndSwap none created
    pure created

def ensureStoreMarker (storeID : AuthorityIdentifier) : StoreCode Unit := do
  if ← entryExists .storeMarker then verifyStoreMarker storeID
  else createExclusive .storeMarker (markerData storeID)

/-- How many records a generation may hold, as the store's initializer admits it. -/
structure RecordCapacity where
  records : UInt64
  room : minimumLifecycleFinishRecords + 1 < records.toNat
  bounded : records.toNat ≤ maximumRecords

variable (capacity : RecordCapacity)

def RecordCapacity.production : RecordCapacity where
  records := 4096
  room := by decide
  bounded := by decide

variable (state : AuthorityCommittedState)

/-- The size of the journal after the record, and whether a later stop must still fit. -/
def shouldCompactAfter (head : AuthorityJournalHead) (frame : Bytes) : Bool :=
  let nextLength := head.committedLength.toNat + frame.length
  let maximumFrameBytes :=
    headerBytes + maximumRecordPayloadBytes
  maximumJournalBytes < nextLength ∨
    state.transition = .prepare ∧ maximumJournalBytes - nextLength <
      minimumLifecycleFinishRecords * maximumFrameBytes

variable (recovery : AuthorityJournalRecovery)

def shouldCompact : Except AuthorityJournalValidationError Bool :=
  match recovery.head with
  | none => pure false
  | some head =>
    if capacity.records ≤ head.sequence then pure true
    else if state.transition = .prepare ∧
        capacity.records.toNat - minimumLifecycleFinishRecords ≤
          head.sequence.toNat then pure true
    else do
      let (frame, _) ← encodeRecord state (head.sequence + 1)
        head.recordSHA256
      pure (shouldCompactAfter state head frame)

def commitRecord (generation : UInt64) (pendingCursor : AuthorityJournalAnchorCursor)
    (newHead : AuthorityJournalHead) (oldLength : ℕ) (frame : Bytes) : StoreCode Unit := do
  let pendingAnchor ← anchoring
    (new anchor.storeID anchor.committed (some pendingCursor))
  compareAndSwap (some anchor) pendingAnchor
  writeJournal generation oldLength frame
  let headData ← validating (encodeHead newHead)
  replaceHead headData generation
  let committedAnchor ← anchoring
    (new pendingAnchor.storeID (some pendingCursor) none)
  compareAndSwap (some pendingAnchor) committedAnchor

/-- What the next record of a generation has to say about the records before it. -/
structure Link where
  priorSequence : UInt64
  oldLength : UInt64
  previousDigest : SHA256Digest

def linkTo (head : Option AuthorityJournalHead) : Link where
  priorSequence := (head.map (·.sequence)).getD 0
  oldLength := (head.map (·.committedLength)).getD 0
  previousDigest := (head.map (·.recordSHA256)).getD zeroDigest

def append (anchor : AuthorityJournalAnchor) (generation : UInt64) :
    StoreCode AuthorityJournalHead := do
  let link := linkTo recovery.head
  attempt (require (link.priorSequence < capacity.records) (.storage .capacityExhausted))
  let (frame, digest) ← validating
    (encodeRecord state (link.priorSequence + 1) link.previousDigest)
  attempt (require (link.oldLength.toNat ≤ maximumJournalBytes ∧
    frame.length ≤ maximumJournalBytes - link.oldLength.toNat)
    (.storage .capacityExhausted))
  let newHead ← validating (AuthorityJournalHead.new (link.priorSequence + 1)
    (link.oldLength + UInt64.ofNat frame.length) digest)
  let pendingCursor ← anchoring (AuthorityJournalAnchorCursor.new generation newHead.sequence
    newHead.committedLength newHead.recordSHA256 state.revision)
  commitRecord anchor generation pendingCursor newHead link.oldLength.toNat frame
  pure newHead

/-- The record that opens the next generation. -/
def checkpoint : Except AuthorityJournalValidationError AuthorityCommittedState :=
  AuthorityCommittedState.new state.installationID state.epoch state.generation state.revision
    .checkpoint state.state state.operation

def compact (committedState : AuthorityCommittedState) (anchor : AuthorityJournalAnchor) :
    StoreCode AuthorityJournalAnchor := do
  let committed ← attempt (unwrap anchor.committed (.storage .capacityExhausted))
  attempt (require (committed.generation < maxWord ∧ committedState.transition ≠ .enrollOff)
    (.storage .capacityExhausted))
  let record ← validating (checkpoint committedState)
  let _ ← append capacity record emptyRecovery anchor (committed.generation + 1)
  let reloaded ← load
  let replacement ← attempt (unwrap reloaded (.validation .anchorMismatch))
  attempt (require (replacement.pending = none ∧
    ∃ c ∈ replacement.committed, c.generation = committed.generation + 1)
    (.validation .anchorMismatch))
  enforceGenerationRetention (committed.generation + 1)
  pure replacement

def makeRoom (anchor : AuthorityJournalAnchor) :
    StoreCode (AuthorityJournalRecovery × AuthorityJournalAnchor) :=
  match recovery.committedState with
  | none => pure (recovery, anchor)
  | some committedState => do
    if ← validating (shouldCompact capacity state recovery) then
      let anchor ← compact capacity committedState anchor
      let recovery ← recoveryForCommittedAnchor decoder anchor
      pure (recovery, anchor)
    else pure (recovery, anchor)

/-- `appendCommitted` reports an unavailable keychain with an error of its own. -/
def appendFailure : JournalFailure → Except JournalFailure AuthorityJournalRecovery
  | .anchor (.unavailable _) => .error (.storage .anchorUnavailable)
  | failure => .error failure

def requireRecovering : Except JournalFailure Unit :=
  match recovery.posture with
  | .recovering _ => pure ()
  | .quarantined reason => .error (.storage (.recoveryRequired reason))

def appendRecovered (freshID : AuthorityIdentifier) (state : AuthorityCommittedState)
    (recovery : AuthorityJournalRecovery) : StoreCode AuthorityJournalHead := do
  let anchor ← ensureAnchorForAppend freshID recovery
  ensureStoreMarker anchor.storeID
  let (recovery, anchor) ← makeRoom decoder capacity state recovery anchor
  append capacity state recovery anchor ((anchor.committed.map (·.generation)).getD 1)

def appendCommitted (freshID : AuthorityIdentifier) (state : AuthorityCommittedState) :
    StoreCode AuthorityJournalHead := do
  let recovery ← (recoverLocked decoder).handle appendFailure
  attempt (requireRecovering recovery)
  attempt (validateCommit state recovery.committedState)
  appendRecovered decoder capacity freshID state recovery

end DescriptorRelativeAuthorityJournalStore

end CfwRs.GlobalAuthority
