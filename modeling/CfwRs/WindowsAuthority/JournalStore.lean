import CfwRs.Lib.Directory
import CfwRs.Lib.Durable
import CfwRs.WindowsAuthority.JournalCodec

namespace CfwRs.WindowsAuthority

open Lib Lib.Checked Limits

inductive EntryKind
  | file | directory | reparsePoint
deriving DecidableEq

inductive StorageError
  | io | tooManyEntries | unsafeFile | unexpectedDirectory
  | tooLarge (actual maximum : ℕ)
deriving DecidableEq

inductive MachineRecordError
  | native | unsafeKey | invalidValue | conflict
deriving DecidableEq

inductive JournalStoreError
  | validation (error : JournalValidationError)
  | storage (error : StorageError)
  | anchor (error : MachineRecordError)
  | storeIdentity
  | capacity
deriving DecidableEq

inductive RecordName
  | marker
  | journal (generation : UInt64)
  | head (generation : UInt64)
deriving DecidableEq

/-- The names in the journal directory: a file, its temporary, or anything else. -/
inductive EntryName
  | record (name : RecordName)
  | temporary (name : RecordName)
  | other (text : Bytes)
deriving DecidableEq

def RecordName.generation : RecordName → Option UInt64
  | .marker => none
  | .journal g | .head g => if 0 < g then some g else none

namespace EntryName

def generation : EntryName → Option UInt64
  | .record name | .temporary name => name.generation
  | .other _ => none

def isTemporary : EntryName → Bool
  | .temporary _ => true
  | _ => false

def recognized (name : EntryName) : Prop :=
  name = .record .marker ∨ name = .temporary .marker ∨ name.generation.isSome = true

instance (name : EntryName) : Decidable name.recognized := inferInstanceAs (Decidable (_ ∨ _))

def obsolete (current : UInt64) (name : EntryName) : Prop := ∃ g ∈ name.generation, g < current

instance (current : UInt64) (name : EntryName) : Decidable (name.obsolete current) :=
  inferInstanceAs (Decidable (∃ g ∈ name.generation, _))

def unfinished (current : UInt64) (name : EntryName) : Prop :=
  name = .temporary .marker ∨
    ∃ g ∈ name.generation, current < g ∨ g = current ∧ name.isTemporary = true

instance (current : UInt64) (name : EntryName) : Decidable (name.unfinished current) :=
  inferInstanceAs (Decidable (_ ∨ ∃ g ∈ name.generation, _))

end EntryName

/-- A directory entry; `secure` says whether it has one link, and the owner and the access rights
that the private storage demands. -/
structure StoredFile where
  bytes : Bytes
  kind : EntryKind
  secure : Bool
deriving DecidableEq

/-- The journal directory and what reading the registry record yields. -/
structure Storage where
  files : Directory EntryName StoredFile
  registry : Except MachineRecordError (Option Bytes)

namespace Storage

variable (s : Storage)

def lookup (name : EntryName) : Option StoredFile := s.files.lookup name

def put (name : EntryName) (file : StoredFile) : Storage :=
  { s with files := s.files.insert name file }

def remove (name : EntryName) : Storage := { s with files := s.files.erase name }

def rename (source target : EntryName) : Storage :=
  { s with files := s.files.rename source target }

def setRecord (bytes : Bytes) : Storage := { s with registry := .ok (some bytes) }

end Storage

abbrev JournalCode (α : Type) := Durable Storage JournalStoreError α

/-- The journal as it was opened: how many records a generation may hold, and, of the platform, the
JSON reader and the order in which it lists a directory. -/
structure WindowsAuthorityJournal where
  serde : SerdeJson
  enumerate : List EntryName → List EntryName
  enumerate_perm : ∀ names, (enumerate names).Perm names
  recordCapacity : UInt64
  reserve_le : lifecycleFinishReserve + 2 ≤ recordCapacity.toNat
  le_maxRecords : recordCapacity.toNat ≤ maxRecords

namespace WindowsAuthorityJournal

open Durable JournalCodec

def maxEntries : ℕ := 16

def validating {α : Type} (x : Validated α) : JournalCode α := lifted .validation x

def storing {α : Type} (x : Except StorageError α) : JournalCode α := lifted .storage x

def verifyFile (file : StoredFile) : Except StorageError Unit := do
  reject (file.kind = .directory) .io
  require (file.kind = .file ∧ file.secure = true) .unsafeFile

def checkFile (maximum : ℕ) : Option StoredFile → Except StorageError (Option Bytes)
  | none => pure none
  | some file => do
    verifyFile file
    require (file.bytes.length ≤ maximum) (.tooLarge file.bytes.length maximum)
    pure (some file.bytes)

def readEntry (name : EntryName) (maximum : ℕ) : JournalCode (Option Bytes) := do
  let file ← read (·.lookup name)
  storing (checkFile maximum file)

variable (name : RecordName)

def readFile (maximum : ℕ) : JournalCode (Option Bytes) :=
  readEntry (.record name) maximum

def readTemporary (maximum : ℕ) : JournalCode (Option Bytes) :=
  readEntry (.temporary name) maximum

def requiredRead (maximum : ℕ) : JournalCode Bytes := do
  let bytes ← readFile name maximum
  attempt (unwrap bytes .storeIdentity)

def unlinkManagedEntry (name : EntryName) : JournalCode Unit := do
  let entry ← read (·.lookup name)
  let file ← storing (unwrap entry .io)
  storing (reject (file.kind = .directory) .unexpectedDirectory)
  step (·.remove name)

/-- Writes a complete temporary, which must not exist, and renames it. -/
def publishFile (bytes : Bytes) (maximum : ℕ) : JournalCode Unit := do
  storing (require (bytes.length ≤ maximum) (.tooLarge bytes.length maximum))
  let _ ← readFile name maximum
  let temporary ← read (·.lookup (.temporary name))
  storing (reject (temporary.isSome = true) .io)
  step (·.put (.temporary name) { bytes, kind := .file, secure := true })
  step (·.rename (.temporary name) (.record name))

def removeTemporary : JournalCode Unit := unlinkManagedEntry (.temporary name)

def discardTemporary (found : Bool) : JournalCode Unit :=
  if found = true then removeTemporary name else pure ()

def readRegistry : JournalCode (Option Bytes) := do
  let value ← read (·.registry)
  let bytes ← lifted .anchor value
  attempt (require (∀ b ∈ bytes, b ≠ [] ∧ b.length ≤ maxAnchorBytes) (.anchor .invalidValue))
  pure bytes

def compareExchange (expected : Option Bytes) (replacement : Bytes) : JournalCode Unit := do
  attempt (require (replacement ≠ [] ∧ replacement.length ≤ maxAnchorBytes)
    (.anchor .invalidValue))
  let value ← readRegistry
  attempt (require (value = expected) (.anchor .conflict))
  step (·.setRecord replacement)

def encodeAnchor : Option JournalAnchor → Validated (Option Bytes)
  | some anchor => some <$> anchor.encode
  | none => pure none

def replaceAnchor (expected : Option JournalAnchor) (replacement : JournalAnchor) :
    JournalCode Unit := do
  let before ← validating (encodeAnchor expected)
  let bytes ← validating replacement.encode
  compareExchange before bytes

def markerBytes (storeId : Uuid) : Bytes := uuidText storeId

/-- Opens a file, or a temporary, without reading it. -/
def validateEntry : Option StoredFile → Except StorageError Unit
  | some file => verifyFile file
  | none => .error .io

/-- The checks of the entries that a cleanup will remove; none is removed before all have passed. -/
def checkCleanup (files : Directory EntryName StoredFile) (current : UInt64) :
    List EntryName → Except JournalStoreError Unit
  | [] => pure ()
  | name :: names => do
    reject (name.unfinished current) .storeIdentity
    if name.obsolete current then (validateEntry (files.lookup name)).mapError .storage else pure ()
    checkCleanup files current names

def unlinkAll : List EntryName → JournalCode Unit
  | [] => pure ()
  | name :: names => do
    unlinkManagedEntry name
    unlinkAll names

def emptyRecovery : JournalRecovery where
  committed := none
  cursor := none
  action := .verifyOff

variable (j : WindowsAuthorityJournal)

def decodeAnchor : Option Bytes → Validated (Option JournalAnchor)
  | some bytes => some <$> JournalAnchor.decode j.serde bytes
  | none => pure none

def loadAnchor : JournalCode (Option JournalAnchor) := do
  let bytes ← readRegistry
  validating (j.decodeAnchor bytes)

def inspectEntries : JournalCode (List EntryName) := do
  let files ← read (·.files)
  let names := j.enumerate files.keys
  storing (require (names.length ≤ maxEntries) .tooManyEntries)
  attempt (require (∀ name ∈ names, name.recognized ∧
    ∀ file ∈ files.lookup name, file.kind = .file) .storeIdentity)
  pure names

variable (anchor : JournalAnchor)

def ensureMarker : JournalCode Unit := do
  let bytes := markerBytes anchor.storeId
  let marker ← readFile .marker 64
  let temp ← readTemporary .marker 64
  attempt (require ((∀ b ∈ marker, b = bytes) ∧ ∀ b ∈ temp, b = bytes) .storeIdentity)
  if marker.isSome = true ∧ temp.isNone = true then pure ()
  else
    attempt (reject (anchor.committed.isSome = true ∨ anchor.pending.isSome = true) .storeIdentity)
    let names ← j.inspectEntries
    attempt (require (∀ name ∈ names, name = .record .marker ∨ name = .temporary .marker)
      .storeIdentity)
    discardTemporary .marker temp.isSome
    publishFile .marker bytes 64

def readCommitted (cursor : JournalCursor) : JournalCode DecodedJournal := do
  let journalTemp ← readTemporary (.journal cursor.generation) maxJournalBytes
  attempt (reject (journalTemp.isSome = true) (.validation .anchor))
  let headTemp ← readTemporary (.head cursor.generation) maxHeadBytes
  attempt (reject (headTemp.isSome = true) (.validation .anchor))
  let bytes ← requiredRead (.journal cursor.generation) maxJournalBytes
  let decoded ← validating (decodeJournal j.serde bytes)
  validating (decoded.verifyCursor cursor)
  let headBytes ← requiredRead (.head cursor.generation) maxHeadBytes
  let head ← validating (JournalCursor.decode j.serde headBytes)
  attempt (require (head = cursor) (.validation .anchor))
  pure decoded

structure PendingImage where
  journal : Option Bytes
  journalTemp : Option Bytes
  head : Option JournalCursor
  headTemp : Option JournalCursor

def decodeHead : Option Bytes → Validated (Option JournalCursor)
  | some bytes => some <$> JournalCursor.decode j.serde bytes
  | none => pure none

def loadPending (generation : UInt64) : JournalCode PendingImage := do
  let journal ← readFile (.journal generation) maxJournalBytes
  let journalTemp ← readTemporary (.journal generation) maxJournalBytes
  let headBytes ← readFile (.head generation) maxHeadBytes
  let head ← validating (j.decodeHead headBytes)
  let headTempBytes ← readTemporary (.head generation) maxHeadBytes
  let headTemp ← validating (j.decodeHead headTempBytes)
  pure { journal, journalTemp, head, headTemp }

variable (pending : JournalCursor) (sameGeneration : Option JournalCursor)

/-- Looks for the pending record in the published journal, which must otherwise still be the
committed one. -/
def publishedCandidate :
    Option Bytes → Validated (Option Bytes)
  | some bytes => do
    let decoded ← decodeJournal j.serde bytes
    let cursor ← decoded.cursor pending.generation
    if cursor = pending then pure (some bytes)
    else
      require (∃ c ∈ sameGeneration, decoded.verifyCursor c = .ok ()) .anchor
      pure none
  | none => do
    reject (sameGeneration.isSome = true) .anchor
    pure none

/-- The temporary has precedence over what is published. -/
def temporaryCandidate (published : Option Bytes) :
    Option Bytes → Validated (Option Bytes)
  | some bytes => do
    let decoded ← decodeJournal j.serde bytes
    decoded.verifyCursor pending
    pure (some bytes)
  | none => pure published

variable (image : PendingImage)

def candidate : Validated (Option Bytes) := do
  let published ← j.publishedCandidate pending sameGeneration image.journal
  j.temporaryCandidate pending published image.journalTemp

def checkUnchanged : JournalCode Unit :=
  match sameGeneration with
  | some cursor => do
    let _ ← j.readCommitted cursor
    pure ()
  | none =>
    attempt (reject (image.journal.isSome = true ∨ image.head.isSome = true) (.validation .anchor))

/-- Gives the pending record up, which nothing but an unchanged committed image allows. -/
def abandonPending : JournalCode JournalAnchor := do
  attempt (reject (image.headTemp.isSome = true ∨ image.head ≠ sameGeneration) (.validation .anchor))
  j.checkUnchanged sameGeneration image
  let cleared ← validating (JournalAnchor.new anchor.storeId anchor.committed none)
  replaceAnchor (some anchor) cleared
  pure cleared

/-- Ties the pending record to what was committed before it. -/
def checkOrigin (bytes : Bytes) (state : AuthorityCommittedState)
    (previousOther : Option DecodedJournal) (sameGeneration : Option JournalCursor) :
    Validated Unit :=
  match previousOther, sameGeneration with
  | some previous, _ => do
    let checkpoint ← previous.state.checkpoint
    require (checkpoint = state) .anchor
  | none, some cursor => do
    require (cursor.committedLength.toNat ≤ bytes.length) .truncated
    let decoded ← decodeJournal j.serde (bytes.take cursor.committedLength.toNat)
    decoded.verifyCursor cursor
  | none, none => require (state.transition = .enrollOff) .anchor

def commitPending : JournalCode JournalAnchor := do
  let head ← validating pending.encode
  publishFile (.head pending.generation) head maxHeadBytes
  let committed ← validating (JournalAnchor.new anchor.storeId (some pending) none)
  replaceAnchor (some anchor) committed
  pure committed

/-- Publishes the pending record again, as a whole, and commits it. -/
def completePending (bytes : Bytes) : JournalCode JournalAnchor := do
  discardTemporary (.journal pending.generation) image.journalTemp.isSome
  publishFile (.journal pending.generation) bytes maxJournalBytes
  discardTemporary (.head pending.generation) image.headTemp.isSome
  commitPending anchor pending

def settleCandidate (previousOther : Option DecodedJournal) (image : PendingImage) :
    Option Bytes → JournalCode JournalAnchor
  | none => j.abandonPending anchor sameGeneration image
  | some bytes => do
    let decoded ← validating (decodeJournal j.serde bytes)
    validating (decoded.verifyCursor pending)
    validating (j.checkOrigin bytes decoded.state previousOther sameGeneration)
    completePending anchor pending image bytes

def readOther : Option JournalCursor → JournalCode (Option DecodedJournal)
  | some cursor => do
    let decoded ← j.readCommitted cursor
    pure (some decoded)
  | none => pure none

def recoverPending : JournalCode JournalAnchor := do
  let pending ← attempt (unwrap anchor.pending .storeIdentity)
  let sameGeneration := anchor.committed.filter fun c ↦ c.generation = pending.generation
  let previousOther ← j.readOther (anchor.committed.filter fun c ↦ c.generation ≠ pending.generation)
  let image ← j.loadPending pending.generation
  attempt (require ((∀ head ∈ image.head, head = pending ∨ some head = sameGeneration) ∧
    ∀ head ∈ image.headTemp, head = pending) (.validation .anchor))
  let found ← validating (j.candidate pending sameGeneration image)
  j.settleCandidate anchor pending sameGeneration previousOther image found

def cleanupOld : JournalCode Unit := do
  attempt (reject (anchor.pending.isSome = true) (.validation .anchor))
  let cursor ← attempt (unwrap anchor.committed .storeIdentity)
  let names ← j.inspectEntries
  let files ← read (·.files)
  attempt (checkCleanup files cursor.generation names)
  unlinkAll (names.filter fun name ↦ name.obsolete cursor.generation)

def settlePending : JournalCode JournalAnchor :=
  if anchor.pending.isSome = true then j.recoverPending anchor else pure anchor

def recoverSettled : JournalCode JournalRecovery :=
  match anchor.committed with
  | none => do
    let names ← j.inspectEntries
    attempt (require (∀ name ∈ names, name = .record .marker) .storeIdentity)
    pure emptyRecovery
  | some cursor => do
    let decoded ← j.readCommitted cursor
    let action ← validating decoded.state.restartAction
    j.cleanupOld anchor
    pure { committed := some decoded.state, cursor := some cursor, action }

def recoverLocked : JournalCode JournalRecovery := do
  let entries ← j.inspectEntries
  let loaded ← j.loadAnchor
  match loaded with
  | none =>
    attempt (require (entries = []) .storeIdentity)
    pure emptyRecovery
  | some anchor =>
    j.ensureMarker anchor
    let anchor ← j.settlePending anchor
    j.recoverSettled anchor

def recover : JournalCode JournalRecovery := j.recoverLocked

def link (bytes : Bytes) (state : AuthorityCommittedState) :
    Except JournalStoreError (UInt64 × Digest) :=
  if bytes = [] then pure (1, .fill 32 0)
  else do
    let cursor ← unwrap anchor.committed .storeIdentity
    let decoded ← (decodeJournal j.serde bytes).mapError .validation
    (decoded.verifyCursor cursor).mapError .validation
    (state.validateSuccessor decoded.state).mapError .validation
    let sequence ← unwrap (checkedSucc cursor.sequence) .capacity
    pure (sequence, cursor.recordSha256)

/-- The two phases of a commit: the cursor is announced before the files change. -/
def commit (cursor : JournalCursor) (bytes : Bytes) : JournalCode JournalAnchor := do
  let pending ← validating (JournalAnchor.new anchor.storeId anchor.committed (some cursor))
  replaceAnchor (some anchor) pending
  publishFile (.journal cursor.generation) bytes maxJournalBytes
  commitPending pending cursor

def publish (generation : UInt64) (bytes : Bytes) (state : AuthorityCommittedState) :
    JournalCode JournalAnchor := do
  let (sequence, previous) ← attempt (j.link anchor bytes state)
  let encoded ← validating (encodeRecord state sequence previous)
  attempt (reject (maxJournalBytes < bytes.length + encoded.bytes.length) .capacity)
  let bytes := bytes ++ encoded.bytes
  let cursor ← validating (JournalCursor.new generation sequence (.ofNat bytes.length) encoded.digest
    state.revision)
  commit anchor cursor bytes

/-- Loads the anchor, or makes the first one; `storeId` is the identifier drawn for it. -/
def openAnchor (storeId : Uuid) : JournalCode JournalAnchor := do
  let loaded ← j.loadAnchor
  match loaded with
  | some anchor => pure anchor
  | none =>
    let anchor ← validating (JournalAnchor.new storeId none none)
    replaceAnchor none anchor
    j.ensureMarker anchor
    pure anchor

def needsCompaction (cursor : JournalCursor) : Prop :=
  j.recordCapacity < saturatingAdd cursor.sequence (.ofNat lifecycleFinishReserve) ∨
    UInt64.ofNat maxJournalBytes < saturatingAdd cursor.committedLength
      (.ofNat (lifecycleFinishReserve * (maxRecordPayload + headerBytes)))

instance (cursor : JournalCursor) : Decidable (j.needsCompaction cursor) :=
  inferInstanceAs (Decidable (_ ∨ _))

def Begins (state : AuthorityCommittedState) : Prop :=
  state.transition = .prepare ∨ state.transition = .reserveGeneration

instance (state : AuthorityCommittedState) : Decidable (Begins state) :=
  inferInstanceAs (Decidable (_ ∨ _))

/-- Moves the history into the next generation, as a checkpoint. -/
def compact (cursor : JournalCursor) (previous : AuthorityCommittedState) :
    JournalCode JournalAnchor := do
  let generation ← attempt (unwrap (checkedSucc cursor.generation) .capacity)
  let checkpoint ← validating previous.checkpoint
  let anchor ← j.publish anchor generation [] checkpoint
  j.cleanupOld anchor
  pure anchor

def makeRoom (previous : Option AuthorityCommittedState) (state : AuthorityCommittedState) :
    JournalCode JournalAnchor :=
  match anchor.committed, previous with
  | some cursor, some previous =>
    if Begins state ∧ j.needsCompaction cursor then j.compact anchor cursor previous
    else pure anchor
  | _, _ => pure anchor

def currentJournal : JournalCode (UInt64 × Bytes) :=
  match anchor.committed with
  | some cursor => do
    let bytes ← requiredRead (.journal cursor.generation) maxJournalBytes
    pure (cursor.generation, bytes)
  | none => pure (1, [])

def checkAppend (state : AuthorityCommittedState) : Option AuthorityCommittedState → Validated Unit
  | some previous => state.validateSuccessor previous
  | none => require (state.transition = .enrollOff) .sequence

def appendRecovered (storeId : Uuid) (previous : Option AuthorityCommittedState)
    (state : AuthorityCommittedState) : JournalCode JournalCursor := do
  validating (checkAppend state previous)
  let anchor ← j.openAnchor storeId
  let anchor ← j.makeRoom anchor previous state
  attempt (reject (∃ cursor ∈ anchor.committed, j.recordCapacity ≤ cursor.sequence) .capacity)
  let (generation, bytes) ← currentJournal anchor
  let anchor ← j.publish anchor generation bytes state
  j.cleanupOld anchor
  attempt (unwrap anchor.committed .storeIdentity)

def append (storeId : Uuid) (state : AuthorityCommittedState) : JournalCode JournalCursor := do
  validating state.validate
  let prior ← j.recoverLocked
  j.appendRecovered storeId prior.committed state

end WindowsAuthorityJournal

end CfwRs.WindowsAuthority
