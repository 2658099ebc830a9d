import CfwRs.Profiles.Storage

namespace CfwRs.Profiles

open Lib Lib.Checked SingBox

variable {V P : Type}

structure ProfileImportResult where
  id : String
  name : String
  bytes : ℕ
  digest : String
deriving DecidableEq

structure ExactProfileImportOutcome where
  profile : ProfileImportResult
  created : Bool
deriving DecidableEq

structure ProfileCredentialCatalogEntry where
  audience : CredentialAudience
  references : List CredentialRef

structure RepositoryProfiles where
  records : List ProfileRecord
  invalid : List InvalidEntry
  storedBytes : ℕ
  credentialBindingCount : ℕ
  credentialCatalog : List ProfileCredentialCatalogEntry

structure RepositorySnapshot where
  records : List ProfileRecord
  invalid : List InvalidEntry
  storedBytes : ℕ
  selection : Option ProfileSelection
  credentialCatalog : List ProfileCredentialCatalogEntry

def findInvalid (entries : List InvalidEntry) (id : String) : Option InvalidEntry :=
  entries.find? (·.record.id = id)

def listingOrder {α : Type} (key : α → String × String) (left right : α) : Prop :=
  (key left).1 < (key right).1 ∨ (key left).1 = (key right).1 ∧ (key left).2 ≤ (key right).2

instance {α : Type} (key : α → String × String) : DecidableRel (listingOrder key) :=
  fun _ _ ↦ inferInstanceAs (Decidable (_ ∨ _))

def referenceOrder (left right : CredentialRef) : Prop :=
  left.id < right.id ∨ left.id = right.id ∧ left.kind.ctorIdx ≤ right.kind.ctorIdx

instance : DecidableRel referenceOrder := fun _ _ ↦ inferInstanceAs (Decidable (_ ∨ _))

def credentialBindingCount (catalog : List ProfileCredentialCatalogEntry) : ℕ :=
  (catalog.map (·.references.length)).sum

def ensureRepositoryBytes (current additional : ℕ) : Except ProfileError Unit :=
  reject (Limits.maxRepositoryBytes < current + additional)
    (.repositoryTooLarge (current + additional))

def ensureCredentialReferenceCapacity (actual : ℕ) : Except ProfileError Unit :=
  reject (Limits.maxRepositoryCredentialReferences < actual) .tooManyCredentialReferences

def ensureEntryCapacity (currentEntries : ℕ) : Except ProfileError Unit :=
  reject (Limits.maxRepositoryEntries ≤ currentEntries) .tooManyEntries

def profileIds : List EntryName → Except ProfileError (List String)
  | [] => .ok []
  | .selection :: names => profileIds names
  | .profile id :: names => do
    validateProfileId id
    return id :: (← profileIds names)
  | name :: _ => .error (.unexpectedEntry name)

def checkNoTemporary (d : Disk V) : Except ProfileError Unit :=
  match d.temporaries.keys with
  | [] => .ok ()
  | id :: _ => .error (.unexpectedEntry (ProfileRepository.temporaryName id))

namespace ProfileFormat

variable (F : ProfileFormat V P)

def readEntry (view : View V) (profiles : RepositoryProfiles) (id : String) :
    Except ProfileError RepositoryProfiles := do
  let file ← view.openFile (.profile id)
  let storedBytes := profiles.storedBytes + F.length file
  reject (Limits.maxRepositoryBytes < storedBytes) (.repositoryTooLarge storedBytes)
  match ← F.decodeEntry id file with
  | .invalid entry =>
    return { profiles with invalid := profiles.invalid ++ [entry], storedBytes := storedBytes }
  | .valid stored => do
    let references := (F.credentialReferences stored.profile).insertionSort referenceOrder
    let count := profiles.credentialBindingCount + references.length
    ensureCredentialReferenceCapacity count
    let audience ← (CredentialAudience.new stored.record.id stored.record.digest).mapError
      fun _ ↦ .invalidCredentialAudience stored.record.id
    return { profiles with
      records := profiles.records ++ [stored.record]
      storedBytes := storedBytes
      credentialBindingCount := count
      credentialCatalog := profiles.credentialCatalog ++ [⟨audience, references⟩] }

def readProfiles (d : Disk V) : Except ProfileError RepositoryProfiles := do
  ProfileRepository.checkEntryCount d
  checkNoTemporary d
  let ids ← profileIds d.files.keys
  let profiles ← (ids.insertionSort (· ≤ ·)).foldlM (F.readEntry d.view) ⟨[], [], 0, 0, []⟩
  return { profiles with
    records := profiles.records.insertionSort (listingOrder fun r ↦ (r.name, r.id))
    invalid := profiles.invalid.insertionSort (listingOrder fun e ↦ (e.record.name, e.record.id))
    credentialCatalog := profiles.credentialCatalog.insertionSort
      (listingOrder fun e ↦ (e.audience.profileId, e.audience.profileDigest)) }

def listedDigest (profiles : RepositoryProfiles) (id : String) : Option String :=
  ((profiles.records.find? (·.id = id)).map ProfileRecord.digest).or
    ((findInvalid profiles.invalid id).map InvalidEntry.digest)

def checkSelection (profiles : RepositoryProfiles) (selection : ProfileSelection) :
    Except ProfileError Unit := do
  let digest ← unwrap (listedDigest profiles selection.profileId)
    (.selectedProfileMissing selection.profileId)
  reject (digest ≠ selection.profileDigest) (.selectedProfileDigestMismatch selection.profileId
    selection.profileDigest digest)

def readAll (d : Disk V) : Except ProfileError RepositorySnapshot := do
  let profiles ← F.readProfiles d
  match d.view .selection with
  | none =>
    return ⟨profiles.records, profiles.invalid, profiles.storedBytes, none,
      profiles.credentialCatalog⟩
  | some file => do
    let storedBytes := profiles.storedBytes + F.length file
    reject (Limits.maxRepositoryBytes < storedBytes) (.repositoryTooLarge storedBytes)
    let selection ← F.decodeSelection file
    checkSelection profiles selection
    return ⟨profiles.records, profiles.invalid, storedBytes, some selection,
      profiles.credentialCatalog⟩

def openEntry (view : View V) (id : String) : Except ProfileError (StoredEntry P) := do
  F.decodeEntry id (← view.openFile (.profile id))

def loadProfile (view : View V) (id : String) : Except ProfileError (ℕ × StoredProfile P) := do
  let file ← view.openFile (.profile id)
  return (F.length file, ← (← F.decodeEntry id file).load)

end ProfileFormat

inductive SelectedReplaceRecovery
  | none | aborted | committed
deriving DecidableEq

inductive SelectedReplaceState
  | previous | replacementProfileWithPreviousSelection | replacement
deriving DecidableEq

namespace ProfileRepository

variable (R : ProfileRepository V P)

def conflict {α : Type} (context : String) (c : Except ProfileError α) : Except ProfileError α :=
  c.mapError fun e ↦ .selectedReplaceConflict (context ++ R.display e)

/-- The phase of a replacement, given the digests on the disk. -/
def replacePhase (intent : SelectedProfileReplaceIntent)
    (envelopeDigest profileDigest selectedDigest : String) :
    Except ProfileError SelectedReplaceState :=
  if envelopeDigest = intent.previousEnvelopeDigest ∧
      profileDigest = intent.previousProfileDigest ∧
      selectedDigest = intent.previousProfileDigest then .ok .previous
  else if envelopeDigest = intent.replacementEnvelopeDigest ∧
      profileDigest = intent.replacementProfileDigest ∧
      selectedDigest = intent.previousProfileDigest then
    .ok .replacementProfileWithPreviousSelection
  else if envelopeDigest = intent.replacementEnvelopeDigest ∧
      profileDigest = intent.replacementProfileDigest ∧
      selectedDigest = intent.replacementProfileDigest then .ok .replacement
  else .error (.selectedReplaceConflict
    "profile envelope and selection do not match an allowed transaction phase")

def selectedReplaceState (view : View V) (intent : SelectedProfileReplaceIntent) :
    Except ProfileError SelectedReplaceState := do
  let file ← R.conflict "replacement profile is unavailable: "
    (view.openFile (.profile intent.profileId))
  let current ← R.conflict "replacement profile is unreadable: "
    (R.decodeEntry intent.profileId file)
  let file ← R.conflict "selected-profile metadata is unavailable: " (view.openFile .selection)
  let selection ← R.conflict "selected-profile metadata is unreadable: " (R.decodeSelection file)
  reject (selection.profileId ≠ intent.profileId) (.selectedReplaceConflict
    "selected profile identity changed while replacement intent was pending")
  let envelopeDigest ← R.entryEnvelopeDigest current
  replacePhase intent envelopeDigest current.digest selection.profileDigest

def finishSelectedReplace : RepositoryCode V Unit := R.unlinkCommitted .selectedReplace

def rollForward (intent : SelectedProfileReplaceIntent) : RepositoryCode V Unit := do
  let selection ← Durable.attempt (ProfileSelection.new intent.profileId
    intent.replacementProfileDigest)
  let selection ← Durable.attempt selection.encode
  R.writeReplaceAtomic .selection (.selection selection)
  let state ← R.inspect fun d ↦ R.selectedReplaceState d.view intent
  Durable.attempt (reject (state ≠ .replacement) (.selectedReplaceConflict
    "selection roll-forward did not produce the exact replacement state"))

def recoverSelectedReplace : RepositoryCode V SelectedReplaceRecovery := do
  if ← R.entryExists .selectedReplace then do
    let intent ← R.inspect fun d ↦ do R.decodeIntent (← d.view.openFile .selectedReplace)
    match ← R.inspect fun d ↦ R.selectedReplaceState d.view intent with
    | .previous => do
      R.finishSelectedReplace
      return .aborted
    | .replacementProfileWithPreviousSelection => do
      R.rollForward intent
      R.finishSelectedReplace
      return .committed
    | .replacement => do
      R.finishSelectedReplace
      return .committed
  else return .none

def recover : RepositoryCode V SelectedReplaceRecovery := do
  let _ ← R.recoverOwnedTemporaries
  R.recoverSelectedReplace

def recoverRepository : RepositoryCode V Unit := do
  let _ ← R.recover
  return ()

def recoverAfterSelectedReplaceError (operation : ProfileError) :
    RepositoryCode V SelectedReplaceRecovery :=
  R.recover.handle fun recovery ↦
    .error (.selectedReplaceRecovery (R.display operation) (R.display recovery))

end ProfileRepository

end CfwRs.Profiles
