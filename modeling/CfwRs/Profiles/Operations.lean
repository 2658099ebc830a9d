import CfwRs.Profiles.Repository

namespace CfwRs.Profiles

open Lib Lib.Checked Durable

variable {V P : Type}

structure ProfileReplacement (P : Type) where
  id : String
  name : Option String
  profile : P
  sourceUrl : Option String
  createdEpochSecs : Option UInt64
  expected : Option (StoredProfile P)

/-- What `delete` may do with a selection that names an invalid entry. -/
inductive InvalidSelection
  | keep | clear
deriving DecidableEq

structure ReplacementPlan (V P : Type) where
  current : StoredProfile P
  stored : StoredProfile P
  envelope : ProfileEnvelope V
  selection : Option ProfileSelection
  prospectiveBytes : ℕ

def ReplacementPlan.result (plan : ReplacementPlan V P) : ProfileImportResult :=
  ⟨plan.stored.record.id, plan.stored.record.name, plan.stored.record.bytes,
    plan.stored.record.digest⟩

namespace ProfileFormat

variable (F : ProfileFormat V P)

def replacementName (current : StoredProfile P) : Option String → Except ProfileError String
  | some name => normalizeName name
  | none => .ok current.record.name

def planReplacement [DecidableEq P] (existing : RepositorySnapshot) (replacedBytes : ℕ)
    (current : StoredProfile P) (replacement : ProfileReplacement P) (now : UInt64) :
    Except ProfileError (ReplacementPlan V P) := do
  reject (∃ expected ∈ replacement.expected, expected ≠ current)
    (.profileChanged replacement.id)
  require ((F.credentialReferences current.profile).length ≤
    credentialBindingCount existing.credentialCatalog) .tooManyCredentialReferences
  ensureCredentialReferenceCapacity (credentialBindingCount existing.credentialCatalog -
    (F.credentialReferences current.profile).length +
    (F.credentialReferences replacement.profile).length)
  let name ← replacementName current replacement.name
  let timestamp := replacement.createdEpochSecs.getD now
  let envelope ← F.encodeWithTimestamp replacement.id name replacement.profile
    replacement.sourceUrl timestamp
  ensureRepositoryBytes (existing.storedBytes - replacedBytes) (F.envelopeLength envelope)
  let selection ← (existing.selection.filter (·.profileId = replacement.id)).mapM
    fun _ ↦ ProfileSelection.new replacement.id (F.digest replacement.profile)
  return {
    current := current
    stored := {
      record := {
        id := replacement.id
        name := name
        bytes := F.jsonLength replacement.profile
        digest := F.digest replacement.profile
        createdEpochSecs := timestamp
        sourceKind := .fromSourceUrl replacement.sourceUrl }
      profile := replacement.profile
      sourceUrl := replacement.sourceUrl }
    envelope := envelope
    selection := selection
    prospectiveBytes := existing.storedBytes - replacedBytes + F.envelopeLength envelope }

def planIntent (plan : ReplacementPlan V P) : Except ProfileError SelectedProfileReplaceIntent := do
  let intent ← SelectedProfileReplaceIntent.new plan.stored.record.id plan.current.record.digest
    plan.stored.record.digest (← F.storedEnvelopeDigest plan.current)
    (F.envelopeDigest plan.envelope)
  let intent ← intent.encode
  ensureRepositoryBytes plan.prospectiveBytes intent.text.length
  return intent

end ProfileFormat

namespace ProfileRepository

variable (R : ProfileRepository V P)

abbrev fail {α : Type} (e : ProfileError) : RepositoryCode V α := attempt (.error e)

def unexpectedRecovery (operation : ProfileError) (recovery : String) : ProfileError :=
  .selectedReplaceRecovery (R.display operation) recovery

def concludeReplacement (plan : ReplacementPlan V P) :
    RepositoryCode V (ProfileImportResult × StoredProfile P) := do
  match ← R.finishSelectedReplace.catching with
  | .error operation => do
    match ← R.recoverAfterSelectedReplaceError operation with
    | .committed | .none => return (plan.result, plan.stored)
    | .aborted => fail (R.unexpectedRecovery operation
        "replacement cleanup reverted after both commits")
  | .ok () => return (plan.result, plan.stored)

/-- Replaces the selected profile by one with another digest: the intent, the profile, the
selection, and the intent again. -/
def replaceSelected (plan : ReplacementPlan V P) (intent : SelectedProfileReplaceIntent)
    (selection : ProfileSelection) :
    RepositoryCode V (ProfileImportResult × StoredProfile P) := do
  match ← (R.writeNewAtomic .selectedReplace (.intent intent)).catching with
  | .error operation => do
    match ← R.recoverAfterSelectedReplaceError operation with
    | .none | .aborted => fail operation
    | .committed => fail (R.unexpectedRecovery operation
        "an unstarted replacement was unexpectedly reported committed")
  | .ok () => do
    match ← (R.writeReplaceAtomic (.profile plan.stored.record.id)
        (.envelope plan.envelope)).catching with
    | .error operation => do
      match ← R.recoverAfterSelectedReplaceError operation with
      | .committed => return (plan.result, plan.stored)
      | .aborted => fail operation
      | .none => fail (R.unexpectedRecovery operation
          "replacement intent disappeared before recovery")
    | .ok () => do
      let selection ← attempt selection.encode
      match ← (R.writeReplaceAtomic .selection (.selection selection)).catching with
      | .error operation => do
        match ← R.recoverAfterSelectedReplaceError operation with
        | .committed => return (plan.result, plan.stored)
        | .aborted | .none => fail (R.unexpectedRecovery operation
            "profile replacement committed but selection did not roll forward")
      | .ok () => R.concludeReplacement plan

def replaceWithTimestampInDirectory [DecidableEq P] (replacement : ProfileReplacement P) :
    RepositoryCode V (ProfileImportResult × StoredProfile P) := do
  attempt (validateProfileId replacement.id)
  let existing ← R.inspect R.readAll
  let (replacedBytes, current) ← R.inspect fun d ↦ R.loadProfile d.view replacement.id
  let now ← read fun d ↦ R.now d.calls
  let plan ← attempt (R.planReplacement existing replacedBytes current replacement now)
  match plan.selection with
  | some selection =>
    if plan.current.record.digest ≠ plan.stored.record.digest then do
      let intent ← attempt (R.planIntent plan)
      R.replaceSelected plan intent selection
    else do
      R.writeReplaceAtomic (.profile replacement.id) (.envelope plan.envelope)
      return (plan.result, plan.stored)
  | none => do
    R.writeReplaceAtomic (.profile replacement.id) (.envelope plan.envelope)
    return (plan.result, plan.stored)

/-- Imports one profile under an exact identity; a replay is no change. -/
def importWithIdAndSourceOutcomeInDirectory [DecidableEq P] (id : String) (name : Option String)
    (profile : P) (sourceUrl : Option String) : RepositoryCode V ExactProfileImportOutcome := do
  attempt (validateProfileId id)
  let name ← attempt (normalizeName (name.getD "Local profile"))
  let existing ← R.inspect R.readAll
  let result : ProfileImportResult := ⟨id, name, R.jsonLength profile, R.digest profile⟩
  match findInvalid existing.invalid id with
  | some entry => fail entry.record.loadError
  | none =>
    if existing.records.any (·.id = id) then do
      let (_, current) ← R.inspect fun d ↦ R.loadProfile d.view id
      attempt (require (current.record.name = name ∧ current.profile = profile ∧
        current.sourceUrl = sourceUrl) (.profileAlreadyExists id))
      return ⟨result, false⟩
    else do
      attempt (ensureCredentialReferenceCapacity
        (credentialBindingCount existing.credentialCatalog +
          (R.credentialReferences profile).length))
      attempt (ensureEntryCapacity (existing.records.length + existing.invalid.length))
      let now ← read fun d ↦ R.now d.calls
      let envelope ← attempt (R.encodeWithTimestamp id name profile sourceUrl now)
      attempt (ensureRepositoryBytes existing.storedBytes (R.envelopeLength envelope))
      R.writeNewAtomic (.profile id) (.envelope envelope)
      return ⟨result, true⟩

def selectInDirectory (id : String) : RepositoryCode V ProfileRecord := do
  attempt (validateProfileId id)
  let profiles ← R.inspect R.readProfiles
  match profiles.records.find? (·.id = id) with
  | none =>
    match findInvalid profiles.invalid id with
    | some entry => fail entry.record.loadError
    | none => fail (.selectedProfileMissing id)
  | some record => do
    let selection ← attempt (ProfileSelection.new record.id record.digest)
    let selection ← attempt selection.encode
    attempt (ensureRepositoryBytes profiles.storedBytes selection.text.length)
    R.writeReplaceAtomic .selection (.selection selection)
    return record

def updateMetadataInDirectory (id : String) (name sourceUrl : Option String) :
    RepositoryCode V ProfileRecord := do
  let existing ← R.inspect R.readAll
  let (replacedBytes, current) ← R.inspect fun d ↦ R.loadProfile d.view id
  let name ← attempt (ProfileFormat.replacementName current name)
  let envelope ← attempt (R.encodeWithTimestamp id name current.profile sourceUrl
    current.record.createdEpochSecs)
  attempt (ensureRepositoryBytes (existing.storedBytes - replacedBytes)
    (R.envelopeLength envelope))
  R.writeReplaceAtomic (.profile id) (.envelope envelope)
  return { current.record with name := name, sourceKind := .fromSourceUrl sourceUrl }

def clearsSelection (existing : RepositorySnapshot) (id : String)
    (invalidSelection : InvalidSelection) : Except ProfileError Bool := do
  if ∃ selection ∈ existing.selection, selection.profileId = id then
    match findInvalid existing.invalid id, invalidSelection with
    | none, _ => .error (.selectedProfileDeletion id)
    | some entry, .keep => .error (.invalidSelectionKept entry.record.id entry.record.name)
    | some _, .clear => return true
  else return false

/-- Removes the selection first, so that an interrupted deletion never leaves one that names a
missing profile. -/
def clearSelection (clears : Bool) : RepositoryCode V Unit :=
  if clears then R.unlinkCommitted .selection else pure ()

def deleteInDirectory (id : String) (invalidSelection : InvalidSelection) :
    RepositoryCode V Bool := do
  let existing ← R.inspect R.readAll
  let clears ← attempt (clearsSelection existing id invalidSelection)
  match ← R.inspect fun d ↦ return d.view (.profile id) with
  | none => return false
  | some file => do
    let _ ← attempt (R.decodeEntry id file)
    R.clearSelection clears
    R.unlinkCommitted (.profile id)
    return true

def undoSelection : Option ProfileSelection → RepositoryCode V Unit
  | some selection => do
    let selection ← attempt selection.encode
    R.writeReplaceAtomic .selection (.selection selection)
  | none => do
    if ← R.entryExists .selection then R.unlinkCommitted .selection else return ()

/-- Selects a profile; a selection that may not be durable is taken back. -/
def selectRecovering (id : String) : RepositoryCode V ProfileRecord := do
  let previous ← R.inspect R.readAll
  match ← (R.selectInDirectory id).catching with
  | .ok record => return record
  | .error operation => do
    match ← (R.undoSelection previous.selection).catching with
    | .ok () => fail operation
    | .error recovery =>
      fail (.selectedReplaceRecovery (R.display operation) (R.display recovery))

def commitExactImportAndSelectInDirectory [DecidableEq P] (id : String) (name : Option String)
    (profile : P) (sourceUrl : Option String) (activate : Bool) :
    RepositoryCode V ExactProfileImportOutcome := do
  let imported ← R.importWithIdAndSourceOutcomeInDirectory id name profile sourceUrl
  if activate && imported.created then do
    let _ ← R.selectRecovering id
    return imported
  else return imported

def restoreSelection (id : String) (selection : Option ProfileSelection) :
    RepositoryCode V Unit := do
  match selection.filter (·.profileId = id) with
  | some selection => do
    let selection ← attempt selection.encode
    R.writeReplaceAtomic .selection (.selection selection)
    R.recoverRepository
  | none => R.recoverRepository

def checkCandidate [DecidableEq P] (expected current : StoredProfile P) (name : Option String)
    (profile : P) (sourceUrl : Option String) : Except ProfileError Unit := do
  let candidateName ← ProfileFormat.replacementName expected name
  reject (current.profile ≠ profile ∨ current.record.name ≠ candidateName ∨
    current.sourceUrl ≠ sourceUrl) (.profileChanged expected.record.id)

/-- Takes back a replacement that failed, from the old and the candidate state only. -/
def compensateReplacement [DecidableEq P] (expected : StoredProfile P) (name : Option String)
    (profile : P) (sourceUrl : Option String) (selection : Option ProfileSelection) :
    RepositoryCode V Unit := do
  attempt (validateProfileId expected.record.id)
  let (_, current) ← R.inspect fun d ↦ R.loadProfile d.view expected.record.id
  if current = expected then do
    if ← R.entryExists .selectedReplace then R.restoreSelection expected.record.id selection
    else return ()
  else do
    attempt (checkCandidate expected current name profile sourceUrl)
    let envelope ← attempt (R.encodeWithTimestamp expected.record.id expected.record.name
      expected.profile expected.sourceUrl expected.record.createdEpochSecs)
    R.writeReplaceAtomic (.profile expected.record.id) (.envelope envelope)
    R.restoreSelection expected.record.id selection

def candidate (expected : StoredProfile P) (name : Option String) (profile : P)
    (sourceUrl : Option String) : ProfileReplacement P :=
  ⟨expected.record.id, name, profile, sourceUrl, none, some expected⟩

def commitReplaceInDirectory [DecidableEq P] (expected : StoredProfile P) (name : Option String)
    (profile : P) (sourceUrl : Option String) :
    RepositoryCode V (ProfileImportResult × StoredProfile P) := do
  attempt (R.validateStoredProfile expected)
  let existing ← R.inspect R.readAll
  match ← (R.replaceWithTimestampInDirectory
      (candidate expected name profile sourceUrl)).catching with
  | .ok committed => return committed
  | .error operation => do
    if operation.isProfileChanged then fail operation
    else do
      match ← (R.compensateReplacement expected name profile sourceUrl
          existing.selection).catching with
      | .ok () => fail operation
      | .error recovery =>
        fail (.selectedReplaceRecovery (R.display operation) (R.display recovery))

end ProfileRepository

/-- The operations of a repository. Each takes the exclusive lock and recovers first; the commits
keep the lock from an earlier preparation. -/
inductive Operation (P : Type)
  | snapshot
  | importWithIdAndSource (id : String) (name : Option String) (profile : P)
      (sourceUrl : Option String)
  | replace (id : String) (name : Option String) (profile : P) (sourceUrl : Option String)
  | replaceIfUnchanged (expected : StoredProfile P) (name : Option String) (profile : P)
      (sourceUrl : Option String)
  | restore (stored : StoredProfile P)
  | restoreIfUnchanged (expectedCurrent stored : StoredProfile P)
  | updateMetadata (id : String) (name sourceUrl : Option String)
  | select (id : String)
  | delete (id : String) (invalidSelection : InvalidSelection)
  | commitSelection (id : String)
  | commitExactImport (id : String) (name : Option String) (profile : P)
      (sourceUrl : Option String)
  | commitExactImportAndSelect (id : String) (name : Option String) (profile : P)
      (sourceUrl : Option String) (activate : Bool)
  | commitReplaceIfUnchanged (expected : StoredProfile P) (name : Option String) (profile : P)
      (sourceUrl : Option String)

namespace ProfileRepository

variable [DecidableEq P] (R : ProfileRepository V P)

def restoring (stored : StoredProfile P) (expected : Option (StoredProfile P)) :
    ProfileReplacement P :=
  ⟨stored.record.id, some stored.record.name, stored.profile, stored.sourceUrl,
    some stored.record.createdEpochSecs, expected⟩

def precheck : Operation P → Except ProfileError Unit
  | .replaceIfUnchanged expected .. => R.validateStoredProfile expected
  | .restore stored => R.validateStoredProfile stored
  | .restoreIfUnchanged expectedCurrent stored => do
    R.validateStoredProfile expectedCurrent
    R.validateStoredProfile stored
    reject (expectedCurrent.record.id ≠ stored.record.id) (.profileChanged stored.record.id)
  | .updateMetadata id .. => validateProfileId id
  | .select id => validateProfileId id
  | .delete id _ => validateProfileId id
  | _ => .ok ()

def body : Operation P → RepositoryCode V Unit
  | .snapshot => do
    let _ ← R.inspect R.readAll
    return ()
  | .importWithIdAndSource id name profile sourceUrl => do
    let _ ← R.importWithIdAndSourceOutcomeInDirectory id name profile sourceUrl
    return ()
  | .replace id name profile sourceUrl => do
    let _ ← R.replaceWithTimestampInDirectory ⟨id, name, profile, sourceUrl, none, none⟩
    return ()
  | .replaceIfUnchanged expected name profile sourceUrl => do
    let _ ← R.replaceWithTimestampInDirectory (candidate expected name profile sourceUrl)
    return ()
  | .restore stored => do
    let _ ← R.replaceWithTimestampInDirectory (restoring stored none)
    return ()
  | .restoreIfUnchanged expectedCurrent stored => do
    let _ ← R.replaceWithTimestampInDirectory (restoring stored (some expectedCurrent))
    return ()
  | .updateMetadata id name sourceUrl => do
    let _ ← R.updateMetadataInDirectory id name sourceUrl
    return ()
  | .select id => do
    let _ ← R.selectInDirectory id
    return ()
  | .delete id invalidSelection => do
    let _ ← R.deleteInDirectory id invalidSelection
    return ()
  | .commitSelection id => do
    let _ ← R.selectRecovering id
    return ()
  | .commitExactImport id name profile sourceUrl => do
    let _ ← R.importWithIdAndSourceOutcomeInDirectory id name profile sourceUrl
    return ()
  | .commitExactImportAndSelect id name profile sourceUrl activate => do
    let _ ← R.commitExactImportAndSelectInDirectory id name profile sourceUrl activate
    return ()
  | .commitReplaceIfUnchanged expected name profile sourceUrl => do
    let _ ← R.commitReplaceInDirectory expected name profile sourceUrl
    return ()

def run (operation : Operation P) : RepositoryCode V Unit := do
  attempt (R.precheck operation)
  R.recoverRepository
  R.body operation

end ProfileRepository

end CfwRs.Profiles
