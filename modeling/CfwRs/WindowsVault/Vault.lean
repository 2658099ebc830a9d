import CfwRs.Credentials.Entries

namespace CfwRs.WindowsVault

open Lib Lib.Checked SingBox Credentials

namespace Limits

def schemaVersion : UInt16 := 1

def maxDocumentBytes : ℕ := 8 * 1024 * 1024

def maxTotalSecretBytes : ℕ := 448 * 1024

def maxCredentialSecretBytes : ℕ := 16 * 1024

def maxCredentialCatalogProfiles : ℕ := 4096

end Limits

inductive CredentialVaultError
  | outcomeUnknown | unavailable | accessDenied | capacityExceeded | immutableConflict
  | invalidMaterial | corrupt | missingVault | migrationRequired | concurrentModification | internal
deriving DecidableEq

inductive StorageError
  | commitUncertain | busy | mutexBusy | unsafeDirectory | unsafeFile | invalidSecurityDescriptor
  | unsafeMutex | impersonatedIdentity | tooLarge | invalidDirectoryListing | tooManyEntries
  | io (permissionDenied : Bool) | enumeration | cleanupFailed (operation : StorageError)
  | invalidName | invalidLimit | incompleteStream | unexpectedDirectory | invalidMutexParameters

def storageError : StorageError → CredentialVaultError
  | .commitUncertain => .outcomeUnknown
  | .busy | .mutexBusy => .concurrentModification
  | .unsafeDirectory | .unsafeFile | .invalidSecurityDescriptor | .unsafeMutex
  | .impersonatedIdentity => .accessDenied
  | .tooLarge | .invalidDirectoryListing => .corrupt
  | .tooManyEntries => .capacityExceeded
  | .io true => .accessDenied
  | .io false | .enumeration => .unavailable
  | .cleanupFailed operation => storageError operation
  | .invalidName | .invalidLimit | .incompleteStream | .unexpectedDirectory
  | .invalidMutexParameters => .internal

def kindRank (kind : CredentialKind) : ℕ := kind.ctorIdx

structure Document (Secret : Type) where
  schemaVersion : UInt16
  revision : BitVec 128
  entries : List (VaultEntry Secret)

/-- The secrets of the vault, and how long the encoding of a document is. -/
structure VaultFormat (Secret : Type) extends SecretFormat Secret where
  documentBytes : Document Secret → ℕ

structure CredentialProfileCatalogEntry where
  audience : CredentialAudience
  references : List CredentialRef
deriving DecidableEq

def CredentialProfileCatalogEntry.bindings (entry : CredentialProfileCatalogEntry) :
    List CredentialBinding := entry.references.map fun reference ↦ ⟨entry.audience, reference⟩

def referenceKey (r : CredentialRef) : String ×ₗ ℕ := toLex (r.id, kindRank r.kind)

def CanonicalReferences (references : List CredentialRef) : Prop :=
  references.length ≤ Capacity.maxCredentialSlots ∧
    (references.insertionSort fun a b ↦ referenceKey a ≤ referenceKey b) = references ∧
    (references.map (·.id)).Nodup

def CanonicalCatalog (catalog : List CredentialProfileCatalogEntry) : Prop :=
  catalog.length ≤ Limits.maxCredentialCatalogProfiles ∧
    (catalog.insertionSort fun a b ↦ toLex (a.audience.profileId, a.audience.profileDigest) ≤
      toLex (b.audience.profileId, b.audience.profileDigest)) = catalog ∧
    (catalog.map (·.audience.profileId)).Nodup ∧
    (∀ entry ∈ catalog, CanonicalReferences entry.references) ∧
    (catalog.map (·.references.length)).sum ≤ Capacity.maxCredentialVaultBindings

def CanonicalBindings (bindings : List CredentialBinding) : Prop :=
  bindings.length ≤ Capacity.maxCredentialVaultBindings ∧
    bindings.Pairwise fun a b ↦ bindingKey kindRank a < bindingKey kindRank b

instance (references : List CredentialRef) : Decidable (CanonicalReferences references) :=
  inferInstanceAs (Decidable (_ ∧ _))

instance (catalog : List CredentialProfileCatalogEntry) : Decidable (CanonicalCatalog catalog) :=
  inferInstanceAs (Decidable (_ ∧ _))

instance (bindings : List CredentialBinding) : Decidable (CanonicalBindings bindings) :=
  inferInstanceAs (Decidable (_ ∧ _))

structure CredentialGarbageCollectionRequest where
  snapshotDigest : String
  catalog : List CredentialProfileCatalogEntry

/-- A commit. A revision text that is no canonical UUID is kept as `none`. -/
structure CredentialGarbageCollectionCommitRequest where
  snapshotDigest : String
  catalog : List CredentialProfileCatalogEntry
  expectedVaultRevision : Option (BitVec 128)
  expectedOrphanBindings : List CredentialBinding

structure CredentialGarbageCollectionPreview where
  snapshotDigest : String
  vaultRevision : BitVec 128
  orphanBindings : List CredentialBinding

/-- How the storage answers when it is to replace the vault file. -/
inductive Replacement
  | published
  | refused (error : StorageError)
  | uncertain (published : Bool)

/-- What one call meets: whether the vault file can be opened and decrypted, whether the new
document can be encrypted and published, and the new revisions. -/
structure Environment where
  opens : Except CredentialVaultError Unit
  protects : Except CredentialVaultError Unit
  replaces : Replacement
  emptyRevision : BitVec 128
  revision : BitVec 128

/-- What a call returns, and the stored document after it. -/
structure Outcome (Secret α : Type) where
  result : Except CredentialVaultError α
  stored : Option (Document Secret)

def Outcome.observed {Secret α : Type} (outcome : Outcome Secret α) :
    Option CredentialVaultError × Option (Document Secret) :=
  match outcome.result with
  | .ok _ => (none, outcome.stored)
  | .error e => (some e, outcome.stored)

section Format

variable {Secret : Type} (F : VaultFormat Secret)

def isSecret (kind : CredentialKind) (secret : Secret) : Bool :=
  0 < F.bytes secret && F.bytes secret ≤ Limits.maxCredentialSecretBytes && F.admits kind secret

end Format

variable {Secret : Type} [DecidableEq Secret] (F : VaultFormat Secret)

namespace Document

def empty (revision : BitVec 128) : Document Secret := ⟨Limits.schemaVersion, revision, []⟩

/-- The last entry for the same identifier has another kind or another secret. The entries are
given with the last one first. -/
def conflicts (byId : List (VaultEntry Secret)) (entry : VaultEntry Secret) : Bool :=
  match byId.find? (·.reference.id = entry.reference.id) with
  | none => false
  | some previous => previous.reference ≠ entry.reference || previous.secret ≠ entry.secret

def validateEntries (byId : List (VaultEntry Secret)) (total : ℕ) :
    List (VaultEntry Secret) → Except CredentialVaultError Unit
  | [] => .ok ()
  | entry :: entries => do
    require (isSecret F entry.reference.kind entry.secret = true) .invalidMaterial
    reject (Limits.maxTotalSecretBytes < total + F.bytes entry.secret) .capacityExceeded
    reject (conflicts byId entry = true) .immutableConflict
    validateEntries (entry :: byId) (total + F.bytes entry.secret) entries

def validate (document : Document Secret) : Except CredentialVaultError Unit := do
  reject (Capacity.maxCredentialVaultBindings < document.entries.length) .capacityExceeded
  require (document.entries.IsChain fun a b ↦
    bindingKey kindRank a.binding < bindingKey kindRank b.binding) .corrupt
  validateEntries F [] 0 document.entries

def encode (document : Document Secret) : Except CredentialVaultError (Document Secret) := do
  document.validate F
  reject (Limits.maxDocumentBytes < F.documentBytes document) .capacityExceeded
  return document

def decode (document : Document Secret) : Except CredentialVaultError (Document Secret) := do
  reject (Limits.maxDocumentBytes < F.documentBytes document) .corrupt
  reject (document.schemaVersion ≠ Limits.schemaVersion) .migrationRequired
  (document.validate F).mapError fun _ ↦ .corrupt
  document.encode F

end Document

def validateReferences (references : List CredentialRef) : Except CredentialVaultError Unit := do
  reject (Capacity.maxCredentialSlots < references.length) .capacityExceeded
  require (references.map (·.id)).Nodup .invalidMaterial

def checkSupplied (required : List CredentialRef) (seen : List String) :
    List (CredentialRef × Secret) → Except CredentialVaultError Unit
  | [] => .ok ()
  | (reference, _) :: supplied => do
    reject (reference ∉ required ∨ reference.id ∈ seen) .invalidMaterial
    checkSupplied required (reference.id :: seen) supplied

def provisionOne (audience : CredentialAudience) (supplied : List (CredentialRef × Secret))
    (entries : List (VaultEntry Secret)) (reference : CredentialRef) :
    Except CredentialVaultError (List (VaultEntry Secret)) :=
  match supplied.find? (·.1.id = reference.id) with
  | some (_, secret) => do
    require (isSecret F reference.kind secret = true) .invalidMaterial
    reject (∃ existing ∈ entries, existing.reference.id = reference.id ∧
      (existing.reference ≠ reference ∨ existing.secret ≠ secret)) .immutableConflict
    return bindMissing entries ⟨⟨audience, reference⟩, secret⟩
  | none => do
    -- another audience that holds the credential does not grant it to this one
    require (Bound entries ⟨audience, reference⟩) .invalidMaterial
    return entries

def provisionAll (audience : CredentialAudience) (supplied : List (CredentialRef × Secret)) :
    List (VaultEntry Secret) → List CredentialRef →
      Except CredentialVaultError (List (VaultEntry Secret))
  | entries, [] => .ok entries
  | entries, reference :: required => do
    let entries ← provisionOne F audience supplied entries reference
    provisionAll audience supplied entries required

namespace Document

def provision (document : Document Secret) (audience : CredentialAudience)
    (required : List CredentialRef) (supplied : List (CredentialRef × Secret)) :
    Except CredentialVaultError (Bool × Document Secret) := do
  validateReferences required
  checkSupplied required [] supplied
  let entries ← provisionAll F audience supplied document.entries required
  let provisioned := { document with entries := sortEntries kindRank entries }
  provisioned.validate F
  -- every change is a new entry
  return (decide (document.entries.length < entries.length), provisioned)

def resolveAll (document : Document Secret) (audience : CredentialAudience) :
    List CredentialRef → Except CredentialVaultError (List (CredentialRef × Secret))
  | [] => .ok []
  | reference :: references => do
    let entry ← unwrap (document.entries.find? (·.binding = ⟨audience, reference⟩)) .invalidMaterial
    let rest ← document.resolveAll audience references
    return (reference, entry.secret) :: rest

def resolve (document : Document Secret) (audience : CredentialAudience)
    (references : List CredentialRef) :
    Except CredentialVaultError (List (CredentialRef × Secret)) := do
  validateReferences references
  document.resolveAll audience references

def orphans (document : Document Secret) (catalog : List CredentialProfileCatalogEntry)
    (runtime : List CredentialBinding) : Except CredentialVaultError (List CredentialBinding) := do
  reject (Capacity.maxCredentialVaultBindings < runtime.length) .capacityExceeded
  let live := (catalog.flatMap (·.bindings) ++ runtime).dedup
  reject (Capacity.maxCredentialVaultBindings < live.length) .capacityExceeded
  reject (∃ binding ∈ live, ¬Bound document.entries binding) .invalidMaterial
  return (document.entries.filter (·.binding ∉ live)).map VaultEntry.binding

def remove (document : Document Secret) (orphans : List CredentialBinding) : Document Secret :=
  { document with entries := document.entries.filter (·.binding ∉ orphans) }

end Document

def decodeStored : Option (Document Secret) → Except CredentialVaultError (Option (Document Secret))
  | none => .ok none
  | some document => do
    let decoded ← document.decode F
    return some decoded

def read (environment : Environment) (stored : Option (Document Secret)) :
    Except CredentialVaultError (Option (Document Secret)) := do
  environment.opens
  decodeStored F stored

/-- The document that a change is to publish, if any, and its result. The operation answers
whether it changed the document. -/
def prepare {α : Type} (environment : Environment) (stored : Option (Document Secret))
    (requireExisting : Bool)
    (operation : Document Secret → Except CredentialVaultError (Bool × Document Secret × α)) :
    Except CredentialVaultError (Option (Document Secret) × α) := do
  let previous ← read F environment stored
  reject (requireExisting = true ∧ previous = none) CredentialVaultError.missingVault
  let changed ← operation (previous.getD (.empty environment.emptyRevision))
  if changed.1 = false then return (none, changed.2.2)
  let encoded ← ({ changed.2.1 with revision := environment.revision } : Document Secret).encode F
  environment.protects
  return (some encoded, changed.2.2)

def mutate {α : Type} (environment : Environment) (stored : Option (Document Secret))
    (requireExisting : Bool)
    (operation : Document Secret → Except CredentialVaultError (Bool × Document Secret × α)) :
    Outcome Secret α :=
  match prepare F environment stored requireExisting operation with
  | .error e => ⟨.error e, stored⟩
  | .ok (none, result) => ⟨.ok result, stored⟩
  | .ok (some document, result) =>
    match environment.replaces with
    | .published => ⟨.ok result, some document⟩
    | .refused e => ⟨.error (storageError e), stored⟩
    | .uncertain true => ⟨.error .outcomeUnknown, some document⟩
    | .uncertain false => ⟨.error .outcomeUnknown, stored⟩

def provision (audience : CredentialAudience) (references : List CredentialRef)
    (supplied : List (CredentialRef × Secret)) (environment : Environment)
    (stored : Option (Document Secret)) : Outcome Secret CredentialAudience :=
  mutate F environment stored false fun document ↦ do
    let (changed, provisioned) ← document.provision F audience references supplied
    return (changed, provisioned, audience)

def resolveForEngine (audience : CredentialAudience) (references : List CredentialRef)
    (environment : Environment) (stored : Option (Document Secret)) :
    Except CredentialVaultError (List (CredentialRef × Secret)) := do
  let document ← read F environment stored
  (document.getD (.empty environment.emptyRevision)).resolve audience references

def slotReferences (slots : List CredentialSlot) : List CredentialRef :=
  (slots.map (·.reference)).dedup.insertionSort fun a b ↦ referenceKey a ≤ referenceKey b

def rebind (previousAudience audience : CredentialAudience) (slots : List CredentialSlot)
    (environment : Environment) (stored : Option (Document Secret)) :
    Outcome Secret CredentialAudience :=
  mutate F environment stored false fun document ↦ do
    let supplied ← document.resolve previousAudience (slotReferences slots)
    let (changed, provisioned) ← document.provision F audience (slotReferences slots) supplied
    return (changed, provisioned, audience)

def previewGarbageCollection (request : CredentialGarbageCollectionRequest)
    (runtimeBindings : List CredentialBinding) (environment : Environment)
    (stored : Option (Document Secret)) :
    Except CredentialVaultError CredentialGarbageCollectionPreview := do
  require (isLowercaseSha256 request.snapshotDigest = true ∧ CanonicalCatalog request.catalog)
    .invalidMaterial
  let previous ← read F environment stored
  let document ← unwrap previous .missingVault
  let orphans ← document.orphans request.catalog runtimeBindings
  return ⟨request.snapshotDigest, document.revision, orphans⟩

/-- Removes the orphans of a document if the request expects exactly them in exactly this
revision, and answers the new revision and their number. -/
def collect (request : CredentialGarbageCollectionCommitRequest)
    (runtimeBindings : List CredentialBinding) (environment : Environment)
    (document : Document Secret) :
    Except CredentialVaultError (Bool × Document Secret × BitVec 128 × ℕ) := do
  require (request.expectedVaultRevision = some document.revision) .concurrentModification
  let actual ← document.orphans request.catalog runtimeBindings
  require (actual = request.expectedOrphanBindings) .concurrentModification
  if actual = [] then return (false, document, document.revision, 0)
  return (true, document.remove actual, environment.revision, actual.length)

def commitGarbageCollection (request : CredentialGarbageCollectionCommitRequest)
    (runtimeBindings : List CredentialBinding) (environment : Environment)
    (stored : Option (Document Secret)) : Outcome Secret (BitVec 128 × ℕ) :=
  if isLowercaseSha256 request.snapshotDigest = true ∧ CanonicalCatalog request.catalog ∧
      request.expectedVaultRevision.isSome = true ∧
      CanonicalBindings request.expectedOrphanBindings then
    mutate F environment stored true (collect request runtimeBindings environment)
  else ⟨.error .invalidMaterial, stored⟩

inductive Call (Secret : Type)
  | provision (audience : CredentialAudience) (references : List CredentialRef)
      (supplied : List (CredentialRef × Secret))
  | rebind (previousAudience audience : CredentialAudience) (slots : List CredentialSlot)
  | commitGarbageCollection (request : CredentialGarbageCollectionCommitRequest)
      (runtimeBindings : List CredentialBinding)

def Call.run (environment : Environment) (stored : Option (Document Secret)) :
    Call Secret → Option CredentialVaultError × Option (Document Secret)
  | .provision audience references supplied =>
    (WindowsVault.provision F audience references supplied environment stored).observed
  | .rebind previousAudience audience slots =>
    (WindowsVault.rebind F previousAudience audience slots environment stored).observed
  | .commitGarbageCollection request runtimeBindings =>
    (WindowsVault.commitGarbageCollection F request runtimeBindings environment stored).observed

end CfwRs.WindowsVault
