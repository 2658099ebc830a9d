import CfwRs.Lib.Checked

namespace CfwRs.AppleNetwork

open Lib.Checked

def Limits.lineageSchemaVersion : UInt16 := 1

inductive GenerationStoreError
  | io
  | invalidJson
  | documentTooLarge
  | nonCanonicalDocument
  | unsupportedSchema (version : UInt16)
  | invalidInstallationId (id : BitVec 128)
  | invalidEpoch
  | authorityRevisionMismatch
  | generationConflict (expected actual : UInt64)
  | generationExhausted
  | authorityLoad
  | authorityCreate
  | authoritySave
  | authorityInconsistent
  | authoritySaveAndRecoveryFailed (writeError recoveryError : GenerationStoreError)
deriving DecidableEq

structure LineageDocument where
  schemaVersion : UInt16
  installationId : BitVec 128
  configEpoch : UInt64
  generation : UInt64
deriving DecidableEq

/-- The bytes of a lineage: the canonical ones of a document, or others that cannot be read. -/
inductive LineageBytes
  | canonical (document : LineageDocument)
  | other (error : GenerationStoreError)
deriving DecidableEq

namespace LineageDocument

def new (uuid : BitVec 128) : LineageDocument := ⟨Limits.lineageSchemaVersion, uuid, 1, 0⟩

def validate (d : LineageDocument) : Except GenerationStoreError Unit := do
  reject (d.schemaVersion ≠ Limits.lineageSchemaVersion) (.unsupportedSchema d.schemaVersion)
  reject (d.installationId = 0) (.invalidInstallationId d.installationId)
  reject (d.configEpoch = 0) .invalidEpoch

def canonicalBytes (d : LineageDocument) : Except GenerationStoreError LineageBytes := do
  d.validate
  return .canonical d

def fromCanonicalBytes : LineageBytes → Except GenerationStoreError LineageDocument
  | .canonical d => do
    d.validate
    return d
  | .other e => .error e

end LineageDocument

/-- The digests that label the documents in the keychain; no two documents share one. -/
structure Revisions (Rev : Type) where
  revisionFor : LineageBytes → Rev
  injective : Function.Injective revisionFor

structure AuthorityRecord (Rev : Type) where
  bytes : LineageBytes
  revision : Rev
deriving DecidableEq

/-- What the stores share: the keychain item with its label, and the cache file. -/
structure Shared (Rev : Type) where
  item : Option (AuthorityRecord Rev)
  cache : Option LineageBytes

inductive Operation
  | load
  | reserveNext (expected : UInt64)
deriving DecidableEq

inductive Reply
  | lineage (document : LineageDocument)
  | generation (value : UInt64)
deriving DecidableEq

/-- How the system answers one call: the call works, or reports an error whether or not it took
effect. -/
inductive Answer
  | ok
  | error (tookEffect : Bool)
deriving DecidableEq

/-- An answer, and the identifier that a new document would get. -/
structure Event where
  answer : Answer
  uuid : BitVec 128

/-- What a read of the keychain is for. After an exchange that reported an error, `tookEffect` is
what happened to it: no branch of the code depends on it. -/
inductive Purpose (Rev : Type)
  | initial
  | afterDuplicate
  | conflicted
  | recovering (replacement : AuthorityRecord Rev) (next : UInt64)
      (writeError : GenerationStoreError) (tookEffect : Bool)

/-- What follows when the cache has been synchronized. -/
inductive Next (Rev : Type)
  | returnLineage (document : LineageDocument)
  | exchange (current replacement : AuthorityRecord Rev) (next : UInt64)
  | reportConflict (actual : UInt64)
  | reportSave (writeError : GenerationStoreError)

inductive Phase (Rev : Type)
  | starting
  | reading (purpose : Purpose Rev)
  | matching (purpose : Purpose Rev) (bytes : LineageBytes)
  | creating (candidate : AuthorityRecord Rev)
  | caching (record : AuthorityRecord Rev) (next : Next Rev)
  | writing (record : AuthorityRecord Rev) (next : Next Rev)
  | exchanging (current replacement : AuthorityRecord Rev) (next : UInt64)
  | finished (result : Except GenerationStoreError Reply)

namespace Revisions

variable {Rev : Type} (S : Revisions Rev)

def recordOf (bytes : LineageBytes) : AuthorityRecord Rev := ⟨bytes, S.revisionFor bytes⟩

def fromDocument (d : LineageDocument) : Except GenerationStoreError (AuthorityRecord Rev) := do
  return S.recordOf (← d.canonicalBytes)

variable [DecidableEq Rev]

def document (record : AuthorityRecord Rev) : Except GenerationStoreError LineageDocument := do
  reject (S.revisionFor record.bytes ≠ record.revision) .authorityRevisionMismatch
  LineageDocument.fromCanonicalBytes record.bytes

end Revisions

def checkedAdd (n : UInt64) : Except GenerationStoreError UInt64 :=
  unwrap (if n.toNat + 1 < UInt64.size then some (n + 1) else none) .generationExhausted

namespace Phase

variable {Rev : Type}

def unread (error : GenerationStoreError) : Purpose Rev → Phase Rev
  | .recovering _ _ writeError _ =>
    .finished (.error (.authoritySaveAndRecoveryFailed writeError error))
  | _ => .finished (.error error)

end Phase

namespace Revisions

variable {Rev : Type} [DecidableEq Rev] (S : Revisions Rev) (operation : Operation)

/-- What an operation does with the record it starts from. -/
def begin (record : AuthorityRecord Rev) : Except GenerationStoreError (Phase Rev) := do
  let document ← S.document record
  match operation with
  | .load => return .caching record (.returnLineage document)
  | .reserveNext expected => do
    reject (document.generation ≠ expected) (.generationConflict expected document.generation)
    let next ← checkedAdd expected
    let replacement ← S.fromDocument { document with generation := next }
    return .caching replacement (.exchange record replacement next)

def settled : Except GenerationStoreError (Phase Rev) → Phase Rev
  | .ok phase => phase
  | .error e => .finished (.error e)

def loaded (record : AuthorityRecord Rev) : Purpose Rev → Phase Rev
  | .initial => settled (S.begin operation record)
  | .afterDuplicate => settled (S.begin operation record)
  | .conflicted => settled do
    let document ← S.document record
    return .caching record (.reportConflict document.generation)
  | .recovering replacement next writeError _ =>
    match S.document record with
    | .error e => .finished (.error (.authoritySaveAndRecoveryFailed writeError e))
    | .ok _ =>
      if record = replacement then .finished (.ok (.generation next))
      else .caching record (.reportSave writeError)

def absent (uuid : BitVec 128) : Purpose Rev → Phase Rev
  | .initial => settled do return .creating (← S.fromDocument (.new uuid))
  | purpose => .unread .authorityInconsistent purpose

def resume :
    Next Rev → Except GenerationStoreError Unit → Phase Rev
  | .returnLineage document, .ok () => .finished (.ok (.lineage document))
  | .exchange current replacement next, .ok () => .exchanging current replacement next
  | .reportConflict actual, .ok () =>
    match operation with
    | .reserveNext expected => .finished (.error (.generationConflict expected actual))
    | .load => .finished (.error .authorityInconsistent)
  | .reportSave writeError, .ok () => .finished (.error writeError)
  | .reportSave writeError, .error e =>
    .finished (.error (.authoritySaveAndRecoveryFailed writeError e))
  | _, .error e => .finished (.error e)

def Labelled (item : Option (AuthorityRecord Rev)) (current : AuthorityRecord Rev) : Prop :=
  item.map AuthorityRecord.revision = some current.revision

instance (item : Option (AuthorityRecord Rev)) (current : AuthorityRecord Rev) :
    Decidable (Labelled item current) := inferInstanceAs (Decidable (_ = _))

def advance (event : Event) (s : Shared Rev) :
    Phase Rev → Shared Rev × Phase Rev
  | .starting =>
    match event.answer with
    | .ok => (s, .reading .initial)
    | .error _ => (s, .finished (.error .io))
  | .reading purpose =>
    match event.answer, s.item with
    | .error _, _ => (s, .unread .authorityLoad purpose)
    | .ok, none => (s, S.absent event.uuid purpose)
    | .ok, some item => (s, .matching purpose item.bytes)
  | .matching purpose bytes =>
    if event.answer = .ok ∧ s.item = some (S.recordOf bytes) then
      (s, S.loaded operation (S.recordOf bytes) purpose)
    else (s, .unread .authorityInconsistent purpose)
  | .creating candidate =>
    match event.answer, s.item with
    | .ok, none => ({ s with item := some candidate }, settled (S.begin operation candidate))
    | .ok, some _ => (s, .reading .afterDuplicate)
    | .error true, none => ({ s with item := some candidate }, .finished (.error .authorityCreate))
    | .error _, _ => (s, .finished (.error .authorityCreate))
  | .caching record next =>
    if event.answer = .ok ∧ s.cache = some record.bytes then (s, resume operation next (.ok ()))
    else (s, .writing record next)
  | .writing record next =>
    match event.answer with
    | .ok => ({ s with cache := some record.bytes }, resume operation next (.ok ()))
    | .error true => ({ s with cache := some record.bytes }, resume operation next (.error .io))
    | .error false => (s, resume operation next (.error .io))
  | .exchanging current replacement next =>
    match event.answer with
    | .ok =>
      if Labelled s.item current then
        ({ s with item := some replacement }, .finished (.ok (.generation next)))
      else (s, .reading .conflicted)
    | .error tookEffect =>
      if tookEffect = true ∧ Labelled s.item current then
        ({ s with item := some replacement },
          .reading (.recovering replacement next .authoritySave true))
      else (s, .reading (.recovering replacement next .authoritySave false))
  | .finished result => (s, .finished result)

end Revisions

/-- Any number of calls, each of an operation, of stores in any processes. A call that makes no
more steps has crashed. -/
structure Stores (Rev Call : Type) where
  shared : Shared Rev
  phase : Call → Phase Rev

namespace Stores

variable {Rev Call : Type} [DecidableEq Rev] [DecidableEq Call]

def act (S : Revisions Rev) (operation : Call → Operation) (s : Stores Rev Call) (call : Call)
    (event : Event) : Stores Rev Call :=
  let (shared, phase) := S.advance (operation call) event s.shared (s.phase call)
  ⟨shared, Function.update s.phase call phase⟩

/-- One call makes a step, or something changes the cache file. -/
inductive Step (S : Revisions Rev) (operation : Call → Operation) :
    Stores Rev Call → Stores Rev Call → Prop
  | act (s : Stores Rev Call) (call : Call) (event : Event) :
      Step S operation s (s.act S operation call event)
  | cache (s : Stores Rev Call) (cache : Option LineageBytes) :
      Step S operation s ⟨{ s.shared with cache := cache }, s.phase⟩

/-- The calls have not begun, and the keychain item is absent or has its own label. -/
structure Initial (S : Revisions Rev) (s : Stores Rev Call) : Prop where
  phase : ∀ call, s.phase call = .starting
  item : ∀ item ∈ s.shared.item, ∃ bytes, item = S.recordOf bytes

end Stores

end CfwRs.AppleNetwork
