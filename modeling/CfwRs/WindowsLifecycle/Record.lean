import CfwRs.Coordinator.EngineApi
import CfwRs.WindowsAuthority.Service
import CfwRs.WindowsVault.Runs

namespace CfwRs.WindowsLifecycle

open Lib Lib.Checked SingBox Credentials Coordinator
  CfwRs.WindowsAuthority CfwRs.WindowsVault

inductive CredentialLifecycleError
  | record | schema | identity | unavailable
deriving DecidableEq

def maxRecordBytes : ℕ := 2 * 1024 * 1024

/-- The bindings of one run: references and hashes only. -/
structure Record where
  schemaVersion : UInt16
  root : RootContext
  operationId : Uuid
  mode : ProjectionMode
  configurationSha256 : String
  identitySha256 : String
  audience : CredentialAudience
  slots : List CredentialSlot
  networkOptions : Option TunnelNetworkOptions

/-- The texts that the records go through: how identifiers are read, what the digest of a
configuration with its bindings is, and how long a record is when it is written. -/
structure RecordFormat where
  parseUuid : String → Option Uuid
  identityDigest : String → CredentialAudience → List CredentialSlot → ProjectionMode →
    Option TunnelNetworkOptions → Option String
  recordBytes : Record → ℕ

def nibble (c : Char) : ℕ := if c.isDigit then c.toNat - 48 else c.toNat - 87

def digest (value : String) : Except CredentialLifecycleError Digest := do
  require (isLowercaseSha256 value = true) .record
  return ⟨(List.range 32).map fun i ↦ (16 * nibble (value.toList.getD (2 * i) '0') +
    nibble (value.toList.getD (2 * i + 1) '0')).toUInt8, by simp⟩

/-- Every slot has a pointer of its own, and every reference one kind. -/
def validateSlots (seen : List CredentialSlot) :
    List CredentialSlot → Except CredentialLifecycleError Unit
  | [] => .ok ()
  | slot :: slots => do
    reject (∃ s ∈ seen, s.jsonPointer = slot.jsonPointer) .record
    reject (∃ s ∈ seen, s.reference.id = slot.reference.id ∧
      s.reference.kind ≠ slot.reference.kind) .record
    validateSlots (slot :: seen) slots

def optionsMatch : ProjectionMode → Option TunnelNetworkOptions → Bool
  | .localProxy, options | .systemProxy, options => options.isNone
  | .tunnel, options => options.any (·.systemProxyPort.isNone)
  | .tunnelSystemProxy, options => options.any (·.systemProxyPort.isSome)

namespace Record

variable (format : RecordFormat) (record : Record)

def authorityMode : AuthorityMode :=
  match record.mode with
  | .localProxy => .localProxy
  | .systemProxy => .systemProxy
  | .tunnel | .tunnelSystemProxy => .tunnel

def contentDigest : Except CredentialLifecycleError Digest := digest record.configurationSha256

def identityDigest : Except CredentialLifecycleError Digest := digest record.identitySha256

def validate : Except CredentialLifecycleError Unit := do
  reject (record.schemaVersion ≠ 1) .schema
  require record.root.validate .record
  reject (record.operationId.isNil ∨ Capacity.maxCredentialSlots < record.slots.length) .record
  let _ ← record.contentDigest
  let _ ← record.identityDigest
  require (optionsMatch record.mode record.networkOptions = true) .record
  validateSlots [] record.slots
  let expected ← unwrap (format.identityDigest record.configurationSha256 record.audience
    record.slots record.mode record.networkOptions) .record
  require (expected = record.identitySha256) .identity

def new (request : EngineStartRequest) (operationId : Uuid) :
    Except CredentialLifecycleError Record := do
  let installationId ← unwrap (format.parseUuid request.context.installationId) .record
  let value : Record :=
    { schemaVersion := 1
      root := ⟨request.context.configEpoch, request.context.generation, installationId⟩
      operationId := operationId
      mode := request.mode
      configurationSha256 := request.configContentDigest
      identitySha256 := request.configDigest
      audience := request.credentialAudience
      slots := request.credentialSlots
      networkOptions := request.tunnelOptions }
  value.validate format
  return value

/-- The file is the canonical text of a record; it is kept as the record. -/
def encode : Except CredentialLifecycleError Record := do
  record.validate format
  reject (maxRecordBytes < format.recordBytes record) .record
  return record

def prepareRequest (expectedRevision : UInt64) :
    Except CredentialLifecycleError PrepareRequest := do
  let configSha256 ← record.contentDigest
  let identitySha256 ← record.identityDigest
  return { root := record.root, operationId := record.operationId, mode := record.authorityMode
           configSha256, identitySha256, expectedRevision }

def matchesOperation (root : RootContext) (operation : JournalOperation) :
    Except CredentialLifecycleError Unit := do
  record.validate format
  let content ← record.contentDigest
  let identity ← record.identityDigest
  require (record.root = root ∧ record.operationId = operation.operationId ∧
    record.authorityMode = operation.mode ∧ content = operation.configSha256 ∧
    identity = operation.identitySha256) .identity

def bindings : List CredentialBinding :=
  (record.slots.map fun slot ↦ (⟨record.audience, slot.reference⟩ : CredentialBinding)).dedup
    |>.insertionSort fun a b ↦ bindingKey kindRank a ≤ bindingKey kindRank b

end Record

inductive RecordFile
  | absent
  | malformed
  | written (record : Record)

namespace RecordFile

variable (format : RecordFormat)

def decode : RecordFile → Except CredentialLifecycleError (Option Record)
  | absent => .ok none
  | malformed => .error .record
  | written record => do
    let record ← record.encode format
    return some record

end RecordFile

def validateRecord (format : RecordFormat) :
    Option Record → Except CredentialLifecycleError Unit
  | some record => record.validate format
  | none => .ok ()

/-- The bindings that a collection must keep, from the answer of the Authority and the record. -/
def protectedBindings (format : RecordFormat) (scope : RecordedRuntimeScope)
    (record : Option Record) : Except CredentialLifecycleError (List CredentialBinding) := do
  reject (scope.snapshot.revision = none ∨ scope.snapshot.root = none) .unavailable
  validateRecord format record
  if scope.snapshot.state = .off then
    if scope.operation = none then .ok [] else .error .identity
  else
    let operation ← unwrap scope.operation .unavailable
    let record ← unwrap record .unavailable
    let root ← unwrap scope.snapshot.root .unavailable
    record.matchesOperation format root operation
    .ok record.bindings

theorem Record.mem_bindings {record : Record} {b : CredentialBinding} :
    b ∈ record.bindings ↔ ∃ slot ∈ record.slots, b = ⟨record.audience, slot.reference⟩ := by
  simp [bindings, eq_comm]

theorem protectedBindings_eq_ok {format scope record bindings}
    (h : protectedBindings format scope record = .ok bindings) :
    scope.snapshot.state = .off ∧ bindings = [] ∨
      ∃ r operation, record = some r ∧ scope.operation = some operation ∧
        r.operationId = operation.operationId ∧ bindings = r.bindings := by
  simp only [protectedBindings, bind_eq_ok] at h
  obtain ⟨_, -, _, -, h⟩ := h
  split at h
  · next hoff =>
    split at h
    · cases h
      exact .inl ⟨hoff, rfl⟩
    · cases h
  · simp only [ok_iff, Record.matchesOperation] at h
    obtain ⟨operation, hoperation, r, hr, root, -, _, ⟨_, -, _, -, _, -, -, hid, -⟩, h⟩ := h
    cases h
    exact .inr ⟨r, operation, hr, hoperation, hid, rfl⟩

end CfwRs.WindowsLifecycle
