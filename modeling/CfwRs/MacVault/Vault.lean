import CfwRs.Credentials.Entries

namespace CfwRs.MacVault

open Lib Lib.Checked SingBox Credentials

namespace Limits

def schemaVersion : UInt16 := 2

def maximumCredentialSlots : ℕ := Capacity.maxCredentialSlots

def maximumEntries : ℕ := Capacity.maxCredentialVaultBindings

def maximumDocumentBytes : ℕ := 8 * 1024 * 1024

def maximumSecretBytes : ℕ := 16 * 1024

def maximumTotalSecretBytes : ℕ := 448 * 1024

def maximumCASAttempts : ℕ := 8

end Limits

inductive CredentialVaultError
  | immutableConflict (id : String)
  | missingCredential (id : String)
  | kindMismatch (id : String)
  | duplicateReference (id : String)
  | unexpectedCredential (id : String)
  | corrupt
  | unsupportedSchemaVersion (version : UInt16)
  | missingVault
  | capacityExceeded
  | compareAndSwapConflict
  | garbageCollectionConfirmationExpired
  | keychain
  | invalidSecret
  | tooManyEntries
  | duplicateMaterial
  | totalSecretBytesExceeded
  | invalidCredentialSlot
  | duplicateCredentialPointer
deriving DecidableEq

def rawValue : CredentialKind → String
  | .wireGuardPrivateKey => "wireguard_private_key"
  | .wireGuardPreSharedKey => "wireguard_pre_shared_key"
  | .socks5Username => "socks5_username"
  | .socks5Password => "socks5_password"
  | .httpProxyUsername => "http_proxy_username"
  | .httpProxyPassword => "http_proxy_password"
  | .shadowsocksPassword => "shadowsocks_password"
  | .vmessUuid => "vmess_uuid"
  | .vlessUuid => "vless_uuid"
  | .trojanPassword => "trojan_password"
  | .hysteria2Password => "hysteria2_password"
  | .hysteria2ObfsPassword => "hysteria2_obfs_password"
  | .anyTlsPassword => "anytls_password"
  | .tuicUuid => "tuic_uuid"
  | .tuicPassword => "tuic_password"
  | .tailscaleAuthKey => "tailscale_auth_key"

theorem rawValue_injective : Function.Injective rawValue := by
  intro a b h
  cases a <;> cases b <;> first | rfl | exact absurd h (by decide)

structure CredentialVaultDocument (Secret : Type) where
  schemaVersion : UInt16
  revision : BitVec 128
  entries : List (VaultEntry Secret)

/-- The keychain item. Its data is kept as the document that it encodes. -/
structure StoredCredentialVaultBlob (Secret : Type) where
  data : CredentialVaultDocument Secret
  revision : BitVec 128

inductive Swap
  | swapped
  | conflict
  | failed (tookEffect : Bool)
deriving DecidableEq

/-- What the attempts of one call meet: loads that work or not, swaps, and new revisions. -/
structure Environment where
  loads : ℕ → Bool
  swap : ℕ → Swap
  revision : ℕ → BitVec 128

/-- What a call returns, and the keychain item after it. -/
structure Outcome (Secret α : Type) where
  result : Except CredentialVaultError α
  stored : Option (StoredCredentialVaultBlob Secret)

section Format

variable {Secret : Type} (F : SecretFormat Secret)

/-- A secret is not empty, not too long, and of a text that its kind admits. -/
def isSecret (kind : CredentialKind) (secret : Secret) : Bool :=
  0 < F.bytes secret && F.bytes secret ≤ Limits.maximumSecretBytes && F.admits kind secret

/-- The length of one entry in the canonical JSON, where its secret is in base 64. -/
def entryBytes (entry : VaultEntry Secret) : ℕ :=
  94 + entry.binding.audience.profileDigest.length + entry.binding.audience.profileId.length +
    entry.reference.id.length + (rawValue entry.reference.kind).length +
    4 * ((F.bytes entry.secret + 2) / 3)

def encodedBytes (document : CredentialVaultDocument Secret) : ℕ :=
  82 + (document.entries.map (entryBytes F)).sum + (document.entries.length - 1)

end Format

/-- One credential of a call; only a valid one can be made. -/
structure CredentialMaterialEntry {Secret : Type} (F : SecretFormat Secret) where
  reference : CredentialRef
  secret : Secret
  valid : isSecret F reference.kind secret = true

structure CredentialMaterial {Secret : Type} (F : SecretFormat Secret) where
  entries : List (CredentialMaterialEntry F)
  few : entries.length ≤ Limits.maximumCredentialSlots
  distinct : (entries.map (·.reference.id)).Nodup
  total : (entries.map fun e ↦ F.bytes e.secret).sum ≤ Limits.maximumTotalSecretBytes

variable {Secret : Type} {F : SecretFormat Secret}

def CredentialMaterialEntry.new (F : SecretFormat Secret) (reference : CredentialRef)
    (secret : Secret) : Except CredentialVaultError (CredentialMaterialEntry F) :=
  if h : isSecret F reference.kind secret = true then .ok ⟨reference, secret, h⟩
  else .error .invalidSecret

variable (entries : List (CredentialMaterialEntry F))

def CredentialMaterial.check : Except CredentialVaultError Unit := do
  reject (Limits.maximumCredentialSlots < entries.length) .tooManyEntries
  checkTally (·.reference.id) (fun _ ↦ true) (fun e ↦ F.bytes e.secret)
    Limits.maximumTotalSecretBytes .duplicateMaterial .totalSecretBytesExceeded [] 0 entries

theorem CredentialMaterial.check_eq_ok {entries : List (CredentialMaterialEntry F)} :
    check entries = .ok () ↔ entries.length ≤ Limits.maximumCredentialSlots ∧
      (entries.map (·.reference.id)).Nodup ∧
      (entries.map fun e ↦ F.bytes e.secret).sum ≤ Limits.maximumTotalSecretBytes := by
  simp [check, checkTally_eq_ok]

def sortById : List (CredentialMaterialEntry F) :=
  entries.insertionSort fun a b ↦ a.reference.id ≤ b.reference.id

theorem perm_sortById : (sortById entries).Perm entries := List.perm_insertionSort _ _

def CredentialMaterial.new : Except CredentialVaultError (CredentialMaterial F) :=
  match h : check entries with
  | .error e => .error e
  | .ok () =>
    have hperm := perm_sortById entries
    .ok {
      entries := sortById entries
      few := hperm.length_eq.trans_le (check_eq_ok.mp h).1
      distinct := (hperm.map _).nodup_iff.mpr (check_eq_ok.mp h).2.1
      total := (hperm.map _).sum_eq.trans_le (check_eq_ok.mp h).2.2 }

structure CredentialProfileCatalogEntry where
  audience : CredentialAudience
  references : List CredentialRef

def catalogBindings (catalog : List CredentialProfileCatalogEntry) : List CredentialBinding :=
  catalog.flatMap fun entry ↦ entry.references.map fun reference ↦ ⟨entry.audience, reference⟩

structure CredentialGarbageCollectionCommitRequest where
  catalog : List CredentialProfileCatalogEntry
  expectedVaultRevision : BitVec 128
  expectedOrphanBindings : List CredentialBinding

section Vault

variable [DecidableEq Secret] (F)

def encode (document : CredentialVaultDocument Secret) :
    Except CredentialVaultError (CredentialVaultDocument Secret) := do
  reject (Limits.maximumDocumentBytes < encodedBytes F document) .capacityExceeded
  return document

def decode (stored : Option (StoredCredentialVaultBlob Secret)) (fresh : BitVec 128) :
    Except CredentialVaultError (CredentialVaultDocument Secret) :=
  match stored with
  | none => .ok ⟨Limits.schemaVersion, fresh, []⟩
  | some blob => do
    reject (Limits.maximumDocumentBytes < encodedBytes F blob.data) .corrupt
    reject (blob.data.schemaVersion ≠ Limits.schemaVersion)
      (.unsupportedSchemaVersion blob.data.schemaVersion)
    reject (blob.data.revision ≠ blob.revision ∨
      Limits.maximumEntries < blob.data.entries.length) .corrupt
    checkTally VaultEntry.binding (fun e ↦ isSecret F e.reference.kind e.secret)
      (fun e ↦ F.bytes e.secret) Limits.maximumTotalSecretBytes .corrupt .corrupt [] 0
      blob.data.entries
    reject (sortEntries rawValue blob.data.entries ≠ blob.data.entries) .corrupt
    return blob.data

def load (environment : Environment) (n : ℕ) (stored : Option (StoredCredentialVaultBlob Secret)) :
    Except CredentialVaultError (CredentialVaultDocument Secret) := do
  require (environment.loads n = true) .keychain
  decode F stored (environment.revision n)

def checkDistinct (seen : List String) : List CredentialRef → Except CredentialVaultError Unit
  | [] => .ok ()
  | reference :: references => do
    reject (reference.id ∈ seen) (.duplicateReference reference.id)
    checkDistinct (reference.id :: seen) references

variable {F}

def checkSupplied (required : List CredentialRef) (material : CredentialMaterial F) :
    Except CredentialVaultError Unit := do
  reject (Limits.maximumCredentialSlots < required.length) .capacityExceeded
  checkDistinct [] required
  each (fun supplied ↦ do
    let reference ← unwrap (required.find? (·.id = supplied.reference.id))
      (.unexpectedCredential supplied.reference.id)
    reject (reference.kind ≠ supplied.reference.kind) (.kindMismatch supplied.reference.id))
    material.entries

variable (audience : CredentialAudience)

def entriesFor (material : CredentialMaterial F) : List (VaultEntry Secret) :=
  material.entries.map fun e ↦ ⟨⟨audience, e.reference⟩, e.secret⟩

/-- The document with the material of a call for one audience. -/
def merge (required : List CredentialRef) (material : CredentialMaterial F) (revision : BitVec 128)
    (document : CredentialVaultDocument Secret) :
    Except CredentialVaultError (CredentialVaultDocument Secret) := do
  -- A binding carries its kind, so one that is found cannot have another kind.
  each (fun reference ↦
    reject (¬Bound document.entries ⟨audience, reference⟩ ∧
      reference.id ∉ material.entries.map (·.reference.id)) (.missingCredential reference.id))
    required
  each (fun requested ↦ each (fun existing ↦ do
      reject (existing.reference.kind ≠ requested.reference.kind)
        (.kindMismatch requested.reference.id)
      reject (existing.secret ≠ requested.secret) (.immutableConflict requested.reference.id))
    (document.entries.filter (·.reference.id = requested.reference.id))) material.entries
  let merged := bindAll document.entries (entriesFor audience material)
  reject (Limits.maximumEntries < merged.length) .capacityExceeded
  encode F ⟨Limits.schemaVersion, revision, sortEntries rawValue merged⟩

def provisionAttempts (audience : CredentialAudience) (required : List CredentialRef)
    (material : CredentialMaterial F) (environment : Environment)
    (stored : Option (StoredCredentialVaultBlob Secret)) :
    ℕ → Outcome Secret CredentialAudience
  | 0 => ⟨.error .compareAndSwapConflict, stored⟩
  | attempts + 1 =>
    let n := Limits.maximumCASAttempts - attempts
    match load F environment n stored >>= merge audience required material
        (environment.revision n) with
    | .error e => ⟨.error e, stored⟩
    | .ok document =>
      match environment.swap n with
      | .swapped => ⟨.ok audience, some ⟨document, environment.revision n⟩⟩
      | .conflict => provisionAttempts audience required material environment stored attempts
      | .failed true => ⟨.error .keychain, some ⟨document, environment.revision n⟩⟩
      | .failed false => ⟨.error .keychain, stored⟩

def provision (required : List CredentialRef) (material : CredentialMaterial F)
    (environment : Environment) (stored : Option (StoredCredentialVaultBlob Secret)) :
    Outcome Secret CredentialAudience :=
  match checkSupplied required material with
  | .error e => ⟨.error e, stored⟩
  | .ok () => provisionAttempts audience required material environment stored
      Limits.maximumCASAttempts

variable (F)

def presence (references : List CredentialRef) (environment : Environment)
    (stored : Option (StoredCredentialVaultBlob Secret)) :
    Except CredentialVaultError (List (CredentialRef × Bool)) := do
  reject (Limits.maximumCredentialSlots < references.length) .capacityExceeded
  checkDistinct [] references
  let document ← load F environment 0 stored
  return references.map fun reference ↦
    (reference, decide (Bound document.entries ⟨audience, reference⟩))

def requiredReferences (required : List CredentialRef) :
    List CredentialSlot → Except CredentialVaultError (List CredentialRef)
  | [] => .ok required
  | slot :: slots =>
    match required.find? (·.id = slot.reference.id) with
    | none => requiredReferences (required ++ [slot.reference]) slots
    | some existing => do
      reject (existing.kind ≠ slot.reference.kind) (.kindMismatch slot.reference.id)
      requiredReferences required slots

def resolveEntries (audience : CredentialAudience) (entries : List (VaultEntry Secret)) :
    List CredentialRef → Except CredentialVaultError (List (CredentialMaterialEntry F))
  | [] => .ok []
  | reference :: references => do
    let stored ← unwrap (entries.find? (·.binding = ⟨audience, reference⟩))
      (.missingCredential reference.id)
    let entry ← CredentialMaterialEntry.new F reference stored.secret
    let rest ← resolveEntries audience entries references
    return entry :: rest

def resolve (slots : List CredentialSlot) (environment : Environment)
    (stored : Option (StoredCredentialVaultBlob Secret)) :
    Except CredentialVaultError (CredentialMaterial F) := do
  reject (Limits.maximumCredentialSlots < slots.length) .capacityExceeded
  let required ← requiredReferences [] slots
  let document ← load F environment 0 stored
  let entries ← resolveEntries F audience document.entries
    (required.insertionSort fun a b ↦ a.id ≤ b.id)
  CredentialMaterial.new entries

def rebindProfileCredentials (previousAudience audience : CredentialAudience)
    (slots : List CredentialSlot) (environment : Environment)
    (stored : Option (StoredCredentialVaultBlob Secret)) : Outcome Secret CredentialAudience :=
  match resolve F previousAudience slots environment stored with
  | .error e => ⟨.error e, stored⟩
  | .ok material =>
    provision audience ((slots.map (·.reference)).dedup.insertionSort fun a b ↦
      toLex (a.id, rawValue a.kind) ≤ toLex (b.id, rawValue b.kind)) material environment stored

/-- The stored bindings that no live binding needs. Every live one must be stored. -/
def orphanReferences (document : CredentialVaultDocument Secret)
    (liveBindings : List CredentialBinding) :
    Except CredentialVaultError (List CredentialBinding) := do
  each (fun live ↦ reject (¬Bound document.entries live) (.missingCredential live.reference.id))
    liveBindings
  return (sortEntries rawValue (document.entries.filter (·.binding ∉ liveBindings))).map
    VaultEntry.binding

def previewGarbageCollection (catalog : List CredentialProfileCatalogEntry)
    (environment : Environment) (stored : Option (StoredCredentialVaultBlob Secret)) :
    Except CredentialVaultError (BitVec 128 × List CredentialBinding) := do
  require (environment.loads 0 = true) .keychain
  let blob ← unwrap stored .missingVault
  let document ← decode F (some blob) (environment.revision 0)
  let orphans ← orphanReferences document (catalogBindings catalog)
  -- The preview is made of a canonical list of bindings.
  reject (Limits.maximumEntries < orphans.length) .invalidCredentialSlot
  require orphans.Nodup .duplicateCredentialPointer
  return (blob.revision, orphans)

/-- The document without the orphans that the request expects, if there are any. -/
def collect (request : CredentialGarbageCollectionCommitRequest) (environment : Environment)
    (stored : Option (StoredCredentialVaultBlob Secret)) :
    Except CredentialVaultError (Option (CredentialVaultDocument Secret)) := do
  require (environment.loads 0 = true) .keychain
  let blob ← unwrap stored .missingVault
  require (blob.revision = request.expectedVaultRevision) .garbageCollectionConfirmationExpired
  let document ← decode F (some blob) (environment.revision 0)
  let orphans ← orphanReferences document (catalogBindings request.catalog)
  require (orphans = request.expectedOrphanBindings) .garbageCollectionConfirmationExpired
  if orphans = [] then return none
  let encoded ← encode F ⟨Limits.schemaVersion, environment.revision 1,
    document.entries.filter (·.binding ∉ orphans)⟩
  return some encoded

def commitGarbageCollection (request : CredentialGarbageCollectionCommitRequest)
    (environment : Environment) (stored : Option (StoredCredentialVaultBlob Secret)) :
    Outcome Secret ℕ :=
  match collect F request environment stored with
  | .error e => ⟨.error e, stored⟩
  | .ok none => ⟨.ok 0, stored⟩
  | .ok (some document) =>
    let swapped := some ⟨document, environment.revision 1⟩
    match environment.swap 0 with
    | .swapped => ⟨.ok request.expectedOrphanBindings.length, swapped⟩
    | .conflict => ⟨.error .garbageCollectionConfirmationExpired, stored⟩
    | .failed true => ⟨.error .keychain, swapped⟩
    | .failed false => ⟨.error .keychain, stored⟩

inductive Call
  | provision (audience : CredentialAudience) (required : List CredentialRef)
      (material : CredentialMaterial F)
  | rebind (previousAudience audience : CredentialAudience) (slots : List CredentialSlot)
  | commitGarbageCollection (request : CredentialGarbageCollectionCommitRequest)

variable {F}

def Call.apply (environment : Environment) (stored : Option (StoredCredentialVaultBlob Secret)) :
    Call F → Option (StoredCredentialVaultBlob Secret)
  | .provision audience required material =>
    (MacVault.provision audience required material environment stored).stored
  | .rebind previousAudience audience slots =>
    (rebindProfileCredentials F previousAudience audience slots environment stored).stored
  | .commitGarbageCollection request =>
    (MacVault.commitGarbageCollection F request environment stored).stored

end Vault

end CfwRs.MacVault
