import CfwRs.SingBox.Settings

namespace CfwRs.Profiles

open Lib Lib.Checked SingBox

namespace Limits

def profileSchemaVersion : UInt16 := 1

def selectionSchemaVersion : UInt16 := 1

def selectedReplaceSchemaVersion : UInt16 := 1

def maxSelectionBytes : ℕ := 1024

def maxSelectedReplaceBytes : ℕ := 1024

def maxProfileNameChars : ℕ := 256

def minSourceUrlChars : ℕ := "https://a".length

def maxSourceUrlBytes : ℕ := 2048

def maxRepositoryEntries : ℕ := 4096

def maxRepositoryCredentialReferences : ℕ := Capacity.maxCredentialVaultBindings

def maxRepositoryBytes : ℕ := 256 * 1024 * 1024

def maxEnvelopeBytes : ℕ := Capacity.maxProfileBytes + 256 * 1024

def maxAbandonedTemporaries : ℕ := 64

end Limits

/-- The names in the profile directory that are no temporaries: a profile, the selection, the
intent of a replacement, or anything else. -/
inductive EntryName
  | profile (id : String)
  | selection
  | selectedReplace
  | other (name : String)
deriving DecidableEq

/-- `notFound` is the failed call of the file system that found no such entry, `io` any other. -/
inductive ProfileError
  | io
  | notFound
  | storedProfileInvalid (id name : String) (source : ConfigError)
  | invalidEnvelopeJson
  | invalidSelectionJson (reason : String)
  | invalidName
  | invalidProfileId (id : String)
  | invalidSourceUrl
  | sourceKindMismatch (id : String)
  | unexpectedEntry (name : EntryName)
  | tooManyEntries
  | tooManyCredentialReferences
  | invalidCredentialAudience (id : String)
  | repositoryTooLarge (actual : ℕ)
  | unsafeProfileFile (id : String)
  | unsafeSelectionFile
  | unsafeSelectedReplaceFile
  | storedProfileTooLarge (actual : ℕ)
  | selectionTooLarge (actual : ℕ)
  | selectedReplaceTooLarge (actual : ℕ)
  | unsupportedSchema (version : UInt16)
  | unsupportedSelectionSchema (version : UInt16)
  | identityMismatch (expected stored : String)
  | digestMismatch (id : String)
  | profileChanged (id : String)
  | invalidSelectedReplace (reason : String)
  | selectedReplaceConflict (reason : String)
  | selectedReplaceRecovery (operation recovery : String)
  | selectedProfileMissing (id : String)
  | selectedProfileDigestMismatch (id expected actual : String)
  | selectedProfileDeletion (id : String)
  | invalidSelectionKept (id name : String)
  | profileAlreadyExists (id : String)
  | entryAlreadyExists (entry : EntryName)
  | atomicCleanup (operation cleanup : String)
  | commitUncertain (entry : EntryName)

def ProfileError.isProfileChanged : ProfileError → Bool
  | profileChanged _ => true
  | _ => false

def validateProfileId (id : String) : Except ProfileError Unit :=
  require (isCanonicalUuid id = true) (.invalidProfileId id)

def validateDigest (digest : String) : Except ProfileError Unit :=
  require (isLowercaseSha256 digest = true)
    (.invalidSelectionJson "profile_digest must be a lowercase SHA-256 digest")

def isForbiddenInName (c : Char) : Bool := isControl c || c = '/' || c = '\\'

def normalizeName (name : String) : Except ProfileError String := do
  reject (trim name = "" ∨ Limits.maxProfileNameChars < (trim name).length ∨
    (trim name).toList.any isForbiddenInName = true) .invalidName
  return trim name

def validateSourceUrl (url : String) : Except ProfileError Unit :=
  reject (trim url ≠ url ∨ url.utf8ByteSize < Limits.minSourceUrlChars ∨
    Limits.maxSourceUrlBytes < url.utf8ByteSize ∨
    url.toList.any (fun c ↦ isControl c || isWhitespace c || c = '"') = true ∨
    ¬url.startsWith "https://") .invalidSourceUrl

def validateOptionalSourceUrl : Option String → Except ProfileError Unit
  | none => .ok ()
  | some url => validateSourceUrl url

theorem normalizeName_idem {name normal} (h : normalizeName name = .ok normal) :
    normalizeName normal = .ok normal := by
  simp only [normalizeName, ok_iff, exists_const] at h
  obtain ⟨hvalid, rfl⟩ := h
  simp only [normalizeName, ok_iff, exists_const, trim_trim]
  exact ⟨hvalid, trivial⟩

structure ProfileEnvelope (V : Type) where
  schemaVersion : UInt16
  id : String
  name : String
  profile : V
  digest : String
  createdEpochSecs : UInt64
  sourceUrl : Option String
  proxySelections : List (String × String)
  providerSources : List (String × String)
deriving DecidableEq

/-- The validated profiles `P` and their JSON documents `V`, as the repository uses them. The laws
say that the digest of a profile is the one of its canonical text, and that a profile which can be
read again from its envelope is the same profile. -/
structure ProfileFormat (V P : Type) where
  parse : V → Except ConfigError P
  withProviderSources : P → List (String × String) → Except ConfigError P
  withSelectedOutbound : P → String × String → Except ConfigError P
  document : P → V
  jsonLength : P → ℕ
  digest : P → String
  proxySelections : P → List (String × String)
  providerSources : P → List (String × String)
  credentialReferences : P → List CredentialRef
  textDigest : V → String
  envelopeLength : ProfileEnvelope V → ℕ
  envelopeDigest : ProfileEnvelope V → String
  digest_eq (p : P) : digest p = textDigest (document p)
  textDigest_sha256 (v : V) : isLowercaseSha256 (textDigest v) = true
  envelopeDigest_sha256 (e : ProfileEnvelope V) : isLowercaseSha256 (envelopeDigest e) = true
  document_reload {p q : P} :
    (parse (document p) >>= fun r ↦ withProviderSources r (providerSources p)) = .ok q →
    document q = document p ∧ providerSources q = providerSources p ∧
      credentialReferences q = credentialReferences p
  document_select {p q : P} {choice : String × String} : withSelectedOutbound p choice = .ok q →
    document q = document p ∧ providerSources q = providerSources p ∧
      credentialReferences q = credentialReferences p
  selections_reload {p q r : P} :
    (parse (document p) >>= fun r ↦ withProviderSources r (providerSources p)) = .ok q →
    (proxySelections p).foldlM withSelectedOutbound q = .ok r →
    proxySelections r = proxySelections p

/-- Source information that a list may show without the URL. -/
inductive ProfileSourceKind
  | localFile | subscription
deriving DecidableEq

def ProfileSourceKind.fromSourceUrl : Option String → ProfileSourceKind
  | some _ => subscription
  | none => localFile

structure ProfileRecord where
  id : String
  name : String
  bytes : ℕ
  digest : String
  createdEpochSecs : UInt64
  sourceKind : ProfileSourceKind
deriving DecidableEq

structure StoredProfile (P : Type) where
  record : ProfileRecord
  profile : P
  sourceUrl : Option String
deriving DecidableEq

/-- An intact entry whose document fails the current validation. -/
structure InvalidProfileRecord where
  id : String
  name : String
  createdEpochSecs : UInt64
  sourceKind : ProfileSourceKind
  error : ConfigError

def InvalidProfileRecord.loadError (record : InvalidProfileRecord) : ProfileError :=
  .storedProfileInvalid record.id record.name record.error

structure InvalidEntry where
  record : InvalidProfileRecord
  digest : String
  envelopeDigest : String
  sourceUrl : Option String

inductive StoredEntry (P : Type)
  | valid (stored : StoredProfile P)
  | invalid (entry : InvalidEntry)

def StoredEntry.digest {P : Type} : StoredEntry P → String
  | valid stored => stored.record.digest
  | invalid entry => entry.digest

def StoredEntry.id {P : Type} : StoredEntry P → String
  | valid stored => stored.record.id
  | invalid entry => entry.record.id

def StoredEntry.load {P : Type} : StoredEntry P → Except ProfileError (StoredProfile P)
  | valid stored => .ok stored
  | invalid entry => .error entry.record.loadError

namespace ProfileFormat

variable {V P : Type} (F : ProfileFormat V P)

def bindings : StoredEntry P → ℕ
  | .valid stored => (F.credentialReferences stored.profile).length
  | .invalid _ => 0

def envelope (id name : String) (profile : P) (sourceUrl : Option String)
    (createdEpochSecs : UInt64) : ProfileEnvelope V where
  schemaVersion := Limits.profileSchemaVersion
  id := id
  name := name
  profile := F.document profile
  digest := F.digest profile
  createdEpochSecs := createdEpochSecs
  sourceUrl := sourceUrl
  proxySelections := F.proxySelections profile
  providerSources := F.providerSources profile

def encodeWithTimestamp (id name : String) (profile : P) (sourceUrl : Option String)
    (createdEpochSecs : UInt64) : Except ProfileError (ProfileEnvelope V) := do
  validateOptionalSourceUrl sourceUrl
  let envelope := F.envelope id name profile sourceUrl createdEpochSecs
  reject (Limits.maxEnvelopeBytes < F.envelopeLength envelope)
    (.storedProfileTooLarge (F.envelopeLength envelope))
  return envelope

/-- A document that fails validation is listed as invalid if it is what was stored. -/
def decodeInvalid (expectedId : String) (envelope : ProfileEnvelope V) (error : ConfigError) :
    Except ProfileError (StoredEntry P) := do
  reject (F.textDigest envelope.profile ≠ envelope.digest) (.digestMismatch expectedId)
  return .invalid {
    record := {
      id := expectedId
      name := envelope.name
      createdEpochSecs := envelope.createdEpochSecs
      sourceKind := .fromSourceUrl envelope.sourceUrl
      error := error }
    digest := envelope.digest
    envelopeDigest := F.envelopeDigest envelope
    sourceUrl := envelope.sourceUrl }

def decodeDocument (expectedId : String) (envelope : ProfileEnvelope V) :
    Except ProfileError (StoredEntry P) :=
  match F.parse envelope.profile >>= (F.withProviderSources · envelope.providerSources) with
  | .error error => F.decodeInvalid expectedId envelope error
  | .ok profile => do
    reject (F.digest profile ≠ envelope.digest) (.digestMismatch expectedId)
    match envelope.proxySelections.foldlM F.withSelectedOutbound profile with
    | .error error => F.decodeInvalid expectedId envelope error
    | .ok profile =>
      return .valid {
        record := {
          id := expectedId
          name := envelope.name
          bytes := F.jsonLength profile
          digest := envelope.digest
          createdEpochSecs := envelope.createdEpochSecs
          sourceKind := .fromSourceUrl envelope.sourceUrl }
        profile := profile
        sourceUrl := envelope.sourceUrl }

def decodeEnvelope (expectedId : String) (envelope : ProfileEnvelope V) :
    Except ProfileError (StoredEntry P) := do
  reject (envelope.schemaVersion ≠ Limits.profileSchemaVersion)
    (.unsupportedSchema envelope.schemaVersion)
  validateProfileId envelope.id
  reject (envelope.id ≠ expectedId) (.identityMismatch expectedId envelope.id)
  let name ← normalizeName envelope.name
  reject (name ≠ envelope.name) .invalidName
  validateOptionalSourceUrl envelope.sourceUrl
  F.decodeDocument expectedId envelope

def validateStoredProfile (stored : StoredProfile P) : Except ProfileError Unit := do
  validateProfileId stored.record.id
  reject (stored.record.digest ≠ F.digest stored.profile ∨
    stored.record.bytes ≠ F.jsonLength stored.profile) (.digestMismatch stored.record.id)
  let name ← normalizeName stored.record.name
  reject (name ≠ stored.record.name) .invalidName
  validateOptionalSourceUrl stored.sourceUrl
  reject (stored.record.sourceKind ≠ .fromSourceUrl stored.sourceUrl)
    (.sourceKindMismatch stored.record.id)

def storedEnvelopeDigest (stored : StoredProfile P) : Except ProfileError String := do
  F.validateStoredProfile stored
  let envelope ← F.encodeWithTimestamp stored.record.id stored.record.name stored.profile
    stored.sourceUrl stored.record.createdEpochSecs
  return F.envelopeDigest envelope

/-- The digest of the envelope of an entry, as far as it can be rebuilt. -/
def entryEnvelopeDigest : StoredEntry P → Except ProfileError String
  | .valid stored => F.storedEnvelopeDigest stored
  | .invalid entry => .ok entry.envelopeDigest

variable {F} {id name : String} {profile : P} {sourceUrl : Option String} {timestamp : UInt64}
  {envelope : ProfileEnvelope V} {entry : StoredEntry P} {error : ConfigError}

theorem encodeWithTimestamp_eq_ok :
    F.encodeWithTimestamp id name profile sourceUrl timestamp = .ok envelope ↔
      validateOptionalSourceUrl sourceUrl = .ok () ∧
        F.envelopeLength envelope ≤ Limits.maxEnvelopeBytes ∧
        F.envelope id name profile sourceUrl timestamp = envelope := by
  simp only [encodeWithTimestamp, ok_iff, exists_const, Nat.not_lt]
  constructor
  · rintro ⟨_, hurl, hlength, rfl⟩
    exact ⟨hurl, hlength, rfl⟩
  · rintro ⟨hurl, hlength, rfl⟩
    exact ⟨(), hurl, hlength, rfl⟩

theorem decodeInvalid_eq_ok : F.decodeInvalid id envelope error = .ok entry ↔
    F.textDigest envelope.profile = envelope.digest ∧
      entry = .invalid ⟨⟨id, envelope.name, envelope.createdEpochSecs,
        .fromSourceUrl envelope.sourceUrl, error⟩, envelope.digest, F.envelopeDigest envelope,
        envelope.sourceUrl⟩ := by
  simp only [decodeInvalid, ok_iff, exists_const, not_not]
  exact and_congr_right fun _ ↦ eq_comm

theorem digest_of_decodeDocument (h : F.decodeDocument id envelope = .ok entry) :
    entry.digest = envelope.digest ∧ isLowercaseSha256 entry.digest = true := by
  have hinvalid {error : ConfigError} (h : F.decodeInvalid id envelope error = .ok entry) :
      entry.digest = envelope.digest ∧ isLowercaseSha256 entry.digest = true := by
    obtain ⟨hdigest, rfl⟩ := decodeInvalid_eq_ok.mp h
    refine ⟨rfl, ?_⟩
    rw [← hdigest]
    exact F.textDigest_sha256 _
  unfold decodeDocument at h
  split at h
  · exact hinvalid h
  · simp only [ok_iff, exists_const, not_not] at h
    obtain ⟨hdigest, h⟩ := h
    split at h
    · exact hinvalid h
    · rw [← Except.ok.inj h]
      refine ⟨rfl, ?_⟩
      rw [← hdigest, F.digest_eq]
      exact F.textDigest_sha256 _

theorem id_of_decodeDocument (h : F.decodeDocument id envelope = .ok entry) : entry.id = id := by
  unfold decodeDocument at h
  split at h
  · obtain ⟨-, rfl⟩ := decodeInvalid_eq_ok.mp h
    rfl
  · simp only [ok_iff, exists_const] at h
    obtain ⟨-, h⟩ := h
    split at h
    · obtain ⟨-, rfl⟩ := decodeInvalid_eq_ok.mp h
      rfl
    · rw [← Except.ok.inj h]
      rfl

theorem decodeEnvelope_eq_ok : F.decodeEnvelope id envelope = .ok entry ↔
    envelope.schemaVersion = Limits.profileSchemaVersion ∧ isCanonicalUuid envelope.id = true ∧
      envelope.id = id ∧ normalizeName envelope.name = .ok envelope.name ∧
      validateOptionalSourceUrl envelope.sourceUrl = .ok () ∧
      F.decodeDocument id envelope = .ok entry := by
  simp only [decodeEnvelope, validateProfileId, ok_iff, exists_const, not_not]
  constructor
  · rintro ⟨hschema, hid, heq, name, hname, rfl, _, hurl, hentry⟩
    exact ⟨hschema, hid, heq, hname, hurl, hentry⟩
  · rintro ⟨hschema, hid, heq, hname, hurl, hentry⟩
    exact ⟨hschema, hid, heq, _, hname, rfl, (), hurl, hentry⟩

variable {q : P} {stored : StoredProfile P}

theorem document_foldlM {choices : List (String × String)} {p : P}
    (h : choices.foldlM F.withSelectedOutbound p = .ok q) :
    F.document q = F.document p ∧ F.providerSources q = F.providerSources p ∧
      F.credentialReferences q = F.credentialReferences p := by
  induction choices generalizing p with
  | nil => simp [← Except.ok.inj h]
  | cons choice choices ih =>
    obtain ⟨r, hr, hq⟩ := bind_eq_ok.mp h
    obtain ⟨hd, hs, hc⟩ := F.document_select hr
    obtain ⟨hd', hs', hc'⟩ := ih hq
    exact ⟨hd'.trans hd, hs'.trans hs, hc'.trans hc⟩

theorem of_decodeDocument_valid (h : F.decodeDocument id envelope = .ok (.valid stored)) :
    stored.record.name = envelope.name ∧ stored.record.digest = F.digest stored.profile := by
  unfold decodeDocument at h
  split at h
  · cases (decodeInvalid_eq_ok.mp h).2
  · next p _ =>
    simp only [ok_iff, exists_const, not_not] at h
    obtain ⟨hdigest, h⟩ := h
    split at h
    · cases (decodeInvalid_eq_ok.mp h).2
    · next q hq =>
      have hsame : F.digest q = F.digest p := by
        rw [F.digest_eq, (document_foldlM hq).1, ← F.digest_eq]
      cases Except.ok.inj h
      exact ⟨rfl, hdigest.symm.trans hsame.symm⟩

/-- What reading an envelope that was written yields: an entry, valid or not, with the digests
that were stored. -/
structure Reads (F : ProfileFormat V P) (envelope : ProfileEnvelope V) (profile : P)
    (entry : StoredEntry P) : Prop where
  digest : entry.digest = F.digest profile
  envelopeDigest : F.entryEnvelopeDigest entry = .ok (F.envelopeDigest envelope)
  bindings : F.bindings entry ≤ (F.credentialReferences profile).length

theorem storedEnvelopeDigest_eq (hid : isCanonicalUuid id = true)
    (hname : normalizeName name = .ok name) (hurl : validateOptionalSourceUrl sourceUrl = .ok ())
    (hstored : stored = ⟨⟨id, name, F.jsonLength profile, F.digest profile, timestamp,
      .fromSourceUrl sourceUrl⟩, profile, sourceUrl⟩)
    (hlength : F.envelopeLength (F.envelope id name profile sourceUrl timestamp) ≤
      Limits.maxEnvelopeBytes) : F.storedEnvelopeDigest stored =
      .ok (F.envelopeDigest (F.envelope id name profile sourceUrl timestamp)) := by
  subst hstored
  have hvalid : F.validateStoredProfile ⟨⟨id, name, F.jsonLength profile, F.digest profile,
      timestamp, .fromSourceUrl sourceUrl⟩, profile, sourceUrl⟩ = .ok () := by
    simp only [validateStoredProfile, validateProfileId, ok_iff, exists_const]
    exact ⟨hid, by simp, name, hname, by simp, (), hurl, by simp⟩
  refine bind_eq_ok.mpr ⟨(), hvalid, bind_eq_ok.mpr ⟨_, ?_, rfl⟩⟩
  exact encodeWithTimestamp_eq_ok.mpr ⟨hurl, hlength, rfl⟩

theorem envelope_reload {r : P} (hq : (F.parse (F.document profile) >>=
      (F.withProviderSources · (F.providerSources profile))) = .ok q)
    (hr : (F.proxySelections profile).foldlM F.withSelectedOutbound q = .ok r) :
    F.envelope id name r sourceUrl timestamp = F.envelope id name profile sourceUrl timestamp := by
  obtain ⟨hdocument, hsources, -⟩ := F.document_reload hq
  obtain ⟨hdocument', hsources', -⟩ := document_foldlM hr
  have hdigest : F.digest r = F.digest profile := by
    rw [F.digest_eq, hdocument', hdocument, ← F.digest_eq]
  simp [ProfileFormat.envelope, hdocument', hdocument, hdigest, hsources', hsources,
    F.selections_reload hq hr]

theorem exists_reads (hid : isCanonicalUuid id = true) (hname : normalizeName name = .ok name)
    (h : F.encodeWithTimestamp id name profile sourceUrl timestamp = .ok envelope) :
    ∃ entry, F.decodeEnvelope id envelope = .ok entry ∧ Reads F envelope profile entry := by
  obtain ⟨hurl, hlength, rfl⟩ := encodeWithTimestamp_eq_ok.mp h
  have hinvalid (error : ConfigError) : ∃ entry,
      F.decodeInvalid id (F.envelope id name profile sourceUrl timestamp) error = .ok entry ∧
        Reads F (F.envelope id name profile sourceUrl timestamp) profile entry :=
    ⟨_, decodeInvalid_eq_ok.mpr ⟨(F.digest_eq profile).symm, rfl⟩, rfl, rfl, Nat.zero_le _⟩
  suffices hdocument : ∃ entry,
      F.decodeDocument id (F.envelope id name profile sourceUrl timestamp) = .ok entry ∧
        Reads F (F.envelope id name profile sourceUrl timestamp) profile entry by
    obtain ⟨entry, hentry, hreads⟩ := hdocument
    exact ⟨entry, decodeEnvelope_eq_ok.mpr ⟨rfl, hid, rfl, hname, hurl, hentry⟩, hreads⟩
  unfold decodeDocument
  split
  · next error _ => exact hinvalid error
  · next q hq =>
    obtain ⟨hdocument, -, hreferences⟩ := F.document_reload hq
    have hdigest : F.digest q = F.digest profile := by rw [F.digest_eq, hdocument, ← F.digest_eq]
    split
    · next error _ =>
      obtain ⟨entry, hentry, hreads⟩ := hinvalid error
      exact ⟨entry, bind_eq_ok.mpr ⟨(), reject_neg (not_not.mpr hdigest), hentry⟩, hreads⟩
    · next r hr =>
      obtain ⟨hdocument', -, hreferences'⟩ := document_foldlM hr
      have henvelope : F.envelope id name r sourceUrl timestamp =
          F.envelope id name profile sourceUrl timestamp := envelope_reload hq hr
      refine ⟨_, bind_eq_ok.mpr ⟨(), reject_neg (not_not.mpr hdigest), rfl⟩, rfl, ?_, ?_⟩
      · rw [← henvelope]
        refine storedEnvelopeDigest_eq hid hname hurl rfl ?_
        rw [henvelope]
        exact hlength
      · rw [ProfileFormat.bindings, hreferences', hreferences]

theorem encode_of_decodeDocument (hurl : validateOptionalSourceUrl sourceUrl = .ok ())
    (hlength : F.envelopeLength (F.envelope id name profile sourceUrl timestamp) ≤
      Limits.maxEnvelopeBytes)
    (h : F.decodeDocument id (F.envelope id name profile sourceUrl timestamp) = .ok (.valid stored)) :
    F.encodeWithTimestamp id stored.record.name stored.profile stored.sourceUrl
      stored.record.createdEpochSecs = .ok (F.envelope id name profile sourceUrl timestamp) := by
  unfold decodeDocument at h
  split at h
  · cases (decodeInvalid_eq_ok.mp h).2
  · next q hq =>
    obtain ⟨-, -, h⟩ := bind_eq_ok.mp h
    split at h
    · cases (decodeInvalid_eq_ok.mp h).2
    · next r hr =>
      have henvelope : F.envelope id name r sourceUrl timestamp =
          F.envelope id name profile sourceUrl timestamp := envelope_reload hq hr
      cases Except.ok.inj h
      exact encodeWithTimestamp_eq_ok.mpr ⟨hurl, hlength, henvelope⟩

end ProfileFormat

end CfwRs.Profiles
