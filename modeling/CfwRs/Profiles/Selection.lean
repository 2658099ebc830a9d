import CfwRs.Profiles.Envelope

namespace CfwRs.Profiles

open Lib Lib.Checked

structure ProfileSelection where
  schemaVersion : UInt16
  profileId : String
  profileDigest : String
deriving DecidableEq

def member (key value : String) : String := ",\"" ++ key ++ "\":\"" ++ value ++ "\""

theorem length_member (key value : String) :
    (member key value).length = key.length + value.length + 6 := by
  simp only [member, String.length_append]
  have h₁ : ",\"".length = 2 := rfl
  have h₂ : "\":\"".length = 3 := rfl
  have h₃ : "\"".length = 1 := rfl
  omega

def schemaText (version : UInt16) : String := "\x7b\"schema_version\":" ++ toString version.toNat

theorem length_schemaText : (schemaText 1).length = 19 := by decide

namespace ProfileSelection

def new (profileId profileDigest : String) : Except ProfileError ProfileSelection := do
  validateProfileId profileId
  validateDigest profileDigest
  return ⟨Limits.selectionSchemaVersion, profileId, profileDigest⟩

def text (s : ProfileSelection) : String :=
  schemaText s.schemaVersion ++ member "profile_id" s.profileId ++
    member "profile_digest" s.profileDigest ++ "\x7d"

def encode (s : ProfileSelection) : Except ProfileError ProfileSelection := do
  reject (Limits.maxSelectionBytes < s.text.length) (.selectionTooLarge s.text.length)
  return s

def validate (s : ProfileSelection) : Except ProfileError Unit := do
  reject (s.schemaVersion ≠ Limits.selectionSchemaVersion)
    (.unsupportedSelectionSchema s.schemaVersion)
  validateProfileId s.profileId
  validateDigest s.profileDigest

variable {s : ProfileSelection}

theorem new_eq_ok {id digest : String} : new id digest = .ok s ↔
    isCanonicalUuid id = true ∧ isLowercaseSha256 digest = true ∧
      s = ⟨Limits.selectionSchemaVersion, id, digest⟩ := by
  simp only [new, validateProfileId, validateDigest, ok_iff, exists_const]
  exact and_congr_right fun _ ↦ and_congr_right fun _ ↦ eq_comm

theorem validate_eq_ok : s.validate = .ok () ↔
    s.schemaVersion = Limits.selectionSchemaVersion ∧ isCanonicalUuid s.profileId = true ∧
      isLowercaseSha256 s.profileDigest = true := by
  simp [validate, validateProfileId, validateDigest]

theorem length_text (h : s.validate = .ok ()) : s.text.length = 156 := by
  obtain ⟨hschema, hid, hdigest⟩ := validate_eq_ok.mp h
  simp only [isCanonicalUuid, isLowercaseSha256, Bool.and_eq_true, decide_eq_true_eq] at hid hdigest
  have h₁ : "profile_id".length = 10 := rfl
  have h₂ : "profile_digest".length = 14 := rfl
  have h₃ : "\x7d".length = 1 := rfl
  have h₄ : (schemaText s.schemaVersion).length = 19 := by
    rw [hschema]
    exact length_schemaText
  simp [text, length_member, h₁, h₂, h₃, h₄, hid.1, hdigest.1]

theorem encode_of_new {id digest : String} (h : new id digest = .ok s) :
    s.validate = .ok () ∧ s.encode = .ok s := by
  obtain ⟨hid, hdigest, rfl⟩ := new_eq_ok.mp h
  have hvalid : validate ⟨Limits.selectionSchemaVersion, id, digest⟩ = .ok () :=
    validate_eq_ok.mpr ⟨rfl, hid, hdigest⟩
  refine ⟨hvalid, bind_eq_ok.mpr ⟨(), reject_neg ?_, rfl⟩⟩
  rw [length_text hvalid]
  decide

end ProfileSelection

/-- The intent of the only change that spans two files. -/
structure SelectedProfileReplaceIntent where
  schemaVersion : UInt16
  profileId : String
  previousProfileDigest : String
  replacementProfileDigest : String
  previousEnvelopeDigest : String
  replacementEnvelopeDigest : String
deriving DecidableEq

namespace SelectedProfileReplaceIntent

def validateDigests (i : SelectedProfileReplaceIntent) : Except ProfileError Unit := do
  validateProfileId i.profileId
  validateDigest i.previousProfileDigest
  validateDigest i.replacementProfileDigest
  validateDigest i.previousEnvelopeDigest
  validateDigest i.replacementEnvelopeDigest
  reject (i.previousProfileDigest = i.replacementProfileDigest)
    (.invalidSelectedReplace "previous and replacement profile digests must differ")
  reject (i.previousEnvelopeDigest = i.replacementEnvelopeDigest)
    (.invalidSelectedReplace "previous and replacement envelope digests must differ")

def new (profileId previousProfileDigest replacementProfileDigest previousEnvelopeDigest
    replacementEnvelopeDigest : String) : Except ProfileError SelectedProfileReplaceIntent := do
  let intent : SelectedProfileReplaceIntent := ⟨Limits.selectedReplaceSchemaVersion, profileId,
    previousProfileDigest, replacementProfileDigest, previousEnvelopeDigest,
    replacementEnvelopeDigest⟩
  intent.validateDigests
  return intent

def validate (i : SelectedProfileReplaceIntent) : Except ProfileError Unit := do
  reject (i.schemaVersion ≠ Limits.selectedReplaceSchemaVersion)
    (.invalidSelectedReplace ("unsupported schema version " ++ toString i.schemaVersion.toNat))
  i.validateDigests

def text (i : SelectedProfileReplaceIntent) : String :=
  schemaText i.schemaVersion ++ member "profile_id" i.profileId ++
    member "previous_profile_digest" i.previousProfileDigest ++
    member "replacement_profile_digest" i.replacementProfileDigest ++
    member "previous_envelope_digest" i.previousEnvelopeDigest ++
    member "replacement_envelope_digest" i.replacementEnvelopeDigest ++ "\x7d"

def encode (i : SelectedProfileReplaceIntent) :
    Except ProfileError SelectedProfileReplaceIntent := do
  i.validate
  reject (Limits.maxSelectedReplaceBytes < i.text.length)
    (.selectedReplaceTooLarge i.text.length)
  return i

def replacementSelection (i : SelectedProfileReplaceIntent) : ProfileSelection :=
  ⟨Limits.selectionSchemaVersion, i.profileId, i.replacementProfileDigest⟩

variable {i : SelectedProfileReplaceIntent}

theorem of_validateDigests (h : i.validateDigests = .ok ()) :
    isCanonicalUuid i.profileId = true ∧ isLowercaseSha256 i.replacementProfileDigest = true ∧
      i.previousProfileDigest ≠ i.replacementProfileDigest ∧
      i.previousEnvelopeDigest ≠ i.replacementEnvelopeDigest := by
  simp only [validateDigests, validateProfileId, validateDigest, ok_iff, exists_const] at h
  obtain ⟨hid, -, hdigest, -, -, hprofile, henvelope⟩ := h
  exact ⟨hid, hdigest, hprofile, henvelope⟩

theorem validate_eq_ok : i.validate = .ok () ↔
    i.schemaVersion = Limits.selectedReplaceSchemaVersion ∧ i.validateDigests = .ok () := by
  simp [validate]

theorem new_replacementSelection (h : i.validate = .ok ()) :
    ProfileSelection.new i.profileId i.replacementProfileDigest = .ok i.replacementSelection := by
  obtain ⟨hid, hdigest, -⟩ := of_validateDigests (validate_eq_ok.mp h).2
  exact ProfileSelection.new_eq_ok.mpr ⟨hid, hdigest, rfl⟩

end SelectedProfileReplaceIntent

end CfwRs.Profiles
