import CfwRs.Profiles.Replacement

namespace CfwRs.Profiles

open Lib Lib.Checked Durable

variable {V P : Type}

namespace ProfileRepository

open ProfileFormat

variable {R : ProfileRepository V P} {s : Disk V} {replacement : ProfileReplacement P}
  {plan : ReplacementPlan V P}

def pairOf (view : View V) (id : String) : Option (StoredFile V) × Option (StoredFile V) :=
  (view (.profile id), view .selection)

/-- The files that a replacement of the selected profile writes, at a time of the clock if it is
given none. -/
def IsReplacementPair (R : ProfileRepository V P) (replacement : ProfileReplacement P)
    (view : View V) (pair : Option (StoredFile V) × Option (StoredFile V)) : Prop :=
  ∃ length current name timestamp envelope,
    R.loadProfile view replacement.id = .ok (length, current) ∧
    replacementName current replacement.name = .ok name ∧
    (replacement.createdEpochSecs = some timestamp ∨
      replacement.createdEpochSecs = none ∧ ∃ k, timestamp = R.now k) ∧
    R.encodeWithTimestamp replacement.id name replacement.profile replacement.sourceUrl timestamp =
      .ok envelope ∧
    pair = (some ⟨.envelope envelope, true⟩,
      some ⟨.selection (R.replacementSelection replacement), true⟩)

theorem PlanFor.isReplacementPair {view} {old}
    (h : PlanFor R replacement view plan) (hold : view .selection = some ⟨.selection old, true⟩)
    (hid : old.profileId = replacement.id) :
    IsReplacementPair R replacement view (pairOf (planned plan view) replacement.id) := by
  obtain ⟨length, hload⟩ := h.load
  obtain ⟨name, timestamp, hname, htimestamp, hencode⟩ := h.encode
  refine ⟨length, plan.current, name, timestamp, plan.envelope, hload, hname, htimestamp, hencode, ?_⟩
  rw [pairOf, planned, h.selection hold hid, h.id]
  dsimp only
  rw [written_self, written_of_ne (by simp), written_self]

/-- A crash or a failed call anywhere in the replacement of the selected profile, and any number of
interrupted recoveries, leave a disk from which the recovery that completes makes the old pair of
files or the new one. -/
theorem replacement_crash_atomic [DecidableEq P] {t u : Disk V} {old : ProfileSelection}
    (hsound : Sound R.toProfileFormat s.files) (htidy : Tidy 0 s.temporaries)
    (hselected : s.view .selection = some ⟨.selection old, true⟩)
    (hid : old.profileId = replacement.id)
    (hcrash : Crash (R.replaceWithTimestampInDirectory replacement) s t)
    (hinterrupted : Interrupted R.recoverRepository t u)
    (hdone : (R.recoverRepository u).result = .ok ()) :
    let d := R.recoverRepository.final u
    (pairOf d.view replacement.id = pairOf s.view replacement.id ∨
        IsReplacementPair R replacement s.view (pairOf d.view replacement.id)) ∧
      d.view .selectedReplace = none ∧
      (∃ selection entry, d.view .selection = some ⟨.selection selection, true⟩ ∧
        Holds R.toProfileFormat d.files selection.profileId entry ∧
        entry.digest = selection.profileDigest) ∧
      ∀ w, Crash R.recoverRepository d w → w.files = d.files ∧ Tidy 0 w.temporaries := by
  intro d
  have hfree := free_of_sound hsound
  have ht := hcrash.of_wp ⟨.before, htidy.mono (Nat.zero_le 1)⟩
      (replaceWithTimestampInDirectory_stays hsound htidy)
  obtain ⟨target, K, hK, hother, htarget⟩ := ht.1.exists_recoverable hfree
  have hu := hinterrupted.of_wp ⟨hother, ht.2⟩ fun _ hs ↦ recoverRepository_stays hK hs
  have hfinal := (recoverRepository_ends hK hu).2
  rw [hdone] at hfinal
  obtain ⟨⟨-, hview⟩, htidy'⟩ := hfinal
  have hsoundTarget := soundView_of_target ⟨s.files, hsound, rfl⟩ htarget
  have hsound' := sound_of_view (hview ▸ hsoundTarget)
  have hfree' := free_of_sound hsound'
  refine ⟨?_, hfree', ?_, ?_⟩
  · rcases htarget with rfl | ⟨plan, hplan, rfl⟩
    · exact .inl (congrArg (pairOf · replacement.id) hview)
    · refine .inr ?_
      rw [hview]
      exact hplan.isReplacementPair hselected hid
  · have hpresent : ∃ selection, d.view .selection = some ⟨.selection selection, true⟩ := by
      rw [hview]
      rcases htarget with rfl | ⟨plan, hplan, rfl⟩
      · exact ⟨old, hselected⟩
      · obtain ⟨_, _, _, _, _, -, -, -, -, hpair⟩ := hplan.isReplacementPair hselected hid
        exact ⟨_, congrArg Prod.snd hpair⟩
    obtain ⟨selection, hselection⟩ := hpresent
    obtain ⟨-, entry, hentry, hdigest⟩ := hsound'.holds_selected hselection
    exact ⟨selection, entry, hselection, hentry, hdigest⟩
  · intro w hw
    exact hw.of_wp ⟨rfl, htidy'⟩ (recoverRepository_idle hfree' htidy')

end ProfileRepository

section Sample

open ProfileFormat ProfileRepository

def hexText (c : Char) : String := String.ofList (List.replicate 64 c)

theorem isLowercaseSha256_hexText {c} (h : isLowerHex c = true) :
    isLowercaseSha256 (hexText c) = true := by
  simp [isLowercaseSha256, hexText, h]

def sampleFormat : ProfileFormat Bool Bool where
  parse v := .ok v
  withProviderSources p _ := .ok p
  withSelectedOutbound p _ := .ok p
  document p := p
  jsonLength _ := 10
  digest p := hexText (if p then 'b' else 'a')
  proxySelections _ := []
  providerSources _ := []
  credentialReferences _ := []
  textDigest v := hexText (if v then 'b' else 'a')
  envelopeLength _ := 100
  envelopeDigest e := hexText (if e.profile then 'd' else 'c')
  digest_eq _ := rfl
  textDigest_sha256 v := isLowercaseSha256_hexText (by cases v <;> rfl)
  envelopeDigest_sha256 e := isLowercaseSha256_hexText (by cases e.profile <;> rfl)
  document_reload h := by
    cases Except.ok.inj h
    exact ⟨rfl, rfl, rfl⟩
  document_select h := by
    cases Except.ok.inj h
    exact ⟨rfl, rfl, rfl⟩
  selections_reload _ _ := rfl

def sampleRepository (fails : ℕ → Bool) : ProfileRepository Bool Bool :=
  { sampleFormat with
    fails := fails
    temporaryId := fun _ ↦ "t"
    now := fun _ ↦ 7
    display := fun _ ↦ "" }

def sampleId : String := "aaaaaaaa-aaaa-4aaa-8aaa-aaaaaaaaaaaa"

def sampleSelection : ProfileSelection := ⟨1, sampleId, hexText 'a'⟩

def sampleFile : StoredFile Bool :=
  ⟨.envelope (sampleFormat.envelope sampleId "Home" false none 5), true⟩

def sampleDisk : Disk Bool where
  files := AList.insert EntryName.selection ⟨.selection sampleSelection, true⟩
    (AList.insert (EntryName.profile sampleId) sampleFile ∅)
  temporaries := ∅
  calls := 0

theorem sampleFile_reads : ∃ entry, sampleFormat.decodeEntry sampleId sampleFile = .ok entry ∧
    entry.digest = hexText 'a' ∧ sampleFormat.bindings entry = 0 := ⟨_, rfl, rfl, rfl⟩

theorem sampleDisk_sound : Sound sampleFormat sampleDisk.files := by
  obtain ⟨entry, hentry, hdigest, hbindings⟩ := sampleFile_reads
  refine (Sound.empty.insertProfile hentry (fun _ h ↦ by cases h) (by decide) (by decide)
    ?_).insertSelection ?_ ⟨sampleFile, AList.lookup_insert _, hentry⟩ hdigest ?_
  · rw [hbindings]
    decide
  · exact ProfileSelection.validate_eq_ok.mpr
      ⟨rfl, by decide, isLowercaseSha256_hexText rfl⟩
  · decide +kernel

def sampleReplacement : ProfileReplacement Bool := ⟨sampleId, none, true, none, none, none⟩

def calmSample : ProfileRepository Bool Bool := sampleRepository fun _ ↦ false

theorem calmSample_calm : ¬calmSample.Faulty := by
  rintro ⟨k, hk⟩
  cases hk

def sampleReplaced : Disk Bool :=
  (calmSample.replaceWithTimestampInDirectory sampleReplacement).final sampleDisk

theorem sample_replacement_recovers :
    let d := calmSample.recoverRepository.final sampleReplaced
    (pairOf d.view sampleReplacement.id = pairOf sampleDisk.view sampleReplacement.id ∨
        IsReplacementPair calmSample sampleReplacement sampleDisk.view
          (pairOf d.view sampleReplacement.id)) ∧
      d.view .selectedReplace = none ∧
      (∃ selection entry, d.view .selection = some ⟨.selection selection, true⟩ ∧
        Holds calmSample.toProfileFormat d.files selection.profileId entry ∧
        entry.digest = selection.profileDigest) ∧
      ∀ w, Crash calmSample.recoverRepository d w → w.files = d.files ∧ Tidy 0 w.temporaries := by
  have hsound : Sound calmSample.toProfileFormat sampleDisk.files := sampleDisk_sound
  have htidy : Tidy 0 sampleDisk.temporaries := ⟨fun h ↦ (by cases h), Nat.le_refl 0⟩
  have hselected : sampleDisk.view .selection = some ⟨.selection sampleSelection, true⟩ := by
    rw [Disk.view, sampleDisk, viewOf, AList.lookup_insert]
  have hreplaced : Within (During calmSample sampleReplacement sampleDisk.view) 1 sampleReplaced :=
    (replaceWithTimestampInDirectory_stays hsound htidy).2
  obtain ⟨target, K, hK, hother, htarget⟩ := hreplaced.1.exists_recoverable (free_of_sound hsound)
  have hdone := recoverRepository_completes hK ⟨hother, hreplaced.2⟩
      (soundView_of_target ⟨sampleDisk.files, hsound, rfl⟩ htarget) (by decide) calmSample_calm
  exact replacement_crash_atomic hsound htidy hselected rfl crash_final .refl hdone

end Sample

end CfwRs.Profiles
