import CfwRs.Profiles.Operations
import CfwRs.Profiles.Recovery

namespace CfwRs.Profiles

open Lib Lib.Checked Durable

variable {V P : Type}

namespace ProfileRepository

variable {R : ProfileRepository V P} {view view' : View V} {s : Disk V} {n : ℕ}
  {intent : SelectedProfileReplaceIntent} {envelope : ProfileEnvelope V}

section Transaction

/-- A replacement of the selected profile that may start: the intent fits the files of now, and
will fit them once the profile is written. -/
structure Transaction (R : ProfileRepository V P) (view : View V)
    (intent : SelectedProfileReplaceIntent) (envelope : ProfileEnvelope V) : Prop where
  free : view .selectedReplace = none
  decode : R.decodeIntent ⟨.intent intent, true⟩ = .ok intent
  before : InPhase R view intent intent.previousEnvelopeDigest intent.previousProfileDigest
    intent.previousProfileDigest
  after : InPhase R (written view (.profile intent.profileId) (.envelope envelope)) intent
    intent.replacementEnvelopeDigest intent.replacementProfileDigest intent.previousProfileDigest

def begun (view : View V) (intent : SelectedProfileReplaceIntent) : View V :=
  written view .selectedReplace (.intent intent)

def stored (view : View V) (intent : SelectedProfileReplaceIntent) (envelope : ProfileEnvelope V) :
    View V := written (begun view intent) (.profile intent.profileId) (.envelope envelope)

def selected (view : View V) (intent : SelectedProfileReplaceIntent)
    (envelope : ProfileEnvelope V) : View V :=
  written (stored view intent envelope) .selection (.selection intent.replacementSelection)

def replaced (view : View V) (intent : SelectedProfileReplaceIntent)
    (envelope : ProfileEnvelope V) : View V :=
  written (written view (.profile intent.profileId) (.envelope envelope)) .selection
    (.selection intent.replacementSelection)

theorem begun_of_ne {name} (h : name ≠ .selectedReplace) :
    begun view intent name = view name := written_of_ne h

theorem stored_selection : stored view intent envelope .selection = view .selection :=
  (written_of_ne (by nofun)).trans (begun_of_ne (by nofun))

def Unstarted (view : View V) (intent : SelectedProfileReplaceIntent) (other : View V) : Prop :=
  other = view ∨ other = begun view intent

def Started (view : View V) (intent : SelectedProfileReplaceIntent)
    (envelope : ProfileEnvelope V) (other : View V) : Prop :=
  other = stored view intent envelope ∨ other = selected view intent envelope ∨
    other = replaced view intent envelope

namespace Transaction

section

variable (h : Transaction R view intent envelope)
include h

theorem validate : intent.validate = .ok () :=
  (ProfileFormat.decodeIntent_eq_ok.mp h.decode).2.2

theorem state_begun : R.selectedReplaceState (begun view intent) intent = .ok .previous := by
  have hphase : InPhase R (begun view intent) intent intent.previousEnvelopeDigest
      intent.previousProfileDigest intent.previousProfileDigest :=
    h.before.congr (written_of_ne (by nofun)) (written_of_ne (by nofun))
  rw [selectedReplaceState_of_inPhase hphase, replacePhase, if_pos ⟨rfl, rfl, rfl⟩]

theorem state_stored : R.selectedReplaceState (stored view intent envelope) intent =
      .ok .replacementProfileWithPreviousSelection := by
  have hcomm : stored view intent envelope =
      written (written view (.profile intent.profileId) (.envelope envelope)) .selectedReplace
        (.intent intent) := (update_written (by nofun)).symm
  have hphase : InPhase R (stored view intent envelope) intent intent.replacementEnvelopeDigest
      intent.replacementProfileDigest intent.previousProfileDigest :=
    h.after.congr (by rw [hcomm, written_of_ne (by nofun)]) (by rw [hcomm, written_of_ne (by nofun)])
  obtain ⟨-, -, hdigest, -⟩ := SelectedProfileReplaceIntent.of_validateDigests
    (SelectedProfileReplaceIntent.validate_eq_ok.mp h.validate).2
  rw [selectedReplaceState_of_inPhase hphase, replacePhase, if_neg fun h ↦ hdigest h.2.1.symm,
    if_pos ⟨rfl, rfl, rfl⟩]

theorem state_selected :
    R.selectedReplaceState (selected view intent envelope) intent = .ok .replacement :=
  selectedReplaceState_rolledForward h.validate h.state_stored

theorem erase_begun : Function.update (begun view intent) .selectedReplace none = view := by
  rw [begun, written, Function.update_idem, ← h.free, Function.update_eq_self]

theorem erase_selected : Function.update (selected view intent envelope) .selectedReplace none =
      replaced view intent envelope := by
  rw [selected, update_written (by nofun), stored, update_written (by nofun), h.erase_begun]
  rfl

theorem replaced_free : replaced view intent envelope .selectedReplace = none := by
  rw [← h.erase_selected]
  exact Function.update_self ..

end

theorem step_eq {file state next}
    (hfile : view .selectedReplace = some file) (hintent : R.decodeIntent file = .ok intent)
    (hstate : R.selectedReplaceState view intent = .ok state) (h : RecoveryStep R view next) :
    next = if state = .replacementProfileWithPreviousSelection then
      Function.update view .selection (some (rolledForward intent))
    else Function.update view .selectedReplace none := by
  cases h with
  | forward hfile' hintent' hstate' =>
    cases hfile.symm.trans hfile'
    cases hintent.symm.trans hintent'
    cases hstate.symm.trans hstate'
    rfl
  | finish hfile' hintent' hstate' hmiddle =>
    cases hfile.symm.trans hfile'
    cases hintent.symm.trans hintent'
    cases hstate.symm.trans hstate'
    rw [if_neg hmiddle]

theorem no_step {next} (hfree : view .selectedReplace = none) : ¬RecoveryStep R view next := by
  intro h
  cases h with
  | forward hfile _ _ => cases hfree.symm.trans hfile
  | finish hfile _ _ _ => cases hfree.symm.trans hfile

theorem recoverable_unstarted (h : Transaction R view intent envelope) :
    Recoverable R view (Unstarted view intent) := by
  have hfile : begun view intent .selectedReplace = some ⟨.intent intent, true⟩ := written_self
  refine ⟨?_, ?_⟩
  · rintro _ (rfl | rfl)
    · exact settle_of_none h.free
    · rw [settle_of_state hfile h.decode h.state_begun nofun, h.erase_begun]
  · rintro _ next (rfl | rfl) hstep
    · exact absurd hstep (no_step h.free)
    · exact .inl ((step_eq hfile h.decode h.state_begun hstep).trans h.erase_begun)

theorem recoverable_started (h : Transaction R view intent envelope) :
    Recoverable R (replaced view intent envelope) (Started view intent envelope) := by
  have hstored : stored view intent envelope .selectedReplace = some ⟨.intent intent, true⟩ :=
    (written_of_ne (by nofun)).trans written_self
  have hselected : selected view intent envelope .selectedReplace = some ⟨.intent intent, true⟩ :=
    (written_of_ne (by nofun)).trans hstored
  refine ⟨?_, ?_⟩
  · rintro _ (rfl | rfl | rfl)
    · rw [settle_of_middle hstored h.decode h.state_stored]
      exact congrArg Except.ok h.erase_selected
    · rw [settle_of_state hselected h.decode h.state_selected nofun, h.erase_selected]
    · exact settle_of_none h.replaced_free
  · rintro _ next (rfl | rfl | rfl) hstep
    · exact .inr (.inl (step_eq hstored h.decode h.state_stored hstep))
    · have hnext := step_eq hselected h.decode h.state_selected hstep
      exact .inr (.inr (hnext.trans h.erase_selected))
    · exact absurd hstep (no_step h.replaced_free)

end Transaction

def Replacing (view : View V) (intent : SelectedProfileReplaceIntent)
    (envelope : ProfileEnvelope V) (other : View V) : Prop :=
  Unstarted view intent other ∨ Started view intent envelope other

/-- A recovery finds the files of before or of after, at any time of a replacement. -/
theorem recoverAfter_stays (h : Transaction R view intent envelope)
    (hs : Within (Replacing view intent envelope) 1 s) (operation : ProfileError) :
    Stays (Within (Replacing view intent envelope) 1)
      (R.recoverAfterSelectedReplaceError operation) s := by
  rcases hs with ⟨hold | hnew, ht⟩
  · have hin (d : Disk V) (hd : Within (Unstarted view intent) 1 d) :
        Within (Replacing view intent envelope) 1 d := ⟨.inl hd.1, hd.2⟩
    exact wp_handle.mpr (wp_mono (recover_stays h.recoverable_unstarted ⟨hold, ht⟩) hin
      fun _ ↦ hin)
  · have hin (d : Disk V) (hd : Within (Started view intent envelope) 1 d) :
        Within (Replacing view intent envelope) 1 d := ⟨.inr hd.1, hd.2⟩
    exact wp_handle.mpr (wp_mono (recover_stays h.recoverable_started ⟨hnew, ht⟩) hin
      fun _ ↦ hin)

theorem concludeReplacement_stays {plan} (h : Transaction R view intent envelope)
    (hview : s.view = selected view intent envelope) (ht : Tidy 0 s.temporaries) :
    Stays (Within (Replacing view intent envelope) 1) (R.concludeReplacement plan) s := by
  have hreplaced : Function.update s.view .selectedReplace none = replaced view intent envelope := by
    rw [hview]
    exact h.erase_selected
  have hs : Within (Replacing view intent envelope) 1 s :=
    ⟨hview ▸ .inr (.inr (.inl rfl)), ht.mono (Nat.zero_le 1)⟩
  refine wp_catching_bind (unlinkCommitted_within hs
    (hreplaced ▸ .inr (.inr (.inr rfl)))) fun r d hr ↦ ?_
  cases r with
  | error operation =>
    refine (recoverAfter_stays h hr.1 operation).bind fun recovery d hd ↦ ?_
    cases recovery with
    | aborted => exact wp_attempt.mpr hd
    | _ => exact wp_pure.mpr hd
  | ok _ => exact wp_pure.mpr hr.1

theorem replaceSelected_stays {plan} (h : Transaction R s.view intent plan.envelope)
    (hid : plan.stored.record.id = intent.profileId) (ht : Tidy 0 s.temporaries) :
    Stays (Within (Replacing s.view intent plan.envelope) 1)
      (R.replaceSelected plan intent intent.replacementSelection) s := by
  have hencode := (ProfileSelection.encode_of_new
      (SelectedProfileReplaceIntent.new_replacementSelection h.validate)).2
  have hbegun : Replacing s.view intent plan.envelope (begun s.view intent) := .inl (.inr rfl)
  have hstored : Replacing s.view intent plan.envelope (stored s.view intent plan.envelope) :=
    .inr (.inl rfl)
  have hselected : Replacing s.view intent plan.envelope (selected s.view intent plan.envelope) :=
    .inr (.inr (.inl rfl))
  refine wp_catching_bind (writeNewAtomic_within ⟨.inl (.inl rfl), ht⟩ fun _ ↦ hbegun) fun r d hr ↦ ?_
  -- after a failed step the answer of the recovery only chooses the result
  cases r with
  | error operation =>
    refine (recoverAfter_stays h hr operation).bind fun recovery d hd ↦ ?_
    cases recovery <;> exact wp_attempt.mpr hd
  | ok _ =>
    obtain ⟨hview, ht, -⟩ := hr
    have hstored' : written d.view (.profile plan.stored.record.id) (.envelope plan.envelope) =
        stored s.view intent plan.envelope := by
      rw [hview, hid]
      rfl
    refine wp_catching_bind (writeReplaceAtomic_within ⟨hview ▸ hbegun, ht⟩ (hstored' ▸ hstored)) fun r d' hr ↦ ?_
    cases r with
    | error operation =>
      refine (recoverAfter_stays h hr operation).bind fun recovery d hd ↦ ?_
      cases recovery with
      | committed => exact wp_pure.mpr hd
      | _ => exact wp_attempt.mpr hd
    | ok _ =>
      obtain ⟨hview, ht⟩ := hr
      rw [hstored'] at hview
      refine wp_bind.mpr (wp_attempt.mpr ?_)
      rw [hencode, after_ok]
      have hselected' : written d'.view .selection (.selection intent.replacementSelection) =
          selected s.view intent plan.envelope := by
        rw [hview]
        rfl
      refine wp_catching_bind (writeReplaceAtomic_within ⟨hview ▸ hstored, ht⟩ (hselected' ▸ hselected)) fun r d'' hr ↦ ?_
      cases r with
      | error operation =>
        refine (recoverAfter_stays h hr operation).bind fun recovery d hd ↦ ?_
        cases recovery with
        | committed => exact wp_pure.mpr hd
        | _ => exact wp_attempt.mpr hd
      | ok _ =>
        obtain ⟨hview, ht⟩ := hr
        rw [hselected'] at hview
        exact concludeReplacement_stays h hview ht

end Transaction

end ProfileRepository

end CfwRs.Profiles
