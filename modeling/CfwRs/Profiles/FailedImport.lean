import CfwRs.Profiles.RepositoryRuns

namespace CfwRs.Profiles

open Lib Lib.Checked SingBox Durable

variable {V P α β : Type}

def ProfileError.isCommitUncertain : ProfileError → Bool
  | commitUncertain _ => true
  | _ => false

def Definite (c : Except ProfileError α) : Prop := ∀ e, c = .error e → e.isCommitUncertain = false

namespace Definite

theorem ok {a : α} : Definite (.ok a) := nofun

variable {e : ProfileError}

theorem error (h : e.isCommitUncertain = false) : Definite (.error e : Except ProfileError α) := by
  intro e' he
  cases he
  exact h

theorem bind {c} {f : α → Except ProfileError β} (hc : Definite c)
    (hf : ∀ a, Definite (f a)) : Definite (c >>= f) := by
  intro e he
  rcases bind_eq_error.mp he with he | ⟨a, -, he⟩
  · exact hc e he
  · exact hf a e he

variable {d : Disk V} {envelope : ProfileEnvelope V} {file : StoredFile V} {id : String} {p : Prop}
  {view : View V}

section

variable (h : e.isCommitUncertain = false)
include h

theorem require [Decidable p] : Definite (Checked.require p e : Except ProfileError Unit) := by
  intro e' he
  rw [← (require_eq_error.mp he).2]
  exact h

theorem reject [Decidable p] : Definite (Checked.reject p e : Except ProfileError Unit) := by
  intro e' he
  rw [← (reject_eq_error.mp he).2]
  exact h

theorem unwrap {o : Option α} : Definite (Checked.unwrap o e) := by
  intro e' he
  rw [← (unwrap_eq_error.mp he).2]
  exact h

end

theorem mapError {ε : Type} {c : Except ε α} {f}
    (h : ∀ e, (f e).isCommitUncertain = false) : Definite (c.mapError f) := by
  cases c with
  | ok a => exact ok
  | error e => exact error (h e)

theorem foldlM {f : β → α → Except ProfileError β} (hf : ∀ b a, Definite (f b a)) (b : β)
    (l : List α) : Definite (l.foldlM f b) := by
  induction l generalizing b with
  | nil => exact ok
  | cons a l ih =>
    exact (hf b a).bind ih

theorem normalizeName {name : String} : Definite (Profiles.normalizeName name) :=
  (reject rfl).bind fun _ ↦ ok

theorem validateOptionalSourceUrl {url : Option String} :
    Definite (Profiles.validateOptionalSourceUrl url) := by
  cases url with
  | none => exact ok
  | some url => exact reject rfl

variable {F : ProfileFormat V P}

theorem decodeInvalid {error : ConfigError} :
    Definite (F.decodeInvalid id envelope error) := (reject rfl).bind fun _ ↦ ok

theorem decodeDocument : Definite (F.decodeDocument id envelope) := by
  unfold ProfileFormat.decodeDocument
  split
  · exact decodeInvalid
  · refine (reject rfl).bind fun _ ↦ ?_
    split
    · exact decodeInvalid
    · exact ok

theorem decodeEntry : Definite (F.decodeEntry id file) := by
  refine (require rfl).bind fun _ ↦ (reject rfl).bind fun _ ↦ ?_
  cases file.content with
  | envelope envelope =>
    exact (reject rfl).bind fun _ ↦ (require rfl).bind fun _ ↦ (reject rfl).bind fun _ ↦
      normalizeName.bind fun _ ↦ (reject rfl).bind fun _ ↦
        validateOptionalSourceUrl.bind fun _ ↦ decodeDocument
  | _ => exact error rfl

theorem decodeSelection : Definite (F.decodeSelection file) := by
  refine (require rfl).bind fun _ ↦ (reject rfl).bind fun _ ↦ ?_
  cases file.content with
  | selection selection =>
    exact ((reject rfl).bind fun _ ↦ (require rfl).bind fun _ ↦ require rfl).bind fun _ ↦ ok
  | _ => exact error rfl

theorem profileIds {names : List EntryName} : Definite (Profiles.profileIds names) := by
  induction names with
  | nil => exact ok
  | cons name names ih =>
    cases name with
    | profile id => exact (require rfl).bind fun _ ↦ ih.bind fun _ ↦ ok
    | selection => exact ih
    | _ => exact error rfl

theorem readEntry {profiles : RepositoryProfiles} : Definite (F.readEntry view profiles id) := by
  refine (unwrap rfl).bind fun file ↦ (reject rfl).bind fun _ ↦ decodeEntry.bind fun entry ↦ ?_
  cases entry with
  | invalid _ => exact ok
  | valid _ => exact (reject rfl).bind fun _ ↦ (mapError fun _ ↦ rfl).bind fun _ ↦ ok

theorem readProfiles : Definite (F.readProfiles d) := by
  refine (reject rfl).bind fun _ ↦ .bind ?_ fun _ ↦ profileIds.bind fun _ ↦
    (foldlM (fun _ _ ↦ readEntry) _ _).bind fun _ ↦ ok
  unfold checkNoTemporary
  split
  · exact ok
  · exact error rfl

theorem readAll : Definite (F.readAll d) := by
  refine readProfiles.bind fun _ ↦ ?_
  split
  · exact ok
  · exact (reject rfl).bind fun _ ↦ decodeSelection.bind fun _ ↦
      ((unwrap rfl).bind fun _ ↦ reject rfl).bind fun _ ↦ ok

theorem loadProfile : Definite (F.loadProfile view id) := by
  refine (unwrap rfl).bind fun _ ↦ decodeEntry.bind fun entry ↦ .bind ?_ fun _ ↦ ok
  cases entry with
  | valid _ => exact ok
  | invalid _ => exact error rfl

end Definite

namespace ProfileRepository

open ProfileFormat

variable {R : ProfileRepository V P} {s d : Disk V} {destination : EntryName} {content : Content V}
  {id : String}

def cleanly (s : Disk V) (Q : α → Disk V → Prop) : Except ProfileError α → Disk V → Prop
  | .ok a, d => Q a d
  | .error e, d => e.isCommitUncertain = false ∧ d.files = s.files

abbrev always : Disk V → Prop := fun _ ↦ True

/-- A call of the file system that fails is no uncertain commit. -/
theorem certain_of_call {c : Except ProfileError α} {e} (hc : Definite c)
    (he : R.Faulty ∧ e = .io ∨ c = .error e) : e.isCommitUncertain = false := by
  rcases he with ⟨-, rfl⟩ | he
  · rfl
  · exact hc e he

theorem publish_cleanly : (R.publish id destination content false).wp always
    (cleanly s fun _ d ↦ s.view destination = none ∧ ∃ file, d.files = s.files.insert destination file) s := by
  refine wp_call_bind trivial (fun e he ↦ ⟨certain_of_call .ok he, rfl⟩) fun d hd ↦ ⟨trivial, ?_⟩
  cases Except.ok.inj hd
  refine wp_call_bind trivial (fun e he ↦ ⟨certain_of_call .ok he, rfl⟩) fun d hd ↦ ⟨trivial, ?_⟩
  cases Except.ok.inj hd
  refine wp_call trivial (fun e he ↦ ⟨certain_of_call ((Definite.reject rfl).bind fun _ ↦
    (Definite.unwrap rfl).bind fun _ ↦ .ok) he, rfl⟩) fun d hd ↦ ⟨trivial, ?_⟩
  simp only [ok_iff, exists_const] at hd
  obtain ⟨hfree, file, -, rfl⟩ := hd
  exact ⟨Option.not_isSome_iff_eq_none.mp fun hsome ↦ hfree ⟨trivial, hsome⟩, file, rfl⟩

def Created (s : Disk V) (destination : EntryName) : Except ProfileError Unit → Disk V → Prop
  | .ok _, d => s.view destination = none ∧ (d.view destination).isSome = true
  | .error e, d => if e.isCommitUncertain = true then
      s.view destination = none ∧ (d.view destination).isSome = true
    else d.files = s.files

theorem created_of_files {e} (he : e.isCommitUncertain = false)
    (hd : d.files = s.files) : Created s destination (.error e) d := by
  rw [Created, he]
  exact hd

theorem writeNewAtomic_created :
    (R.writeNewAtomic destination content).wp always (Created s destination) s := by
  refine wp_inspect_bind trivial (fun e he ↦ created_of_files (certain_of_call .ok he) rfl)
    fun present _ ↦ ?_
  refine wp_attempt_bind (fun e he ↦ created_of_files (Definite.reject rfl e he) rfl) fun _ _ ↦ ?_
  refine wp_call_bind trivial (fun e he ↦ created_of_files
    (certain_of_call ((Definite.reject rfl).bind fun _ ↦ .ok) he) rfl) fun d' hd' ↦ ⟨trivial, ?_⟩
  obtain ⟨-, -, hd'⟩ := bind_eq_ok.mp hd'
  cases Except.ok.inj hd'
  refine wp_catching_bind publish_cleanly fun r d'' hr ↦ ?_
  cases r with
  | ok _ =>
    obtain ⟨hnone, file, hfile⟩ := hr
    have hsome : (d''.view destination).isSome = true := by
      rw [Disk.view, viewOf, hfile, AList.lookup_insert]
      rfl
    -- a failed sync is the only error that comes after the change
    refine wp_handle.mpr ?_
    simp only [call, perform, wp_run, wp_exchange]
    refine ⟨trivial, ?_⟩
    cases R.fails d''.calls with
    | true =>
      exact ⟨hnone, hsome⟩
    | false => exact ⟨hnone, hsome⟩
  | error operation =>
    obtain ⟨hoperation, hfiles⟩ := hr
    have hcleanup : (R.unlinkTemporary (R.temporaryId (s.calls + 1))).wp always
        (fun _ d ↦ d.files = s.files) d'' := by
      refine wp_call trivial (fun _ _ ↦ hfiles) fun d3 hd3 ↦ ⟨trivial, ?_⟩
      obtain ⟨-, -, hd3⟩ := bind_eq_ok.mp hd3
      cases Except.ok.inj hd3
      exact hfiles
    refine wp_catching_bind hcleanup fun r d3 hr ↦ wp_attempt.mpr (created_of_files ?_ hr)
    unfold errorAfterCleanup
    split
    · exact hoperation
    · exact hoperation
    · rfl

section Select

def Stores (id : String) (view : View V) : Prop := (view (.profile id)).isSome = true

theorem Stores.update {view : View V} {file} (h : Stores id view) :
    Stores id (Function.update view .selection file) := by
  exact h

theorem selectRecovering_stores {other : String} (hs : Within (Stores id) 0 s) :
    Stays (Within (Stores id) 2) (R.selectRecovering other) s :=
  stays_of_ends (selectRecovering_within hs (fun _ _ ↦ hs.1.update) fun _ _ _ h ↦ h.update)
    (fun _ h ↦ h) fun _ _ h ↦ h.mono (fun _ h ↦ h) (Nat.zero_le 2)

end Select

theorem tidy_of_readAll {existing} (h : R.readAll s = .ok existing) : Tidy 0 s.temporaries := by
  obtain ⟨profiles, h, -⟩ := bind_eq_ok.mp h
  obtain ⟨-, -, h⟩ := bind_eq_ok.mp h
  unfold checkNoTemporary at h
  split at h
  · next hkeys =>
    refine ⟨fun {id file} hfile ↦ ?_, ?_⟩
    · have hmem := Directory.mem_keys.mpr ⟨file, hfile⟩
      rw [hkeys] at hmem
      cases hmem
    · rw [hkeys]
      rfl
  · cases h

variable [DecidableEq P] {name : Option String} {profile : P} {sourceUrl : Option String}

def Imported (s : Disk V) (id : String) :
    Except ProfileError ExactProfileImportOutcome → Disk V → Prop
  | .ok outcome, d => outcome.created = true →
      s.view (.profile id) = none ∧ Within (Stores id) 0 d
  | .error e, d => Created s (.profile id) (.error e) d

theorem import_imported :
    (R.importWithIdAndSourceOutcomeInDirectory id name profile sourceUrl).wp always
      (Imported s id) s := by
  have hclean {d : Disk V} (hd : d.files = s.files) {β : Type} {c : Except ProfileError β}
      (hc : Definite c) (e : ProfileError) (he : c = .error e) : Imported s id (.error e) d :=
    created_of_files (hc e he) hd
  refine wp_attempt_bind (hclean rfl (Definite.require rfl)) fun _ _ ↦ ?_
  refine wp_attempt_bind (hclean rfl Definite.normalizeName) fun normal _ ↦ ?_
  refine wp_inspect_bind trivial (fun _ he ↦ created_of_files (certain_of_call .readAll he) rfl)
    fun existing hexisting ↦ ?_
  have ht := tidy_of_readAll hexisting
  split
  · exact wp_attempt.mpr (hclean (c := (.error _ : Except ProfileError Unit)) rfl
      (Definite.error rfl) _ rfl)
  · split
    · refine wp_inspect_bind trivial (fun _ he ↦ created_of_files
        (certain_of_call .loadProfile he) rfl) fun _ _ ↦ ?_
      refine wp_attempt_bind (hclean rfl (Definite.require rfl)) fun _ _ ↦ wp_pure.mpr fun h ↦ ?_
      cases h
    · refine wp_attempt_bind (hclean rfl (Definite.reject rfl)) fun _ _ ↦ ?_
      refine wp_attempt_bind (hclean rfl (Definite.reject rfl)) fun _ _ ↦ ?_
      refine wp_attempt_bind (hclean rfl (Definite.validateOptionalSourceUrl.bind fun _ ↦
        (Definite.reject rfl).bind fun _ ↦ .ok)) fun envelope _ ↦ ?_
      refine wp_attempt_bind (hclean rfl (Definite.reject rfl)) fun _ _ ↦ ?_
      refine wp_bind_of (wp_mono (wp_and (writeNewAtomic_created)
        (writeNewAtomic_ends ht)) (fun _ _ ↦ trivial) fun _ _ h ↦ h)
        (fun _ _ h ↦ h.1) fun _ d hd ↦ wp_pure.mpr fun _ ↦ ?_
      exact ⟨hd.1.1, hd.1.2, hd.2.2.1⟩

def SameStore (s d : Disk V) : Prop :=
  (∀ id, d.view (.profile id) = s.view (.profile id)) ∧ d.view .selection = s.view .selection

end ProfileRepository

section Sample

open ProfileRepository

def emptyDisk : Disk Bool := ⟨∅, ∅, 0⟩

def unselectableSample : ProfileRepository Bool Bool := sampleRepository (· = 8)

end Sample

end CfwRs.Profiles
