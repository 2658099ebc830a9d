import CfwRs.Profiles.Compensation

namespace CfwRs.Profiles

open Lib Lib.Checked Durable

variable {V P : Type}

namespace ProfileRepository

open ProfileFormat

variable {R : ProfileRepository V P} {s t : Disk V} {α : Type}

def calm (R : ProfileRepository V P) : ProfileRepository V P := { R with fails := fun _ ↦ false }

theorem not_faulty_calm : ¬R.calm.Faulty := by
  rintro ⟨k, hk⟩
  cases hk

def openAll (R : ProfileRepository V P) : RepositoryCode V RepositorySnapshot := do
  R.recoverRepository
  R.inspect R.readAll

structure Consistent (R : ProfileRepository V P) (files : Files V)
    (snapshot : RepositorySnapshot) : Prop where
  selection : ∀ selection ∈ snapshot.selection, ∃ entry,
    Holds R.toProfileFormat files selection.profileId entry ∧ entry.digest = selection.profileDigest
  entries : snapshot.records.length + snapshot.invalid.length ≤ Limits.maxRepositoryEntries
  storedBytes : snapshot.storedBytes ≤ Limits.maxRepositoryBytes
  bindings : credentialBindingCount snapshot.credentialCatalog ≤
    Limits.maxRepositoryCredentialReferences

theorem consistent_of_shows {files} {snapshot}
    (hsound : Sound R.toProfileFormat files) (hshows : Shows R.toProfileFormat files snapshot) :
    Consistent R files snapshot where
  selection selection hselection := by
    have hfile := hshows.selection
    rw [Option.mem_def.mp hselection] at hfile
    exact (hsound.holds_selected hfile).2
  entries := by
    rw [hshows.listing.entries]
    exact hsound.entries_le
  storedBytes := by
    rw [hshows.storedBytes]
    exact hsound.bytes_le
  bindings := by
    rw [hshows.listing.bindings]
    exact hsound.bindings_le

theorem openAll_calm (h : Within (Safe R) 2 t) : ∃ snapshot,
    (R.calm.openAll t).result = .ok snapshot ∧
      Consistent R (R.calm.openAll.final t).files snapshot := by
  obtain ⟨⟨target, hwhole, hsettle⟩, ht⟩ := h
  have hK : Recoverable R.calm target fun view ↦ R.calm.settle view = .ok target :=
    recoverable_settle
  have hrecovers := recoverRepository_completes hK ⟨hsettle, ht⟩ hwhole.sound (by decide) not_faulty_calm
  have hwp : R.calm.openAll.wp (fun _ ↦ True) (fun r d ↦ ∃ snapshot, r = .ok snapshot ∧
      Consistent R d.files snapshot) t := by
    refine wp_bind_of (wp_mono (wp_exact (recoverRepository_ends hK ⟨hsettle, ht⟩))
      (fun _ _ ↦ trivial) fun _ _ h ↦ h) (fun e d h ↦ ?_) fun _ d h ↦ ?_
    · rw [hrecovers] at h
      cases h.2.1
    · have hd : Within (Whole R) 0 d := ⟨h.1.1.2 ▸ hwhole, h.1.2⟩
      obtain ⟨snapshot, hsnapshot, hshows⟩ := exists_readAll hd.1.sound_files hd.2
      refine wp_inspect_of_eq hsnapshot trivial
        (fun hfault ↦ absurd hfault not_faulty_calm) ⟨snapshot, rfl, ?_⟩
      exact consistent_of_shows hd.1.sound_files hshows
  exact hwp.2

variable [DecidableEq P] {operation : Operation P}

/-- The condition on an operation: what a failed commit takes back, it can take back. -/
def Reverses (R : ProfileRepository V P) : Operation P → Disk V → Prop
  | .commitReplaceIfUnchanged expected name profile sourceUrl, s =>
    CommitReversible R expected name profile sourceUrl (R.recoverRepository.final s).next
  | _, _ => True

/-- Whatever fails or crashes in an operation, the repository stays safe. -/
theorem body_stays (hs : Within (Whole R) 0 s) (hreverses : ∀ expected name profile sourceUrl,
      operation = .commitReplaceIfUnchanged expected name profile sourceUrl →
        CommitReversible R expected name profile sourceUrl s.next) :
    Stays (Within (Safe R) 2) (R.body operation) s := by
  have hsafe (d : Disk V) (hd : Within (Whole R) 0 d) : Within (Safe R) 2 d :=
    hd.mono (fun _ h ↦ h.safe) (Nat.zero_le 2)
  have hone (d : Disk V) (hd : Within (Safe R) 1 d) : Within (Safe R) 2 d :=
    hd.mono (fun _ h ↦ h) (Nat.le_succ 1)
  have hreplace (replacement : ProfileReplacement P) :
      Stays (Within (Safe R) 2) (R.replaceWithTimestampInDirectory replacement) s :=
    wp_mono (replace_stays hs) hone fun _ ↦ hone
  have himport (id : String) (name : Option String) (profile : P) (sourceUrl : Option String) :
      (R.importWithIdAndSourceOutcomeInDirectory id name profile sourceUrl).wp (Within (Safe R) 2)
        (ends (Within (Safe R) 2) fun _ ↦ Within (Whole R) 0) s := by
    refine wp_mono (import_ends hs) hone fun r d hr ↦ ?_
    cases r with
    | ok _ => exact hr
    | error _ => exact hone d hr
  have himport' (id : String) (name : Option String) (profile : P) (sourceUrl : Option String) := stays_of_ends (himport id name profile sourceUrl) (fun _ h ↦ h) fun _ ↦ hsafe
  cases operation with
  | snapshot =>
    refine Stays.forget (wp_inspect ?_ (fun _ _ ↦ ?_) fun _ _ ↦ ?_) <;> exact hsafe s hs
  | importWithIdAndSource id name profile sourceUrl => exact (himport' _ _ _ _).forget
  | replace id name profile sourceUrl => exact (hreplace _).forget
  | replaceIfUnchanged expected name profile sourceUrl => exact (hreplace _).forget
  | restore stored => exact (hreplace _).forget
  | restoreIfUnchanged expectedCurrent stored => exact (hreplace _).forget
  | updateMetadata id name sourceUrl =>
    exact Stays.forget (wp_mono (updateMetadataInDirectory_stays hs) hone fun _ ↦ hone)
  | select id =>
    have hselected (d : Disk V) (hd : Within (Whole R) 1 d) : Within (Safe R) 2 d :=
      hd.mono (fun _ h ↦ h.safe) (Nat.le_succ 1)
    exact Stays.forget (stays_of_ends (wp_mono (selectInDirectory_within hs fun _ h ↦
      whole_select hs h) hselected fun _ _ h ↦ h) hselected fun _ ↦ hsafe)
  | delete id invalidSelection =>
    exact Stays.forget (wp_mono (deleteInDirectory_stays hs) hone fun _ ↦ hone)
  | commitSelection id =>
    exact Stays.forget (stays_of_ends (selectRecovering_ends hs) (fun _ h ↦ h) fun _ ↦ hsafe)
  | commitExactImport id name profile sourceUrl => exact (himport' _ _ _ _).forget
  | commitExactImportAndSelect id name profile sourceUrl activate =>
    refine Stays.forget (wp_bind_of (himport id name profile sourceUrl) (fun _ _ h ↦ h)
      fun imported d hd ↦ ?_)
    split
    · exact Stays.bind (stays_of_ends (selectRecovering_ends hd) (fun _ h ↦ h) fun _ ↦ hsafe)
        fun _ _ h ↦ wp_pure.mpr h
    · exact wp_pure.mpr (hsafe d hd)
  | commitReplaceIfUnchanged expected name profile sourceUrl =>
    exact (commitReplaceInDirectory_stays hs (hreverses _ _ _ _ rfl)).forget

theorem run_stays (hs : Within (Safe R) 2 s) (hreverses : Reverses R operation s) :
    Stays (Within (Safe R) 2) (R.run operation) s := by
  refine wp_attempt_bind (fun _ _ ↦ hs) fun _ _ ↦ ?_
  refine wp_bind_of (wp_exact (recoverRepository_safe hs)) (fun _ _ h ↦ h.1) fun _ d hd ↦ ?_
  refine body_stays hd.1 fun expected name profile sourceUrl hoperation ↦ ?_
  subst hoperation
  rw [hd.2.2]
  exact hreverses

def OperationStep (R : ProfileRepository V P) (s t : Disk V) : Prop :=
  ∃ operation, Reverses R operation s ∧ Crash (R.run operation) s t

theorem run_safe (hs : Within (Whole R) 0 s) (h : Relation.ReflTransGen (OperationStep R) s t) :
    Within (Safe R) 2 t := by
  induction h with
  | refl => exact hs.mono (fun _ h ↦ h.safe) (Nat.zero_le 2)
  | tail _ hstep ih =>
    obtain ⟨operation, hreverses, hcrash⟩ := hstep
    exact hcrash.of_wp ih (run_stays ih hreverses)

end ProfileRepository

section Sample

open ProfileFormat ProfileRepository

def faultySample : ProfileRepository Bool Bool := sampleRepository fun k ↦ k = 20 ∨ k = 26

def sampleCommit : Operation Bool := .commitReplaceIfUnchanged sampleStored none true none

/-- A crash after the failed replacement has been taken back by half: the old profile is in its
place, under the selection of the new one. -/
def halfTakenBack : Disk Bool :=
  ((faultySample.run sampleCommit) sampleDisk).visited.getD 31 sampleDisk

end Sample

end CfwRs.Profiles
