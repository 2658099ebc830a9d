import CfwRs.Coordinator.ActiveRuntime
import CfwRs.Coordinator.OffBarrier

namespace CfwRs.Coordinator

open Lib Lib.Durable

variable {Profile : Type} {env : Environment Profile} {a b c : Actor Profile}

def Exchange.commit? : Exchange → Option (Except String Unit)
  | ⟨.commit, outcome⟩ => some outcome
  | _ => none

def Actor.commits (a : Actor Profile) : List (Except String Unit) :=
  a.history.filterMap Exchange.commit?

theorem commit?_of_passive {r} {w} (h : r.Passive) : Exchange.commit? ⟨r, w⟩ = none := by
  cases r with
  | commit => exact h.elim
  | _ => rfl

theorem commit?_of_backend {x : Exchange} {call} (h : x.request = .backend call) :
    x.commit? = none := by
  rcases x with ⟨_, w⟩
  cases h
  rfl

/-- Nothing is committed, on the platform that never changes. -/
structure Quiet (commits : List (Except String Unit)) (platform : EngineRuntimePlatform)
    (a : Actor Profile) : Prop where
  commits : a.commits = commits
  platform : a.state.runtimePlatform = platform

theorem Quiet.record {l p x} (h : Quiet l p a) (hx : x.commit? = none) : Quiet l p (a.record x) :=
  ⟨(List.filterMap_cons_none hx).trans h.commits, h.platform⟩

def quietDiscipline (l : List (Except String Unit)) (p : EngineRuntimePlatform) :
    StartDiscipline Profile where
  visited := Quiet l p
  sound := Quiet l p
  idle := Quiet l p
  held _ := Quiet l p
  visited_of_sound h := h
  sound_of_idle h := h
  sound_of_held h := h
  visited_record hr h := h.record (commit?_of_passive hr)
  sound_record hr h := h.record (commit?_of_passive hr)
  idle_record hr h := h.record (commit?_of_passive hr)
  sound_update h _ _ hp := ⟨h.commits, hp.trans h.platform⟩
  sound_publishing h _ _ _ hp := ⟨h.commits, hp.trans h.platform⟩
  sound_quarantined h _ _ hp := ⟨h.commits, hp.trans h.platform⟩
  sound_stop h _ hx := h.record (commit?_of_backend hx)
  visited_stopped h := ⟨h.commits, h.platform⟩
  idle_off h := h.record rfl
  idle_update h _ _ hp := ⟨h.commits, hp.trans h.platform⟩
  idle_publishing h _ _ hp := ⟨h.commits, hp.trans h.platform⟩
  idle_unleased h _ _ := h
  held_acquire h _ _ hp := ⟨h.commits, hp.trans h.platform⟩
  held_publishing h _ _ hp := ⟨h.commits, hp.trans h.platform⟩
  held_record h _ := h.record rfl

section Transition

variable {target : EngineMode} {profileId : String} {profile : Profile}
  {settings : SingBox.EngineSettings} {projected : SingBox.ProjectedConfig}

theorem transition_quiet
    (h : Admitted env a.state.runtimePlatform target profileId profile settings projected)
    (hq : a.state.quarantine = none) :
    (transition env target profileId profile settings).wp (fun _ ↦ True)
      (fun r b ↦ Quiet a.commits a.state.runtimePlatform b ∧
        ends (fun b ↦ Inert b ∨ b.state.snapshot = a.state.snapshot ∧ RunsOnly projected.digest b)
          (fun _ ↦ Launched projected.digest) r b) a :=
  wp_mono (transition_launched (D := quietDiscipline a.commits a.state.runtimePlatform) h hq
    ⟨rfl, rfl⟩) (fun _ _ ↦ trivial) fun _ _ h ↦ h

theorem transition_ends
    (h : Admitted env a.state.runtimePlatform target profileId profile settings projected) :
    (transition env target profileId profile settings).wp (fun _ ↦ True)
      (fun r b ↦ Quiet a.commits a.state.runtimePlatform b ∧
        ends (fun b ↦ Inert b ∨ b.state.snapshot = a.state.snapshot)
          (fun _ ↦ Launched projected.digest) r b) a := by
  cases hq : a.state.quarantine with
  | none =>
    refine wp_post (transition_quiet h hq) fun r b hb ↦ ⟨hb.1, ?_⟩
    cases r with
    | ok snapshot => exact hb.2
    | error e => exact hb.2.imp id And.left
  | some error =>
    obtain ⟨mode, hmode, -⟩ := h
    unfold transition
    rw [hmode]
    rw [wp_state_bind, hq]
    exact wp_fail.mpr ⟨⟨rfl, rfl⟩, .inr rfl⟩

end Transition

def Restorable (env : Environment Profile) (platform : EngineRuntimePlatform)
    (spec : EngineRestartSpec Profile) : Prop :=
  ∃ projected, Admitted env platform spec.mode spec.profileId spec.profile spec.settings projected

/-- An active runtime was active in `a` already, or runs the configuration of the specification. -/
def RestoredTo (env : Environment Profile) (previous : EngineRestartSpec Profile)
    (a b : Actor Profile) : Prop :=
  ∀ runtime, b.state.snapshot.state.runtime? = some runtime →
    a.state.snapshot.state.runtime? = some runtime ∨
      ∃ projected, Admitted env a.state.runtimePlatform previous.mode previous.profileId
        previous.profile previous.settings projected ∧ runtime.configDigest = projected.digest

theorem matches_active {spec : EngineRestartSpec Profile} {snapshot}
    (hmode : spec.mode ≠ .off) (h : spec.matchesReadySnapshot snapshot = true) :
    snapshot.state.runtime? ≠ none ∧ snapshot.state.runtime? = spec.runtime := by
  unfold EngineRestartSpec.matchesReadySnapshot at h
  cases hruntime : snapshot.state.runtime? with
  | none => simp [hruntime, hmode] at h
  | some runtime =>
    simp only [hruntime, Bool.and_eq_true, decide_eq_true_eq] at h
    exact ⟨nofun, h.2.1.1.2.symm⟩

section Restore

variable {previous : EngineRestartSpec Profile} {source : EngineCoordinatorError}
  {candidateStarted : Bool}

theorem restore_restored (hprevious : Restorable env a.state.runtimePlatform previous)
    (hready : previous.matchesReadySnapshot a.state.snapshot = true)
    (hplatform : b.state.runtimePlatform = a.state.runtimePlatform)
    (hb : candidateStarted = true ∧ b.state.quarantine = none ∨
      Inert b ∨ b.state.snapshot = a.state.snapshot) :
    (restore env previous source candidateStarted).wp (fun _ ↦ True)
      (ends (fun c ↦ c.commits = b.commits ∧ RestoredTo env previous a c) fun _ _ ↦ False) b := by
  obtain ⟨projected, hadmitted⟩ := hprevious
  have hmode : previous.mode ≠ .off := by
    obtain ⟨mode, hmode, -⟩ := hadmitted
    rintro heq
    rw [heq] at hmode
    cases hmode
  have hrestored {c : Actor Profile} (hc : RunsOnly projected.digest c) :
      RestoredTo env previous a c := fun runtime hruntime ↦
    .inr ⟨projected, hadmitted, hc runtime hruntime⟩
  unfold restore
  rw [wp_state_bind]
  split
  · next hmatches =>
    refine wp_fail.mpr ⟨rfl, fun runtime hruntime ↦ .inl ?_⟩
    rw [(matches_active hmode hready).2, ← (matches_active hmode hmatches).2, hruntime]
  · next hmatches =>
    split
    · next hrefused =>
      refine wp_fail.mpr ⟨rfl, hrestored ?_⟩
      rcases hb with ⟨rfl, hq⟩ | hinert | hsame
      · simp [hq] at hrefused
      · exact hinert.runsOnly
      · exact absurd (hsame ▸ hready) hmatches
    · next hrefused =>
      have hq : b.state.quarantine = none := by
        simp only [Bool.or_eq_true, not_or, Bool.not_eq_true, Option.isSome_eq_false_iff] at hrefused
        exact Option.isNone_iff_eq_none.mp hrefused.1
      refine wp_catching_bind (transition_quiet (hplatform ▸ hadmitted) hq) fun r c hc ↦ ?_
      cases r with
      | error rollback =>
        refine wp_fail.mpr ⟨hc.1.commits, hrestored ?_⟩
        exact hc.2.elim Inert.runsOnly And.right
      | ok snapshot =>
        refine wp_bind.mpr (wp_update.mpr ⟨trivial, after_ok.mpr (wp_fail.mpr ?_)⟩)
        exact ⟨hc.1.commits, hrestored (hc.2.runs.of_state rfl)⟩

end Restore

def previousSpec (env : Environment Profile) (s : CoordinatorState Profile)
    (candidate : ProfileChange Profile) :
    Except EngineCoordinatorError (EngineRestartSpec Profile) := do
  let prior ← readySpec s
  withSavedSelections env prior candidate.previousProfile

def LeavesRuntime (env : Environment Profile) (settings : SingBox.EngineSettings)
    (candidate : ProfileChange Profile) (a : Actor Profile) : Prop :=
  candidate.activate = false ∨ a.state.snapshot.desiredMode = .off ∨
    ∃ previous, previousSpec env a.state candidate = .ok previous ∧
      isUnchanged env previous candidate settings = true

/-- The change was committed once, and an active runtime is the candidate's. -/
structure Committed (env : Environment Profile) (settings : SingBox.EngineSettings)
    (candidate : ProfileChange Profile) (a b : Actor Profile) : Prop where
  commits : b.commits = .ok () :: a.commits
  runtime : LeavesRuntime env settings candidate a ∧ b.state.snapshot = a.state.snapshot ∨
    ∃ projected, Admitted env a.state.runtimePlatform a.state.snapshot.desiredMode
      candidate.profileId candidate.profile settings projected ∧ RunsOnly projected.digest b

/-- The change was not committed, and an active runtime is the one before, or the previous
specification's. -/
structure Refused (env : Environment Profile)
    (prepared : Except EngineCoordinatorError (ProfileChange Profile)) (a b : Actor Profile) :
    Prop where
  commits : b.commits = a.commits ∨ ∃ reason, b.commits = .error reason :: a.commits
  runtime {runtime : RuntimeIdentity} : b.state.snapshot.state.runtime? = some runtime →
    a.state.snapshot.state.runtime? = some runtime ∨
      ∃ candidate previous projected, prepared = .ok candidate ∧
        previousSpec env a.state candidate = .ok previous ∧
        Admitted env a.state.runtimePlatform previous.mode previous.profileId previous.profile
          previous.settings projected ∧
        runtime.configDigest = projected.digest

section Apply

variable {candidate : ProfileChange Profile} {previous : EngineRestartSpec Profile}
  {settings : SingBox.EngineSettings}

theorem Refused.untouched {prepared}
    (hcommits : b.commits = a.commits ∨ ∃ reason, b.commits = .error reason :: a.commits)
    (hstate : b.state = a.state) : Refused env prepared a b :=
  ⟨hcommits, fun h ↦ .inl (hstate ▸ h)⟩

theorem RestoredTo.refused (h : RestoredTo env previous a b)
    (hprevious : previousSpec env a.state candidate = .ok previous)
    (hcommits : b.commits = a.commits ∨ ∃ reason, b.commits = .error reason :: a.commits) :
    Refused env (.ok candidate) a b := by
  refine ⟨hcommits, fun hruntime ↦ (h _ hruntime).imp id ?_⟩
  rintro ⟨projected, hadmitted, hdigest⟩
  exact ⟨candidate, previous, projected, rfl, hprevious, hadmitted, hdigest⟩

theorem commit_ends : (commit env).wp (fun _ ↦ True) (fun r b ↦ b.state = a.state ∧ match r with
      | .ok _ => b.commits = .ok () :: a.commits
      | .error _ => ∃ reason, b.commits = .error reason :: a.commits) a := by
  refine wp_bind.mpr (wp_ask fun answer ↦ ⟨trivial, ?_⟩)
  rw [after_ok]
  cases answer with
  | error reason => exact wp_fail.mpr ⟨rfl, reason, rfl⟩
  | ok u => exact wp_pure.mpr ⟨rfl, rfl⟩

theorem commit_leaves {f : Unit → Task Profile EngineCoordinatorError EngineSnapshot}
    (hf : ∀ b, (f ()).wp (fun _ ↦ True) (ends (fun _ ↦ False) fun _ c ↦
      c.commits = b.commits ∧ c.state.snapshot = b.state.snapshot) b)
    (h : LeavesRuntime env settings candidate a) :
    (commit env >>= f).wp (fun _ ↦ True) (ends (Refused env (.ok candidate) a)
      fun _ ↦ Committed env settings candidate a) a := by
  refine wp_bind_of commit_ends (fun e b hb ↦ .untouched (.inr hb.2) hb.1) fun _ b hb ↦ ?_
  refine wp_post (hf b) fun r c hc ↦ ?_
  cases r with
  | error e => exact hc.elim
  | ok snapshot =>
    exact ⟨hc.1.trans hb.2, .inl ⟨h, hc.2.trans (congrArg CoordinatorState.snapshot hb.1)⟩⟩

theorem acceptSpec_ends {mode profileId profile} :
    (acceptSpec mode profileId profile settings).wp (fun _ ↦ True) (ends (fun _ ↦ False) fun _ c ↦
      c.commits = b.commits ∧ c.state.snapshot = b.state.snapshot) b :=
  wp_bind.mpr (wp_update.mpr ⟨trivial, wp_currentSnapshot.mpr ⟨rfl, rfl⟩⟩)

theorem matches_of_previousSpec (h : previousSpec env a.state candidate = .ok previous) :
    previous.matchesReadySnapshot a.state.snapshot = true := by
  obtain ⟨prior, hprior, hsaved⟩ := Checked.bind_eq_ok.mp h
  have hready : prior.matchesReadySnapshot a.state.snapshot = true := by
    have hfilter := Checked.unwrap_eq_ok.mp hprior
    exact (Option.filter_eq_some_iff.mp hfilter).2
  unfold withSavedSelections at hsaved
  split at hsaved
  · exact Except.ok.inj hsaved ▸ hready
  · obtain ⟨_, -, hreturn⟩ := Checked.bind_eq_ok.mp hsaved
    exact Except.ok.inj hreturn ▸ hready

theorem replaceRuntime_ends {projectedMode}
    (hmode : a.state.snapshot.desiredMode.projection? = some projectedMode)
    (hmtu : validateMtu a.state.runtimePlatform a.state.snapshot.desiredMode settings = .ok ())
    (hspec : previousSpec env a.state candidate = .ok previous)
    (hprevious : Restorable env a.state.runtimePlatform previous) :
    (replaceRuntime env a.state.snapshot.desiredMode previous candidate settings
      projectedMode).wp (fun _ ↦ True)
      (ends (Refused env (.ok candidate) a) fun _ ↦ Committed env settings candidate a) a := by
  have hready := matches_of_previousSpec hspec
  refine wp_attempt_bind (fun _ _ ↦ .untouched (.inl rfl) rfl) fun projected hproject ↦ ?_
  have hadmitted : Admitted env a.state.runtimePlatform a.state.snapshot.desiredMode
      candidate.profileId candidate.profile settings projected :=
    ⟨projectedMode, hmode, hmtu, mapError_eq_ok.mp hproject⟩
  refine wp_attempt_bind (fun _ _ ↦ .untouched (.inl rfl) rfl) fun generation _ ↦ ?_
  refine wp_bind.mpr (wp_callBackend fun answer ↦ ⟨trivial, ?_⟩)
  refine wp_attempt_bind (fun _ _ ↦ .untouched (.inl rfl) rfl) fun _ _ ↦ ?_
  refine wp_catching_bind (transition_ends hadmitted) fun r b hb ↦ ?_
  cases r with
  | error error =>
    refine wp_post (restore_restored hprevious hready hb.1.platform (.inr hb.2)) ?_
    intro r c hc
    cases r with
    | error e => exact hc.2.refused hspec (.inl (hc.1.trans hb.1.commits))
    | ok snapshot => exact hc.elim
  | ok snapshot =>
    refine wp_catching_bind commit_ends fun r c hc ↦ ?_
    cases r with
    | error error =>
      obtain ⟨hstate, reason, hcommits⟩ := hc
      have hplatform : c.state.runtimePlatform = a.state.runtimePlatform := by
        rw [hstate]
        exact hb.1.platform
      have hq : c.state.quarantine = none := by
        rw [hstate]
        exact hb.2.quarantine
      refine wp_post (restore_restored hprevious hready hplatform (.inl ⟨rfl, hq⟩)) fun r d hd ↦ ?_
      cases r with
      | error e =>
        refine hd.2.refused hspec (.inr ⟨reason, ?_⟩)
        rw [hd.1, hcommits, hb.1.commits]
        rfl
      | ok snapshot => exact hd.elim
    | ok u =>
      refine wp_post acceptSpec_ends fun r d hd ↦ ?_
      cases r with
      | error e => exact hd.elim
      | ok snapshot =>
        refine ⟨?_, .inr ⟨projected, hadmitted, hb.2.runs.of_state ?_⟩⟩
        · rw [hd.1, hc.2, hb.1.commits]
          rfl
        · rw [hd.2, hc.1]

theorem apply_ends (settings : SingBox.EngineSettings)
    (hprevious : ∀ previous, previousSpec env a.state candidate = .ok previous →
      Restorable env a.state.runtimePlatform previous) :
    (apply env settings (.ok candidate)).wp (fun _ ↦ True)
      (ends (Refused env (.ok candidate) a) fun _ ↦ Committed env settings candidate a) a := by
  have hbeside (h : LeavesRuntime env settings candidate a) : (commitInPlace env).wp (fun _ ↦ True)
        (ends (Refused env (.ok candidate) a) fun _ ↦ Committed env settings candidate a) a :=
    commit_leaves (fun b ↦ wp_currentSnapshot.mpr ⟨rfl, rfl⟩) h
  unfold apply
  rw [wp_state_bind, wp_bind, wp_attempt, after_ok]
  split
  · next hmode =>
    refine hbeside (.inr (.inl ?_))
    revert hmode
    cases a.state.snapshot.desiredMode <;> simp [EngineMode.projection?]
  · next projectedMode hmode =>
    split
    · refine wp_attempt_bind (fun _ _ ↦ .untouched (.inl rfl) rfl) fun _ hmtu ↦ ?_
      refine wp_attempt_bind (fun _ _ ↦ .untouched (.inl rfl) rfl) fun prior hprior ↦ ?_
      refine wp_attempt_bind (fun _ _ ↦ .untouched (.inl rfl) rfl) fun previous hsaved ↦ ?_
      have hspec : previousSpec env a.state candidate = .ok previous :=
        Checked.bind_eq_ok.mpr ⟨prior, hprior, hsaved⟩
      split
      · next hunchanged =>
        exact commit_leaves (fun b ↦ acceptSpec_ends) (.inr (.inr ⟨previous, hspec, hunchanged⟩))
      · exact replaceRuntime_ends hmode hmtu hspec (hprevious previous hspec)
    · next hactivate => exact hbeside (.inl (Bool.eq_false_iff.mpr hactivate))

/-- A profile change is all or nothing: it commits at most once, and what is active afterwards is
the candidate's if it was committed, and the previous specification's if it was not. -/
theorem apply_all_or_nothing (settings : SingBox.EngineSettings)
    (prepared : Except EngineCoordinatorError (ProfileChange Profile))
    (hprevious : ∀ candidate previous, prepared = .ok candidate →
      previousSpec env a.state candidate = .ok previous →
      Restorable env a.state.runtimePlatform previous) :
    match (apply env settings prepared a).result with
    | .ok _ => ∃ candidate, prepared = .ok candidate ∧
        Committed env settings candidate a ((apply env settings prepared).final a)
    | .error _ => Refused env prepared a ((apply env settings prepared).final a) := by
  cases prepared with
  | error e => exact Refused.untouched (.inl rfl) rfl
  | ok candidate =>
    have h := (apply_ends settings fun previous ↦ hprevious candidate previous rfl).2
    split
    · next heq =>
      rw [heq] at h
      exact ⟨candidate, rfl, h⟩
    · next heq =>
      rw [heq] at h
      exact h

end Apply

def pairEnvironment (world : List Exchange → (r : Request) → r.Answer) : Environment Bool where
  world := world
  session := plainSession
  hasGenerationStore := false
  operationTimeout := "15s"
  authorizationTimeout := "325s"
  statusQueryTimeout := "2s"
  startupReconciliation := .cleanupKnownLineage
  processSecret := ""
  display _ := ""
  digest profile := cond profile "second document" "first document"
  proxySelections _ := []
  routesThroughRemote _ := true
  project profile _ mode _ _ :=
    .ok { plainConfig mode with digest := cond profile "second" "first" }

def firstRuns (world : List Exchange → (r : Request) → r.Answer) : Actor Bool :=
  (serve (pairEnvironment world) (.command (.setMode .localProxy "" false default none))).final
    ((startup (pairEnvironment world)).final (initial .macOs 0))

def storeSecond (activate : Bool) : ProfileChange Bool := ⟨"second", true, activate, none⟩

def fullDisk (history : List Exchange) : (r : Request) → r.Answer
  | .commit => .error "no space left"
  | r => compliantWorld history r

theorem refused_commit :
    (apply (pairEnvironment fullDisk) default (.ok (storeSecond true)) (firstRuns fullDisk)).result
        = .error (.profileChangeRolledBack (.profileCommit "no space left")) ∧
      Refused (pairEnvironment fullDisk) (.ok (storeSecond true)) (firstRuns fullDisk)
        ((apply (pairEnvironment fullDisk) default (.ok (storeSecond true))).final
          (firstRuns fullDisk)) := by
  have hrestorable (candidate : ProfileChange Bool) (previous : EngineRestartSpec Bool)
      (hcandidate : (.ok (storeSecond true) : Except EngineCoordinatorError _) = .ok candidate)
      (hprevious : previousSpec (pairEnvironment fullDisk) (firstRuns fullDisk).state candidate =
        .ok previous) : Restorable (pairEnvironment fullDisk) .macOs previous := by
    obtain rfl := Except.ok.inj hcandidate
    rw [← Except.ok.inj hprevious]
    exact ⟨_, .localProxy, rfl, rfl, rfl⟩
  exact ⟨rfl, apply_all_or_nothing default (.ok (storeSecond true)) hrestorable⟩

/-- The second profile is stored beside the first, which goes on running. -/
theorem stored_beside_active : ∃ snapshot runtime,
    Reached (pairEnvironment compliantWorld) .macOs 0 (firstRuns compliantWorld) ∧
      (apply (pairEnvironment compliantWorld) default (.ok (storeSecond false))
        (firstRuns compliantWorld)).result = .ok snapshot ∧ snapshot.state.runtime? = some runtime ∧
      ∀ projected, Admitted (pairEnvironment compliantWorld) .macOs .localProxy "second" true
        default projected → runtime.configDigest ≠ projected.digest := by
  have hstart : Started (pairEnvironment compliantWorld) .macOs 0
      ((startup (pairEnvironment compliantWorld)).final (initial .macOs 0)) := rfl
  refine ⟨_, ⟨.proxyAgent, .new plainSession 1, "first", true⟩,
    .serving _ (.start hstart) rfl trivial crash_final, rfl, rfl, ?_⟩
  rintro projected ⟨mode, hmode, -, hproject⟩
  have hdigest : "second" = projected.digest :=
    congrArg SingBox.ProjectedConfig.digest (Except.ok.inj hproject)
  rw [← hdigest]
  decide

end CfwRs.Coordinator
