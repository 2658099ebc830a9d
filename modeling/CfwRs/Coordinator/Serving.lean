import CfwRs.Coordinator.Discipline

namespace CfwRs.Coordinator

open Lib Lib.Durable CoordinatorState

variable {Profile ε α : Type} {env : Environment Profile} {a : Actor Profile}

section Startup

variable {D : Discipline Profile} {kind : RecoveredRuntimeKind} {runtime : RuntimeIdentity}

theorem failStartup_sound {failure} (ha : D.sound a) :
    D.Sound (failStartup env kind runtime failure) a :=
  (Discipline.Sound.publishing ha (by nofun)).bind fun _ _ hb ↦ .attempt hb

section

variable (hrecover : D.sound (a.update (recovered kind runtime)))
include hrecover

section

variable (hoff : ∀ b, D.idle b → b.state.nativeLease = none →
  b.state.quarantine = a.state.quarantine → D.sound (b.publishing off))
include hoff

theorem cleanupRuntime_sound {validation} :
    D.Sound (cleanupRuntime env kind runtime validation) a := by
  refine wp_bind.mpr (wp_update.mpr ⟨D.visited_of_sound hrecover, ?_⟩)
  rw [after_ok]
  refine Discipline.cleanup_wp hrecover (fun e b hb ↦ ?_) rfl (fun e b hb ↦ ?_) fun b hb ↦ ?_
  · dsimp only
    split
    · exact failStartup_sound hb
    · exact failStartup_sound hb
  · cases validation with
    | ok u => exact wp_fail.mpr hb
    | error validationError => exact failStartup_sound hb
  · cases validation with
    | ok u =>
      have hc := hoff b hb.idle hb.lease hb.quarantine
      exact wp_publishing.mpr ⟨D.visited_of_sound hc, hc⟩
    | error error => exact failStartup_sound (D.sound_of_idle hb.idle)

theorem cleanupObserved_sound {expectedGeneration} :
    D.Sound (cleanupObserved env expectedGeneration kind runtime) a := by
  unfold cleanupObserved
  cases env.startupReconciliation with
  | cleanupKnownLineage => exact cleanupRuntime_sound hrecover hoff
  | cleanupWithoutLineage => exact cleanupRuntime_sound hrecover hoff

end

end

theorem reconcileInitialState_sound (ha : D.sound a)
    (hrecover : ∀ kind runtime b, D.sound b → b.state = a.state → b.published = a.published →
      D.sound (b.update (recovered kind runtime)))
    (hinitial : ∀ b, D.idle b → b.state = a.state → D.sound (b.publishing .settledOff))
    (hoff : ∀ b, D.idle b → b.state.nativeLease = none →
      b.state.quarantine = a.state.quarantine → D.sound (b.publishing off)) :
    D.Sound (reconcileInitialState env) a := by
  refine .state_bind (wp_bind.mpr (wp_callBackend fun answer ↦ ?_))
  have hb := D.sound_record (w := answer) rfl ha
  refine ⟨D.visited_of_sound hb, ?_⟩
  rw [after_ok]
  have hfailed (source : BackendError) : D.Sound (do
      setFailed env .off a.state.snapshot.generation (.backend .queryStatus source)
      fail ⟨.backend .queryStatus source, false⟩ : Task Profile ReconciliationFailure Unit)
      (a.record ⟨.backend .queryStatus, answer⟩) :=
    (Discipline.Sound.publishing hb (by nofun)).bind fun _ _ hc ↦ .attempt hc
  rcases answer with _ | source | status
  · exact hfailed _
  · exact hfailed source
  · cases status with
    | off =>
      have hc := hinitial _ (D.idle_off (D.visited_of_sound ha)) rfl
      exact wp_publishing.mpr ⟨D.visited_of_sound hc, hc⟩
    | localProxy runtime => exact cleanupObserved_sound (hrecover _ _ _ hb rfl rfl) hoff
    | systemProxy runtime => exact cleanupObserved_sound (hrecover _ _ _ hb rfl rfl) hoff
    | tunnel runtime => exact cleanupObserved_sound (hrecover _ _ _ hb rfl rfl) hoff

end Startup

namespace ServeDiscipline

variable {D : ServeDiscipline Profile} {settings : SingBox.EngineSettings} {mode : EngineMode}
  {candidate : ProfileChange Profile} {previous : EngineRestartSpec Profile}

section

variable (ha : D.sound a)
include ha

theorem commit_sound : D.Sound (commit env) a := by
  refine wp_bind.mpr (wp_ask fun answer ↦ ?_)
  have hb := D.sound_commit (w := answer) ha
  refine ⟨D.visited_of_sound hb, ?_⟩
  rw [after_ok]
  cases answer with
  | error reason => exact wp_fail.mpr hb
  | ok u => exact wp_pure.mpr hb

theorem acceptSpec_sound {profileId profile} :
    D.Sound (acceptSpec mode profileId profile settings) a :=
  (Discipline.Sound.update ha).bind fun _ _ hb ↦ D.currentSnapshot_sound hb

theorem restore_sound {source candidateStarted} :
    D.Sound (restore env previous source candidateStarted) a := by
  refine .state_bind ?_
  split
  · exact .attempt ha
  · split
    · exact .attempt ha
    · refine (D.transition_sound ha).catching.bind fun r b hb ↦ ?_
      cases r with
      | error rollback => exact .attempt hb
      | ok snapshot => exact (Discipline.Sound.update hb).bind fun _ _ hc ↦ .attempt hc

theorem replaceRuntime_sound {projectedMode} :
    D.Sound (replaceRuntime env mode previous candidate settings projectedMode) a := by
  refine .state_bind (.attempt_bind ha fun projected ↦ .attempt_bind ha fun generation ↦ ?_)
  refine wp_bind.mpr (wp_callBackend fun answer ↦ ?_)
  have hb := D.sound_record (w := answer) rfl ha
  refine ⟨D.visited_of_sound hb, Discipline.Sound.attempt_bind hb fun _ ↦ ?_⟩
  refine (D.transition_sound hb).catching.bind fun r c hc ↦ ?_
  cases r with
  | error error => exact restore_sound hc
  | ok snapshot =>
    refine (commit_sound hc).catching.bind fun r d hd ↦ ?_
    cases r with
    | error error => exact restore_sound hd
    | ok u => exact acceptSpec_sound hd

theorem apply_sound {prepared} : D.Sound (apply env settings prepared) a := by
  have hplain : D.Sound (commitInPlace env) a :=
    (commit_sound ha).bind fun _ _ hb ↦ D.currentSnapshot_sound hb
  refine .state_bind (.attempt_bind ha fun candidate ↦ ?_)
  split
  · exact hplain
  · split
    · refine .state_bind (.attempt_bind ha fun _ ↦ .attempt_bind ha fun prior ↦
        .attempt_bind ha fun previous ↦ ?_)
      split
      · exact (commit_sound ha).bind fun _ _ hb ↦ acceptSpec_sound hb
      · exact replaceRuntime_sound ha
    · exact hplain

theorem close_sound : D.Sound close a := by
  have hb := D.sound_close ha
  exact wp_step.mpr ⟨D.visited_of_sound hb, hb⟩

theorem shutdown_sound : D.Sound (shutdown env) a := by
  refine (D.transitionToOff_sound ha).catching.bind fun r b hb ↦ .state_bind ?_
  split
  · exact (close_sound hb).bind fun _ _ hc ↦ .pure hc
  · exact .pure hb

theorem setMode_sound {target profileId profile expected} :
    D.Sound (setMode env target profileId profile settings expected) a := by
  refine .state_bind ?_
  split
  · exact .attempt ha
  · refine (D.transition_sound ha).bind fun snapshot b hb ↦ ?_
    exact (Discipline.Sound.update hb).bind fun _ _ hc ↦ .pure hc

theorem quarantineReleaseEvidenceRestore_sound :
    D.Sound (quarantineReleaseEvidenceRestore env) a := by
  refine .state_bind ?_
  have hb := D.sound_quarantined
    (u := fun s ↦ failed env.display s.snapshot.desiredMode s.snapshot.generation
      (a.state.quarantine.getD .releaseEvidenceRestoreUnproven)
      { s with quarantine := some (a.state.quarantine.getD .releaseEvidenceRestoreUnproven) })
    (D.visited_of_sound ha) nofun nofun rfl
  exact wp_bind.mpr (wp_publishing.mpr ⟨D.visited_of_sound hb,
    (D.currentSnapshot_sound hb).bind fun _ _ hc ↦ .pure hc⟩)

theorem serveReady_sound {command} : D.Sound (serveReady env command) a := by
  cases command with
  | reconcileStartup _ => exact .pure ha
  | setMode _ _ _ _ _ => exact (setMode_sound ha).catching.bind fun _ _ hb ↦ .pure hb
  | changeProfile _ _ => exact (apply_sound ha).catching.bind fun _ _ hb ↦ .pure hb
  | prepareCutover _ _ _ _ => exact .state_bind (.pure ha)
  | restartSpec => exact .state_bind (.pure ha)
  | pendingTunnelApproval _ => exact .state_bind (.pure ha)
  | quarantineReleaseEvidenceRestore => exact quarantineReleaseEvidenceRestore_sound ha
  | shutdown => exact shutdown_sound ha

theorem poll_sound : D.Sound (poll env) a := by
  unfold poll
  rw [Discipline.Sound, wp_read_bind]
  split
  · exact wp_pure.mpr ha
  · exact (D.reconcileActiveRuntime_sound ha).catching.bind fun _ _ hb ↦ .pure hb

theorem hangUp_sound : D.Sound (hangUp env) a := by
  unfold hangUp
  rw [Discipline.Sound, wp_read_bind]
  split
  · exact close_sound ha
  · refine (D.transitionToOff_sound ha).catching.bind fun r b hb ↦ ?_
    cases r with
    | ok snapshot => exact close_sound hb
    | error error =>
      exact .state_bind ((Discipline.Sound.publishing hb (by nofun)).bind fun _ _ hc ↦ close_sound hc)

end

end ServeDiscipline

/-- The assertions over the whole life of a coordinator: `failed` holds while its startup has
failed, and `retries` when it may be repeated. -/
structure ActorDiscipline (env : Environment Profile) extends ServeDiscipline Profile where
  failed : Actor Profile → Prop
  retries : Actor Profile → Prop
  visited_of_failed {a : Actor Profile} : failed a → visited a
  failed_settledOff {a : Actor Profile} {offer : ℕ} {failure : ReconciliationFailure} : failed a →
    a.startupFailure = some (offer, failure) → failure.safelyOff = true →
    failed (a.publishing settledOff)
  failed_shutdown {a : Actor Profile} {offer : ℕ} {failure : ReconciliationFailure} : failed a →
    a.startupFailure = some (offer, failure) →
    (failure.safelyOff = true ∨ a.state.nativeLease = none ∧ a.state.quarantine = none) →
    visited (a.publishing settledOff) ∧
      failed { a.publishing settledOff with closed := true }
  failed_close {a : Actor Profile} : failed a → failed { a with closed := true }
  startup_failed {a : Actor Profile} : retries a → (startup env).wp visited
      (fun _ b ↦ (b.startupFailure = none → sound b) ∧ (b.startupFailure ≠ none → failed b)) a

namespace ActorDiscipline

variable {D : ActorDiscipline env}

/-- The assertion between two inputs. -/
structure Kept (D : ActorDiscipline env) (a : Actor Profile) : Prop where
  sound : a.startupFailure = none → D.sound a
  failed : a.startupFailure ≠ none → D.failed a

theorem Kept.visited (h : D.Kept a) : D.visited a := by
  by_cases hf : a.startupFailure = none
  · exact D.visited_of_sound (h.sound hf)
  · exact D.visited_of_failed (h.failed hf)

theorem Kept.failed_of_repeatsStartup {i : Input Profile} {policy}
    (h : D.Kept a) (hi : i.repeatsStartup policy a = true) : D.failed a := by
  refine h.failed fun hnone ↦ ?_
  cases i <;> simp [Input.repeatsStartup, hnone] at hi

/-- What an input asks for: the assertion, or the permission to repeat the startup. -/
def Admits (D : ActorDiscipline env) (i : Input Profile) (a : Actor Profile) : Prop :=
  if i.repeatsStartup env.startupReconciliation a = true then D.retries a else D.Kept a

theorem Kept.admits {i} (h : D.Kept a)
    (hi : i.repeatsStartup env.startupReconciliation a = true → D.retries a) : D.Admits i a := by
  unfold Admits
  split
  · next hrepeats => exact hi hrepeats
  · exact h

theorem startup_kept (hr : D.retries a) : (startup env).wp D.visited (fun _ b ↦ D.Kept b) a :=
  wp_post (D.startup_failed hr) fun _ _ h ↦ ⟨h.1, h.2⟩

theorem kept_of_sound {x : Task Profile Empty α}
    (hx : D.Sound x a) (hframe : (startupFrame (· = none)).Sound x a) :
    x.wp D.visited (fun _ b ↦ D.Kept b) a := by
  refine wp_mono (wp_and hx hframe) (fun _ h ↦ h.1) fun r b hb ↦ ⟨fun _ ↦ hb.1, fun hne ↦ ?_⟩
  exact absurd hb.2 hne

theorem settleOff_wp {C Q} (hC : C (a.publishing settledOff))
    (hQ : ∀ r, Q r (a.publishing settledOff)) : settleOff.wp C Q a := by
  simp only [settleOff, wp_run, wp_publishing, wp_currentSnapshot]
  exact ⟨hC, hQ _⟩

variable {command : Command Profile}

theorem serveFailed_kept {offer failure}
    (hf : a.startupFailure = some (offer, failure)) (ha : D.failed a) :
    (serveFailed failure command).wp D.visited (fun _ b ↦ D.Kept b) a := by
  have hkept {b : Actor Profile} (hb : D.failed b) (hsome : b.startupFailure = a.startupFailure) :
      D.Kept b := by
    refine ⟨fun hnone ↦ ?_, fun _ ↦ hb⟩
    rw [hsome, hf] at hnone
    cases hnone
  unfold serveFailed
  rw [wp_state_bind]
  cases command with
  | setMode target _ _ _ _ =>
    dsimp only
    split
    · next h =>
      have hb := D.failed_settledOff ha hf (Bool.and_eq_true_iff.mp h).2
      exact settleOff_wp (D.visited_of_failed hb) fun _ ↦ hkept hb rfl
    · exact wp_pure.mpr (hkept ha rfl)
  | shutdown =>
    dsimp only
    split
    · next h =>
      obtain ⟨hv, hb⟩ := D.failed_shutdown ha hf (by
        simp only [Bool.or_eq_true, Bool.and_eq_true, Option.isNone_iff_eq_none] at h
        exact h.imp_right (·.1))
      refine wp_bind_of (settleOff_wp hv fun _ ↦ rfl) (fun e _ _ ↦ e.elim) ?_
      rintro reply b rfl
      refine wp_bind.mpr (wp_step.mpr ⟨D.visited_of_failed hb, ?_⟩)
      exact after_ok.mpr (wp_pure.mpr (hkept hb rfl))
    · exact wp_pure.mpr (hkept ha rfl)
  | _ => exact wp_pure.mpr (hkept ha rfl)

theorem reconcileStartup_kept {expected} (h : D.Admits (.command (.reconcileStartup expected)) a) :
    (reconcileStartup env expected).wp D.visited (fun _ b ↦ D.Kept b) a := by
  unfold reconcileStartup
  rw [wp_read_bind, id_eq]
  unfold Admits Input.repeatsStartup at h
  cases hf : a.startupFailure with
  | none =>
    rw [hf] at h
    exact wp_pure.mpr h
  | some failure =>
    rw [hf] at h
    dsimp only at h ⊢
    split at h
    · next hrepeats =>
      rw [if_pos hrepeats]
      refine wp_bind_of (startup_kept h) (fun _ _ h ↦ h) fun _ b hb ↦ ?_
      rw [wp_read_bind]
      split
      · exact wp_bind.mpr (wp_currentSnapshot.mpr (after_ok.mpr (wp_pure.mpr hb)))
      · exact wp_pure.mpr hb
    · next hkeeps =>
      rw [if_neg hkeeps]
      exact wp_pure.mpr h

theorem retryStartup_kept
    (h : if (!command.leavesStartup && a.startupFailure.any (·.2.allowsExplicitRetry)) = true then
      D.retries a else D.Kept a) : (retryStartup env command).wp D.visited (fun _ b ↦ D.Kept b) a := by
  unfold retryStartup
  rw [wp_read_bind]
  split at h
  · next hrepeats =>
    rw [if_pos hrepeats]
    exact startup_kept h
  · next hkeeps =>
    rw [if_neg hkeeps]
    exact wp_pure.mpr h

theorem serveReady_kept (ha : D.Kept a) (hf : a.startupFailure = none) :
    (serveReady env command).wp D.visited (fun _ b ↦ D.Kept b) a :=
  kept_of_sound (D.serveReady_sound (ha.sound hf)) ((startupFrame (· = none)).serveReady_sound hf)

theorem serveCommand_kept (h : D.Admits (.command command) a) :
    (serveCommand env command).wp D.visited (fun _ b ↦ D.Kept b) a := by
  cases command with
  | reconcileStartup expected => exact reconcileStartup_kept h
  | _ =>
    refine wp_bind_of (retryStartup_kept ?_) (fun _ _ h ↦ h) fun _ b hb ↦ ?_
    · cases hf : a.startupFailure <;> simpa [Admits, Input.repeatsStartup, hf] using h
    · rw [wp_read_bind]
      cases hf : b.startupFailure with
      | none => exact serveReady_kept hb hf
      | some failure => exact serveFailed_kept hf (hb.failed (by simp [hf]))

theorem serve_kept {i : Input Profile} (h : D.Admits i a) :
    (serve env i).wp D.visited (fun _ b ↦ D.Kept b) a := by
  cases i with
  | command command =>
    exact wp_bind_of (serveCommand_kept h) (fun _ _ h ↦ h) fun _ _ hb ↦ wp_pure.mpr hb
  | tick =>
    have ha : D.Kept a := by simpa [Admits, Input.repeatsStartup] using h
    by_cases hf : a.startupFailure = none
    · exact kept_of_sound (D.poll_sound (ha.sound hf)) ((startupFrame (· = none)).poll_sound hf)
    · obtain ⟨failure, hf'⟩ := Option.ne_none_iff_exists'.mp hf
      simp only [serve, poll, wp_run, hf']
      exact ha
  | hangup =>
    have ha : D.Kept a := by simpa [Admits, Input.repeatsStartup] using h
    by_cases hf : a.startupFailure = none
    · exact kept_of_sound (D.hangUp_sound (ha.sound hf)) ((startupFrame (· = none)).hangUp_sound hf)
    · obtain ⟨failure, hf'⟩ := Option.ne_none_iff_exists'.mp hf
      have hb := D.failed_close (ha.failed hf)
      simp only [serve, hangUp, wp_run, hf']
      exact wp_step.mpr ⟨D.visited_of_failed hb, fun hnone ↦ absurd hnone hf, fun _ ↦ hb⟩

/-- What the startup establishes and every allowed input keeps holds in every state reached. -/
theorem visited_of_reachedBy {platform generation allowed}
    (hinitial : D.visited (initial platform generation))
    (hstartup : (startup env).wp D.visited (fun _ b ↦ D.Kept b) (initial platform generation))
    (hallowed : ∀ a i, D.Kept a → a.closed = false → allowed a i →
      i.repeatsStartup env.startupReconciliation a = true → D.retries a)
    (h : ReachedBy env platform generation allowed a) : D.visited a := by
  cases h with
  | startup hcrash => exact hcrash.of_wp hinitial hstartup
  | @serving t s _ i hrun hopen hi hcrash =>
    have hkept : D.Kept s := by
      refine hrun.invariant (fun s hs ↦ ?_) fun s i s' hs hstep ↦ ?_
      · exact hs ▸ hstartup.2
      · rw [hstep.2.2]
        exact (serve_kept (hs.admits (hallowed s i hs hstep.2.1 hstep.1))).2
    exact hcrash.of_wp hkept.visited (serve_kept (hkept.admits (hallowed _ i hkept hopen hi)))

end ActorDiscipline

end CfwRs.Coordinator
