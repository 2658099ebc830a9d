import CfwRs.Coordinator.OffBarrier

namespace CfwRs.Coordinator

open Lib Lib.Durable

variable {Profile ε α : Type} {env : Environment Profile} {a : Actor Profile}

/-- A published Off leaves no lease and no quarantine behind. -/
def Clean (a : Actor Profile) : Prop :=
  a.published.state = .off → a.state.nativeLease = none ∧ a.state.quarantine = none

def cleanDiscipline : ServeDiscipline Profile where
  visited := Clean
  sound := Clean
  idle := Clean
  held _ := Clean
  visited_of_sound h := h
  sound_of_idle h := h
  sound_of_held h := h
  visited_record _ h := h
  sound_record _ h := h
  idle_record _ h := h
  sound_update h hl hq _ hoff := ⟨hl.trans (h hoff).1, hq.trans (h hoff).2⟩
  sound_publishing _ _ _ hs _ hoff := absurd hoff hs
  sound_quarantined _ _ hs _ hoff := absurd hoff hs
  sound_stop h _ _ := h
  visited_stopped h hoff := ⟨rfl, (h hoff).2⟩
  idle_off h := h
  idle_update h hl hq _ hoff := ⟨hl.elim id fun hl ↦ hl.trans (h hoff).1, hq.trans (h hoff).2⟩
  idle_publishing _ hl hq _ _ := ⟨hl, hq⟩
  idle_unleased h _ _ := h
  held_acquire _ _ hs _ hoff := absurd hoff hs
  held_publishing _ _ hs _ hoff := absurd hoff hs
  held_record h _ := h
  sound_commit h := h
  sound_close h := h

/-- What a startup asked whose last status query failed: that query alone, or after it had found a
runtime and stopped it. -/
inductive FailedQuery (older : List Exchange) : List Exchange → Prop
  | first (answer : (Request.backend .queryStatus).Answer) :
      FailedQuery older (⟨.backend .queryStatus, answer⟩ :: older)
  | afterStop {lease : NativeLease} {stop : Exchange}
      (found answer : (Request.backend .queryStatus).Answer)
      (hstop : stop.request = .backend lease.stopCall) :
      FailedQuery older (⟨.backend .queryStatus, answer⟩ :: stop ::
        ⟨.backend .queryStatus, found⟩ :: older)

/-- What a failed startup leaves: a failed query left no lease and nothing published as Off, and
what is safely off is clean. -/
structure FailureInfo (start : Actor Profile) (failure : ReconciliationFailure)
    (a : Actor Profile) : Prop where
  query : isQueryStatusFailure failure.error = true →
    (start.state.nativeLease = none → a.state.nativeLease = none) ∧ a.published.state ≠ .off ∧
      FailedQuery start.history a.history
  safelyOff : failure.safelyOff = true → a.state.nativeLease = none ∧
    (start.state.quarantine = none → a.state.quarantine = none) ∧
      isQueryStatusFailure failure.error = false

theorem FailureInfo.of_other {start failure}
    (hquery : isQueryStatusFailure failure.error = false) (hoff : failure.safelyOff = false) :
    FailureInfo start failure a :=
  ⟨fun h ↦ absurd (hquery.symm.trans h) nofun, fun h ↦ absurd (hoff.symm.trans h) nofun⟩

section Startup

variable {kind : RecoveredRuntimeKind} {runtime : RuntimeIdentity} {start : Actor Profile}

/-- How a startup ends, as far as the failure that it reports is concerned. -/
def Informed (start : Actor Profile) (r : Except ReconciliationFailure Unit) (b : Actor Profile) :
    Prop := ∀ failure, r = .error failure → FailureInfo start failure b

theorem failStartup_informed {failure}
    (h : FailureInfo start failure (a.publishing (CoordinatorState.failed env.display kind.mode
      runtime.context.generation failure.error))) :
    (failStartup env kind runtime failure).wp (fun _ ↦ True) (Informed start) a := by
  refine wp_bind.mpr (wp_publishing.mpr ⟨trivial, after_ok.mpr (wp_fail.mpr ?_)⟩)
  rintro _ ⟨⟩
  exact h

variable {found : (Request.backend .queryStatus).Answer}

theorem cleanupRuntime_informed {validation}
    (hvalidation : ∀ e, validation = .error e → isQueryStatusFailure e = false) :
    (cleanupRuntime env kind runtime validation).wp (fun _ ↦ True) (Informed start)
      (start.record ⟨.backend .queryStatus, found⟩) := by
  refine wp_bind.mpr (wp_update.mpr ⟨trivial, after_ok.mpr ?_⟩)
  refine wp_catching_bind (anyDiscipline.stopOwnedRuntime_wp trivial) fun r b hb ↦ ?_
  cases r with
  | error e =>
    dsimp only
    split
    · exact failStartup_informed (.of_other rfl rfl)
    · exact failStartup_informed (.of_other hb.2.2 rfl)
  | ok u =>
    refine wp_catching_bind (anyDiscipline.proveGlobalOff_wp trivial) fun r c hc ↦ ?_
    cases r with
    | error proofError =>
      cases validation with
      | ok u =>
        obtain ⟨answer, hc⟩ := hc
        obtain ⟨stop, hstop, hhistory⟩ := hb.called rfl
        refine wp_fail.mpr ?_
        rintro _ ⟨⟩
        refine ⟨fun _ ↦ ⟨fun _ ↦ hc.lease.trans hb.lease, hc.published, ?_⟩, nofun⟩
        rw [hc.history, Actor.record, hhistory]
        exact .afterStop found answer hstop
      | error validationError => exact failStartup_informed (.of_other rfl rfl)
    | ok u =>
      cases validation with
      | ok u => exact wp_publishing.mpr ⟨trivial, nofun⟩
      | error error =>
        have herror := hvalidation error rfl
        refine failStartup_informed ⟨fun h ↦ absurd (herror.symm.trans h) nofun, fun _ ↦ ?_⟩
        exact ⟨hc.lease.trans hb.lease, (hc.quarantine.trans hb.quarantine).trans, herror⟩

theorem isQueryStatusFailure_mismatched {mismatch e} (h : mismatched runtime mismatch = .error e) :
    isQueryStatusFailure e = false := by
  cases mismatch with
  | none => cases h
  | some mismatch =>
    rw [← Except.error.inj h]
    rfl

theorem cleanupObserved_informed {expectedGeneration} :
    (cleanupObserved env expectedGeneration kind runtime).wp (fun _ ↦ True) (Informed start)
      (start.record ⟨.backend .queryStatus, found⟩) := by
  unfold cleanupObserved
  cases env.startupReconciliation with
  | cleanupKnownLineage =>
    exact cleanupRuntime_informed fun _ ↦ isQueryStatusFailure_mismatched
  | cleanupWithoutLineage =>
    exact cleanupRuntime_informed fun _ ↦ isQueryStatusFailure_mismatched

theorem reconcileInitialState_informed :
    (reconcileInitialState env).wp (fun _ ↦ True) (Informed a) a := by
  unfold reconcileInitialState
  rw [wp_state_bind, wp_bind]
  refine wp_callBackend fun answer ↦ ⟨trivial, ?_⟩
  have hfailed (source : BackendError) : (do
      setFailed env .off a.state.snapshot.generation (.backend .queryStatus source)
      fail ⟨.backend .queryStatus source, false⟩ : Task Profile ReconciliationFailure Unit).wp
      (fun _ ↦ True) (Informed a) (a.record ⟨.backend .queryStatus, answer⟩) := by
    refine wp_bind.mpr (wp_publishing.mpr ⟨trivial, after_ok.mpr (wp_fail.mpr ?_)⟩)
    rintro _ ⟨⟩
    exact ⟨fun _ ↦ ⟨id, nofun, .first answer⟩, nofun⟩
  rcases answer with _ | source | status
  · exact hfailed _
  · exact hfailed source
  · cases status with
    | off => exact wp_publishing.mpr ⟨trivial, nofun⟩
    | localProxy runtime => exact cleanupObserved_informed
    | systemProxy runtime => exact cleanupObserved_informed
    | tunnel runtime => exact cleanupObserved_informed

/-- The condition under which a startup is clean: nothing is held, quarantined or published as
Off. -/
structure Fresh (a : Actor Profile) : Prop where
  lease : a.state.nativeLease = none
  quarantine : a.state.quarantine = none
  published : a.published.state ≠ .off

/-- What holds after a startup that failed, until the coordinator ends. -/
structure FailedClean (a : Actor Profile) : Prop where
  clean : Clean a
  query {offer : ℕ} {failure : ReconciliationFailure} : a.closed = false →
    a.startupFailure = some (offer, failure) → isQueryStatusFailure failure.error = true →
    a.state.nativeLease = none ∧ a.published.state ≠ .off
  safelyOff {offer : ℕ} {failure : ReconciliationFailure} :
    a.startupFailure = some (offer, failure) → failure.safelyOff = true →
    a.state.nativeLease = none ∧ a.state.quarantine = none ∧
      isQueryStatusFailure failure.error = false

theorem startup_clean (ha : Fresh a) : (startup env).wp Clean
      (fun _ b ↦ (b.startupFailure = none → Clean b) ∧ (b.startupFailure ≠ none → FailedClean b))
      a := by
  have hsound : cleanDiscipline.Sound (reconcileInitialState env) a := by
    refine reconcileInitialState_sound (fun h ↦ absurd h ha.published) ?_ ?_ ?_
    · intro kind runtime b _ _ hpublished hoff
      exact absurd (hpublished ▸ hoff) ha.published
    · intro b _ hstate _
      exact ⟨(congrArg _ hstate).trans ha.lease, (congrArg _ hstate).trans ha.quarantine⟩
    · intro b _ hlease hquarantine _
      exact ⟨hlease, hquarantine.trans ha.quarantine⟩
  refine wp_catching_bind (wp_and_any hsound reconcileInitialState_informed) fun r b hb ↦ ?_
  obtain ⟨hclean, hinfo⟩ := hb
  cases r with
  | ok u => exact wp_step.mpr ⟨hclean, fun _ ↦ hclean, fun hne ↦ absurd rfl hne⟩
  | error failure =>
    have hfailure {offer failure'} (hf : some (b.attempts, failure) = some (offer, failure')) :
        FailureInfo a failure' b := by
      obtain ⟨-, rfl⟩ := Prod.mk.inj (Option.some.inj hf)
      exact hinfo failure rfl
    refine wp_step.mpr ⟨hclean, nofun, fun _ ↦ ⟨hclean, fun _ hf hquery ↦ ?_, fun hf hoff ↦ ?_⟩⟩
    · obtain ⟨hl, hpublished, -⟩ := (hfailure hf).query hquery
      exact ⟨hl ha.lease, hpublished⟩
    · obtain ⟨hl, hq, hother⟩ := (hfailure hf).safelyOff hoff
      exact ⟨hl, hq ha.quarantine, hother⟩

end Startup

/-- A failed startup stays clean as long as it is repeated without a quarantine. -/
def cleanOffDiscipline (env : Environment Profile) : ActorDiscipline env where
  toServeDiscipline := cleanDiscipline
  failed := FailedClean
  retries := Fresh
  visited_of_failed h := h.clean
  failed_settledOff := by
    intro a offer failure h hf hoff
    obtain ⟨hl, hq, hother⟩ := h.safelyOff hf hoff
    refine ⟨fun _ ↦ ⟨hl, hq⟩, fun _ hf' hquery ↦ ?_, h.safelyOff⟩
    obtain ⟨-, rfl⟩ := Prod.mk.inj (Option.some.inj (hf.symm.trans hf'))
    exact absurd (hother.symm.trans hquery) nofun
  failed_shutdown := by
    intro a offer failure h hf hoff
    have hclean : a.state.nativeLease = none ∧ a.state.quarantine = none :=
      hoff.elim (fun hoff ↦ (h.safelyOff hf hoff).imp id And.left) id
    exact ⟨fun _ ↦ hclean, fun _ ↦ hclean, nofun, h.safelyOff⟩
  failed_close h := ⟨h.clean, nofun, h.safelyOff⟩
  startup_failed := startup_clean

/-- Only a startup whose status query failed is repeated. -/
theorem exists_query_of_repeatsStartup {i : Input Profile} {policy}
    (h : i.repeatsStartup policy a = true) : ∃ offer failure,
      a.startupFailure = some (offer, failure) ∧ isQueryStatusFailure failure.error = true := by
  have hquery {failure : ReconciliationFailure}
      (hf : (isCleanupUnprovenQuery failure.error || failure.allowsExplicitRetry) = true) :
      isQueryStatusFailure failure.error = true := by
    unfold ReconciliationFailure.allowsExplicitRetry at hf
    revert hf
    cases failure.error with
    | backend operation source =>
      cases operation <;> simp [isCleanupUnprovenQuery, isQueryStatusFailure]
    | _ => exact nofun
  unfold Input.repeatsStartup at h
  split at h
  next offer failure hf =>
    rw [Bool.and_eq_true, ReconciliationFailure.allowsServiceReconciliation, Bool.and_eq_true] at h
    exact ⟨offer, failure, hf, hquery h.2.2⟩
  next c offer failure _ hf =>
    rw [Bool.and_eq_true] at h
    exact ⟨offer, failure, hf, hquery (by rw [h.2, Bool.or_true])⟩
  next => cases h

/-- Off is clean in every state that a coordinator comes to, as long as no failed startup is
repeated under a quarantine. -/
theorem off_is_clean {platform : EngineRuntimePlatform} {generation : UInt64}
    (h : ReachedBy env platform generation (fun a i ↦
      i.repeatsStartup env.startupReconciliation a = true → a.state.quarantine = none) a)
    (hoff : a.published.state = .off) : a.state.nativeLease = none ∧ a.state.quarantine = none := by
  have hinitial : Fresh (initial platform generation : Actor Profile) := ⟨rfl, rfl, nofun⟩
  refine (cleanOffDiscipline env).visited_of_reachedBy (fun h ↦ absurd h hinitial.published)
    (wp_post (startup_clean hinitial) fun _ _ h ↦ ⟨h.1, h.2⟩) ?_ h hoff
  intro b i hkept hopen hallowed hrepeats
  obtain ⟨offer, failure, hf, hquery⟩ := exists_query_of_repeatsStartup hrepeats
  obtain ⟨hl, hpublished⟩ := (hkept.failed_of_repeatsStartup hrepeats).query hopen hf hquery
  exact ⟨hl, hallowed hrepeats, hpublished⟩

def stoppedProxy : Actor Unit :=
  (serve (plainEnvironment compliantWorld) (switchTo .off)).final
    ((serve (plainEnvironment compliantWorld) (switchTo .localProxy)).final
      ((startup (plainEnvironment compliantWorld)).final (initial .macOs 0)))

theorem off_is_clean_stoppedProxy : stoppedProxy.published.state = .off ∧
    stoppedProxy.state.nativeLease = none ∧ stoppedProxy.state.quarantine = none := by
  have hstart : Started (plainEnvironment compliantWorld) .macOs 0
      ((startup (plainEnvironment compliantWorld)).final (initial .macOs 0)) := rfl
  refine ⟨rfl, off_is_clean (.serving (switchTo .off)
    (.step (i := switchTo .localProxy) (.start hstart) ⟨nofun, rfl, rfl⟩) rfl nofun crash_final)
    rfl⟩

def slowWorld (history : List Exchange) : (r : Request) → r.Answer
  | .backend .queryStatus =>
    match history.length with
    | 0 => some (.ok (.localProxy ⟨.proxyAgent, .new plainSession 3,
        "0000000000000000000000000000000000000000000000000000000000000000", true⟩))
    | 2 => none
    | _ => some (.ok .off)
  | r => compliantWorld history r

def repeatedStartup : Actor Unit :=
  (serve (plainEnvironment slowWorld) (switchTo .systemProxy)).final
    ((startup (plainEnvironment slowWorld)).final (initial .macOs 3))

theorem quarantined_at_off : ∃ a : Actor Unit,
    Reached (plainEnvironment slowWorld) .macOs 3 a ∧ a.published.state = .off ∧
      a.state.quarantine ≠ none := by
  have hstart : Started (plainEnvironment slowWorld) .macOs 3
      ((startup (plainEnvironment slowWorld)).final (initial .macOs 3)) := rfl
  exact ⟨repeatedStartup, .serving (switchTo .systemProxy) (.start hstart) rfl trivial crash_final,
    rfl, nofun⟩

end CfwRs.Coordinator
