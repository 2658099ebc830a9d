import CfwRs.ProxySession.Operations

namespace CfwRs.ProxySession

open Lib Lib.Durable MacProxy
open Relation (ReflTransGen)

variable {deps : Dependencies} {s : Proxy} {session : Session} {completion : Completion}

section Stop

theorem Sound.of_keeps {t} (h : Sound s) (ht : Core t) (hk : Keeps s t) : Sound t :=
  ⟨ht, h.consistent.keeps hk⟩

theorem wp_stopWhileSpent {failure} (h : Sound s)
    (hnew : s.agent.startCompletion ≠ some completion) :
    Settles (stopWhileSpent deps failure completion) s := by
  refine wp_bind_done (wp_restoreOwnedPreferences h.toCore) fun _ t ⟨ht, hk⟩ ↦ ?_
  have hsound := h.of_keeps ht hk
  refine wp_bind_done (wp_finish hsound (hk.startCompletion ▸ hnew)) fun _ u hu ↦ ?_
  rw [wp_read_bind]
  split
  · exact wp_endProcessUnlessSettingsRemain hu
  · exact wp_pure.mpr hu

variable {expected : ConfigurationDescriptor}

section

variable (h : Sound s)
include h

theorem wp_stopWithoutSession (hs : s.agent.session = none)
    (hnew : s.agent.startCompletion ≠ some completion) :
    Settles (stopWithoutSession expected completion) s := by
  rw [Settles, stopWithoutSession, wp_read_bind]
  split
  · next hknown =>
    -- A stop that is remembered was not one of an agent whose recovery is blocked.
    have hblock : s.agent.recoveryBlock = none := by
      cases hb : s.agent.recoveryBlock with
      | none => rfl
      | some block =>
        obtain ⟨-, hstopped, hfailed, -⟩ := h.consistent.blocked (by simp [hb])
        simp [hstopped, hfailed] at hknown
    refine wp_onAgent_bind h.persistent rfl fun _ ↦ wp_finish ⟨h.toCore.withAgent rfl rfl rfl,
      h.consistent.idle, h.consistent.starting, h.consistent.pending, h.consistent.fresh,
      fun _ ↦ hs, ?_⟩ hnew
    simp [hblock]
  · exact wp_finish h hnew

theorem wp_stopSession (hs : s.agent.session = some session) :
    Settles (stopSession deps session completion) s := by
  have hblock := h.recoveryBlock hs
  refine wp_onAgent_bind h.persistent rfl fun hp ↦ wp_onAgent_bind hp rfl fun _ ↦ ?_
  refine wp_takeStartCompletion_bind (h.toCore.withAgent rfl rfl rfl) (by simp [hs]) nofun nofun hblock
    fun c t ht hnone hst ↦ ?_
  refine wp_bind_done (wp_finishOptional ht hnone) fun _ u ⟨hu, hnone, hsu⟩ ↦ ?_
  have hcurrent : u.agent.session = some session := hsu.trans (hst.trans hs)
  refine wp_bind_done (wp_acquireCleanupLeaseIfNeeded hu.toCore) fun errors v ⟨hv, hkv⟩ ↦ ?_
  refine wp_bind_done (wp_restoreUnlessFailed hv errors) fun errors' w ⟨hw, hkw⟩ ↦ ?_
  refine wp_bind_done (wp_stopEngine hw) fun unclosable x ⟨hx, hkx⟩ ↦ ?_
  have hkeeps := (hkv.trans hkw).trans hkx
  obtain ⟨y, hy⟩ := hkeeps.exists_session hcurrent
  have hb := hkeeps.recoveryBlock.trans (hu.recoveryBlock hcurrent)
  cases unclosable with
  | some failure => exact wp_becomeSpent hx hy hb
  | none =>
    refine wp_bind_done (wp_releaseLeaseIfFullyClean hx) fun errors'' z ⟨hz, hkz⟩ ↦ ?_
    obtain ⟨y', hy'⟩ := hkz.exists_session hy
    exact wp_endStop hz hy' ((hkeeps.trans hkz).startCompletion.trans hnone)
      (hkz.recoveryBlock.trans hb)

theorem wp_performStop (hnew : s.agent.startCompletion ≠ some completion) :
    Settles (performStop deps expected completion) s := by
  rw [Settles, performStop, wp_read_bind]
  split
  · split
    · exact wp_stopWhileSpent h hnew
    · next hs _ => exact wp_stopWithoutSession h hs hnew
    · next session hs _ =>
      split
      · exact wp_stopSession h hs
      · exact wp_finish h hnew
  · exact wp_finish h hnew

theorem wp_restoreSettingsBeforeStop (hnew : s.agent.startCompletion ≠ some completion) :
    Settles (restoreSettingsBeforeStop deps expected completion) s := by
  rw [Settles, restoreSettingsBeforeStop, wp_read_bind]
  split
  · refine wp_bind_done (wp_restoreOwnedPreferences h.toCore) fun errors t ht ↦ ?_
    obtain ⟨ht, hk⟩ := ht
    have hsound := h.of_keeps ht hk
    split <;> exact wp_finish hsound (hk.startCompletion ▸ hnew)
  · exact wp_finish h hnew

theorem wp_restoreSettingsAfterAuthorization :
    Settles (restoreSettingsAfterAuthorization deps) s := by
  rw [Settles, restoreSettingsAfterAuthorization, wp_read_bind]
  split
  · exact wp_pure.mpr h
  · next session hs =>
    split
    · split
      · refine wp_bind_done (wp_restoreOwnedPreferences h.toCore) fun errors t ht ↦ ?_
        exact wp_endProcessUnlessSettingsRemain (h.of_keeps ht.1 ht.2)
      · next id hlifecycle =>
        split
        · next hengine =>
          have hstart : s.agent.startCompletion = none := by
            have hstarting := h.consistent.starting
            simpa [hlifecycle] using hstarting
          exact wp_cleanUpSessionWithoutEngine h.toCore hs hstart (h.recoveryBlock hs)
            (by simpa using (Bool.and_eq_true_iff.mp hengine).2)
        · exact wp_pure.mpr h
      · exact wp_pure.mpr h
    · exact wp_pure.mpr h

theorem wp_endProcessIfIdle : Settles endProcessIfIdle s := by
  rw [Settles, endProcessIfIdle, wp_read_bind]
  split
  · exact wp_onAgent h.persistent rfl ⟨h.toCore.withAgent rfl rfl rfl, h.consistent.idle,
      h.consistent.starting, h.consistent.pending, h.consistent.fresh, h.consistent.off,
      h.consistent.blocked⟩
  · exact wp_pure.mpr h

theorem wp_retire {failure} : Settles (retire failure) s := by
  rw [Settles, retire, onAgent, wp_step]
  split
  · have hcore : Core { s with agent := { s.agent with libboxAccess := .retired failure } } :=
      h.toCore.withAgent rfl rfl rfl
    exact ⟨hcore.persistent, hcore, h.consistent.idle, h.consistent.starting, h.consistent.pending,
      h.consistent.fresh, h.consistent.off, h.consistent.blocked⟩
  · exact ⟨h.persistent, h⟩

end

end Stop

theorem wp_newCompletion_bind {α : Type} {k} {Q : α → Proxy → Prop}
    (h : Sound s) (hk : ∀ c t, Sound t → t.agent.startCompletion ≠ some c → c ∈ t.agent.handlers →
      (k c).wp Persistent (done Q) t) : (newCompletion >>= k).wp Persistent (done Q) s := by
  have hh := h.persistent.handlers
  have hfresh : s.nextCompletion ∉ s.agent.handlers := fun hmem ↦
    Nat.lt_irrefl _ (hh.created _ hmem)
  have hp : Persistent { s with
      nextCompletion := s.nextCompletion + 1
      agent := { s.agent with handlers := s.nextCompletion :: s.agent.handlers } } := by
    refine ⟨h.persistent.recorded, h.persistent.released, List.nodup_cons.mpr ⟨hfresh, hh.pending⟩,
      fun c hc ↦ ?_, hh.called, fun c hc ↦ ?_⟩
    · rcases List.mem_cons.mp hc with rfl | hc
      · exact Nat.lt_succ_self _
      · exact Nat.lt_succ_of_lt (hh.created c hc)
    · obtain ⟨hlt, hnot⟩ := hh.spent c hc
      refine ⟨Nat.lt_succ_of_lt hlt, fun hmem ↦ ?_⟩
      rcases List.mem_cons.mp hmem with rfl | hmem
      · exact Nat.lt_irrefl _ hlt
      · exact hnot hmem
  rw [newCompletion, wp_bind, wp_exchange]
  refine ⟨hp, hk _ _ ⟨⟨hp, h.owns⟩, h.consistent.idle, h.consistent.starting, fun c hc ↦ ?_,
    h.consistent.fresh, h.consistent.off, h.consistent.blocked⟩ (fun hc ↦ ?_) List.mem_cons_self⟩
  · exact List.mem_cons_of_mem _ (h.consistent.pending c hc)
  · exact hfresh (h.consistent.pending _ hc)

/-- Every operation leaves a sound agent, and no moment of it leaves settings without a journal. -/
theorem wp_perform (h : Sound s) (operation : Operation) : Settles (perform deps operation) s := by
  cases operation with
  | start descriptor =>
    exact wp_newCompletion_bind h fun c t ht hnew hc ↦ wp_beginStart ht hnew hc
  | stop expected => exact wp_newCompletion_bind h fun c t ht hnew _ ↦ wp_performStop ht hnew
  | restoreSettingsBeforeStop expected =>
    exact wp_newCompletion_bind h fun c t ht hnew _ ↦ wp_restoreSettingsBeforeStop ht hnew
  | restoreSettingsAfterAuthorization => exact wp_restoreSettingsAfterAuthorization h
  | snapshot => exact wp_observeHealth h
  | readinessTimeout id => exact wp_readinessTimedOut h
  | retire failure => exact wp_retire h
  | endProcess => exact wp_endProcessIfIdle h
  | engineEvent event id =>
    rw [Settles, perform, wp_bind, wp_step]
    cases event with
    | mixedListenerReady => exact ⟨h.persistent, wp_handleEngineEvent h (by simp)⟩
    | failed code message =>
      have hp : Persistent { s with running := s.running.erase id } :=
        h.persistent.of_same
      have howns : Owns { s with running := s.running.erase id } := by
        cases hs : s.agent.session with
        | none =>
          have hnone := h.owns
          simp only [Owns, hs] at hnone ⊢
          exact ⟨by simp [hnone.1], hnone.2⟩
        | some session =>
          obtain ⟨hrunning, hrest⟩ := h.owns.of_session hs
          refine owns_of_session hs ⟨?_, hrest⟩
          rcases hrunning with hr | ⟨he, hr⟩
          · exact .inl (by simp [hr])
          · by_cases hid : session.id = id
            · exact .inl (by simp [hr, hid])
            · exact .inr ⟨he, by simp [hr, hid]⟩
      refine ⟨hp, wp_handleEngineEvent ⟨⟨hp, howns⟩, h.consistent⟩ fun _ _ _ x hx hid ↦ ?_⟩
      obtain ⟨hrunning, -⟩ := h.owns.of_session hx
      rcases hrunning with hr | ⟨-, hr⟩
      · simp [hr]
      · simp [hr, hid]

/-- A process that has not looked at what the last one left. -/
structure Launching (s : Proxy) : Prop where
  persistent : Persistent s
  agent : s.agent = .new
  running : s.running = []
  leases : s.leases = 0

theorem Persistent.restarted (h : Persistent s) : Launching s.restarted :=
  ⟨⟨h.recorded, h.released, ⟨List.nodup_nil, nofun, h.handlers.called,
    fun c hc ↦ ⟨(h.handlers.spent c hc).1, nofun⟩⟩⟩, rfl, rfl, rfl⟩

theorem wp_recoverPersistedOwnership (h : Launching s) :
    Settles (recoverPersistedOwnership deps) s := by
  unfold recoverPersistedOwnership
  split
  · refine wp_onAgent_bind h.persistent rfl fun hp ↦ wp_onAgent hp rfl ⟨⟨hp.of_same, ?_⟩, ?_⟩
    · simp [Owns, h.agent, Agent.new, h.running, h.leases]
    · simp only [h.agent, Agent.new]
      constructor <;> simp
  · rw [Settles, wp_read_bind]
    cases hj : s.journal with
    | none =>
      refine wp_pure.mpr ⟨⟨h.persistent, ?_⟩, ?_⟩
      · have happlied : s.applied = none := by
          cases ha : s.applied with
          | none => rfl
          | some settings =>
            obtain ⟨journal, hstored, -⟩ := h.persistent.recorded settings ha
            simp [hj] at hstored
        simp [Owns, h.agent, Agent.new, h.running, h.leases, hj, happlied]
      · simp only [h.agent, Agent.new]
        constructor <;> simp
    | some journal =>
      rw [wp_bind, wp_exchange]
      have hp : Persistent { s with nextSession := s.nextSession + 1 } :=
        h.persistent.of_same
      refine ⟨hp, wp_onAgent_bind hp rfl fun hp ↦ ?_⟩
      refine wp_cleanUpSessionWithoutEngine ⟨hp, owns_of_session rfl
        ⟨.inl h.running, by simpa using h.leases, hj⟩⟩ rfl ?_ ?_ rfl
      · simp [h.agent, Agent.new]
      · simp [h.agent, Agent.new]

def ProcessSound : Process → Prop
  | .launching s => Launching s
  | .serving s => Sound s

theorem final_of_done {α : Type} {x : Work α} {P}
    (h : x.wp Persistent (done P) s) : ∃ a, P a (x.final s) := by
  have hQ := h.2
  cases hr : (x s).result with
  | ok a =>
    rw [hr] at hQ
    exact ⟨a, hQ⟩
  | error e =>
    rw [hr] at hQ
    exact hQ.elim

theorem Turn.sound {p q : Process} (h : Turn p q) (hp : ProcessSound p) : ProcessSound q := by
  cases h with
  | launch deps =>
    obtain ⟨_, hsound⟩ := final_of_done (wp_recoverPersistedOwnership hp)
    exact hsound
  | perform deps operation =>
    obtain ⟨_, hsound⟩ := final_of_done (wp_perform hp operation)
    exact hsound
  | crashLaunching deps hcrash =>
    exact (hcrash.of_wp hp.persistent (wp_recoverPersistedOwnership hp)).restarted
  | crash deps operation hcrash =>
    exact (hcrash.of_wp (Core.persistent (Sound.toCore hp)) (wp_perform hp operation)).restarted

theorem sound_of_run {p} (h : ReflTransGen Turn (.launching .start) p) : ProcessSound p := by
  induction h with
  | refl =>
    refine ⟨⟨nofun, nofun, ⟨List.nodup_nil, nofun, List.nodup_nil, nofun⟩⟩, rfl, rfl, rfl⟩
  | tail _ hturn ih => exact hturn.sound ih

/-- The states of a run, also those in the middle of an operation. -/
inductive Moment : Proxy → Prop
  | launching {s t : Proxy} (deps : Dependencies)
      (hrun : ReflTransGen Turn (.launching .start) (.launching s))
      (hcrash : Crash (recoverPersistedOwnership deps) s t) : Moment t
  | serving {s t : Proxy} (deps : Dependencies) (operation : Operation)
      (hrun : ReflTransGen Turn (.launching .start) (.serving s))
      (hcrash : Crash (perform deps operation) s t) : Moment t

theorem Moment.persistent (h : Moment s) : Persistent s := by
  cases h with
  | launching deps hrun hcrash =>
    have hlaunching : Launching _ := sound_of_run hrun
    exact hcrash.of_wp hlaunching.persistent (wp_recoverPersistedOwnership hlaunching)
  | serving deps operation hrun hcrash =>
    have hsound : Sound _ := sound_of_run hrun
    exact hcrash.of_wp hsound.persistent (wp_perform hsound operation)

theorem Sound.nothing_owned (h : Sound s) (hoff : s.agent.currentSnapshot = .off) :
    s.agent.session = none ∧ s.running = [] ∧ s.leases = 0 ∧ s.applied = none := by
  have hsession := h.consistent.off hoff
  have howns := h.owns
  simp only [Owns, hsession] at howns
  have hblock : s.agent.recoveryBlock = none := by
    cases hb : s.agent.recoveryBlock with
    | none => rfl
    | some block => exact absurd hoff (h.consistent.blocked (by simp [hb])).2.2.2
  exact ⟨hsession, howns.1, howns.2.1, (howns.2.2 hblock).2⟩

/-- Whatever the dependencies answer and wherever the agent process ends, its Off says that nothing
is left: no session, no engine, no lease and no settings. At every moment applied settings have a
stored journal that records them, a lease was released only without an engine and without a journal,
and no handler was called twice; the handler of a start is pending exactly while one runs. -/
theorem off_is_truthful : (∀ s, ReflTransGen Turn (.launching .start) (.serving s) →
      (s.agent.currentSnapshot = .off →
        s.agent.session = none ∧ s.running = [] ∧ s.leases = 0 ∧ s.applied = none) ∧
      (s.agent.startCompletion.isSome ↔ ∃ id, s.agent.lifecycle = .starting id) ∧
      ∀ c, s.agent.startCompletion = some c → c ∉ s.calls.map Prod.fst) ∧ ∀ s, Moment s →
      (∀ settings, s.applied = some settings →
        ∃ journal, s.journal = some journal ∧ records journal settings = true) ∧
      (∀ release ∈ s.releases, release.running = [] ∧ release.journal = none) ∧
      (s.calls.map Prod.fst).Nodup := by
  refine ⟨fun s hrun ↦ ?_, fun s hs ↦ ?_⟩
  · have hsound : Sound s := sound_of_run hrun
    refine ⟨hsound.nothing_owned, hsound.consistent.starting, fun c hc hcalled ↦ ?_⟩
    exact (hsound.persistent.handlers.spent c hcalled).2 (hsound.consistent.pending c hc)
  · have hp := hs.persistent
    exact ⟨hp.recorded, hp.released, hp.handlers.called⟩

def grantingDependencies : Dependencies where
  requireAuthorization := .ok ()
  prepareOwnership := .ok ()
  resolveConfiguration := .ok ()
  makeEngine := .ok ()
  startEngine := .ok ()
  stopEngine := .ok ()
  healthCheck := .ok ()
  prepareJournal := .error (.other "")
  apply := .ok ()
  applies := true
  restore := .ok ⟨[], []⟩
  restores := true
  loadJournal := .ok ()
  savePrepared := .ok ()
  saveApplied := .ok ()
  removeJournal := .ok ()
  releaseLease := .ok ()
  recoverCleanupLease := .ok ()
  describing _ := ""
  journalInvalid := ""

def stoppedProxy : Proxy :=
  let ready := (perform grantingDependencies (.engineEvent .mixedListenerReady 0)).final
    ((perform grantingDependencies (.start ⟨.localProxy, ""⟩)).final
      ((recoverPersistedOwnership grantingDependencies).final .start))
  (perform grantingDependencies (.stop ⟨.localProxy, ""⟩)).final ready

theorem stopped_off_is_truthful :
    stoppedProxy.releases = [⟨[], none⟩] ∧ stoppedProxy.agent.currentSnapshot = .off ∧
      stoppedProxy.agent.session = none ∧ stoppedProxy.running = [] ∧ stoppedProxy.leases = 0 ∧
      stoppedProxy.applied = none := by
  have hrun : ReflTransGen Turn (.launching .start) (.serving stoppedProxy) :=
    .head (.launch grantingDependencies) <|
      .head (.perform grantingDependencies (.start ⟨.localProxy, ""⟩)) <|
      .head (.perform grantingDependencies (.engineEvent .mixedListenerReady 0)) <|
      .single (.perform grantingDependencies (.stop ⟨.localProxy, ""⟩))
  exact ⟨rfl, rfl, (off_is_truthful.1 stoppedProxy hrun).1 rfl⟩

end CfwRs.ProxySession
