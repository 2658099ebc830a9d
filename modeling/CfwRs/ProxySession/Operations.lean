import CfwRs.ProxySession.Turns

namespace CfwRs.ProxySession

open Lib Lib.Durable MacProxy

variable {deps : Dependencies} {s : Proxy} {session : Session} {completion : Completion}

theorem Sound.recoveryBlock (h : Sound s) (hs : s.agent.session = some session) :
    s.agent.recoveryBlock = none := by
  cases hb : s.agent.recoveryBlock with
  | none => rfl
  | some block =>
    have hnone := (h.consistent.blocked (by simp [hb])).1
    rw [hs] at hnone
    cases hnone

theorem Consistent.keeps {t} (h : Consistent s.agent) (hk : Keeps s t) : Consistent t.agent := by
  have hsession : t.agent.session = none ↔ s.agent.session = none := by
    have hmap := hk.session
    constructor
    · intro ht
      simpa [ht] using hmap.symm
    · intro hs
      simpa [hs] using hmap
  rw [hk.agent]
  refine ⟨hsession.trans h.idle, h.starting, h.pending, fun id y hid hy ↦ ?_,
    fun hoff ↦ hsession.mpr (h.off hoff), fun hb ↦ ⟨hsession.mpr (h.blocked hb).1, (h.blocked hb).2⟩⟩
  by_contra hne
  obtain ⟨x, hx, hj⟩ := hk.journal y hy (Option.isSome_iff_ne_none.mpr hne)
  simp [h.fresh id x hid hx] at hj

section Start

theorem wp_failStartWithoutOwnedSession {error}
    {configuration} (h : Core s) (hs : s.agent.session = none)
    (hblock : s.agent.recoveryBlock = none) :
    Settles (failStartWithoutOwnedSession error configuration completion) s := by
  refine wp_onAgent_bind h.persistent rfl fun hp ↦ wp_onAgent_bind hp rfl fun _ ↦ ?_
  refine wp_finish ⟨h.withAgent rfl rfl rfl, ?_, ?_, nofun, nofun, nofun, ?_⟩ nofun
  · simp [hs]
  · simp
  · simp [hblock]

theorem wp_effect {α : Type} {answer} {error}
    {f} {Q : Except SessionError α → Proxy → Prop} (hp : Persistent (f s))
    (hok : ∀ a, answer = .ok a → Q (.ok a) (f s)) (herror : ∀ detail, Q (.error (error detail)) s) :
    (effect answer error f).wp Persistent Q s := by
  unfold effect
  split
  · next a =>
    simp only [wp_run, wp_step]
    exact ⟨hp, hok a rfl⟩
  · next detail => exact wp_attempt.mpr (herror detail)

variable {descriptor : ConfigurationDescriptor}

theorem wp_prepareStart (h : Persistent s) : (prepareStart deps descriptor).wp Persistent
      (ends (· = s) fun _ t ↦ t = { s with leases := s.leases + 1 }) s := by
  rw [prepareStart, wp_bind, wp_attempt]
  generalize (if descriptor.slot = .systemProxy then _ else _ : Except SessionError Unit) = answer
  cases answer with
  | error error => exact rfl
  | ok _ => exact wp_effect (h.of_same) (fun _ _ ↦ rfl) fun _ ↦ rfl

theorem wp_startSessionEngine (h : Core s) (hs : s.agent.session = some session)
    (hrunning : s.running = []) :
    (startSessionEngine deps session).wp Persistent (fun _ t ↦ Core t ∧
      t.agent = { s.agent with session := t.agent.session } ∧
      ∃ y, t.agent.session = some y ∧ y.journal = session.journal) s := by
  obtain ⟨-, hleases, hjournal⟩ := h.owns.of_session hs
  have hsame : Core s ∧ s.agent = { s.agent with session := s.agent.session } ∧
      ∃ y, s.agent.session = some y ∧ y.journal = session.journal := ⟨h, rfl, session, hs, rfl⟩
  refine wp_attempt_bind (fun _ _ ↦ hsame) fun _ _ ↦ wp_attempt_bind (fun _ _ ↦ hsame) fun _ _ ↦ ?_
  simp only [onSession, wp_run, onAgent, wp_step]
  have hmid : Persistent { s with agent := { s.agent with
      session := s.agent.session.map ({ · with engine := true }) } } :=
    h.persistent.of_same
  have hlast : Persistent { s with
      agent := { s.agent with session := s.agent.session.map ({ · with engine := true }) }
      running := session.id :: s.running } :=
    h.persistent.of_same
  refine ⟨hmid, hlast, ⟨hlast, ?_⟩, trivial, { session with engine := true }, by simp [hs], rfl⟩
  refine owns_of_session (x := { session with engine := true }) (by simp [hs])
    ⟨.inr ⟨rfl, ?_⟩, hleases, hjournal⟩
  simp [hrunning]

theorem wp_runStart (h : Sound s) (hs : s.agent.session = none)
    (hblock : s.agent.recoveryBlock = none) (hc : completion ∈ s.agent.handlers) :
    Settles (runStart deps descriptor completion) s := by
  have howns := h.owns
  simp only [Owns, hs] at howns
  obtain ⟨hrunning, hleases, hstore⟩ := howns
  obtain ⟨hjournal, happlied⟩ := hstore hblock
  rw [Settles, runStart, wp_bind, wp_exchange]
  have hp : Persistent { s with
      nextSession := s.nextSession + 1
      agent := { s.agent with
        lifecycle := .starting s.nextSession
        startCompletion := some completion
        lastStoppedConfiguration := none
        lastFailedConfiguration := none } } := h.persistent.of_same
  refine ⟨hp, wp_onAgent_bind hp rfl fun hp ↦ ?_⟩
  rw [wp_bind, wp_catching]
  refine wp_mono (wp_prepareStart hp) (fun _ hC ↦ hC) ?_
  rintro (error | ⟨⟩) t ht
  · obtain rfl : t = _ := ht
    refine wp_failStartWithoutOwnedSession ⟨hp, ?_⟩ hs hblock
    simp only [hs]
    exact ⟨hrunning, hleases, hstore⟩
  · obtain rfl : t = _ := ht
    refine wp_onAgent_bind (hp.of_same) rfl fun hp ↦ ?_
    have hcore := Core.mk hp (owns_of_session rfl ⟨.inl hrunning, by simp [hleases], hjournal⟩)
    rw [wp_bind, wp_catching]
    refine wp_mono (wp_startSessionEngine hcore rfl hrunning) (fun _ hC ↦ hC) ?_
    rintro (error | ⟨⟩) u ⟨hu, hagent, y, hy, hyj⟩
    · refine wp_failOwnedSession hu hy ?_
      rw [hagent]
      exact hblock
    · refine wp_pure.mpr ⟨hu, ?_⟩
      rw [hagent]
      refine ⟨by simp [hy], by simp, ?_, ?_, by simp, ?_⟩
      · rintro c ⟨⟩
        exact hc
      · rintro id x - hx
        rw [hy, Option.some.injEq] at hx
        rw [← hx, hyj]
      · simp [hblock]

theorem wp_beginStart (h : Sound s) (hnew : s.agent.startCompletion ≠ some completion)
    (hc : completion ∈ s.agent.handlers) : Settles (beginStart deps descriptor completion) s := by
  rw [Settles, beginStart, wp_read_bind]
  cases hallowed : admitStart s.agent descriptor with
  | error error => exact wp_finish h hnew
  | ok _ =>
    obtain ⟨hs, hblock⟩ : s.agent.session = none ∧ s.agent.recoveryBlock = none := by
      unfold admitStart at hallowed
      split at hallowed
      · cases hallowed
      · split at hallowed
        · cases hallowed
        · cases hallowed
        · next hb _ =>
          split at hallowed
          · next hnone => exact ⟨Option.isNone_iff_eq_none.mp hnone, hb⟩
          · cases hallowed
    dsimp only
    split
    · exact wp_failStartWithoutOwnedSession h.toCore hs hblock
    · exact wp_runStart h hs hblock hc

end Start

section Events

theorem wp_completeActivation {current} (h : Core s)
    (hs : s.agent.session = some current) (hblock : s.agent.recoveryBlock = none) :
    Settles (completeActivation session) s := by
  refine wp_onAgent_bind h.persistent rfl fun hp ↦ wp_onAgent_bind hp rfl fun _ ↦ ?_
  refine wp_takeStartCompletion_bind (h.withAgent rfl rfl rfl) ?_ nofun nofun hblock
    fun c t ht hnone _ ↦ wp_finishOptional_sound ht hnone
  simp [hs]

theorem records_self (journal : ProxyOwnershipJournal) : records journal journal = true := by
  simp [records]

theorem records_markingApplied {journal marked}
    (h : journal.markingApplied = .ok marked) : records marked journal = true := by
  simp [records, h]

/-- At every point of the activation the settings that are applied are journalled. -/
theorem wp_applySystemProxy (h : Core s) (hs : s.agent.session = some session)
    (hnone : session.journal = none) : (applySystemProxy deps).wp Persistent (fun _ t ↦ Core t ∧
      t.agent = { s.agent with session := t.agent.session } ∧
      ∃ y, t.agent.session = some y) s := by
  obtain ⟨hrunning, hleases, hjournal⟩ := h.owns.of_session hs
  have happlied : s.applied = none := by
    cases ha : s.applied with
    | none => rfl
    | some settings =>
      obtain ⟨journal, hj, -⟩ := h.persistent.recorded settings ha
      rw [hjournal, hnone] at hj
      cases hj
  -- The states on the way: a stored journal that records what is applied.
  have hpersistent (agent : Agent) (stored : ProxyOwnershipJournal)
      (applied : Option ProxyOwnershipJournal) (ha : agent.handlers = s.agent.handlers)
      (hr : ∀ settings, applied = some settings → records stored settings = true) :
      Persistent { s with agent, journal := some stored, applied } :=
    ⟨fun settings hsettings ↦ ⟨stored, rfl, hr settings hsettings⟩, h.persistent.released,
      h.persistent.handlers.of_same ha rfl rfl⟩
  have hpost (stored : ProxyOwnershipJournal) (applied : Option ProxyOwnershipJournal)
      (hr : ∀ settings, applied = some settings → records stored settings = true) :
      let t : Proxy := { s with
        agent := { s.agent with session := some { session with journal := some stored } }
        journal := some stored
        applied }
      Core t ∧ t.agent = { s.agent with session := t.agent.session } ∧
        ∃ y, t.agent.session = some y :=
    ⟨⟨hpersistent _ stored applied rfl hr, owns_of_session rfl ⟨hrunning, hleases, rfl⟩⟩, rfl, _,
      rfl⟩
  have hsame : Core s ∧ s.agent = { s.agent with session := s.agent.session } ∧
      ∃ y, s.agent.session = some y := ⟨h, rfl, session, hs⟩
  refine wp_attempt_bind (fun _ _ ↦ hsame) fun prepared _ ↦ ?_
  have hunapplied : ∀ settings, s.applied = some settings → records prepared settings = true := by
    simp [happlied]
  refine wp_bind.mpr (wp_effect (hpersistent s.agent prepared s.applied rfl hunapplied)
    (fun _ _ ↦ ?_) fun _ ↦ hsame)
  rw [after_ok]
  refine wp_onAgent_bind (hpersistent s.agent prepared s.applied rfl hunapplied) rfl fun _ ↦ ?_
  simp only [hs]
  rw [wp_bind, wp_step, after_ok]
  generalize happlied' : (if (deps.apply.isOk || deps.applies) = true then some prepared
    else s.applied) = applied
  have hsettings (settings) (ha : applied = some settings) : settings = prepared := by
    rw [← happlied', happlied] at ha
    split at ha
    · exact (Option.some.inj ha).symm
    · cases ha
  have hr : ∀ settings, applied = some settings → records prepared settings = true := by
    intro settings ha
    rw [hsettings settings ha]
    exact records_self prepared
  refine ⟨(hpost prepared applied hr).1.persistent, ?_⟩
  refine wp_attempt_bind (fun _ _ ↦ hpost prepared applied hr) fun _ _ ↦
    wp_attempt_bind (fun _ _ ↦ hpost prepared applied hr) fun marked hmarked ↦ ?_
  have hr' : ∀ settings, applied = some settings → records marked settings = true := by
    intro settings ha
    rw [hsettings settings ha]
    exact records_markingApplied (mapError_eq_ok.mp hmarked)
  refine wp_bind.mpr (wp_effect (hpersistent _ marked applied rfl hr') (fun _ _ ↦ ?_)
    fun _ ↦ hpost prepared applied hr)
  rw [after_ok]
  exact wp_onAgent (hpersistent _ marked applied rfl hr') rfl (hpost marked applied hr')

theorem wp_activateSystemProxy (h : Core s) (hs : s.agent.session = some session)
    (hnone : session.journal = none) (hblock : s.agent.recoveryBlock = none) :
    Settles (activateSystemProxy deps session) s := by
  rw [Settles, activateSystemProxy, wp_bind, wp_catching]
  refine wp_mono (wp_applySystemProxy h hs hnone) (fun _ hC ↦ hC) ?_
  rintro (error | ⟨⟩) t ⟨ht, hagent, y, hy⟩
  · refine wp_failOwnedSession ht hy ?_
    rw [hagent]
    exact hblock
  · refine wp_completeActivation ht hy ?_
    rw [hagent]
    exact hblock

theorem wp_handleEngineFailure {code message} (h : Core s)
    (hs : s.agent.session = some session) (hrunning : s.running = [])
    (hblock : s.agent.recoveryBlock = none) :
    Settles (handleEngineFailure deps session code message) s := by
  obtain ⟨-, hleases, hjournal⟩ := h.owns.of_session hs
  refine wp_onAgent_bind h.persistent rfl fun hp ↦ ?_
  simp only [hs] at hp ⊢
  have hcore := Core.mk hp (owns_of_session rfl ⟨.inl hrunning, hleases, hjournal⟩)
  refine wp_bind_done (wp_restoreOwnedPreferences hcore) fun errors t ⟨ht, hkt⟩ ↦ ?_
  refine wp_bind_done (wp_releaseLeaseIfFullyClean ht) fun errors' u ⟨hu, hku⟩ ↦ ?_
  have hkeeps := hkt.trans hku
  obtain ⟨y, hy⟩ := hkeeps.exists_session rfl
  exact wp_finishOwnedSessionFailure hu hy (hkeeps.recoveryBlock.trans hblock)

variable {id : SessionID}

theorem currentSession_eq_some {a} (h : currentSession a id = some session) :
    a.session = some session ∧ session.id = id := by
  unfold currentSession at h
  split at h
  · cases h
  · simpa using h

theorem wp_handleEngineEvent {event} (h : Sound s)
    (hfailed : ∀ code message, event = .failed code message →
      ∀ x, s.agent.session = some x → x.id = id → s.running = []) :
    Settles (handleEngineEvent deps event id) s := by
  rw [Settles, handleEngineEvent, wp_read_bind]
  cases hc : currentSession s.agent id with
  | none => exact wp_pure.mpr h
  | some session =>
    obtain ⟨hs, hid⟩ := currentSession_eq_some hc
    have hblock := h.recoveryBlock hs
    cases event with
    | mixedListenerReady =>
      dsimp only
      split
      · next hstarting =>
        split
        · exact wp_completeActivation h.toCore hs hblock
        · exact wp_activateSystemProxy h.toCore hs (h.consistent.fresh id session hstarting hs) hblock
      · exact wp_pure.mpr h
    | failed code message =>
      dsimp only
      split
      · exact wp_handleEngineFailure h.toCore hs (hfailed code message rfl session hs hid) hblock
      · exact wp_pure.mpr h

theorem wp_readinessTimedOut (h : Sound s) : Settles (readinessTimedOut deps id) s := by
  rw [Settles, readinessTimedOut, wp_read_bind]
  split
  · next session hsession =>
    have hs : s.agent.session = some session := (Option.filter_eq_some_iff.mp hsession).1
    split
    · exact wp_failOwnedSession h.toCore hs (h.recoveryBlock hs)
    · exact wp_pure.mpr h
  · exact wp_pure.mpr h

theorem wp_observeHealth (h : Sound s) : Settles (observeHealth deps) s := by
  rw [Settles, observeHealth, wp_read_bind]
  split
  · next session hs =>
    split
    · split
      · exact wp_pure.mpr h
      · exact wp_failOwnedSession h.toCore hs (h.recoveryBlock hs)
    · exact wp_pure.mpr h
  · exact wp_pure.mpr h

end Events

end CfwRs.ProxySession
