import CfwRs.ProxySession.Lifecycle

namespace CfwRs.ProxySession

open Lib Lib.Durable MacProxy

structure HandlersSound (s : Proxy) : Prop where
  pending : s.agent.handlers.Nodup
  created : ∀ c ∈ s.agent.handlers, c < s.nextCompletion
  called : (s.calls.map Prod.fst).Nodup
  spent : ∀ c ∈ s.calls.map Prod.fst, c < s.nextCompletion ∧ c ∉ s.agent.handlers

/-- What holds at every moment, so also when the process ends there. -/
structure Persistent (s : Proxy) : Prop where
  recorded : ∀ settings, s.applied = some settings →
    ∃ journal, s.journal = some journal ∧ records journal settings = true
  released : ∀ release ∈ s.releases, release.running = [] ∧ release.journal = none
  handlers : HandlersSound s

/-- The agent's session accounts for everything its dependencies keep for it. -/
def Owns (s : Proxy) : Prop :=
  match s.agent.session with
  | none => s.running = [] ∧ s.leases = 0 ∧
      (s.agent.recoveryBlock = none → s.journal = none ∧ s.applied = none)
  | some session => (s.running = [] ∨ session.engine = true ∧ s.running = [session.id]) ∧
      s.leases = (if session.lease then 1 else 0) ∧ s.journal = session.journal

structure Core (s : Proxy) : Prop where
  persistent : Persistent s
  owns : Owns s

/-- What a cleanup leaves of the agent: all but what its session refers to. -/
structure Keeps (s t : Proxy) : Prop where
  agent : t.agent = { s.agent with session := t.agent.session }
  session : t.agent.session.map (fun x ↦ (x.id, x.configuration)) =
    s.agent.session.map (fun x ↦ (x.id, x.configuration))
  engine : ∀ y, t.agent.session = some y → y.engine = true →
    ∃ x, s.agent.session = some x ∧ x.engine = true
  journal : ∀ y, t.agent.session = some y → y.journal.isSome →
    ∃ x, s.agent.session = some x ∧ x.journal.isSome

theorem Keeps.refl (s : Proxy) : Keeps s s :=
  ⟨rfl, rfl, fun y hy he ↦ ⟨y, hy, he⟩, fun y hy hj ↦ ⟨y, hy, hj⟩⟩

variable {s t : Proxy}

theorem Keeps.trans {u} (h : Keeps s t) (h' : Keeps t u) : Keeps s u where
  agent := by rw [h'.agent, h.agent]
  session := h'.session.trans h.session
  engine y hy he := by
    obtain ⟨x, hx, hex⟩ := h'.engine y hy he
    exact h.engine x hx hex
  journal y hy hj := by
    obtain ⟨x, hx, hjx⟩ := h'.journal y hy hj
    exact h.journal x hx hjx

theorem Keeps.exists_session {x} (h : Keeps s t) (hs : s.agent.session = some x) :
    ∃ y, t.agent.session = some y := by
  have hsession := h.session
  rw [hs] at hsession
  cases ht : t.agent.session with
  | none => simp [ht] at hsession
  | some y => exact ⟨y, rfl⟩

theorem Keeps.recoveryBlock (h : Keeps s t) :
    t.agent.recoveryBlock = s.agent.recoveryBlock := by rw [h.agent]

theorem Keeps.startCompletion (h : Keeps s t) :
    t.agent.startCompletion = s.agent.startCompletion := by rw [h.agent]

/-- The condition that code ends without an error, as `P` says. -/
abbrev done {α : Type} (P : α → Proxy → Prop) : Except SessionError α → Proxy → Prop :=
  ends (fun _ ↦ False) P

/-- Code that cannot fail and leaves of the agent what a cleanup leaves. -/
abbrev Cleans {α : Type} (x : Work α) (s : Proxy) : Prop :=
  x.wp Persistent (done fun _ t ↦ Core t ∧ Keeps s t) s

section Persistent

variable {s : Proxy}
variable {t : Proxy}

theorem HandlersSound.of_same (h : HandlersSound s)
    (hhandlers : t.agent.handlers = s.agent.handlers) (hcalls : t.calls = s.calls)
    (hnext : t.nextCompletion = s.nextCompletion) : HandlersSound t := by
  constructor
  · rw [hhandlers]
    exact h.pending
  · rw [hhandlers, hnext]
    exact h.created
  · rw [hcalls]
    exact h.called
  · rw [hcalls, hnext, hhandlers]
    exact h.spent

theorem Persistent.of_same (h : Persistent s)
    (hhandlers : t.agent.handlers = s.agent.handlers := by rfl)
    (hjournal : t.journal = s.journal := by rfl) (happlied : t.applied = s.applied := by rfl)
    (hreleases : t.releases = s.releases := by rfl) (hcalls : t.calls = s.calls := by rfl)
    (hnext : t.nextCompletion = s.nextCompletion := by rfl) : Persistent t where
  recorded := by
    rw [hjournal, happlied]
    exact h.recorded
  released := by
    rw [hreleases]
    exact h.released
  handlers := h.handlers.of_same hhandlers hcalls hnext

theorem Persistent.of_restored (h : Persistent s) (happlied : t.applied = none)
    (hreleases : t.releases = s.releases) (hhandlers : t.agent.handlers = s.agent.handlers)
    (hcalls : t.calls = s.calls) (hnext : t.nextCompletion = s.nextCompletion) : Persistent t where
  recorded settings hs := by
    rw [happlied] at hs
    cases hs
  released := by
    rw [hreleases]
    exact h.released
  handlers := h.handlers.of_same hhandlers hcalls hnext

end Persistent

section Cleanup

variable {deps : Dependencies} {s : Proxy} {session : Session}

theorem Owns.of_session (h : Owns s) (hs : s.agent.session = some session) :
    (s.running = [] ∨ session.engine = true ∧ s.running = [session.id]) ∧
      s.leases = (if session.lease then 1 else 0) ∧ s.journal = session.journal := by
  simpa only [Owns, hs] using h

theorem owns_of_session {t x} (hs : t.agent.session = some x)
    (h : (t.running = [] ∨ x.engine = true ∧ t.running = [x.id]) ∧
      t.leases = (if x.lease then 1 else 0) ∧ t.journal = x.journal) : Owns t := by
  simpa only [Owns, hs] using h

/-- The session is changed by `f`, and so is what the agent holds for it. -/
theorem Core.of_map {t} (f : Session → Session) (hs : s.agent.session = some session)
    (hp : Persistent t) (hagent : t.agent = { s.agent with session := s.agent.session.map f })
    (hid : ((f session).id, (f session).configuration) = (session.id, session.configuration))
    (hengine : (f session).engine = true → session.engine = true)
    (hjournal : (f session).journal.isSome → session.journal.isSome)
    (h : (t.running = [] ∨ (f session).engine = true ∧ t.running = [(f session).id]) ∧
      t.leases = (if (f session).lease then 1 else 0) ∧ t.journal = (f session).journal) :
    Persistent t ∧ Core t ∧ Keeps s t := by
  have hsession : t.agent.session = some (f session) := by simp [hagent, hs]
  refine ⟨hp, ⟨hp, owns_of_session hsession h⟩, by rw [hagent], by simpa [hsession, hs] using hid,
    fun y hy he ↦ ⟨session, hs, ?_⟩, fun y hy hj ↦ ⟨session, hs, ?_⟩⟩
  · cases hsession.symm.trans hy
    exact hengine he
  · cases hsession.symm.trans hy
    exact hjournal hj

theorem settingsAfterRestore_cases (deps) (journal)
    (applied) : settingsAfterRestore deps journal applied = applied ∨
      settingsAfterRestore deps journal applied = none := by
  exact (ite_eq_or_eq _ _ _).symm

theorem settingsAfterRestore_of_isComplete {journal applied result}
    (hanswer : deps.restore = .ok result) (hcomplete : result.isComplete = true)
    (hrecords : ∀ settings, applied = some settings → records journal settings = true) :
    settingsAfterRestore deps journal applied = none := by
  cases applied with
  | none => simp [settingsAfterRestore]
  | some settings => simp [settingsAfterRestore, hanswer, hcomplete, hrecords settings rfl]

section

variable (h : Core s)
include h

theorem wp_removeJournal (hs : s.agent.session = some session) (happlied : s.applied = none) :
    Cleans (removeJournal deps) s := by
  unfold removeJournal
  split
  · obtain ⟨hrunning, hleases, -⟩ := h.owns.of_session hs
    have hmid : Persistent { s with journal := none } :=
      h.persistent.of_restored happlied rfl rfl rfl rfl
    simp only [wp_run, wp_step, onSession, onAgent]
    exact ⟨hmid, Core.of_map _ hs hmid.of_same rfl rfl id (by simp) ⟨hrunning, hleases, rfl⟩⟩
  · exact wp_pure.mpr ⟨h, Keeps.refl s⟩

theorem wp_restoreOwnedPreferences : Cleans (restoreOwnedPreferences deps) s := by
  rw [Cleans, restoreOwnedPreferences, wp_read_bind]
  cases hs : s.agent.session with
  | none => exact wp_pure.mpr ⟨h, Keeps.refl s⟩
  | some session =>
    obtain ⟨hrunning, hleases, hjournal⟩ := h.owns.of_session hs
    cases hj : session.journal with
    | none =>
      simp only [Option.bind_some, hj]
      exact wp_pure.mpr ⟨h, Keeps.refl s⟩
    | some journal =>
      simp only [Option.bind_some, hj]
      -- The session's journal records the settings, so a complete restore leaves none.
      have hrecords (settings) (ha : s.applied = some settings) :
          records journal settings = true := by
        obtain ⟨j, hstored, hr⟩ := h.persistent.recorded settings ha
        rw [hjournal, hj, Option.some.injEq] at hstored
        exact hstored ▸ hr
      have hkeep (applied) (ha : applied = s.applied ∨ applied = none) :
          Core { s with applied } ∧ Keeps s { s with applied } := by
        refine ⟨⟨?_, owns_of_session hs ⟨hrunning, hleases, hjournal⟩⟩, rfl, rfl,
          fun y hy he ↦ ⟨y, hy, he⟩, fun y hy hj ↦ ⟨y, hy, hj⟩⟩
        rcases ha with rfl | rfl
        · exact h.persistent
        · exact h.persistent.of_restored rfl rfl rfl rfl rfl
      rw [restorePreferences, wp_bind, wp_exchange, after_ok]
      have ha := settingsAfterRestore_cases deps journal s.applied
      refine ⟨(hkeep _ ha).1.persistent, ?_⟩
      cases hanswer : deps.restore with
      | error detail => exact wp_pure.mpr (hkeep _ ha)
      | ok result =>
        dsimp only
        split
        · next hcomplete =>
          have hnone := settingsAfterRestore_of_isComplete hanswer hcomplete hrecords
          refine wp_mono (wp_removeJournal (hkeep _ ha).1 hs hnone) (fun _ hC ↦ hC) ?_
          rintro (e | errors) t ht
          · exact ht
          · exact ⟨ht.1, (hkeep _ ha).2.trans ht.2⟩
        · exact wp_pure.mpr (hkeep _ ha)

theorem wp_acquireCleanupLeaseIfNeeded : Cleans (acquireCleanupLeaseIfNeeded deps) s := by
  rw [Cleans, acquireCleanupLeaseIfNeeded, wp_read_bind]
  cases hs : s.agent.session with
  | none => exact wp_pure.mpr ⟨h, Keeps.refl s⟩
  | some session =>
    obtain ⟨hrunning, hleases, hjournal⟩ := h.owns.of_session hs
    dsimp only
    split
    · next hneeded =>
      have hlease : session.lease = false := by simpa using (Bool.and_eq_true_iff.mp hneeded).2
      split
      · simp only [wp_run, wp_step, ends_ok]
        refine Core.of_map _ hs h.persistent.of_same rfl rfl id id ⟨hrunning, ?_, hjournal⟩
        simp [hleases, hlease]
      · exact wp_pure.mpr ⟨h, Keeps.refl s⟩
    · exact wp_pure.mpr ⟨h, Keeps.refl s⟩

theorem wp_releaseLeaseIfFullyClean : Cleans (releaseLeaseIfFullyClean deps) s := by
  rw [Cleans, releaseLeaseIfFullyClean, wp_read_bind]
  cases hs : s.agent.session with
  | none => exact wp_pure.mpr ⟨h, Keeps.refl s⟩
  | some session =>
    obtain ⟨hrunning, hleases, hjournal⟩ := h.owns.of_session hs
    dsimp only
    split
    · next hclean =>
      simp only [Bool.and_eq_true, Bool.not_eq_true', Option.isNone_iff_eq_none] at hclean
      obtain ⟨⟨hengine, hnone⟩, hlease⟩ := hclean
      have hidle : s.running = [] := by simpa [hengine] using hrunning
      split
      · have hmid : Persistent { s with
            leases := s.leases - 1
            releases := ⟨s.running, s.journal⟩ :: s.releases } := by
          refine ⟨h.persistent.recorded, fun release hr ↦ ?_, h.persistent.handlers.of_same rfl rfl rfl⟩
          rcases List.mem_cons.mp hr with rfl | hr
          · exact ⟨hidle, hjournal.trans hnone⟩
          · exact h.persistent.released release hr
        simp only [wp_run, wp_step, onSession, onAgent, ends_ok]
        refine ⟨hmid, Core.of_map _ hs hmid.of_same rfl rfl id id ⟨hrunning, ?_, hjournal⟩⟩
        simp [hleases, hlease]
      · exact wp_pure.mpr ⟨h, Keeps.refl s⟩
    · exact wp_pure.mpr ⟨h, Keeps.refl s⟩

theorem wp_stopEngine : Cleans (stopEngine deps) s := by
  rw [Cleans, stopEngine, wp_read_bind]
  cases hs : s.agent.session with
  | none => exact wp_pure.mpr ⟨h, Keeps.refl s⟩
  | some session =>
    obtain ⟨hrunning, hleases, hjournal⟩ := h.owns.of_session hs
    dsimp only
    split
    · split
      · have hmid : Persistent { s with running := s.running.erase session.id } :=
          h.persistent.of_same
        have hgone : s.running.erase session.id = [] := by
          rcases hrunning with hr | ⟨-, hr⟩ <;> simp [hr]
        simp only [wp_run, wp_step, onSession, onAgent, ends_ok]
        exact ⟨hmid, Core.of_map _ hs hmid.of_same rfl rfl (by simp) id
          ⟨.inl hgone, hleases, hjournal⟩⟩
      · exact wp_pure.mpr ⟨h, Keeps.refl s⟩
    · exact wp_pure.mpr ⟨h, Keeps.refl s⟩

theorem wp_restoreUnlessFailed (errors) : Cleans (restoreUnlessFailed deps errors) s := by
  unfold restoreUnlessFailed
  split
  · exact wp_restoreOwnedPreferences h
  · exact wp_pure.mpr ⟨h, Keeps.refl s⟩

end

end Cleanup

end CfwRs.ProxySession
