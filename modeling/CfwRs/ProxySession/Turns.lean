import CfwRs.ProxySession.Cleanup

namespace CfwRs.ProxySession

open Lib Lib.Durable MacProxy

/-- What the agent keeps consistent between two operations. -/
structure Consistent (a : Agent) : Prop where
  idle : a.session = none ↔ a.lifecycle = .idle
  starting : a.startCompletion.isSome ↔ ∃ id, a.lifecycle = .starting id
  pending : ∀ c, a.startCompletion = some c → c ∈ a.handlers
  fresh : ∀ id x, a.lifecycle = .starting id → a.session = some x → x.journal = none
  off : a.currentSnapshot = .off → a.session = none
  blocked : a.recoveryBlock.isSome → a.session = none ∧ a.lastStoppedConfiguration = none ∧
    a.lastFailedConfiguration = none ∧ a.currentSnapshot ≠ .off

structure Sound (s : Proxy) : Prop extends Core s where
  consistent : Consistent s.agent

/-- Code that cannot fail and leaves the agent sound. -/
abbrev Settles {α : Type} (x : Work α) (s : Proxy) : Prop :=
  x.wp Persistent (done fun _ t ↦ Sound t) s

section Rules

variable {s : Proxy} {α : Type}
variable {f : Agent → Agent}

theorem Persistent.onAgent (h : Persistent s) (hf : (f s.agent).handlers = s.agent.handlers) :
    Persistent { s with agent := f s.agent } :=
  h.of_same hf

theorem wp_onAgent_bind {k} {Q : Except SessionError α → Proxy → Prop}
    (h : Persistent s) (hf : (f s.agent).handlers = s.agent.handlers)
    (hk : Persistent { s with agent := f s.agent } → (k ()).wp Persistent Q { s with agent := f s.agent }) :
    (onAgent f >>= k).wp Persistent Q s := by
  have hnext := h.onAgent hf
  exact wp_bind.mpr (wp_step.mpr ⟨hnext, hk hnext⟩)

theorem wp_onAgent {Q} (h : Persistent s)
    (hf : (f s.agent).handlers = s.agent.handlers) (hQ : Q (.ok ()) { s with agent := f s.agent }) :
    (onAgent f).wp Persistent Q s :=
  wp_step.mpr ⟨h.onAgent hf, hQ⟩

theorem wp_bind_done {β : Type} {x : Work α} {k} {P : α → Proxy → Prop}
    {Q : β → Proxy → Prop} (hx : x.wp Persistent (done P) s)
    (hk : ∀ a t, P a t → (k a).wp Persistent (done Q) t) :
    (x >>= k).wp Persistent (done Q) s := wp_bind_ends hx hk

variable {c : Completion} {result : Except SessionError Unit}

theorem HandlersSound.finish (h : HandlersSound s) (hc : c ∈ s.agent.handlers) :
    HandlersSound { s with
      agent := { s.agent with handlers := s.agent.handlers.erase c }
      calls := (c, result) :: s.calls } where
  pending := h.pending.erase c
  created d hd := h.created d (List.mem_of_mem_erase hd)
  called := by
    rw [List.map_cons, List.nodup_cons]
    exact ⟨fun hmem ↦ (h.spent c hmem).2 hc, h.called⟩
  spent d hd := by
    rcases List.mem_cons.mp hd with rfl | hd
    · exact ⟨h.created d hc, fun hmem ↦ (h.pending.mem_erase_iff.mp hmem).1 rfl⟩
    · exact ⟨(h.spent d hd).1, fun hmem ↦ (h.spent d hd).2 (List.mem_of_mem_erase hmem)⟩

/-- A handler other than that of the pending start may be called at any time. -/
theorem wp_finish (h : Sound s) (hc : s.agent.startCompletion ≠ some c) :
    Settles (finish c result) s := by
  rw [Settles, finish, wp_step]
  by_cases hmem : c ∈ s.agent.handlers
  · simp only [hmem]
    have hp : Persistent { s with
        agent := { s.agent with handlers := s.agent.handlers.erase c }
        calls := (c, result) :: s.calls } :=
      ⟨h.persistent.recorded, h.persistent.released, h.persistent.handlers.finish hmem⟩
    refine ⟨hp, ⟨hp, h.owns⟩, h.consistent.idle, h.consistent.starting, fun d hd ↦ ?_,
      h.consistent.fresh, h.consistent.off, h.consistent.blocked⟩
    have hne : d ≠ c := by
      rintro rfl
      exact hc hd
    exact (List.mem_erase_of_ne hne).mpr (h.consistent.pending d hd)
  · simp only [hmem]
    exact ⟨h.persistent, h⟩

theorem wp_finishOptional {c} (h : Sound s) (hc : s.agent.startCompletion = none) :
    (finishOptional c result).wp Persistent (done fun _ t ↦ Sound t ∧
      t.agent.startCompletion = none ∧ t.agent.session = s.agent.session) s := by
  cases c with
  | none => exact wp_pure.mpr ⟨h, hc, rfl⟩
  | some c =>
    have hsound : Settles (finish c result) s :=
      wp_finish h (by simp [hc])
    refine wp_mono (wp_exact hsound) (fun _ hC ↦ hC) ?_
    rintro (e | ⟨⟩) t ⟨ht, -, hfinal⟩
    · exact ht
    · have hagent : t.agent.startCompletion = s.agent.startCompletion ∧
          t.agent.session = s.agent.session := by
        rw [hfinal]
        simp only [finishOptional, finish, step, final]
        by_cases hmem : c ∈ s.agent.handlers
        · simp [hmem]
        · simp [hmem]
      exact ⟨ht, hagent.1.trans hc, hagent.2⟩

end Rules

section Endings

variable {deps : Dependencies} {s : Proxy} {session : Session}
variable {a : Agent} {errors : List SessionError}

theorem Core.withAgent (h : Core s) (hhandlers : a.handlers = s.agent.handlers)
    (hsession : a.session = s.agent.session) (hblock : a.recoveryBlock = s.agent.recoveryBlock) :
    Core { s with agent := a } := by
  refine ⟨h.persistent.of_same hhandlers, ?_⟩
  have howns := h.owns
  unfold Owns at howns ⊢
  simpa only [hsession, hblock] using howns

theorem Core.drop (h : Core s) (hs : s.agent.session = some session) (hrunning : s.running = [])
    (hjournal : session.journal = none) (hlease : session.lease = false)
    (hhandlers : a.handlers = s.agent.handlers) (ha : a.session = none) :
    Core { s with agent := a } := by
  obtain ⟨-, hleases, hstored⟩ := h.owns.of_session hs
  have happlied : s.applied = none := by
    cases ha : s.applied with
    | none => rfl
    | some settings =>
      obtain ⟨journal, hj, -⟩ := h.persistent.recorded settings ha
      rw [hstored, hjournal] at hj
      cases hj
  refine ⟨h.persistent.of_same hhandlers, ?_⟩
  simp only [Owns, ha]
  exact ⟨hrunning, by simpa [hlease] using hleases, fun _ ↦ ⟨hstored.trans hjournal, happlied⟩⟩

theorem Core.running_of_engine (h : Core s) (hs : s.agent.session = some session)
    (he : session.engine = false) : s.running = [] := by
  simpa [he] using (h.owns.of_session hs).1

theorem isClean_iff : isClean session = true ↔
    session.engine = false ∧ session.journal = none ∧ session.lease = false := by
  simp [isClean, and_assoc]

theorem wp_endProcessUnlessSettingsRemain (h : Sound s) :
    Settles endProcessUnlessSettingsRemain s := by
  rw [Settles, endProcessUnlessSettingsRemain, wp_read_bind]
  split
  · exact wp_pure.mpr h
  · have hcore : Core { s with agent := { s.agent with processEndScheduled := true } } :=
      h.toCore.withAgent rfl rfl rfl
    exact wp_step.mpr ⟨hcore.persistent, hcore, h.consistent.idle, h.consistent.starting,
      h.consistent.pending, h.consistent.fresh, h.consistent.off, h.consistent.blocked⟩

/-- The start that is given up: its completion is taken, so that none is pending. -/
theorem wp_takeStartCompletion_bind {β : Type} {k}
    {Q : β → Proxy → Prop} (h : Core s) (hidle : s.agent.session = none ↔ s.agent.lifecycle = .idle)
    (hstarting : ∀ id, s.agent.lifecycle ≠ .starting id)
    (hoff : s.agent.currentSnapshot = .off → s.agent.session = none)
    (hblock : s.agent.recoveryBlock = none) (hk : ∀ c t, Sound t → t.agent.startCompletion = none →
      t.agent.session = s.agent.session → (k c).wp Persistent (done Q) t) :
    (takeStartCompletion >>= k).wp Persistent (done Q) s := by
  have hcore : Core { s with agent := { s.agent with startCompletion := none } } :=
    h.withAgent rfl rfl rfl
  refine wp_bind.mpr (wp_exchange.mpr ⟨hcore.persistent, hk _ _ ⟨hcore, hidle, ?_, nofun,
    fun id x hid ↦ absurd hid (hstarting id), hoff, ?_⟩ rfl rfl⟩)
  · simpa using hstarting
  · simp [hblock]

theorem wp_becomeSpent {failure : String} {configuration}
    {stopCompletion} (h : Core s) (hs : s.agent.session = some session)
    (hblock : s.agent.recoveryBlock = none) :
    Settles (becomeSpent failure configuration stopCompletion) s := by
  refine wp_onAgent_bind h.persistent rfl fun hp ↦ wp_onAgent_bind hp rfl fun _ ↦ ?_
  refine wp_takeStartCompletion_bind (h.withAgent rfl rfl rfl) ?_ nofun nofun hblock
    fun c t ht hnone _ ↦ ?_
  · simp [hs]
  · refine wp_bind_done (wp_finishOptional ht hnone) fun _ u hu ↦ ?_
    refine wp_bind_done (wp_finishOptional hu.1 hu.2.1) fun _ v hv ↦ ?_
    exact wp_endProcessUnlessSettingsRemain hv.1

variable {current owned : Session} {original : SessionError}

theorem wp_dropIfClean (h : Core s) (hs : s.agent.session = some current) :
    (dropIfClean session).wp Persistent (done fun _ t ↦ Core t ∧
      (t.agent.session = none ↔ t.agent.lifecycle = .idle) ∧
      (∀ id, t.agent.lifecycle ≠ .starting id) ∧
      t.agent.recoveryBlock = s.agent.recoveryBlock) s := by
  rw [dropIfClean, onAgent, wp_step]
  simp only [hs, Option.all_some]
  by_cases hclean : isClean current = true
  · simp only [hclean]
    obtain ⟨he, hj, hl⟩ := isClean_iff.mp hclean
    have hcore : Core { s with agent := { s.agent with session := none, lifecycle := .idle } } :=
      h.drop hs (h.running_of_engine hs he) hj hl rfl rfl
    exact ⟨hcore.persistent, hcore, by simp, by simp, rfl⟩
  · simp only [if_neg hclean]
    have hcore : Core { s with agent := { s.agent with
        lifecycle := .failed session.id
        session := some current } } := h.withAgent rfl hs.symm rfl
    exact ⟨hcore.persistent, hcore, by simp, by simp, rfl⟩

theorem wp_finishOptional_sound {c result} (h : Sound s) (hc : s.agent.startCompletion = none) :
    Settles (finishOptional c result) s := by
  refine wp_mono (wp_finishOptional h hc) (fun _ hC ↦ hC) ?_
  rintro (e | ⟨⟩) u hu
  · exact hu
  · exact hu.1

theorem wp_finishOwnedSessionFailure (h : Core s) (hs : s.agent.session = some current)
    (hblock : s.agent.recoveryBlock = none) :
    Settles (finishOwnedSessionFailure deps session original errors) s := by
  refine wp_bind_done (wp_dropIfClean h hs) fun _ t ⟨hcore, hidle, hstarting, hsame⟩ ↦ ?_
  refine wp_onAgent_bind hcore.persistent rfl fun hp ↦ wp_onAgent_bind hp rfl fun _ ↦ ?_
  exact wp_takeStartCompletion_bind (hcore.withAgent rfl rfl rfl) hidle hstarting nofun
    (hsame.trans hblock) fun c u hu hnone _ ↦ wp_finishOptional_sound hu hnone

theorem wp_failOwnedSession (h : Core s) (hs : s.agent.session = some current)
    (hblock : s.agent.recoveryBlock = none) :
    Settles (failOwnedSession deps session original) s := by
  refine wp_bind_done (wp_restoreOwnedPreferences h) fun errors t ⟨ht, hkt⟩ ↦ ?_
  refine wp_bind_done (wp_stopEngine ht) fun unclosable u ⟨hu, hku⟩ ↦ ?_
  have hkeeps := hkt.trans hku
  obtain ⟨y, hy⟩ := hkeeps.exists_session hs
  have hnone := hkeeps.recoveryBlock.trans hblock
  cases unclosable with
  | some failure => exact wp_becomeSpent hu hy hnone
  | none =>
    refine wp_bind_done (wp_releaseLeaseIfFullyClean hu) fun errors' v ⟨hv, hkv⟩ ↦ ?_
    obtain ⟨z, hz⟩ := hkv.exists_session hy
    exact wp_finishOwnedSessionFailure hv hz (hkv.recoveryBlock.trans hnone)

theorem Sound.publishOff (h : Core { s with agent := a }) (hsession : a.session = none)
    (hlifecycle : a.lifecycle = .idle) (hstart : a.startCompletion = none)
    (hblock : a.recoveryBlock = none) : Sound { s with agent := a } :=
  ⟨h, by simp [hsession, hlifecycle], by simp [hstart, hlifecycle], by simp [hstart],
    by simp [hlifecycle], fun _ ↦ hsession, by simp [hblock]⟩

theorem Sound.keepFailed {id} (h : Core { s with agent := a })
    (hsession : a.session = some session) (hlifecycle : a.lifecycle = .failed id)
    (hstart : a.startCompletion = none) (hoff : a.currentSnapshot ≠ .off)
    (hblock : a.recoveryBlock = none) : Sound { s with agent := a } :=
  ⟨h, by simp [hsession, hlifecycle], by simp [hstart, hlifecycle], by simp [hstart],
    by simp [hlifecycle], fun hs ↦ absurd hs hoff, by simp [hblock]⟩

variable (h : Core s) (hs : s.agent.session = some current)
  (hstart : s.agent.startCompletion = none) (hblock : s.agent.recoveryBlock = none)
include h hs hstart hblock

theorem wp_endCleanup (he : current.engine = false) : Settles (endCleanup deps owned errors) s := by
  rw [Settles, endCleanup, wp_read_bind]
  split
  · next hclean =>
    simp only [hs, Option.all_some, Bool.and_eq_true, Bool.not_eq_true',
      Option.isNone_iff_eq_none] at hclean
    have hcore {a : Agent} (ha : a.handlers = s.agent.handlers) (hn : a.session = none) :
        Core { s with agent := a } :=
      h.drop hs (h.running_of_engine hs he) hclean.2.1 hclean.2.2 ha hn
    refine wp_onAgent_bind h.persistent rfl fun hp ↦ wp_onAgent hp rfl ?_
    exact Sound.publishOff (hcore rfl rfl) rfl rfl hstart hblock
  · refine wp_onAgent_bind h.persistent rfl fun hp ↦ wp_onAgent hp rfl ?_
    exact Sound.keepFailed (h.withAgent rfl rfl hblock.symm) hs rfl hstart nofun rfl

theorem wp_cleanUpSessionWithoutEngine (he : current.engine = false) :
    Settles (cleanUpSessionWithoutEngine deps owned) s := by
  refine wp_bind_done (wp_acquireCleanupLeaseIfNeeded h) fun acquireErrors t ⟨ht, hkt⟩ ↦ ?_
  refine wp_bind_done (wp_restoreUnlessFailed ht acquireErrors) fun restoreErrors u ⟨hu, hku⟩ ↦ ?_
  refine wp_bind_done (wp_releaseLeaseIfFullyClean hu) fun leaseErrors v ⟨hv, hkv⟩ ↦ ?_
  have hkeeps := (hkt.trans hku).trans hkv
  obtain ⟨y, hy⟩ := hkeeps.exists_session hs
  have hye : y.engine = false := by
    by_contra hne
    obtain ⟨x, hx, hxe⟩ := hkeeps.engine y hy (by simpa using hne)
    rw [hs, Option.some.injEq] at hx
    rw [← hx, he] at hxe
    cases hxe
  exact wp_endCleanup hv hy (hkeeps.startCompletion.trans hstart)
    (hkeeps.recoveryBlock.trans hblock) hye

theorem wp_endStop {completion} : Settles (endStop deps session errors completion) s := by
  rw [Settles, endStop, wp_read_bind]
  split
  · next hclean =>
    simp only [hs, Bool.and_eq_true] at hclean
    obtain ⟨he, hj, hl⟩ := isClean_iff.mp hclean.2
    have hcore {a : Agent} (ha : a.handlers = s.agent.handlers) (hn : a.session = none) :
        Core { s with agent := a } :=
      h.drop hs (h.running_of_engine hs he) hj hl ha hn
    refine wp_onAgent_bind h.persistent rfl fun hp ↦ wp_onAgent_bind hp rfl fun _ ↦ ?_
    exact wp_finish (Sound.publishOff (hcore rfl rfl) rfl rfl hstart hblock) (by simp [hstart])
  · refine wp_onAgent_bind h.persistent rfl fun hp ↦ wp_onAgent_bind hp rfl fun _ ↦ ?_
    exact wp_finish (Sound.keepFailed (h.withAgent rfl rfl rfl) hs rfl hstart nofun hblock)
      (by simp [hstart])

end Endings

end CfwRs.ProxySession
