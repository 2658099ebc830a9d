import CfwRs.Coordinator.Actor

namespace CfwRs.Coordinator

open Lib Lib.Durable

def BackendCall.opened? : BackendCall → Option UInt64
  | startLocalProxy request | startSystemProxy request | startTunnel request =>
    some request.context.generation
  | installTunnel context => some context.generation
  | _ => none

def BackendCall.touched? : BackendCall → Option UInt64
  | stopLocalProxy context | stopSystemProxy context | cancelTunnelInstall context
  | stopTunnel context => some context.generation
  | call => call.opened?

theorem BackendCall.touched?_of_opened? {call : BackendCall} {g}
    (h : call.opened? = some g) : call.touched? = some g := by
  cases call with
  | startLocalProxy _ | startSystemProxy _ | startTunnel _ | installTunnel _ => exact h
  | _ => cases h

theorem NativeLease.opened?_stopCall (lease : NativeLease) : lease.stopCall.opened? = none := by
  rcases lease with ⟨kind, context⟩
  cases kind <;> rfl

theorem NativeLease.touched?_stopCall (lease : NativeLease) :
    lease.stopCall.touched? = some lease.context.generation := by
  rcases lease with ⟨kind, context⟩
  cases kind <;> rfl

/-- A request that concerns no generation and commits nothing. -/
def Request.Passive : Request → Prop
  | backend call => call.touched? = none
  | reserveNext _ | selectProxies _ _ => True
  | commit => False

def Exchange.offObserved : Exchange := ⟨.backend .queryStatus, some (.ok .off)⟩

/-- Assertions that the steps of the coordinator keep. `visited` holds whenever it waits, `sound`
between two of its functions, and `idle` once the native side is proven Off. -/
structure Discipline (Profile : Type) where
  visited : Actor Profile → Prop
  sound : Actor Profile → Prop
  idle : Actor Profile → Prop
  visited_of_sound {a : Actor Profile} : sound a → visited a
  sound_of_idle {a : Actor Profile} : idle a → sound a
  visited_record {a : Actor Profile} {r : Request} {w : r.Answer} :
    r.Passive → visited a → visited (a.record ⟨r, w⟩)
  sound_record {a : Actor Profile} {r : Request} {w : r.Answer} :
    r.Passive → sound a → sound (a.record ⟨r, w⟩)
  idle_record {a : Actor Profile} {r : Request} {w : r.Answer} :
    r.Passive → idle a → idle (a.record ⟨r, w⟩)
  /-- Nothing changes about the lease and the quarantine; the platform never changes. -/
  sound_update {a : Actor Profile} {u : CoordinatorState Profile → CoordinatorState Profile} :
    sound a → (u a.state).nativeLease = a.state.nativeLease →
      (u a.state).quarantine = a.state.quarantine →
      (u a.state).runtimePlatform = a.state.runtimePlatform → sound (a.update u)
  sound_publishing {a : Actor Profile} {u : CoordinatorState Profile → CoordinatorState Profile} :
    sound a → (u a.state).nativeLease = a.state.nativeLease →
      (u a.state).quarantine = a.state.quarantine → (u a.state).snapshot.state ≠ .off →
      (u a.state).runtimePlatform = a.state.runtimePlatform → sound (a.publishing u)
  /-- Whatever is left unproven may be quarantined. -/
  sound_quarantined {a : Actor Profile}
    {u : CoordinatorState Profile → CoordinatorState Profile} :
    visited a → (u a.state).quarantine ≠ none → (u a.state).snapshot.state ≠ .off →
      (u a.state).runtimePlatform = a.state.runtimePlatform → sound (a.publishing u)
  sound_stop {a : Actor Profile} {lease : NativeLease} {x : Exchange} :
    sound a → a.state.nativeLease = some lease → x.request = .backend lease.stopCall →
      sound (a.record x)
  visited_stopped {a : Actor Profile} : sound a →
    visited (a.update fun s ↦ { s with nativeLease := none })
  idle_off {a : Actor Profile} : visited a → idle (a.record Exchange.offObserved)
  /-- Once Off is proven, a lease may be retired and Off may be published. -/
  idle_update {a : Actor Profile} {u : CoordinatorState Profile → CoordinatorState Profile} :
    idle a → (u a.state).nativeLease = none ∨ (u a.state).nativeLease = a.state.nativeLease →
      (u a.state).quarantine = a.state.quarantine →
      (u a.state).runtimePlatform = a.state.runtimePlatform → idle (a.update u)
  idle_publishing {a : Actor Profile} {u : CoordinatorState Profile → CoordinatorState Profile} :
    idle a → (u a.state).nativeLease = none → (u a.state).quarantine = none →
      (u a.state).runtimePlatform = a.state.runtimePlatform → idle (a.publishing u)
  idle_unleased {a : Actor Profile} : sound a → a.state.nativeLease = none →
    a.state.quarantine = none → idle a

/-- The assertions about a generation that is being started. -/
structure StartDiscipline (Profile : Type) extends Discipline Profile where
  held : UInt64 → Actor Profile → Prop
  sound_of_held {a : Actor Profile} {g : UInt64} : held g a → sound a
  held_acquire {a : Actor Profile} {u : CoordinatorState Profile → CoordinatorState Profile}
    {l : NativeLease} : idle a → (u a.state).nativeLease = some l →
      (u a.state).snapshot.state ≠ .off →
      (u a.state).runtimePlatform = a.state.runtimePlatform → held l.context.generation (a.publishing u)
  held_publishing {a : Actor Profile} {u : CoordinatorState Profile → CoordinatorState Profile}
    {l : NativeLease} : held l.context.generation a → (u a.state).nativeLease = some l →
      (u a.state).snapshot.state ≠ .off →
      (u a.state).runtimePlatform = a.state.runtimePlatform → held l.context.generation (a.publishing u)
  held_record {a : Actor Profile} {g : UInt64} {call : BackendCall}
    {answer : (Request.backend call).Answer} : held g a →
      (∀ k, call.touched? = some k → k = g) → held g (a.record ⟨.backend call, answer⟩)

structure ServeDiscipline (Profile : Type) extends StartDiscipline Profile where
  sound_commit {a : Actor Profile} {w : Request.commit.Answer} :
    sound a → sound (a.record ⟨.commit, w⟩)
  sound_close {a : Actor Profile} : sound a → sound { a with closed := true }

variable {Profile ε ε' α β : Type} {env : Environment Profile} {a : Actor Profile}

/-- What is known of the startup alone, which nothing that is served changes. -/
def startupFrame (K : Option (ℕ × ReconciliationFailure) → Prop) : ServeDiscipline Profile where
  visited a := K a.startupFailure
  sound a := K a.startupFailure
  idle a := K a.startupFailure
  held _ a := K a.startupFailure
  visited_of_sound h := h
  sound_of_idle h := h
  sound_of_held h := h
  visited_record _ h := h
  sound_record _ h := h
  idle_record _ h := h
  sound_update h _ _ _ := h
  sound_publishing h _ _ _ _ := h
  sound_quarantined h _ _ _ := h
  sound_stop h _ _ := h
  visited_stopped h := h
  idle_off h := h
  idle_update h _ _ _ := h
  idle_publishing h _ _ _ := h
  idle_unleased h _ _ := h
  held_acquire h _ _ _ := h
  held_publishing h _ _ _ := h
  held_record h _ := h
  sound_commit h := h
  sound_close h := h

/-- A discipline that asks for nothing; its rules only follow the lease and the quarantine. -/
abbrev anyDiscipline : ServeDiscipline Profile := startupFrame fun _ ↦ True

def Inert (a : Actor Profile) : Prop := a.state.snapshot.state.runtime? = none

/-- A runtime that is active runs the configuration with this digest. -/
def RunsOnly (digest : String) (a : Actor Profile) : Prop :=
  ∀ runtime, a.state.snapshot.state.runtime? = some runtime → runtime.configDigest = digest

theorem RunsOnly.of_state {digest} {b : Actor Profile} (h : RunsOnly digest a)
    (heq : b.state.snapshot.state = a.state.snapshot.state) : RunsOnly digest b := by
  intro runtime hruntime
  exact h runtime (heq ▸ hruntime)

/-- How a start ends: what runs is what was asked for, and nothing is quarantined. -/
structure Launched (digest : String) (a : Actor Profile) : Prop where
  runs : RunsOnly digest a
  quarantine : a.state.quarantine = none

theorem isFailed_of_runtime? {s : EngineState} {runtime}
    (h : s.runtime? = some runtime) : s.isFailed = false ∧ s ≠ .off := by
  cases s with
  | localProxyActive _ | proxyActive _ | tunnelActive _ | tunnelSystemProxyActive _ =>
    exact ⟨rfl, nofun⟩
  | _ => cases h

theorem exists_runtime?_of_isSame {snapshot} {target}
    {digest} (h : isSameActiveRuntime snapshot target digest = true) :
    ∃ runtime, snapshot.state.runtime? = some runtime ∧ runtime.configDigest = digest := by
  unfold isSameActiveRuntime at h
  split at h
  · next runtime hruntime =>
    simp only [Bool.and_eq_true, decide_eq_true_eq] at h
    exact ⟨runtime, hruntime, h.1.2⟩
  · cases h

theorem inert_of_isFailed (h : a.state.snapshot.state.isFailed = true) : Inert a := by
  cases hruntime : a.state.snapshot.state.runtime? with
  | none => exact hruntime
  | some runtime => cases h.symm.trans (isFailed_of_runtime? hruntime).1

theorem runtime?_of_expectedRuntime {platform} {s} {owner} {runtime}
    (h : expectedRuntime platform s = some (owner, runtime)) : s.runtime? = some runtime := by
  cases s with
  | localProxyActive _ | proxyActive _ | tunnelActive _ | tunnelSystemProxyActive _ =>
    exact congrArg (Option.map Prod.snd) h
  | _ => cases h

section Poll

/-- A poll asks for nothing but the status. -/
def Asked (a b : Actor Profile) : Prop :=
  b.history = a.history ∨ ∃ answer, b.history = ⟨.backend .queryStatus, answer⟩ :: a.history

/-- The snapshot that a poll may come back to: the one recorded with a failure before, or the one
whose runtime is active now. -/
def Pending (a : Actor Profile) (baseline : EngineSnapshot) : Prop :=
  a.state.statusRecheck = some baseline ∨
    baseline = a.state.snapshot ∧ ∃ runtime, a.state.snapshot.state.runtime? = some runtime

structure Resumable (a : Actor Profile) (baseline : EngineSnapshot) : Prop where
  failed : a.state.snapshot.state.isFailed = true
  pending : a.state.statusRecheck = some baseline
  generation : baseline.generation = a.state.snapshot.generation
  desiredMode : baseline.desiredMode = a.state.snapshot.desiredMode
  configDigest : baseline.configDigest = a.state.snapshot.configDigest

/-- A poll brought the runtime of `baseline` back: it is still leased, and a new observation attests
it. -/
structure Rechecked (a b : Actor Profile) (baseline : EngineSnapshot) : Prop extends
    Resumable a baseline where
  attested : ∃ owner expected lease status observed,
    expectedRuntime a.state.runtimePlatform baseline.state = some (owner, expected) ∧
    a.state.nativeLease = some lease ∧ lease.context = expected.context ∧
    b.history = ⟨.backend .queryStatus, some (.ok status)⟩ :: a.history ∧
    observedRuntime status baseline.state.activeMode = some observed ∧
    validateRuntime observed owner expected.context expected.configDigest = .ok ()
  state : b.state.snapshot.state = baseline.state

/-- How a poll ends: nothing changes, or it publishes a failure, or a runtime is back. -/
inductive Polled (a : Actor Profile) : Except EngineCoordinatorError Unit → Actor Profile → Prop
  | same {r b} (hsnapshot : b.state.snapshot = a.state.snapshot)
      (hquarantine : b.state.quarantine = a.state.quarantine)
      (hrecheck : b.state.statusRecheck = none) : Polled a r b
  | failed {e b} (hfailed : b.state.snapshot.state.isFailed = true)
      (hrecheck : ∀ p, b.state.statusRecheck = some p → Pending a p) : Polled a (.error e) b
  | recovered {b baseline} (h : Rechecked a b baseline)
      (hrecheck : b.state.statusRecheck = none) : Polled a (.ok ()) b

/-- A poll of `origin` that has its answer. -/
structure Observing (origin : Actor Profile) (baseline : EngineSnapshot) (a : Actor Profile) :
    Prop where
  snapshot : a.state.snapshot = origin.state.snapshot
  quarantine : a.state.quarantine = origin.state.quarantine
  recheck : a.state.statusRecheck = none
  asked : Asked origin a
  pending : Pending origin baseline

theorem state_ne_off_of_expectedRuntime {platform s e} (h : expectedRuntime platform s = some e) : s ≠ .off := by
  rintro rfl
  cases h

end Poll

namespace Discipline

variable {D : Discipline Profile}

def Sound (D : Discipline Profile) (x : Task Profile ε α) (a : Actor Profile) : Prop :=
  x.wp D.visited (fun _ b ↦ D.sound b) a

section

variable {u : CoordinatorState Profile → CoordinatorState Profile} {f : Unit → Task Profile ε β}
  {Q : Except ε β → Actor Profile → Prop} (ha : D.sound a)
  (hl : (u a.state).nativeLease = a.state.nativeLease)
  (hq : (u a.state).quarantine = a.state.quarantine)
include ha hl hq

theorem update_bind (hp : (u a.state).runtimePlatform = a.state.runtimePlatform)
    (hf : D.sound (a.update u) → (f ()).wp D.visited Q (a.update u)) :
    (update u >>= f).wp D.visited Q a :=
  have hb := D.sound_update ha hl hq hp
  wp_bind.mpr (wp_update.mpr ⟨D.visited_of_sound hb, hf hb⟩)

theorem publishing_bind (hs : (u a.state).snapshot.state ≠ .off)
    (hp : (u a.state).runtimePlatform = a.state.runtimePlatform)
    (hf : D.sound (a.publishing u) → (f ()).wp D.visited Q (a.publishing u)) :
    (publishing u >>= f).wp D.visited Q a :=
  have hb := D.sound_publishing ha hl hq hs hp
  wp_bind.mpr (wp_publishing.mpr ⟨D.visited_of_sound hb, hf hb⟩)

end

/-- What a published failure leaves: nothing active, and the lease as it was. -/
structure Failing (D : Discipline Profile) (a b : Actor Profile) : Prop where
  sound : D.sound b
  failed : b.state.snapshot.state.isFailed = true
  inert : Inert b
  lease : b.state.nativeLease = a.state.nativeLease
  recheck : b.state.statusRecheck = none
  published : b.published.state ≠ .off
  history : b.history = a.history

section

variable {error : EngineCoordinatorError} {generation : UInt64} {target : EngineMode}
  {Q : Except EngineCoordinatorError α → Actor Profile → Prop}
  (hQ : ∀ b, D.Failing a b → Q (.error error) b)
include hQ

theorem failWith_wp (ha : D.sound a) : (failWith env target generation error).wp D.visited Q a := by
  have hb := D.sound_publishing
    (u := CoordinatorState.failed env.display target generation error) ha rfl rfl nofun rfl
  exact wp_failWith.mpr ⟨D.visited_of_sound hb, hQ _ ⟨hb, rfl, rfl, rfl, rfl, nofun, rfl⟩⟩

theorem quarantineWith_wp (ha : D.visited a) :
    (quarantineWith env target generation error).wp D.visited Q a := by
  have hb := D.sound_quarantined
    (u := CoordinatorState.quarantined env.display target generation error) ha nofun nofun rfl
  exact wp_quarantineWith.mpr ⟨D.visited_of_sound hb, hQ _ ⟨hb, rfl, rfl, rfl, rfl, nofun, rfl⟩⟩

end

namespace Sound

variable {x : Task Profile ε α} {f : α → Task Profile ε β}

theorem bind (hx : D.Sound x a) (hf : ∀ v b, D.sound b → D.Sound (f v) b) :
    D.Sound (x >>= f) a := wp_bind_of hx (fun _ _ h ↦ h) hf

theorem state_bind {g : CoordinatorState Profile → Task Profile ε β} (h : D.Sound (g a.state) a) :
    D.Sound (state >>= g) a := wp_bind.mpr (wp_state.mpr h)

theorem pure {v} (ha : D.sound a) : D.Sound (Pure.pure v : Task Profile ε α) a :=
  wp_pure.mpr ha

variable {c : Except ε α} {error : EngineCoordinatorError} {generation : UInt64}
  {target : EngineMode} {u : CoordinatorState Profile → CoordinatorState Profile}

theorem attempt (ha : D.sound a) : D.Sound (Durable.attempt c) a :=
  wp_attempt.mpr ha

theorem attempt_bind (ha : D.sound a) (hf : ∀ v, D.Sound (f v) a) :
    D.Sound (Durable.attempt c >>= f) a := wp_attempt_bind (fun _ _ ↦ ha) fun v _ ↦ hf v

theorem catching (hx : D.Sound x a) : D.Sound (ε := ε') x.catching a := hx

theorem update (ha : D.sound a) (hl : (u a.state).nativeLease = a.state.nativeLease := by rfl)
    (hq : (u a.state).quarantine = a.state.quarantine := by rfl)
    (hp : (u a.state).runtimePlatform = a.state.runtimePlatform := by rfl) :
    D.Sound (ε := ε) (update u) a :=
  have hb := D.sound_update ha hl hq hp
  wp_update.mpr ⟨D.visited_of_sound hb, hb⟩

theorem publishing (ha : D.sound a) (hs : (u a.state).snapshot.state ≠ .off)
    (hl : (u a.state).nativeLease = a.state.nativeLease := by rfl)
    (hq : (u a.state).quarantine = a.state.quarantine := by rfl)
    (hp : (u a.state).runtimePlatform = a.state.runtimePlatform := by rfl) :
    D.Sound (ε := ε) (publishing u) a :=
  have hb := D.sound_publishing ha hl hq hs hp
  wp_publishing.mpr ⟨D.visited_of_sound hb, hb⟩

end Sound

/-- What is known after the runtime that `a` owns was stopped. -/
structure Stopped (D : Discipline Profile) (a b : Actor Profile) : Prop where
  visited : D.visited b
  lease : b.state.nativeLease = none
  quarantine : b.state.quarantine = a.state.quarantine
  idle : a.state.nativeLease = none → b = a
  called {lease : NativeLease} : a.state.nativeLease = some lease →
    ∃ x, x.request = .backend lease.stopCall ∧ b.history = x :: a.history

theorem announceStop_sound {lease} {Q : Except ε Unit → Actor Profile → Prop}
    (ha : D.sound a) (hQ : ∀ b, D.sound b → b.state.nativeLease = a.state.nativeLease →
      b.state.quarantine = a.state.quarantine → b.history = a.history → Q (.ok ()) b) :
    (announceStop lease).wp D.visited Q a := by
  rcases lease with ⟨kind, context⟩
  have publishes (stopping : EngineState) (hs : stopping ≠ .off) :
      (publishing fun s ↦ { s with snapshot := { s.snapshot with state := stopping } }).wp
        D.visited Q a := by
    have hb := D.sound_publishing
      (u := fun s ↦ { s with snapshot := { s.snapshot with state := stopping } }) ha rfl rfl hs rfl
    exact wp_publishing.mpr ⟨D.visited_of_sound hb, hQ _ hb rfl rfl rfl⟩
  cases kind with
  | localProxy => exact publishes _ nofun
  | systemProxy => exact publishes _ nofun
  | tunnelInstallation => exact wp_pure.mpr (hQ a ha rfl rfl rfl)
  | tunnelRuntime => exact publishes _ nofun

theorem stopOwnedRuntime_wp (ha : D.sound a) : (stopOwnedRuntime env).wp D.visited
      (fun r b ↦ match r with
        | .ok _ => D.Stopped a b
        | .error e => D.sound b ∧ Inert b ∧ isQueryStatusFailure e = false) a := by
  unfold stopOwnedRuntime
  rw [wp_state_bind]
  cases hlease : a.state.nativeLease with
  | none => exact wp_pure.mpr ⟨D.visited_of_sound ha, hlease, rfl, fun _ ↦ rfl, by simp [hlease]⟩
  | some lease =>
    refine wp_bind.mpr (announceStop_sound ha fun b hb hl hq hh ↦ ?_)
    rw [after_ok, wp_bind]
    refine wp_callStop fun x r hx ↦ ?_
    have hx' : D.sound (b.record x) := D.sound_stop hb (hl.trans hlease) hx
    refine ⟨D.visited_of_sound hx', ?_⟩
    rw [after_ok]
    cases r with
    | ok u =>
      have hv := D.visited_stopped hx'
      refine wp_update.mpr ⟨hv, hv, rfl, hq, fun hnone ↦ ?_, fun hsome ↦ ?_⟩
      · rw [hlease] at hnone
        cases hnone
      · cases hlease.symm.trans hsome
        exact ⟨x, hx, congrArg (x :: ·) hh⟩
    | error source =>
      have hother : isQueryStatusFailure (.backend lease.kind.stopOperation source) = false := by
        cases lease.kind <;> rfl
      dsimp only
      split
      · exact quarantineWith_wp (fun _ h ↦ ⟨h.sound, h.inert, hother⟩) (D.visited_of_sound hx')
      · exact failWith_wp (fun _ h ↦ ⟨h.sound, h.inert, hother⟩) hx'

structure ProvenOff (D : Discipline Profile) (a b : Actor Profile) : Prop where
  idle : D.idle b
  lease : b.state.nativeLease = a.state.nativeLease
  quarantine : b.state.quarantine = a.state.quarantine

theorem proveGlobalOff_wp (ha : D.visited a) : (proveGlobalOff env).wp D.visited
      (fun r b ↦ match r with
        | .ok _ => D.ProvenOff a b
        | .error _ => ∃ answer, D.Failing (a.record ⟨.backend .queryStatus, answer⟩) b) a := by
  unfold proveGlobalOff
  rw [wp_state_bind, wp_bind]
  refine wp_callBackend fun answer ↦ ?_
  have hrecord : D.visited (a.record ⟨.backend .queryStatus, answer⟩) := D.visited_record rfl ha
  refine ⟨hrecord, ?_⟩
  rw [after_ok]
  rcases answer with _ | _ | status
  · exact quarantineWith_wp (fun _ h ↦ ⟨_, h⟩) hrecord
  · exact quarantineWith_wp (fun _ h ↦ ⟨_, h⟩) hrecord
  · cases status with
    | off => exact wp_pure.mpr ⟨D.idle_off ha, rfl, rfl⟩
    | _ => exact quarantineWith_wp (fun _ h ↦ ⟨_, h⟩) hrecord

/-- What is known when a runtime was stopped and Off was proven. -/
structure Released (D : Discipline Profile) (a b : Actor Profile) : Prop where
  idle : D.idle b
  lease : b.state.nativeLease = none
  quarantine : b.state.quarantine = a.state.quarantine

theorem cleanup_wp {f g} {Q : Except ε α → Actor Profile → Prop} (ha : D.sound a)
    (hstop : ∀ e b, D.sound b → (f (.error e)).wp D.visited Q b)
    (hok : f (.ok ()) = (proveGlobalOff env).catching >>= g)
    (hproof : ∀ e b, D.sound b → (g (.error e)).wp D.visited Q b)
    (hoff : ∀ b, D.Released a b → (g (.ok ())).wp D.visited Q b) :
    ((stopOwnedRuntime env).catching >>= f).wp D.visited Q a := by
  refine wp_catching_bind (stopOwnedRuntime_wp ha) ?_
  intro r b hb
  cases r with
  | error e => exact hstop e b hb.1
  | ok u =>
    rw [hok]
    refine wp_catching_bind (proveGlobalOff_wp hb.visited) ?_
    intro r c hc
    cases r with
    | error e =>
      obtain ⟨_, hc⟩ := hc
      exact hproof e c hc.sound
    | ok u => exact hoff c ⟨hc.idle, hc.lease.trans hb.lease, hc.quarantine.trans hb.quarantine⟩

variable {b : Actor Profile} {profile : Profile} {settings : SingBox.EngineSettings}

theorem Released.setOff (hb : D.Released a b) (hq : a.state.quarantine = none) :
    D.idle (b.publishing CoordinatorState.off) :=
  D.idle_publishing hb.idle hb.lease (hb.quarantine.trans hq) rfl

/-- How a task ends that starts a runtime: with nothing active, or as `P` says. -/
def Concludes (D : Discipline Profile) (P : α → Actor Profile → Prop) (r : Except ε α)
    (b : Actor Profile) : Prop := D.sound b ∧ ends Inert P r b

variable {P : α → Actor Profile → Prop}

theorem setOff_fail {e} (hb : D.Released a b) (hq : a.state.quarantine = none) :
    (do setOff; fail e : Task Profile ε α).wp D.visited (D.Concludes P) b := by
  have hc := D.sound_of_idle (hb.setOff hq)
  exact wp_bind.mpr (wp_publishing.mpr ⟨D.visited_of_sound hc, wp_fail.mpr ⟨hc, rfl⟩⟩)

theorem failWith_concludes {error generation target} (ha : D.sound a) :
    (failWith env target generation error).wp D.visited (D.Concludes P) a :=
  failWith_wp (fun _ h ↦ ⟨h.sound, h.inert⟩) ha

theorem failBackend_concludes {operation} {source}
    (ha : D.sound a) (hq : a.state.quarantine = none) :
    (failBackend env operation source).wp D.visited (D.Concludes P) a := by
  unfold failBackend
  rw [wp_state_bind]
  split
  · exact quarantineWith_wp (fun _ h ↦ ⟨h.sound, h.inert⟩) (D.visited_of_sound ha)
  · refine cleanup_wp ha (fun e b hb ↦ ?_) rfl (fun e b hb ↦ failWith_concludes hb) fun b hb ↦ ?_
    · cases e <;> exact failWith_concludes hb
    · dsimp only
      split
      · exact setOff_fail hb hq
      · split
        · exact setOff_fail hb hq
        · exact failWith_concludes (D.sound_of_idle hb.idle)

theorem failIdentity_concludes {error} (ha : D.sound a) :
    (failIdentity env error).wp D.visited (D.Concludes P) a := by
  unfold failIdentity
  rw [wp_state_bind]
  refine cleanup_wp ha (fun e b hb ↦ ?_) rfl (fun e b hb ↦ failWith_concludes hb)
    fun b hb ↦ failWith_concludes (D.sound_of_idle hb.idle)
  cases e <;> exact failWith_concludes hb

section Observe

variable {recovering : Bool} {baseline : EngineSnapshot} {origin : Actor Profile}

/-- The assertion at the end of a poll that began at `origin`. -/
def Polling (D : Discipline Profile) (origin : Actor Profile)
    (r : Except EngineCoordinatorError Unit) (b : Actor Profile) : Prop :=
  D.sound b ∧ Asked origin b ∧ Polled origin r b

section

variable (h : Observing origin baseline a)
include h

theorem missObservation_polled {source} (ha : D.sound a) :
    (missObservation env recovering baseline source).wp D.visited (D.Polling origin) a := by
  unfold missObservation
  rw [wp_state_bind]
  split
  · split
    · exact update_bind ha rfl rfl rfl fun hb ↦ wp_fail.mpr
        ⟨hb, h.asked, .same h.snapshot h.quarantine h.recheck⟩
    · refine publishing_bind ha rfl rfl nofun rfl fun hb ↦ wp_fail.mpr ⟨hb, h.asked, .failed rfl ?_⟩
      rintro _ ⟨⟩
      exact h.pending
  · refine failWith_wp (fun b hb ↦ ⟨hb.sound, ?_, .failed hb.failed ?_⟩) ha
    · rw [Asked, hb.history]
      exact h.asked
    · simp [hb.recheck]

theorem settleObservation_polled {owner expected observation} (ha : D.sound a)
    (hoff : observation = .off → D.idle a) (hbaseline : baseline.state ≠ .off)
    (hrecovers : recovering = true → ∀ observed b,
      observedRuntime observation baseline.state.activeMode = some observed →
      validateRuntime observed owner expected.context expected.configDigest = .ok () →
      b.state.snapshot.state = baseline.state → b.history = a.history →
      Rechecked origin b baseline) :
    (settleObservation env recovering baseline owner expected observation).wp D.visited
      (D.Polling origin) a := by
  have hb : D.sound (a.update fun s ↦ { s with
      missedObservations := 0
      nativeLease := if observation = .off then none else s.nativeLease }) := by
    by_cases h : observation = .off
    · exact D.sound_of_idle (D.idle_update (hoff h) (.inl (if_pos h)) rfl rfl)
    · exact D.sound_update ha (if_neg h) rfl rfl
  have hfails {error : EngineCoordinatorError} {b : Actor Profile} (hfailing : D.Failing (a.update
      fun s ↦ { s with
        missedObservations := 0
        nativeLease := if observation = .off then none else s.nativeLease }) b) :
      D.Polling origin (.error error) b := by
    refine ⟨hfailing.sound, ?_, .failed hfailing.failed (by simp [hfailing.recheck])⟩
    rw [Asked, hfailing.history]
    exact h.asked
  refine wp_bind.mpr (wp_update.mpr ⟨D.visited_of_sound hb, wp_state_bind.mpr ?_⟩)
  split
  · exact failWith_wp (fun _ ↦ hfails) hb
  · next observed hobserved =>
    split
    · exact failWith_wp (fun _ ↦ hfails) hb
    · next hvalid =>
      split
      · next hrecovering =>
        have hc := D.sound_publishing (u := fun s ↦ { s with
          snapshot := { s.snapshot with state := baseline.state } }) hb rfl rfl hbaseline rfl
        exact wp_publishing.mpr ⟨D.visited_of_sound hc, hc, h.asked,
          .recovered (hrecovers hrecovering observed _ hobserved hvalid rfl rfl) h.recheck⟩
      · exact wp_pure.mpr ⟨hb, h.asked, .same h.snapshot h.quarantine h.recheck⟩

end

theorem observeRuntime_polled (ha : D.sound a)
    (hstate : a.state = { origin.state with statusRecheck := none })
    (hhistory : a.history = origin.history)
    (hbaseline : if recovering = true then Resumable origin baseline
      else baseline = origin.state.snapshot) :
    (observeRuntime env recovering baseline).wp D.visited (D.Polling origin) a := by
  have hsame : Polled origin (.ok ()) a := .same (by rw [hstate]) (by rw [hstate]) (by rw [hstate])
  unfold observeRuntime
  rw [wp_state_bind]
  split
  · exact wp_pure.mpr ⟨ha, .inl hhistory, hsame⟩
  · next owner expected hexpected =>
    split
    · exact wp_pure.mpr ⟨ha, .inl hhistory, hsame⟩
    · next hlease =>
      refine wp_bind.mpr (wp_callBackend fun answer ↦ ?_)
      have hb := D.sound_record (w := answer) rfl ha
      have hobserving : Observing origin baseline (a.record ⟨.backend .queryStatus, answer⟩) := by
        refine ⟨congrArg (·.snapshot) hstate, congrArg (·.quarantine) hstate,
          congrArg (·.statusRecheck) hstate, .inr ⟨answer, congrArg _ hhistory⟩, ?_⟩
        split at hbaseline
        · exact .inl hbaseline.pending
        · exact .inr ⟨hbaseline, expected, hbaseline ▸ runtime?_of_expectedRuntime hexpected⟩
      refine ⟨D.visited_of_sound hb, ?_⟩
      rcases answer with _ | _ | observation
      · exact missObservation_polled hobserving hb
      · exact missObservation_polled hobserving hb
      · refine settleObservation_polled hobserving hb ?_ (state_ne_off_of_expectedRuntime hexpected) ?_
        · rintro rfl
          exact D.idle_off (D.visited_of_sound ha)
        · rintro rfl observed b hobserved hvalid hresumed hasked
          obtain ⟨lease, hsome, hcontext⟩ : ∃ lease, a.state.nativeLease = some lease ∧
              lease.context = expected.context := by simpa [Option.any_eq_true] using hlease
          rw [hstate] at hexpected hsome
          exact ⟨hbaseline, ⟨owner, expected, lease, observation, observed, hexpected, hsome, hcontext,
            hasked.trans (congrArg _ hhistory), hobserved, hvalid⟩, hresumed⟩

theorem reconcileActiveRuntime_polled (ha : D.sound a) :
    (reconcileActiveRuntime env).wp D.visited (D.Polling a) a := by
  refine wp_state_bind.mpr (update_bind ha rfl rfl rfl fun hb ↦ ?_)
  have hsame : D.Polling a (.ok ()) (a.update fun s ↦ { s with statusRecheck := none }) :=
    ⟨hb, .inl rfl, .same rfl rfl rfl⟩
  split
  · exact wp_pure.mpr hsame
  · split
    · next hfailed =>
      split
      · exact wp_pure.mpr hsame
      · next previous hpending =>
        split
        · exact wp_pure.mpr hsame
        · next hmatches =>
          simp only [not_or, not_not] at hmatches
          exact observeRuntime_polled hb rfl rfl
            (if_pos rfl ▸ ⟨hfailed, hpending, hmatches.1, hmatches.2.1, hmatches.2.2⟩)
    · exact observeRuntime_polled hb rfl rfl rfl

theorem reconcileActiveRuntime_sound (ha : D.sound a) : D.Sound (reconcileActiveRuntime env) a :=
  wp_post (reconcileActiveRuntime_polled ha) fun _ _ h ↦ h.1

end Observe

theorem reserveNextGeneration_idle (ha : D.idle a) : (reserveNextGeneration env).wp D.visited
      (fun _ b ↦ D.idle b ∧ b.state = a.state) a := by
  unfold reserveNextGeneration
  rw [wp_state_bind]
  split
  · exact wp_fail.mpr ⟨ha, rfl⟩
  · split
    · refine wp_bind.mpr (wp_ask fun answer ↦ ?_)
      have hb := D.idle_record (w := answer) trivial ha
      refine ⟨D.visited_of_sound (D.sound_of_idle hb), ?_⟩
      rw [after_ok]
      cases answer with
      | error reason => exact wp_fail.mpr ⟨hb, rfl⟩
      | ok actual =>
        dsimp only
        split
        · exact wp_fail.mpr ⟨hb, rfl⟩
        · exact wp_pure.mpr ⟨hb, rfl⟩
    · exact wp_pure.mpr ⟨ha, rfl⟩

section

variable (ha : D.sound a)
include ha

theorem release_wp {required} {k} {Q : Except EngineCoordinatorError α → Actor Profile → Prop}
    (hrequired : required = false → a.state.nativeLease = none ∧ a.state.quarantine = none)
    (herror : ∀ e b, D.sound b → Inert b → Q (.error e) b)
    (hk : ∀ b, D.Released a b → k.wp D.visited Q b) :
    (do stopOwnedRuntime env; proveIf env required; k).wp D.visited Q a := by
  refine wp_bind_of (stopOwnedRuntime_wp ha) (fun e b h ↦ herror e b h.1 h.2.1) fun _ b hb ↦ ?_
  cases required with
  | true =>
    refine wp_bind_of (proveGlobalOff_wp hb.visited) (fun e c h ↦ ?_) fun _ c hc ↦ ?_
    · obtain ⟨_, h⟩ := h
      exact herror e c h.sound h.inert
    · exact hk c ⟨hc.idle, hc.lease.trans hb.lease, hc.quarantine.trans hb.quarantine⟩
  | false =>
    obtain ⟨hlease, hquarantine⟩ := hrequired rfl
    obtain rfl := hb.idle hlease
    exact wp_bind.mpr (wp_pure.mpr (hk b ⟨D.idle_unleased ha hlease hquarantine, hlease, rfl⟩))

theorem restoreProxySelections_wp : (restoreProxySelections env profile settings).wp D.visited
      (fun _ b ↦ D.sound b ∧ b.state = a.state) a := by
  unfold restoreProxySelections
  split
  · exact wp_pure.mpr ⟨ha, rfl⟩
  · refine wp_attempt_bind (fun _ _ ↦ ⟨ha, rfl⟩) fun endpoint _ ↦ ?_
    refine wp_bind.mpr (wp_ask fun answer ↦ ?_)
    have hb := D.sound_record (w := answer) trivial ha
    refine ⟨D.visited_of_sound hb, ?_⟩
    rw [after_ok]
    rcases answer with _ | _ | _
    · exact wp_fail.mpr ⟨hb, rfl⟩
    · exact wp_fail.mpr ⟨hb, rfl⟩
    · exact wp_pure.mpr ⟨hb, rfl⟩

theorem currentSnapshot_sound : D.Sound (ε := ε) currentSnapshot a :=
  wp_currentSnapshot.mpr ha

theorem finishStart_concludes {digest} (hs : a.state.snapshot.state ≠ .off)
    (hl : Launched digest a) : (finishStart env profile settings).wp D.visited
      (D.Concludes fun _ ↦ Launched digest) a := by
  refine wp_catching_bind (restoreProxySelections_wp ha) ?_
  rintro r b ⟨hb, hstate⟩
  cases r with
  | error error => exact failIdentity_concludes hb
  | ok u =>
    have hc : D.sound b.publish := D.sound_publishing (u := id) hb rfl rfl (hstate ▸ hs) rfl
    refine wp_bind.mpr (wp_publish.mpr ⟨D.visited_of_sound hc, wp_currentSnapshot.mpr ⟨hc, ?_, ?_⟩⟩)
    · exact hl.runs.of_state (congrArg (·.snapshot.state) hstate)
    · exact (congrArg CoordinatorState.quarantine hstate).trans hl.quarantine

theorem transitionToOff_sound : D.Sound (transitionToOff env) a := by
  refine .state_bind (update_bind ha rfl rfl rfl fun hb ↦ ?_)
  refine release_wp hb ?_ (fun _ _ h _ ↦ h) fun c hc ↦ ?_
  · simp [Actor.update]
  · have hoff : D.idle (c.publishing fun s ↦ CoordinatorState.off { s with quarantine := none }) :=
      D.idle_publishing hc.idle hc.lease rfl rfl
    refine wp_bind.mpr (wp_publishing.mpr ⟨D.visited_of_sound (D.sound_of_idle hoff), ?_⟩)
    rw [after_ok]
    split
    · exact currentSnapshot_sound (D.sound_of_idle hoff)
    · refine wp_bind_of (reserveNextGeneration_idle hoff) (fun _ _ h ↦ D.sound_of_idle h.1)
        fun generation d hd ↦ ?_
      have hidle : D.idle (d.publishing fun s ↦ { s with
          snapshot := { s.snapshot with generation := generation } }) := by
        refine D.idle_publishing hd.1 ?_ ?_ rfl
        · rw [hd.2]
          exact hc.lease
        · rw [hd.2]
          rfl
      have hsound := D.sound_of_idle hidle
      exact wp_bind.mpr (wp_publishing.mpr ⟨D.visited_of_sound hsound, currentSnapshot_sound hsound⟩)

end

end Discipline

namespace StartDiscipline

variable {D : StartDiscipline Profile} {request : EngineStartRequest} {g : UInt64}

/-- The state of a start in progress: its generation is held and nothing is quarantined. -/
structure Starting (D : StartDiscipline Profile) (g : UInt64) (a : Actor Profile) : Prop where
  held : D.held g a
  leased : ∃ lease, a.state.nativeLease = some lease ∧ lease.context.generation = g
  quarantine : a.state.quarantine = none

theorem Starting.sound (h : D.Starting g a) : D.sound a := D.sound_of_held h.held

theorem Starting.publishing (starting) (h : D.Starting g a) (hs : starting ≠ .off) :
    D.Starting g (a.publishing fun s ↦ { s with
      snapshot := { s.snapshot with state := starting } }) := by
  obtain ⟨lease, hlease, rfl⟩ := h.leased
  exact ⟨D.held_publishing h.held hlease hs rfl, ⟨lease, hlease, rfl⟩, h.quarantine⟩

variable {Q : Except ε β → Actor Profile → Prop} {active : RuntimeIdentity → EngineState}

theorem callBackend_held {timeout call f} (ha : D.Starting g a)
    (hcall : ∀ k, call.touched? = some k → k = g)
    (hf : ∀ r b, D.Starting g b → (f r).wp D.visited Q b) :
    (callBackend env timeout call >>= f).wp D.visited Q a := by
  refine wp_bind.mpr (wp_callBackend fun answer ↦ ?_)
  have hb : D.Starting g (a.record ⟨.backend call, answer⟩) :=
    ⟨D.held_record ha.held hcall, ha.leased, ha.quarantine⟩
  exact ⟨D.visited_of_sound hb.sound, hf _ _ hb⟩

/-- How a native start ends: with a runtime to be published, or waiting, or failed. -/
def Ended (D : StartDiscipline Profile) (digest : String) : Except ε Bool → Actor Profile → Prop :=
  D.Concludes fun started b ↦ Launched digest b ∧ (started = true → b.state.snapshot.state ≠ .off)

theorem adopt_ended {owner runtime} (ha : D.Starting g a)
    (hactive : ∀ runtime, (active runtime).runtime? = some runtime) :
    (do adopt env owner request active runtime; return true).wp D.visited
      (D.Ended request.configDigest) a := by
  unfold adopt
  cases hvalid : validateRuntime runtime owner request.context request.configDigest with
  | error error =>
    exact wp_bind_of (D.failIdentity_concludes (P := fun _ _ ↦ False) ha.sound) (fun _ _ h ↦ h)
      fun _ _ h ↦ h.2.elim
  | ok u =>
    refine D.update_bind ha.sound rfl rfl rfl fun hb ↦ wp_pure.mpr ⟨hb,
      ⟨fun r hr ↦ ?_, ha.quarantine⟩, fun _ ↦ (isFailed_of_runtime? (hactive runtime)).2⟩
    obtain rfl : runtime = r := Option.some.inj ((hactive runtime).symm.trans hr)
    exact (Checked.require_eq_ok.mp hvalid).2.2.1

theorem acquire_held {kind starting f}
    (ha : D.idle a) (hq : a.state.quarantine = none) (hs : starting ≠ .off)
    (hf : ∀ b, D.Starting request.context.generation b → (f ()).wp D.visited Q b) :
    (acquire kind starting request >>= f).wp D.visited Q a := by
  have hb : D.Starting request.context.generation (a.publishing fun s ↦ { s with
      nativeLease := some ⟨kind, request.context⟩
      snapshot := { s.snapshot with
        state := starting, configDigest := some request.configDigest } }) :=
    ⟨D.held_acquire (l := ⟨kind, request.context⟩) ha rfl hs rfl, ⟨_, rfl, rfl⟩, hq⟩
  exact wp_bind.mpr (wp_publishing.mpr ⟨D.visited_of_sound hb.sound, hf _ hb⟩)

variable {localOnly : Bool} {mode : SingBox.ProjectionMode}

theorem callStart_held {f} (ha : D.Starting request.context.generation a)
    (hf : ∀ r b, D.Starting request.context.generation b → (f r).wp D.visited Q b) :
    (callStart env localOnly request >>= f).wp D.visited Q a := by
  cases localOnly <;> exact callBackend_held ha (fun k hk ↦ (Option.some.inj hk).symm) hf

theorem startProxy_ended (ha : D.idle a) (hq : a.state.quarantine = none) :
    (startProxy env localOnly request).wp D.visited (D.Ended request.configDigest) a := by
  unfold startProxy
  rw [wp_state_bind]
  refine acquire_held ha hq ?_ fun b hb ↦ callStart_held hb fun r c hc ↦ ?_
  · cases localOnly <;> nofun
  · cases r with
    | error source => exact D.failBackend_concludes hc.sound hc.quarantine
    | ok runtime => exact adopt_ended hc (by cases localOnly <;> exact fun _ ↦ rfl)

theorem startInstalledTunnel_ended (hactive : ∀ runtime, (active runtime).runtime? = some runtime)
    (ha : D.Starting request.context.generation a) :
    (startInstalledTunnel env active request).wp D.visited (D.Ended request.configDigest) a := by
  unfold startInstalledTunnel
  rw [wp_state_bind]
  have hb : D.Starting request.context.generation (a.publishing fun s ↦ { s with
      nativeLease := some ⟨.tunnelRuntime, request.context⟩
      snapshot := { s.snapshot with
        state := if s.runtimePlatform.tunnelAuthorizationAwaitsConsent
          then .awaitingApproval request.context.generation
          else .tunnelStarting request.context.generation } }) := by
    refine ⟨D.held_publishing (l := ⟨.tunnelRuntime, request.context⟩) ha.held rfl ?_ rfl,
      ⟨_, rfl, rfl⟩, ha.quarantine⟩
    cases a.state.runtimePlatform <;> nofun
  refine wp_bind.mpr (wp_publishing.mpr ⟨D.visited_of_sound hb.sound, ?_⟩)
  refine callBackend_held hb nofun fun r c hc ↦ ?_
  cases r with
  | error source => exact D.failBackend_concludes hc.sound hc.quarantine
  | ok u =>
    have hd := hc.publishing (.tunnelStarting request.context.generation) nofun
    refine wp_bind.mpr (wp_publishing.mpr ⟨D.visited_of_sound hd.sound, ?_⟩)
    refine callBackend_held hd (fun k hk ↦ (Option.some.inj hk).symm) fun r e he ↦ ?_
    cases r with
    | error source => exact D.failBackend_concludes he.sound he.quarantine
    | ok runtime => exact adopt_ended he hactive

theorem startTunnel_ended (hactive : ∀ runtime, (active runtime).runtime? = some runtime) (ha : D.idle a)
    (hq : a.state.quarantine = none) : (startTunnel env active request).wp D.visited (D.Ended request.configDigest) a := by
  refine acquire_held ha hq nofun fun b hb ↦ ?_
  refine callBackend_held hb (fun k hk ↦ (Option.some.inj hk).symm) fun r c hc ↦ ?_
  rcases r with source | _ | _
  · exact D.failBackend_concludes hc.sound hc.quarantine
  · exact startInstalledTunnel_ended hactive hc
  · have hd := hc.publishing (.awaitingApproval request.context.generation) nofun
    exact wp_bind.mpr (wp_publishing.mpr ⟨D.visited_of_sound hd.sound,
      wp_pure.mpr ⟨hd.sound, ⟨nofun, hc.quarantine⟩, nofun⟩⟩)

theorem startNative_ended (ha : D.idle a) (hq : a.state.quarantine = none) :
    (startNative env mode request).wp D.visited (D.Ended request.configDigest) a := by
  cases mode with
  | localProxy => exact startProxy_ended ha hq
  | systemProxy => exact startProxy_ended ha hq
  | tunnel => exact startTunnel_ended (fun _ ↦ rfl) ha hq
  | tunnelSystemProxy => exact startTunnel_ended (fun _ ↦ rfl) ha hq

variable {target : EngineMode} {profileId : String} {profile : Profile}
  {settings : SingBox.EngineSettings}

theorem switchRuntime_concludes {projected} (ha : D.sound a) (hq : a.state.quarantine = none) :
    (switchRuntime env target mode projected profile settings).wp D.visited
      (D.Concludes fun _ ↦ Launched projected.digest) a := by
  refine D.update_bind ha rfl rfl rfl fun hb ↦ ?_
  refine wp_state_bind.mpr (Discipline.release_wp hb ?_ (fun _ _ h hinert ↦ ⟨h, hinert⟩)
    fun c hc ↦ ?_)
  · intro hnone
    exact ⟨Option.not_isSome_iff_eq_none.mp (Bool.eq_false_iff.mp hnone), hq⟩
  · have hoff := hc.setOff hq
    refine wp_bind.mpr (wp_publishing.mpr ⟨D.visited_of_sound (D.sound_of_idle hoff), ?_⟩)
    refine wp_bind_of (D.reserveNextGeneration_idle hoff) (fun _ d h ↦ ⟨D.sound_of_idle h.1, ?_⟩)
      fun generation d hd ↦ ?_
    · rw [ends_error, Inert, h.2]
      rfl
    have hidle := D.idle_update (u := fun s ↦ { s with
      snapshot := { s.snapshot with generation := generation } }) hd.1 (.inr rfl) rfl rfl
    have hnone : d.state.quarantine = none := by
      rw [hd.2]
      exact hc.quarantine.trans hq
    refine wp_bind.mpr (wp_update.mpr ⟨D.visited_of_sound (D.sound_of_idle hidle), ?_⟩)
    refine wp_bind_of (startNative_ended hidle hnone) (fun _ _ h ↦ h) fun started e he ↦ ?_
    obtain ⟨he, hlaunched, hs⟩ := he
    cases started with
    | true => exact D.finishStart_concludes he (hs rfl) hlaunched
    | false => exact wp_currentSnapshot.mpr ⟨he, hlaunched⟩

theorem keepRuntime_kept (ha : D.sound a) (hfailed : a.state.snapshot.state.isFailed = false)
    (hs : a.state.snapshot.state ≠ .off) : (keepRuntime env target).wp D.visited
      (fun r b ↦ D.sound b ∧ ends (fun b ↦ Inert b ∨ b.state.snapshot = a.state.snapshot)
        (fun _ b ↦ b.state.snapshot.state = a.state.snapshot.state ∧
          b.state.quarantine = a.state.quarantine) r b) a := by
  refine wp_bind_of (D.reconcileActiveRuntime_polled ha) (fun _ b hb ↦ ⟨hb.1, ?_⟩) fun _ b hb ↦ ?_
  · cases hb.2.2 with
    | same hsnapshot => exact .inr hsnapshot
    | failed hfailed => exact .inl (inert_of_isFailed hfailed)
  · cases hb.2.2 with
    | recovered h => cases hfailed.symm.trans h.failed
    | same hsnapshot hquarantine =>
      have hstate : b.state.snapshot.state = a.state.snapshot.state := by rw [hsnapshot]
      exact D.publishing_bind hb.1 rfl rfl (hstate ▸ hs) rfl fun hc ↦
        wp_currentSnapshot.mpr ⟨hc, hstate, hquarantine⟩

theorem transition_sound (ha : D.sound a) :
    D.Sound (transition env target profileId profile settings) a := by
  unfold transition
  split
  · exact D.transitionToOff_sound ha
  · refine .state_bind ?_
    cases hq : a.state.quarantine with
    | some quarantine => exact .attempt ha
    | none =>
      refine .attempt_bind ha fun _ ↦ .attempt_bind ha fun projected ↦ ?_
      split
      · next hsame =>
        obtain ⟨runtime, hruntime, -⟩ := exists_runtime?_of_isSame hsame
        obtain ⟨hfailed, hs⟩ := isFailed_of_runtime? hruntime
        exact wp_post (keepRuntime_kept ha hfailed hs) fun _ _ h ↦ h.1
      · exact wp_post (switchRuntime_concludes ha hq) fun _ _ h ↦ h.1

end StartDiscipline

end CfwRs.Coordinator
