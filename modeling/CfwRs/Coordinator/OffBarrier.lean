import CfwRs.Coordinator.Serving
import CfwRs.Lib.Barrier

namespace CfwRs.Coordinator

open Lib Lib.Durable Exchange

variable {Profile ε α : Type} {env : Environment Profile} {a : Actor Profile}

namespace Exchange

def opens (x : Exchange) (g : UInt64) : Prop :=
  ∃ call, x.request = .backend call ∧ call.opened? = some g

def touches (x : Exchange) (g : UInt64) : Prop :=
  ∃ call, x.request = .backend call ∧ call.touched? = some g

variable {x : Exchange} {call : BackendCall} {g : UInt64}

theorem exists_call_iff {P : BackendCall → Prop} (hx : x.request = .backend call) :
    (∃ call, x.request = .backend call ∧ P call) ↔ P call := by
  simp [hx]

theorem opens_iff (hx : x.request = .backend call) : x.opens g ↔ call.opened? = some g :=
  exists_call_iff hx

theorem touches_iff (hx : x.request = .backend call) : x.touches g ↔ call.touched? = some g :=
  exists_call_iff hx

theorem not_touches_of_passive {r w} (h : r.Passive) : ¬touches ⟨r, w⟩ g := by
  rintro ⟨call, rfl, hg⟩
  have hnone : call.touched? = none := h
  rw [hnone] at hg
  cases hg

end Exchange

/-- The calls for a generation, with the Off observations between them. -/
def offBarrier : Barrier Exchange UInt64 where
  opens := opens
  touches := touches
  clears := (· = offObserved)
  touches_of_opens := fun _ _ ⟨call, hcall, hg⟩ ↦ ⟨call, hcall, BackendCall.touched?_of_opened? hg⟩
  not_touches_of_clears := by
    rintro x g rfl
    exact not_touches_of_passive rfl

theorem not_opens_of_passive {r w g} (h : r.Passive) : ¬offBarrier.opens ⟨r, w⟩ g := fun hg ↦
  not_touches_of_passive h (offBarrier.touches_of_opens _ g hg)

theorem not_opens_stopCall {lease : NativeLease} {x} {g}
    (hx : x.request = .backend lease.stopCall) : ¬offBarrier.opens x g := by
  intro hg
  have hopened := (opens_iff hx).mp hg
  rw [lease.opened?_stopCall] at hopened
  cases hopened

def CoordinatorState.leased (s : CoordinatorState Profile) : Set UInt64 :=
  {g | ∃ lease, s.nativeLease = some lease ∧ lease.context.generation = g}

def Separated (a : Actor Profile) : Prop := offBarrier.Separated a.history

/-- Every generation that was started is proven Off, or leased, or the coordinator is
quarantined. -/
structure Guarded (a : Actor Profile) : Prop where
  separated : Separated a
  accounted : a.state.quarantine = none → offBarrier.ClearedBut a.state.leased a.history

theorem Guarded.of_eq {a b : Actor Profile} (h : Guarded a) (hh : b.history = a.history)
    (hl : b.state.nativeLease = a.state.nativeLease)
    (hq : b.state.quarantine = a.state.quarantine) : Guarded b := by
  refine ⟨?_, fun hnone ↦ ?_⟩
  · rw [Separated, hh]
    exact h.separated
  · rw [hh, CoordinatorState.leased, hl]
    exact h.accounted (hq ▸ hnone)

structure Idle (a : Actor Profile) : Prop where
  separated : Separated a
  cleared : offBarrier.ClearedBut ∅ a.history

/-- The coordinator holds the lease of one generation, and all others are proven Off. -/
structure Held (g : UInt64) (a : Actor Profile) : Prop where
  separated : Separated a
  cleared : offBarrier.ClearedBut {g} a.history
  leased : g ∈ a.state.leased

/-- The rules by which every started generation stays accounted for. -/
def guardedDiscipline : ServeDiscipline Profile where
  visited := Separated
  sound := Guarded
  idle := Idle
  held := Held
  visited_of_sound h := h.separated
  sound_of_idle h := ⟨h.separated, fun _ ↦ h.cleared.mono fun _ hg ↦ hg.elim⟩
  sound_of_held h := ⟨h.separated, fun _ ↦ h.cleared.mono fun _ hg ↦ hg ▸ h.leased⟩
  visited_record hp h := h.cons_of_not_opens fun _ ↦ not_opens_of_passive hp
  sound_record hp h := ⟨h.separated.cons_of_not_opens fun _ ↦ not_opens_of_passive hp,
    fun hq ↦ (h.accounted hq).cons fun _ hg ↦ absurd hg (not_touches_of_passive hp)⟩
  idle_record hp h := ⟨h.separated.cons_of_not_opens fun _ ↦ not_opens_of_passive hp,
    h.cleared.cons fun _ hg ↦ absurd hg (not_touches_of_passive hp)⟩
  sound_update h hl hq _ := h.of_eq rfl hl hq
  sound_publishing h hl hq _ _ := h.of_eq rfl hl hq
  sound_quarantined h hq _ _ := ⟨h, fun hnone ↦ absurd hnone hq⟩
  sound_stop := by
    intro a lease x h hlease hx
    refine ⟨h.separated.cons_of_not_opens fun _ ↦ not_opens_stopCall hx,
      fun hq ↦ (h.accounted hq).cons fun g hg ↦ ?_⟩
    have htouched := (touches_iff hx).mp hg
    rw [lease.touched?_stopCall] at htouched
    exact ⟨lease, hlease, Option.some.inj htouched⟩
  visited_stopped h := h.separated
  idle_off h := ⟨h.cons_of_not_opens fun _ ↦ not_opens_of_passive rfl, .of_clears rfl⟩
  idle_update h _ _ _ := ⟨h.separated, h.cleared⟩
  idle_publishing h _ _ _ := ⟨h.separated, h.cleared⟩
  idle_unleased := by
    intro a h hlease hq
    refine ⟨h.separated, (h.accounted hq).mono ?_⟩
    rintro g ⟨lease, hsome, -⟩
    rw [hlease] at hsome
    cases hsome
  held_acquire h hl _ _ := ⟨h.separated, h.cleared.mono fun _ hg ↦ hg.elim, ⟨_, hl, rfl⟩⟩
  held_publishing h hl _ _ := ⟨h.separated, h.cleared, ⟨_, hl, rfl⟩⟩
  held_record := by
    intro a g call answer h hcall
    refine ⟨h.separated.cons h.cleared fun k k' hopens hk' ↦ ?_, h.cleared.cons fun k hk ↦ ?_,
      h.leased⟩
    · have hopened := (opens_iff rfl).mp hopens
      rw [hk', hcall k (BackendCall.touched?_of_opened? hopened)]
    · exact hcall k ((touches_iff rfl).mp hk)
  sound_commit h := ⟨h.separated.cons_of_not_opens fun _ ⟨_, hcall, _⟩ ↦ (nomatch hcall),
    fun hq ↦ (h.accounted hq).cons fun _ ⟨_, hcall, _⟩ ↦ (nomatch hcall)⟩
  sound_close h := ⟨h.separated, h.accounted⟩

structure Unopened (a : Actor Profile) : Prop where
  separated : Separated a
  unopened : ∀ g, ¬offBarrier.Opened g a.history

theorem Unopened.record {x} (h : Unopened a) (hx : ∀ g, ¬offBarrier.opens x g) :
    Unopened (a.record x) := by
  refine ⟨h.separated.cons_of_not_opens hx, fun g hg ↦ ?_⟩
  rcases Barrier.opened_cons.mp hg with hopens | hopened
  · exact hx g hopens
  · exact h.unopened g hopened

theorem Unopened.guarded (h : Unopened a) : Guarded a :=
  ⟨h.separated, fun _ g hg ↦ absurd hg (h.unopened g)⟩

def unopenedDiscipline : Discipline Profile where
  visited := Unopened
  sound := Unopened
  idle := Unopened
  visited_of_sound h := h
  sound_of_idle h := h
  visited_record hp h := h.record fun _ ↦ not_opens_of_passive hp
  sound_record hp h := h.record fun _ ↦ not_opens_of_passive hp
  idle_record hp h := h.record fun _ ↦ not_opens_of_passive hp
  sound_update h _ _ _ := ⟨h.separated, h.unopened⟩
  sound_publishing h _ _ _ _ := ⟨h.separated, h.unopened⟩
  sound_quarantined h _ _ _ := ⟨h.separated, h.unopened⟩
  sound_stop h _ hx := h.record fun _ ↦ not_opens_stopCall hx
  visited_stopped h := ⟨h.separated, h.unopened⟩
  idle_off h := h.record fun _ ↦ not_opens_of_passive rfl
  idle_update h _ _ _ := ⟨h.separated, h.unopened⟩
  idle_publishing h _ _ _ := ⟨h.separated, h.unopened⟩
  idle_unleased h _ _ := h

theorem startup_unopened (ha : Unopened a) :
    (startup env).wp Unopened (fun _ b ↦ Unopened b) a := by
  have hinit : unopenedDiscipline.Sound (reconcileInitialState env) a :=
    reconcileInitialState_sound ha (fun _ _ _ hb _ _ ↦ ⟨hb.separated, hb.unopened⟩)
      (fun _ hb _ ↦ ⟨hb.separated, hb.unopened⟩) fun _ hb _ _ ↦ ⟨hb.separated, hb.unopened⟩
  refine wp_catching_bind hinit fun r b hb ↦ ?_
  have hb' : Unopened b := hb
  cases r with
  | ok u => exact wp_step.mpr ⟨⟨hb'.separated, hb'.unopened⟩, ⟨hb'.separated, hb'.unopened⟩⟩
  | error failure =>
    exact wp_step.mpr ⟨⟨hb'.separated, hb'.unopened⟩, ⟨hb'.separated, hb'.unopened⟩⟩

/-- A coordinator whose startup has failed has not started anything. -/
def offBarrierDiscipline (env : Environment Profile) : ActorDiscipline env where
  toServeDiscipline := guardedDiscipline
  failed := Unopened
  retries := Unopened
  visited_of_failed h := h.separated
  failed_settledOff h _ _ := ⟨h.separated, h.unopened⟩
  failed_shutdown h _ _ := ⟨h.separated, h.separated, h.unopened⟩
  failed_close h := ⟨h.separated, h.unopened⟩
  startup_failed h := wp_mono (startup_unopened h) (fun _ hb ↦ hb.separated) fun _ _ hb ↦
    ⟨fun _ ↦ hb.guarded, fun _ ↦ hb⟩

theorem unopened_initial (platform : EngineRuntimePlatform) (generation : UInt64) :
    Unopened (initial platform generation : Actor Profile) := ⟨trivial, fun _ ⟨_, hx, _⟩ ↦ nomatch hx⟩

/-- Between the starts of two generations lies a status query that answered Off, and it is newer
than every call for the first one. -/
theorem off_between_generations {platform : EngineRuntimePlatform} {generation : UInt64}
    (h : Reached env platform generation a) {newer middle older : List Exchange}
    {first second : Exchange} {g g' : UInt64}
    (hhistory : a.history = newer ++ second :: (middle ++ first :: older))
    (hfirst : first.opens g) (hsecond : second.opens g') (hne : g ≠ g') :
    ∃ later earlier, middle = later ++ offObserved :: earlier ∧
      ∀ x ∈ later, ¬x.touches g := by
  have hstart := @unopened_initial Profile platform generation
  have hseparated : Separated a :=
    (offBarrierDiscipline env).visited_of_reachedBy hstart.separated
      ((offBarrierDiscipline env).startup_kept hstart)
      (fun _ _ hkept _ _ hrepeats ↦ hkept.failed_of_repeatsStartup hrepeats) h
  rw [Separated, hhistory] at hseparated
  obtain ⟨later, clearing, earlier, heq, rfl, hlater⟩ := hseparated.between hfirst hsecond hne
  exact ⟨later, earlier, heq, hlater⟩

def compliantWorld (_ : List Exchange) : (r : Request) → r.Answer
  | .backend .queryStatus => some (.ok .off)
  | .backend (.startLocalProxy request) | .backend (.startSystemProxy request) =>
    some (.ok ⟨.proxyAgent, request.context, request.configDigest, true⟩)
  | .backend (.startTunnel request) =>
    some (.ok ⟨.packetTunnelSystemExtension, request.context, request.configDigest, true⟩)
  | .backend (.installTunnel _) => some (.ok .ready)
  | .backend (.checkConfiguration _) | .backend (.stopLocalProxy _)
  | .backend (.stopSystemProxy _) | .backend (.cancelTunnelInstall _)
  | .backend (.authorizeTunnelConfiguration _) | .backend (.stopTunnel _) => some (.ok ())
  | .reserveNext expected => .ok (expected + 1)
  | .selectProxies _ _ => some (.ok ())
  | .commit => .ok ()

def plainConfig (mode : SingBox.ProjectionMode) : SingBox.ProjectedConfig where
  mode := mode
  credentialAudience := ⟨"11111111-2222-4333-8444-555555555555",
    "0000000000000000000000000000000000000000000000000000000000000000", by decide⟩
  json := .null
  credentialSlots := []
  clashApi := ⟨9090, ""⟩
  configurationDigest := ""
  directIpv4Hosts := ⟨false⟩
  digest := ""

def plainSession : EngineSessionIdentity := ⟨"11111111-2222-4333-8444-555555555555", 1⟩

def plainRequest (mode : SingBox.ProjectionMode) (generation : UInt64) : EngineStartRequest :=
  startRequest (plainConfig mode) default (.new plainSession generation)

def plainEnvironment (world : List Exchange → (r : Request) → r.Answer) : Environment Unit where
  world := world
  session := plainSession
  hasGenerationStore := false
  operationTimeout := "15s"
  authorizationTimeout := "325s"
  statusQueryTimeout := "2s"
  startupReconciliation := .cleanupKnownLineage
  processSecret := ""
  display _ := ""
  digest _ := ""
  proxySelections _ := []
  routesThroughRemote _ := true
  project _ _ mode _ _ := .ok (plainConfig mode)

def switchTo (target : EngineMode) : Input Unit := .command (.setMode target "" () default none)

def replacedProxy : Actor Unit :=
  (serve (plainEnvironment compliantWorld) (switchTo .systemProxy)).final
    ((serve (plainEnvironment compliantWorld) (switchTo .localProxy)).final
      ((startup (plainEnvironment compliantWorld)).final (initial .macOs 0)))

theorem reached_replacedProxy :
    Reached (plainEnvironment compliantWorld) .macOs 0 replacedProxy := by
  have hstart : Started (plainEnvironment compliantWorld) .macOs 0
      ((startup (plainEnvironment compliantWorld)).final (initial .macOs 0)) := rfl
  exact .serving (switchTo .systemProxy)
    (.step (.start hstart) ⟨trivial, rfl, rfl⟩) rfl trivial crash_final

theorem history_replacedProxy : replacedProxy.history =
    [] ++ ⟨.backend (.startSystemProxy (plainRequest .systemProxy 2)),
        some (.ok ⟨.proxyAgent, .new plainSession 2, "", true⟩)⟩ ::
      ([offObserved, ⟨.backend (.stopLocalProxy (.new plainSession 1)), some (.ok ())⟩] ++
        ⟨.backend (.startLocalProxy (plainRequest .localProxy 1)),
          some (.ok ⟨.proxyAgent, .new plainSession 1, "", true⟩)⟩ :: [offObserved]) := rfl

theorem off_between_proxies : ∃ later earlier,
    [offObserved, ⟨.backend (.stopLocalProxy (.new plainSession 1)), some (.ok ())⟩] =
        later ++ offObserved :: earlier ∧ ∀ x ∈ later, ¬x.touches 1 := by
  refine off_between_generations reached_replacedProxy history_replacedProxy ?_
    (?_ : opens _ 2) (by decide)
  · exact ⟨_, rfl, rfl⟩
  · exact ⟨_, rfl, rfl⟩

end CfwRs.Coordinator
