import CfwRs.Coordinator.Discipline

namespace CfwRs.Coordinator

open Lib Lib.Durable

variable {Profile : Type} {env : Environment Profile} {a : Actor Profile}
  {D : StartDiscipline Profile} {target : EngineMode} {profileId : String} {profile : Profile}
  {settings : SingBox.EngineSettings} {projected : SingBox.ProjectedConfig}

theorem Inert.runsOnly {digest : String} (h : Inert a) : RunsOnly digest a := by
  intro runtime hruntime
  rw [h] at hruntime
  cases hruntime

/-- What the coordinator asks of a specification before it touches the native side. -/
def Admitted (env : Environment Profile) (platform : EngineRuntimePlatform) (target : EngineMode)
    (profileId : String) (profile : Profile) (settings : SingBox.EngineSettings)
    (projected : SingBox.ProjectedConfig) : Prop :=
  ∃ mode, target.projection? = some mode ∧ validateMtu platform target settings = .ok () ∧
    env.project profile profileId mode settings platform.tunnelStack = .ok projected

/-- After a transition to an admitted specification, whatever is active runs its configuration,
and after one that failed nothing is active that was not before. -/
theorem transition_launched
    (h : Admitted env a.state.runtimePlatform target profileId profile settings projected)
    (hq : a.state.quarantine = none) (ha : D.sound a) :
    (transition env target profileId profile settings).wp D.visited
      (fun r b ↦ D.sound b ∧ ends (fun b ↦ Inert b ∨ b.state.snapshot = a.state.snapshot ∧
        RunsOnly projected.digest b) (fun _ ↦ Launched projected.digest) r b) a := by
  obtain ⟨mode, hmode, hmtu, hproject⟩ := h
  unfold transition
  rw [hmode]
  rw [wp_state_bind, hq]
  rw [hmtu, hproject]
  simp only [wp_run]
  split
  · next hsame =>
    obtain ⟨runtime, hruntime, hdigest⟩ := exists_runtime?_of_isSame hsame
    obtain ⟨hfailed, hs⟩ := isFailed_of_runtime? hruntime
    have hruns : RunsOnly projected.digest a := by
      intro r hr
      rw [hruntime] at hr
      exact Option.some.inj hr ▸ hdigest
    refine wp_post (StartDiscipline.keepRuntime_kept ha hfailed hs) fun r b hb ↦ ⟨hb.1, ?_⟩
    cases r with
    | ok snapshot => exact ⟨hruns.of_state hb.2.1, hb.2.2.trans hq⟩
    | error e => exact hb.2.imp id fun heq ↦ ⟨heq, hruns.of_state (congrArg _ heq)⟩
  · refine wp_post (StartDiscipline.switchRuntime_concludes ha hq) fun r b hb ↦ ⟨hb.1, ?_⟩
    cases r with
    | ok snapshot => exact hb.2
    | error e => exact .inl hb.2

end CfwRs.Coordinator
