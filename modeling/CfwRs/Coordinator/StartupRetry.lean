import CfwRs.Coordinator.CleanOff

namespace CfwRs.Coordinator

open Lib Lib.Durable

variable {Profile : Type} {env : Environment Profile} {a s : Actor Profile}

def FailedAfter (start s : Actor Profile) : Prop :=
  ∀ offer failure, s.startupFailure = some (offer, failure) →
    isQueryStatusFailure failure.error = true → FailedQuery start.history s.history

theorem startup_failedAfter : (startup env).wp (fun _ ↦ True) (fun _ b ↦ FailedAfter a b) a := by
  refine wp_catching_bind reconcileInitialState_informed fun r b hinfo ↦ ?_
  cases r with
  | ok u => exact wp_step.mpr ⟨trivial, nofun⟩
  | error failure =>
    refine wp_step.mpr ⟨trivial, fun offer failure' hf hquery ↦ ?_⟩
    obtain ⟨-, rfl⟩ := Prod.mk.inj (Option.some.inj hf)
    exact ((hinfo failure rfl).query hquery).2.2

/-- A coordinator whose startup has failed asks for nothing until it repeats it. -/
def attemptDiscipline (env : Environment Profile) (start : Actor Profile) :
    ActorDiscipline env where
  toServeDiscipline := anyDiscipline
  failed := FailedAfter start
  retries := (· = start)
  visited_of_failed _ := trivial
  failed_settledOff h _ _ := h
  failed_shutdown h _ _ := ⟨trivial, h⟩
  failed_close h := h
  startup_failed := by
    rintro a rfl
    exact wp_post startup_failedAfter fun _ _ h ↦ ⟨fun _ ↦ trivial, fun _ ↦ h⟩

section Run

variable (env) (platform : EngineRuntimePlatform) (generation : UInt64)

/-- The state in which the last startup of a run began. -/
def lastStart : List (History.Entry (Actor Profile) (Input Profile)) → Actor Profile
  | [] => initial platform generation
  | e :: t => if e.input.repeatsStartup env.startupReconciliation e.before = true then e.before
      else lastStart t

variable {env platform generation} {t : List (History.Entry (Actor Profile) (Input Profile))}
  (h : History.Run (Started env platform generation) (Step env) t s)
include h

theorem failedAfter_lastStart : FailedAfter (lastStart env platform generation t) s := by
  induction h with
  | start hs =>
    exact hs ▸ startup_failedAfter.2
  | @step t s s' i hrun hstep ih =>
    have hadmits : (attemptDiscipline env
        (lastStart env platform generation (⟨s, i, s'⟩ :: t))).Admits i s := by
      unfold lastStart ActorDiscipline.Admits
      split
      · rfl
      · exact ⟨fun _ ↦ trivial, fun _ ↦ ih⟩
    have hkept := (ActorDiscipline.serve_kept hadmits).2
    rw [← hstep.2] at hkept
    intro offer failure hf hquery
    exact hkept.failed (by simp [hf]) offer failure hf hquery

end Run

def unprovenStartup : Actor Unit := (startup (plainEnvironment slowWorld)).final (initial .macOs 3)

end CfwRs.Coordinator
