import CfwRs.Coordinator.OffBarrier

namespace CfwRs.Coordinator

open Lib Lib.Durable

variable {Profile : Type} {env : Environment Profile} {a : Actor Profile} {n : ℕ}

/-- The coordinator after a number of polls in a row. -/
def afterPolls (env : Environment Profile) (a : Actor Profile) : ℕ → Actor Profile
  | 0 => a
  | n + 1 => (reconcileActiveRuntime env).final (afterPolls env a n)

theorem afterPolls_succ (env : Environment Profile) (a : Actor Profile) (n : ℕ) :
    Asked (afterPolls env a n) (afterPolls env a (n + 1)) ∧
      ∃ r, Polled (afterPolls env a n) r (afterPolls env a (n + 1)) := by
  obtain ⟨-, hasked, hpolled⟩ :=
    (anyDiscipline.reconcileActiveRuntime_polled trivial).2
  exact ⟨hasked, _, hpolled⟩

theorem history_afterPolls : ∃ newer, (afterPolls env a n).history = newer ++ a.history ∧
    ∀ x ∈ newer, x.request = .backend .queryStatus := by
  induction n with
  | zero => exact ⟨[], rfl, List.forall_mem_nil _⟩
  | succ n ih =>
    obtain ⟨newer, hnewer, hqueries⟩ := ih
    rcases (afterPolls_succ env a n).1 with h | ⟨answer, h⟩
    · exact ⟨newer, h.trans hnewer, hqueries⟩
    · refine ⟨⟨.backend .queryStatus, answer⟩ :: newer, ?_, List.forall_mem_cons.mpr ⟨rfl, hqueries⟩⟩
      rw [h, hnewer, List.cons_append]

/-- The snapshot that was recorded with a failure: it was there before the polls, or its runtime was
active before one of them. -/
theorem recorded_afterPolls {baseline : EngineSnapshot}
    (h : (afterPolls env a n).state.statusRecheck = some baseline) :
    a.state.statusRecheck = some baseline ∨ ∃ k < n, (afterPolls env a k).state.snapshot = baseline ∧
      ∃ runtime, baseline.state.runtime? = some runtime := by
  induction n with
  | zero => exact .inl h
  | succ n ih =>
    obtain ⟨r, hpolled⟩ := (afterPolls_succ env a n).2
    cases hpolled with
    | same _ _ hnone => cases hnone.symm.trans h
    | recovered _ hnone => cases hnone.symm.trans h
    | failed _ hrecheck =>
      rcases hrecheck _ h with hpending | ⟨rfl, hactive⟩
      · refine (ih hpending).imp id ?_
        rintro ⟨k, hk, hsnapshot⟩
        exact ⟨k, hk.trans n.lt_succ_self, hsnapshot⟩
      · exact .inr ⟨n, n.lt_succ_self, rfl, hactive⟩

/-- Polls only ask for the status, and bring back no runtime but the one whose failure was recorded:
still leased, of the same generation, mode and digest, and attested again. -/
theorem recheck_sound (env : Environment Profile) (a : Actor Profile) (n : ℕ) :
    (∃ newer, (afterPolls env a n).history = newer ++ a.history ∧
      ∀ x ∈ newer, x.request = .backend .queryStatus) ∧
    ((afterPolls env a n).state.snapshot.state.isFailed = true →
      (afterPolls env a (n + 1)).state.snapshot.state.isFailed = false →
      ∃ baseline, Rechecked (afterPolls env a n) (afterPolls env a (n + 1)) baseline ∧
        (a.state.statusRecheck = some baseline ∨
          ∃ k < n, (afterPolls env a k).state.snapshot = baseline ∧
            ∃ runtime, baseline.state.runtime? = some runtime)) := by
  refine ⟨history_afterPolls, fun hfailed hback ↦ ?_⟩
  obtain ⟨r, hpolled⟩ := (afterPolls_succ env a n).2
  cases hpolled with
  | same hsnapshot =>
    rw [hsnapshot, hfailed] at hback
    cases hback
  | failed hstill => cases hstill.symm.trans hback
  | recovered h => exact ⟨_, h, recorded_afterPolls h.pending⟩

def blinkingWorld (history : List Exchange) : (r : Request) → r.Answer
  | .backend .queryStatus =>
    match history.length with
    | 2 | 3 | 4 => none
    | 5 => some (.ok (.localProxy ⟨.proxyAgent, .new plainSession 1, "", true⟩))
    | _ => some (.ok .off)
  | r => compliantWorld history r

def blinkedProxy : Actor Unit :=
  (serve (plainEnvironment blinkingWorld) (switchTo .localProxy)).final
    ((startup (plainEnvironment blinkingWorld)).final (initial .macOs 0))

theorem recheck_sound_blinkedProxy : ∃ baseline,
    Rechecked (afterPolls (plainEnvironment blinkingWorld) blinkedProxy 3)
      (afterPolls (plainEnvironment blinkingWorld) blinkedProxy 4) baseline := by
  obtain ⟨baseline, h, -⟩ := (recheck_sound (plainEnvironment blinkingWorld) blinkedProxy 3).2 rfl rfl
  exact ⟨baseline, h⟩

end CfwRs.Coordinator
