import CfwRs.NativeBridge.StartsSound

namespace CfwRs.NativeBridge

open Lib Lib.Checked Lib.Durable GlobalAuthority Bridge

variable {α β : Type} {w : World} {s : Bridge} {owner : NativeStopOwner}
  {context : EngineCommandContext} {x : NativeStopTransaction} {e : Thrown}
  {request : EngineStartRequest} {P : α → Bridge → Prop}

/-! ### Rollbacks -/

theorem Slots.Clear.eq_none {a : Slots} (h : a.Clear) : a.pendingStop = none ∧
    a.pendingStartCleanup = none ∧ a.pendingFailedStartOff = none ∧
    a.completedStartCleanup = none := by
  simpa only [Slots.Clear, Option.isNone_iff_eq_none] using h

variable {Q : α → Bridge → Prop} {c : Task α} {mode : NativeStartMode}
variable {R : Bridge → Bridge → Prop} {cancellationFailure : Option Thrown}
  {descriptor : ConfigurationDescriptor}

theorem moves_catching_any {Q} (h : Moves R c Q s) : Roams R (c.catching : Task _) s :=
  (h.mono fun _ _ _ _ ↦ trivial).catching

theorem moves_retainStartCleanup : Roams Evolves (retainStartCleanup x) s := by
  refine moves_slots ?_
  cases hpending : s.slots.pendingStartCleanup with
  | some y => exact moves_attempt_end fun _ _ ↦ trivial
  | none => exact moves_write (evolves_retainStartCleanup hpending)

theorem sound_bind {f : β → Task α} {Q} {c} (hs : s.Sound) (hc : Moves Evolves c (returns Q) s)
    (hf : ∀ b t, t.Sound → Q b t → Moves Evolves (f b) (returns P) t) :
    Moves Evolves (c >>= f) (returns P) s :=
  hc.bind_returns fun b t ht hb ↦ hf b t (ht.sound hs) hb

theorem moves_rollbackStartedTunnel (hs : s.Sound) :
    Moves Evolves (rollbackStartedTunnel w x e) (returns P) s := by
  refine sound_bind hs moves_retainStartCleanup fun _ t hs _ ↦ ?_
  refine sound_bind hs (moves_catching_any moves_reconcilePendingTunnelStartCleanup)
    fun reconciled u hs _ ↦ ?_
  split
  · refine (moves_proveFailedStartOff hs).bind_any fun _ v ↦ ?_
    exact moves_throwing trivial
  · split
    · refine (stops_evolves (proceeds_stops
        moves_attemptLocalStopAfterOrderingFailure)).bind_any fun _ v ↦ ?_
      exact moves_throwing trivial
    · exact moves_throwing trivial

theorem moves_retainPendingStop : Roams Stops (retainPendingStop x) s := by
  refine moves_slots ?_
  cases hpending : s.slots.pendingStop with
  | some y => exact moves_attempt_end fun _ _ ↦ trivial
  | none =>
    refine moves_write (stops_setPendingStop fun y hy ↦ ?_)
    cases hpending.symm.trans hy

theorem moves_rollbackStartedProxy (hfailed : s.slots.pendingFailedStartOff = none)
    (hcompleted : s.slots.completedStartCleanup = none) :
    Moves Evolves (rollbackStartedProxy w x e cancellationFailure) (returns P) s := by
  refine (stops_evolves (moves_retainPendingStop.post
    fun _ _ ht _ ↦ ht)).bind_returns fun _ t _ ht ↦ ?_
  refine Moves.bind_returns
    ((moves_drivePendingStop.along (fun _ hu ↦ hu.toEvolves) fun _ _ hu _ ↦ hu).catching)
    fun driven u _ hu ↦ ?_
  split
  · refine (moves_write (evolves_setReceipt (fun _ ↦ .inl ?_) fun r hr ↦ ?_)).bind_any
      fun _ _ ↦ moves_throwing trivial
    · rw [hu.pendingFailedStartOff, ht.pendingFailedStartOff, hfailed]
    · rw [hu.completedStartCleanup, ht.completedStartCleanup, hcompleted] at hr
      cases hr
  · refine (stops_evolves (proceeds_stops
      moves_attemptLocalStopAfterOrderingFailure)).bind_any fun _ v ↦ ?_
    split <;> exact moves_throwing trivial

theorem moves_rollbackStartedOwner (hs : s.Sound) (hclear : s.slots.Clear) :
    Moves Evolves (rollbackStartedOwner w x e cancellationFailure) (returns P) s := by
  obtain ⟨-, -, hfailed, hcompleted⟩ := hclear.eq_none
  unfold rollbackStartedOwner
  split
  · exact moves_rollbackStartedTunnel hs
  · exact moves_rollbackStartedProxy hfailed hcompleted

/-! ### The beginning of a mutation -/

theorem moves_retainRecoveredCleanup : Moves CleansUp (retainRecoveredCleanup x) (returns fun _ t ↦
    t.slots.pendingFailedStartOff = none ∧ t.slots.completedStartCleanup = none) s := by
  refine moves_slots ?_
  cases hpending : s.slots.pendingStartCleanup with
  | some y =>
    refine moves_attempt_end fun _ h ↦ ?_
    simp only [require_eq_ok, Option.isNone_iff_eq_none] at h
    exact h.2
  | none =>
    refine moves_attempt_returns fun _ h ↦ ?_
    simp only [require_eq_ok, Option.isNone_iff_eq_none] at h
    exact moves_step ⟨evolves_retainStartCleanup hpending, rfl, rfl⟩ h.2

/-- A recovery leaves nothing retained, unless it finds the journal settled and then looks at
nothing else. -/
theorem moves_beginMutation : Moves Evolves (beginMutation w) (returns fun _ t ↦
    s.startupPreferenceRecoveryComplete = false →
      (w.answer s.log .pendingPreferenceMutationConfiguration = .ok none → s.slots.Clear) →
      t.slots.Clear) s := by
  refine moves_mapping (moves_read_bind ?_)
  split
  · next h => exact moves_pure fun hrecovering ↦ absurd h (Bool.eq_false_iff.mp hrecovering)
  refine (quiet_evolves (moves_call_answer id)).bind_returns fun found t _ ht ↦ ?_
  cases found with
  | none =>
    refine (quiet_evolves moves_endRecovery).post fun _ u _ hu _ hjournal ↦ ?_
    rw [hu.2, ht.2]
    exact hjournal ht.1
  | some descriptor =>
    refine (cleansUp_evolves moves_retainRecoveredCleanup).bind_returns fun _ u _ hu ↦ ?_
    refine (cleansUp_evolves (moves_cleanUp.post (Q := fun _ v ↦ v.slots.Clear)
      fun _ v hv h ↦ ?_)).bind_returns fun _ v _ hv ↦ ?_
    · simp [Slots.Clear, h.1, h.2, hv.pendingFailedStartOff, hv.completedStartCleanup, hu.1,
        hu.2]
    · exact (quiet_evolves moves_endRecovery).post fun _ _ _ h _ _ ↦ h.2 ▸ hv

theorem moves_requireNoPendingStopBeforeStart :
    Moves Quiet requireNoPendingStopBeforeStart (returns fun _ t ↦ t.slots.Clear) s := by
  refine moves_slots (moves_attempt_end fun _ h ↦ ?_)
  rwa [require_eq_ok] at h

/-! ### Starts -/

theorem moves_start {request} (hclear : s.slots.Clear) :
    Roams Quiet ((call w request).catching : Task _) s :=
  moves_catching_any (moves_call fun _ ↦ hclear)

/-- Nothing is retained while a start only asks. -/
theorem clear_bind {f : β → Task α} {Q} {c} (hs : s.Sound)
    (hclear : s.slots.Clear) (hc : Moves Quiet c (returns Q) s)
    (hf : ∀ b t, t.Sound → t.slots.Clear → Moves Evolves (f b) (returns P) t) :
    Moves Evolves (c >>= f) (returns P) s :=
  sound_bind hs (quiet_evolves hc) fun b t hs hb ↦ hf b t hs (hb.2 ▸ hclear)

theorem moves_confirmProxyReady : Roams Quiet (confirmProxyReady w request mode) s := by
  refine (moves_call_any id).bind_any fun _ t ↦ ?_
  refine moves_queryStatus.bind_any fun status u ↦ ?_
  refine moves_attempt_returns fun _ _ ↦ moves_attempt_returns fun _ _ ↦ ?_
  refine (moves_call_any id).bind_any fun _ v ↦ ?_
  exact moves_pure trivial

theorem moves_proveThenThrow (hs : s.Sound) :
    Moves Evolves (do proveFailedStartOff w x; throwing e : Task α) (returns P) s :=
  (moves_proveFailedStartOff hs).bind_any fun _ _ ↦ moves_throwing trivial

theorem moves_preflightCredentials : Roams Quiet (preflightCredentials w) s := by
  refine (moves_call_any id).bind_any fun _ t ↦ ?_
  exact moves_mapping (moves_call_any id)

theorem moves_abandonStartedProxy (hs : s.Sound) (hclear : s.slots.Clear) :
    Moves Evolves (abandonStartedProxy w x e) (returns P) s := by
  refine clear_bind hs hclear (moves_call_catching id) fun cancelled t hs hclear ↦ ?_
  cases cancelled with
  | error e => exact moves_rollbackStartedOwner hs hclear
  | ok _ => exact moves_proveThenThrow hs

theorem moves_runProxyStart (hs : s.Sound) (hclear : s.slots.Clear) :
    Roams Evolves (runProxyStart w request mode x) s := by
  refine clear_bind hs hclear (moves_start hclear) fun prepared t hs hclear ↦ ?_
  cases prepared with
  | error e => exact moves_proveThenThrow hs
  | ok _ =>
  refine clear_bind hs hclear (moves_catching_any moves_preflightCredentials)
    fun preflight u hs hclear ↦ ?_
  cases preflight with
  | error e =>
    refine sound_bind hs (quiet_evolves (moves_reworded (moves_call_any id))) fun _ v hs _ ↦ ?_
    exact moves_proveThenThrow hs
  | ok _ =>
  refine clear_bind hs hclear (moves_start hclear) fun started v hs hclear ↦ ?_
  cases started with
  | error e => exact moves_abandonStartedProxy hs hclear
  | ok _ =>
  refine clear_bind hs hclear (moves_catching_any moves_confirmProxyReady)
    fun confirmed z hs hclear ↦ ?_
  cases confirmed with
  | ok _ => exact moves_pure trivial
  | error e => exact moves_rollbackStartedOwner hs hclear

/-- A start that found nothing retained, from its guard on. -/
theorem moves_afterGuard (hc : ∀ t, t.Sound → t.slots.Clear → Moves Evolves c (returns Q) t)
    (hs : s.Sound) : Moves Evolves (do requireNoPendingStopBeforeStart; c) (returns Q) s :=
  sound_bind hs (quiet_evolves moves_requireNoPendingStopBeforeStart) fun _ t hs h ↦ hc t hs h.1

/-- How every start begins. -/
theorem moves_beginStart {valid : Except Thrown Unit} (hs : s.Sound)
    (hc : ∀ t, t.Sound → t.slots.Clear → Moves Evolves c (returns P) t) : Moves Evolves (do
      beginMutation w
      call w .checkCancellation
      requireNoPendingStopBeforeStart
      attempt valid
      mapping (call w .ensureRegistered)
      c) (returns P) s := by
  refine sound_bind hs moves_beginMutation fun _ t hs _ ↦ ?_
  refine sound_bind hs (quiet_evolves (moves_call_any id)) fun _ u hs _ ↦ ?_
  refine moves_afterGuard (fun v hs hclear ↦ moves_attempt_returns fun _ _ ↦ ?_) hs
  exact clear_bind hs hclear (moves_mapping (moves_call_any id)) fun _ y hs hclear ↦ hc y hs hclear

theorem moves_startProxy (hs : s.Sound) : Roams Evolves (startProxy w request mode) s := by
  refine moves_beginStart hs fun v hs hclear ↦ ?_
  refine clear_bind hs hclear (moves_call_any id) fun _ z hs hclear ↦ ?_
  exact moves_attempt_returns fun descriptor _ ↦ moves_runProxyStart hs hclear

theorem moves_requireOffForAuthorization : Roams Quiet (requireOffForAuthorization w) s := by
  refine moves_mapping ((moves_call_any id).bind_any fun _ t ↦ ?_)
  refine (moves_call_any id).bind_any fun _ u ↦ ?_
  refine moves_attempt_returns fun _ _ ↦ ?_
  refine (moves_call_any id).bind_any fun _ v ↦ ?_
  exact moves_attempt_end fun _ _ ↦ trivial

theorem moves_authorizeDescriptor (hclear : s.slots.Clear) :
    Roams Quiet (authorizeDescriptor w descriptor) s := by
  refine (moves_any (moves_call fun _ ↦ hclear)).bind_any fun _ t ↦ ?_
  exact moves_call_any id

theorem moves_cleanUpAuthorization (hs : s.Sound) (hclear : s.slots.Clear) :
    Roams Evolves (cleanUpAuthorization w x) s := by
  refine sound_bind hs (moves_write (evolves_retainStartCleanup hclear.eq_none.2.1))
    fun _ t hs _ ↦ ?_
  refine moves_reworded (sound_bind hs moves_reconcilePendingTunnelStartCleanup fun _ u hs _ ↦ ?_)
  exact moves_proveFailedStartOff hs

theorem moves_authorizeTunnelConfiguration (hs : s.Sound) :
    Roams Evolves (authorizeTunnelConfiguration w request) s := by
  refine sound_bind hs moves_beginMutation fun _ t hs _ ↦ ?_
  refine moves_afterGuard (fun u hs hclear ↦ ?_) hs
  refine moves_attempt_returns fun descriptor _ ↦ ?_
  refine clear_bind hs hclear moves_requireOffForAuthorization fun _ v hs hclear ↦ ?_
  refine clear_bind hs hclear (moves_catching_any (moves_authorizeDescriptor hclear))
    fun authorized y hs hclear ↦ ?_
  cases authorized with
  | ok _ => exact moves_pure trivial
  | error e =>
    refine (moves_cleanUpAuthorization hs hclear).bind_any fun _ z ↦ ?_
    exact moves_throwing trivial

theorem moves_confirmTunnelReady : Roams Quiet (confirmTunnelReady w request descriptor) s := by
  refine moves_queryStatus.bind_any fun status t ↦ ?_
  cases status with
  | tunnel identity =>
    refine moves_attempt_returns fun _ _ ↦ ?_
    refine (moves_mapping (moves_call_any id)).bind_any fun _ u ↦ ?_
    refine (moves_call_any id).bind_any fun _ v ↦ ?_
    exact moves_pure trivial
  | _ => exact moves_throwing trivial

theorem moves_awaitTunnelReady (n : ℕ) :
    Roams Quiet (awaitTunnelReady w request descriptor n) s := by
  induction n generalizing s with
  | zero => exact moves_throwing trivial
  | succ n ih =>
    refine (moves_mapping (moves_call_any id)).bind_any fun snapshot t ↦ ?_
    split
    · exact moves_confirmTunnelReady
    · split
      · exact moves_throwing trivial
      · exact (moves_call_any id).bind_any fun _ u ↦ ih

theorem moves_verifyTunnelStart : Roams Quiet (verifyTunnelStart w request descriptor) s :=
  (moves_call_any id).bind_any fun _ _ ↦ moves_awaitTunnelReady _

theorem moves_cleanUpTunnelStart (hs : s.Sound) (hclear : s.slots.Clear) :
    Moves Evolves (cleanUpTunnelStart w x e) (returns P) s := by
  refine sound_bind hs (moves_write (evolves_retainStartCleanup hclear.eq_none.2.1))
    fun _ t hs _ ↦ ?_
  refine sound_bind hs (moves_reworded moves_reconcilePendingTunnelStartCleanup) fun _ u hs _ ↦ ?_
  exact moves_proveThenThrow hs

theorem moves_runTunnelStart (hs : s.Sound) (hclear : s.slots.Clear) :
    Roams Evolves (runTunnelStart w request x) s := by
  refine clear_bind hs hclear (moves_start hclear) fun started t hs hclear ↦ ?_
  cases started with
  | error e => exact moves_cleanUpTunnelStart hs hclear
  | ok _ =>
    refine clear_bind hs hclear (moves_catching_any moves_verifyTunnelStart)
      fun confirmed u hs hclear ↦ ?_
    cases confirmed with
    | ok _ => exact moves_pure trivial
    | error e => exact moves_rollbackStartedOwner hs hclear

theorem moves_startTunnel (hs : s.Sound) : Roams Evolves (startTunnel w request) s := by
  refine moves_beginStart hs fun v hs hclear ↦ ?_
  refine clear_bind hs hclear (moves_call_any id) fun _ y hs hclear ↦ ?_
  refine clear_bind hs hclear (moves_mapping (moves_call_any id)) fun _ z hs hclear ↦ ?_
  refine moves_attempt_returns fun descriptor _ ↦ ?_
  exact clear_bind hs hclear (moves_call_any id) fun _ a hs hclear ↦ moves_runTunnelStart hs hclear

/-! ### Stops -/

theorem StopEnded.proven {t} (h : StopEnded s t)
    (hx : ∃ x, s.slots.pendingStop = some x ∧ x.owner = owner ∧ x.commandContext = context) :
    ProvenOff owner context t.log := by
  obtain ⟨x, hx, rfl, rfl⟩ := hx
  exact h.2 x hx

/-- The last resort of a stop: its own transaction is driven to its end. -/
theorem moves_explicitStop {restoring} : Moves Evolves (explicitStop w owner context restoring)
      (returns fun _ t ↦ ProvenOff owner context t.log) s := by
  refine (stops_evolves moves_prepareExplicitStop).bind_returns fun prepared t _ ht ↦ ?_
  cases prepared with
  | false => exact moves_pure ht
  | true =>
    exact (stops_evolves moves_drivePendingStop).post fun _ _ _ hr ↦ hr.proven ht

/-- How every stop begins: what an earlier start left is ended first. -/
theorem moves_beginStop {c : Task Unit} (hs : s.Sound) (hc : ∀ t, t.Sound →
      Moves Evolves c (returns fun _ u ↦ ProvenOff owner context u.log) t) : Moves Evolves (do
      beginMutation w
      let acknowledged ← acknowledgeCompletedStartCleanup w owner context
      if acknowledged then return ()
      else do
        let resumed ← resumePendingFailedStartOff w owner context
        if resumed then return () else c)
      (returns fun _ t ↦ ProvenOff owner context t.log) s := by
  refine sound_bind hs moves_beginMutation fun _ t hs _ ↦ ?_
  refine sound_bind hs moves_acknowledgeCompletedStartCleanup fun acknowledged u hs hproven ↦ ?_
  split
  · next h => exact moves_pure (hproven h)
  refine sound_bind hs (moves_resumePendingFailedStartOff hs) fun resumed v hs hproven ↦ ?_
  split
  · next h => exact moves_pure (hproven h)
  · exact hc v hs

theorem moves_stopProxy (hs : s.Sound) : Moves Evolves (stopProxy w context owner)
    (returns fun _ t ↦ ProvenOff owner context t.log) s :=
  moves_beginStop hs fun _ _ ↦ moves_explicitStop

theorem moves_resumeTunnelCleanup (hs : s.Sound) : Moves Evolves (resumeTunnelCleanup w context x)
    (returns fun _ t ↦ ProvenOff .tunnel context t.log) s := by
  refine moves_attempt_returns fun _ _ ↦ ?_
  refine sound_bind hs (moves_mapping moves_reconcilePendingTunnelStartCleanup) fun _ t hs _ ↦ ?_
  refine (moves_proveFailedStartOff hs).bind_any fun _ u ↦ ?_
  refine moves_acknowledgeCompletedStartCleanup.bind_returns fun acknowledged v _ hproven ↦ ?_
  refine moves_attempt_end fun _ h ↦ hproven ?_
  rwa [require_eq_ok] at h

theorem moves_stopTunnel (hs : s.Sound) : Moves Evolves (stopTunnel w context)
    (returns fun _ t ↦ ProvenOff .tunnel context t.log) s := by
  refine moves_beginStop hs fun v hs ↦ moves_slots ?_
  cases v.slots.pendingStartCleanup with
  | some x => exact moves_resumeTunnelCleanup hs
  | none => exact moves_explicitStop

end CfwRs.NativeBridge
