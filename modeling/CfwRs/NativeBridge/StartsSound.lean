import CfwRs.NativeBridge.StopsSound

namespace CfwRs.NativeBridge

open Lib Lib.Checked Lib.Durable GlobalAuthority Bridge

variable {α β : Type} {w : World} {s : Bridge} {owner : NativeStopOwner}
  {context : EngineCommandContext} {x x' : NativeStopTransaction} {e : Thrown}

theorem quiet_evolves {c : Task α} {Q : α → Bridge → Prop} (h : Moves Quiet c (returns Q) s) :
    Moves Evolves c (returns fun a t ↦ Q a t ∧ t.slots = s.slots) s :=
  (quiet_proceeds_returns h).along (fun _ ht ↦ ht.toEvolves) fun _ _ _ hr ↦ hr

theorem quiet_evolves_any {c : Task α} (h : Roams Quiet c s) :
    Roams Evolves c s := moves_any (quiet_evolves h)

variable {c : Task α} {Q : Except Thrown α → Bridge → Prop}

theorem stops_evolves (h : Moves Stops c Q s) : Moves Evolves c Q s :=
  h.along (fun _ ht ↦ ht.toEvolves) fun _ _ _ hr ↦ hr

theorem stops_cleansUp (h : Moves Stops c Q s) : Moves CleansUp c Q s :=
  h.along (fun _ ht ↦ ⟨ht.toEvolves, ht.3, ht.4⟩) fun _ _ _ hr ↦ hr

theorem cleansUp_evolves (h : Moves CleansUp c Q s) : Moves Evolves c Q s :=
  h.along (fun _ ht ↦ ht.toEvolves) fun _ _ _ hr ↦ hr

/-! ### Changes of the other transactions -/

theorem evolves_retainStartCleanup (hnone : s.slots.pendingStartCleanup = none) :
    s.Evolves (s.write (Slots.setPendingStartCleanup (some x))) := by
  refine evolves_write (fun _ ↦ { Permitted.refl with pendingStartCleanup := ?_ })
    fun hs ↦ hs.exclusive
  intro y y' hy
  cases hnone.symm.trans hy

theorem evolves_dropStartCleanup : s.Evolves (s.write (Slots.setPendingStartCleanup none)) := by
  refine evolves_write (fun _ ↦ { Permitted.refl with pendingStartCleanup := ?_ })
    fun hs ↦ hs.exclusive
  intro y y' _ hy'
  cases hy'

theorem evolves_retainFailedStart (hnone : s.slots.pendingFailedStartOff = none)
    (hcompleted : s.slots.completedStartCleanup = none) :
    s.Evolves (s.write (Slots.setPendingFailedStartOff (some x))) := by
  refine evolves_write (fun _ ↦ { Permitted.refl with pendingFailedStartOff := ?_ })
    fun _ ↦ .inr hcompleted
  intro y hy
  cases hnone.symm.trans hy

theorem evolves_dropFailedStart (hx : s.slots.pendingFailedStartOff = some x)
    (hproven : ProvenOff x.owner x.commandContext s.log) :
    s.Evolves (s.write (Slots.setPendingFailedStartOff none)) := by
  refine evolves_write (fun _ ↦ { Permitted.refl with pendingFailedStartOff := ?_ })
    fun _ ↦ .inl rfl
  intro y hy
  cases hx.symm.trans hy
  exact .inr ⟨rfl, hproven⟩

theorem evolves_setReceipt {after}
    (hfailed : s.Sound → s.slots.pendingFailedStartOff = none ∨ after = none)
    (h : ∀ r, s.slots.completedStartCleanup = some r →
      after = none ∧ ProvenOff r.owner r.commandContext s.log) :
    s.Evolves (s.write (Slots.setCompletedStartCleanup after)) :=
  evolves_write (fun _ ↦ { Permitted.refl with completedStartCleanup := fun r hr ↦ .inr (h r hr) })
    hfailed

/-! ### The proof that a failed start is Off -/

theorem moves_requireFailedStartGlobalOff {message} :
    Moves Quiet (requireFailedStartGlobalOff w message)
      (returns fun _ t ↦ ∀ owner context, ProvenOff owner context t.log) s := by
  refine (moves_reworded moves_queryStatus).bind_returns fun status t _ ht ↦ ?_
  cases status with
  | off => exact moves_pure (ht rfl)
  | _ => exact moves_throwing trivial

theorem moves_acknowledgeCompletedStartCleanup :
    Moves Evolves (acknowledgeCompletedStartCleanup w owner context)
      (returns fun acknowledged t ↦ acknowledged = true → ProvenOff owner context t.log) s := by
  refine moves_slots ?_
  cases hr : s.slots.completedStartCleanup with
  | none => exact moves_pure nofun
  | some r =>
    refine moves_attempt_returns fun _ _ ↦ ?_
    refine (quiet_evolves moves_requireFailedStartGlobalOff).bind_returns fun _ t _ ht ↦ ?_
    refine Moves.bind_returns
      (moves_step (evolves_setReceipt (fun _ ↦ .inr rfl) fun r' _ ↦ ⟨rfl, ht.1 _ _⟩) ?_)
      fun _ u _ hu ↦ moves_pure fun _ ↦ hu
    exact (ht.1 owner context).mono (List.suffix_cons _ _)

theorem moves_retainPendingFailedStartOff (hs : s.Sound) :
    Moves Evolves (retainPendingFailedStartOff x) (returns fun _ t ↦
      t.slots.completedStartCleanup = none ∧
        ∃ y, t.slots.pendingFailedStartOff = some y ∧ y.Same x) s := by
  refine moves_slots ?_
  cases hpending : s.slots.pendingFailedStartOff with
  | some y =>
    refine moves_attempt_end fun _ hsame ↦ ?_
    rw [require_eq_ok] at hsame
    have hcompleted : s.slots.completedStartCleanup = none := by
      rcases hs.exclusive with h | h
      · cases hpending.symm.trans h
      · exact h
    exact ⟨hcompleted, y, hpending, hsame⟩
  | none =>
    refine moves_attempt_returns fun _ hcompleted ↦ ?_
    rw [require_eq_ok, Option.isNone_iff_eq_none] at hcompleted
    exact moves_step (evolves_retainFailedStart hpending hcompleted) ⟨hcompleted, x, rfl, .refl x⟩

theorem moves_stopFailedOwner {initial} : Roams Quiet (stopFailedOwner w x initial) s := by
  unfold stopFailedOwner
  split
  · exact moves_pure trivial
  · refine moves_attempt_returns fun _ _ ↦ ?_
    refine (moves_reworded (moves_any moves_stopOwner)).bind_any fun _ t ↦ ?_
    refine (moves_reworded moves_ownerSnapshot).bind_any fun _ u ↦ ?_
    exact moves_attempt_end fun _ _ ↦ trivial

theorem moves_proveFailedStartOff (hs : s.Sound) : Roams Evolves (proveFailedStartOff w x) s := by
  refine (moves_retainPendingFailedStartOff hs).bind_returns fun _ t _ ht ↦ ?_
  obtain ⟨hcompleted, y, hy, hsame⟩ := ht
  refine moves_slots (moves_attempt_returns fun _ _ ↦ ?_)
  refine (moves_reworded (quiet_evolves moves_ownerSnapshot)).bind_returns fun initial u _ hu ↦ ?_
  refine (quiet_evolves moves_stopFailedOwner).bind_returns fun _ v _ hv ↦ ?_
  refine (quiet_evolves moves_requireFailedStartGlobalOff).bind_returns fun _ z _ hz ↦ ?_
  have hslots : z.slots = t.slots := by rw [hz.2, hv.2, hu.2]
  refine Moves.bind_returns (P := fun _ (u : Bridge) ↦ u.slots.pendingFailedStartOff = none ∧
      u.slots.completedStartCleanup = none)
    (moves_step (evolves_dropFailedStart (by rw [hslots, hy]) (hz.1 _ _))
      ⟨rfl, (congrArg Slots.completedStartCleanup hslots).trans hcompleted⟩) fun _ a _ ha ↦ ?_
  refine moves_write (evolves_setReceipt (fun _ ↦ .inl ha.1) fun r hr ↦ ?_)
  cases ha.2.symm.trans hr

theorem moves_resumePendingFailedStartOff (hs : s.Sound) :
    Moves Evolves (resumePendingFailedStartOff w owner context)
      (returns fun resumed t ↦ resumed = true → ProvenOff owner context t.log) s := by
  refine moves_slots ?_
  cases s.slots.pendingFailedStartOff with
  | none => exact moves_pure nofun
  | some y =>
    refine moves_attempt_returns fun _ _ ↦ ?_
    refine (moves_proveFailedStartOff hs).bind_any fun _ t ↦ ?_
    refine moves_acknowledgeCompletedStartCleanup.bind_returns fun acknowledged u _ hu ↦ ?_
    refine moves_attempt_returns fun _ h ↦ moves_pure fun _ ↦ ?_
    rw [require_eq_ok] at h
    exact hu h

/-! ### The cleanup of a tunnel start -/

theorem moves_revokePreparation {authority} : Roams Quiet (revokePreparation w x authority) s := by
  unfold revokePreparation
  split
  · exact moves_pure trivial
  · refine (moves_call_catching id).bind_any fun observed t ↦ ?_
    split
    · exact moves_attempt_end fun _ _ ↦ trivial
    · split
      · exact moves_pure trivial
      · refine (moves_call_any id).bind_any fun _ u ↦ ?_
        exact moves_attempt_end fun _ _ ↦ trivial
      · exact moves_throwing trivial
  · refine (moves_call_any id).bind_any fun _ t ↦ ?_
    exact moves_attempt_end fun _ _ ↦ trivial
  · refine (moves_call_any id).bind_any fun _ t ↦ ?_
    exact moves_attempt_end fun _ _ ↦ trivial

theorem moves_compensatePreferences : Roams Quiet (compensatePreferences w x) s := by
  refine moves_slots ?_
  split
  · exact moves_pure trivial
  · refine moves_mapping ((moves_call_any id).bind_any
      fun pending t ↦ ?_)
    split
    · refine moves_revokePreparation.bind_any fun _ u ↦ ?_
      refine (moves_call_any id).bind_any fun _ v ↦ ?_
      exact moves_pure trivial
    · exact moves_pure trivial

theorem moves_takeOwnerControl : Moves Stops (takeOwnerControl w x)
    (returns fun controlled t ↦ controlled = false → t.slots.pendingStop = none) s := by
  refine moves_slots ?_
  cases hpending : s.slots.pendingStop with
  | some y =>
    refine moves_attempt_returns fun _ _ ↦ ?_
    refine (proceeds_stops moves_beginPendingStopAtAuthority).bind_any fun _ t ↦ ?_
    exact moves_pure nofun
  | none =>
    refine (quiet_stops (moves_call_any id)).bind_returns fun cancelled t _ ht ↦ ?_
    have hnone : t.slots.pendingStop = none := by rw [ht.2, hpending]
    split
    · exact moves_pure fun _ ↦ hnone
    · refine (moves_write (stops_setPendingStop fun y hy ↦ ?_)).bind_any fun _ u ↦ ?_
      · cases hnone.symm.trans hy
      · refine (proceeds_stops moves_beginPendingStopAtAuthority).bind_any fun _ t ↦ ?_
        exact moves_pure nofun

theorem moves_markCompensated : Roams Proceeds markCompensated s := by
  refine moves_slots (moves_attempt_returns fun y hy ↦ ?_)
  rw [unwrap_eq_ok] at hy
  exact moves_write (proceeds_setPendingStop hy ⟨rfl, rfl, rfl⟩)

theorem moves_finishOwnerStop {compensated} : Moves Stops (finishOwnerStop w compensated)
    (returns fun _ t ↦ t.slots.pendingStop = none) s := by
  unfold finishOwnerStop
  split
  · refine (proceeds_stops moves_markCompensated).bind_any fun _ t ↦ ?_
    exact moves_completePendingStopAfterOwnerStopped.post fun _ _ _ h ↦ h.1
  · exact moves_drivePendingStop.post fun _ _ _ h ↦ h.1

/-- A cleanup that ends has ended the stop that it began, too. -/
theorem moves_cleanUp : Moves CleansUp (reconcilePendingTunnelStartCleanup w false)
    (returns fun _ t ↦ t.slots.pendingStop = none ∧ t.slots.pendingStartCleanup = none) s := by
  refine moves_slots (moves_attempt_returns fun y _ ↦ ?_)
  refine (stops_cleansUp moves_takeOwnerControl).bind_returns fun controlled t _ ht ↦ ?_
  refine (stops_cleansUp (quiet_stops moves_compensatePreferences)).bind_returns
    fun compensated u _ hu ↦ ?_
  refine Moves.bind_returns
    (moves_onlyIf (fun _ ↦ stops_cleansUp moves_finishOwnerStop) fun h ↦ ?_) fun _ v _ hv ↦ ?_
  · have hnone : u.slots.pendingStop = none := by rw [hu.2, ht (Bool.eq_false_iff.mpr h)]
    exact hnone
  refine (stops_cleansUp (quiet_stops (moves_mapping (moves_call_any id)))).bind_returns
    fun _ z _ hz ↦ ?_
  have hnone : z.slots.pendingStop = none := by rw [hz.2, hv]
  refine Moves.bind_returns (P := fun _ (a : Bridge) ↦ a.slots.pendingStop = none ∧
      a.slots.pendingStartCleanup = none)
    (moves_step ⟨evolves_dropStartCleanup, rfl, rfl⟩ ⟨hnone, rfl⟩) fun _ a _ ha ↦ ?_
  exact moves_onlyIf nofun fun _ ↦ ha

theorem moves_reconcilePendingTunnelStartCleanup :
    Roams Evolves (reconcilePendingTunnelStartCleanup w false) s :=
  moves_any (cleansUp_evolves moves_cleanUp)

end CfwRs.NativeBridge
