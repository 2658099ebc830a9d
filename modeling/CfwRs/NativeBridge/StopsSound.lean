import CfwRs.NativeBridge.Sound

namespace CfwRs.NativeBridge

open Lib Lib.Checked Lib.Durable GlobalAuthority Bridge

variable {α β : Type} {w : World} {s : Bridge} {owner : NativeStopOwner}
  {context : EngineCommandContext} {x x' : NativeStopTransaction}

/-! ### Changes of the pending stop -/

theorem evolves_write {f} (hpermitted : s.Sound → Permitted s.log s.slots (f s.slots))
    (hexclusive : s.Sound → (f s.slots).pendingFailedStartOff = none ∨
      (f s.slots).completedStartCleanup = none) : s.Evolves (s.write f) where
  log := List.suffix_cons _ _
  sound hs := ⟨⟨hpermitted hs, hs.truthful⟩, hexclusive hs⟩

variable {Q : Except Thrown α → Bridge → Prop} {after : Option NativeStopTransaction} {c : Task α}
  {restoring : Bool}

theorem Permitted.refl {log slots} : Permitted log slots slots where
  pendingStop x hx := .inl ⟨x, hx, .refl x⟩
  pendingStartCleanup x x' hx hx' := by
    cases hx.symm.trans hx'
    exact .refl x
  pendingFailedStartOff x hx := .inl ⟨x, hx, .refl x⟩
  completedStartCleanup r hr := .inl hr

theorem stops_setPendingStop
    (h : ∀ x, s.slots.pendingStop = some x → (∃ x', after = some x' ∧ x'.Same x) ∨
      after = none ∧ ProvenOff x.owner x.commandContext s.log) :
    s.Stops (s.write (Slots.setPendingStop after)) where
  toEvolves := evolves_write (fun _ ↦ { Permitted.refl with pendingStop := h }) fun hs ↦ hs.exclusive
  pendingStartCleanup := rfl
  pendingFailedStartOff := rfl
  completedStartCleanup := rfl

theorem proceeds_setPendingStop (h : s.slots.pendingStop = some x) (hsame : x'.Same x) :
    s.Proceeds (s.write (Slots.setPendingStop (some x'))) where
  toStops := stops_setPendingStop fun y hy ↦ by
    cases h.symm.trans hy
    exact .inl ⟨x', rfl, hsame⟩
  pendingStop y hy := by
    cases h.symm.trans hy
    exact ⟨x', rfl, hsame⟩

theorem quiet_proceeds (h : Moves Quiet c Q s) :
    Moves Proceeds c (fun r t ↦ Q r t ∧ t.slots = s.slots) s :=
  h.along (fun _ ↦ Quiet.proceeds) fun _ _ ht hr ↦ ⟨hr, ht.slots⟩

theorem quiet_proceeds_returns {Q} (h : Moves Quiet c (returns Q) s) :
    Moves Proceeds c (returns fun a t ↦ Q a t ∧ t.slots = s.slots) s :=
  (quiet_proceeds h).mono fun r _ _ hr ↦ by cases r <;> first | exact hr | trivial

theorem proceeds_stops (h : Moves Proceeds c Q s) : Moves Stops c Q s :=
  h.along (fun _ ht ↦ ht.toStops) fun _ _ _ hr ↦ hr

theorem quiet_stops {Q} (h : Moves Quiet c (returns Q) s) :
    Moves Stops c (returns fun a t ↦ Q a t ∧ t.slots = s.slots) s :=
  proceeds_stops (quiet_proceeds_returns h)

/-! ### Quiet parts -/

theorem moves_ownerSnapshot : Moves Quiet (ownerSnapshot w owner)
    (returns fun snapshot t ↦ snapshot.isStableOff → ∃ e ∈ t.log, e.OwnerOff owner) s := by
  cases owner with
  | localProxy | systemProxy =>
    exact moves_call_returns id fun snapshot t slots ht hoff ↦ ⟨_, ht, by decide, hoff⟩
  | tunnel =>
    exact moves_call_returns id fun snapshot t slots ht hoff ↦ ⟨_, ht, rfl, hoff⟩

theorem moves_stopOwner : Moves Quiet (stopOwner w x) (fun _ _ ↦ True) s := by
  unfold stopOwner
  split <;> exact (moves_call (by simp [Request.isStart])).mono fun _ _ _ _ ↦ trivial

theorem moves_resolution : Moves Quiet (call w (.stopResolution context))
    (returns fun resolution t ↦ resolution = .superseded → ∃ e ∈ t.log, e.Superseded context) s :=
  moves_call_returns id fun _ _ _ ht hsup ↦ ⟨_, ht, rfl, hsup⟩

theorem moves_stopResolution : Moves Quiet (mapping (call w (.stopResolution context)))
    (returns fun resolution t ↦ resolution = .superseded → ∃ e ∈ t.log, e.Superseded context) s :=
  moves_mapping moves_resolution

theorem moves_requireOwnerOffAfterSupersededStop :
    Moves Quiet (requireOwnerOffAfterSupersededStop w owner context)
      (returns fun _ t ↦ ∃ e ∈ t.log, e.OwnerOff owner) s := by
  refine (moves_mapping moves_ownerSnapshot).bind_returns fun snapshot t _ ht ↦ ?_
  refine moves_attempt_returns fun _ hoff ↦ moves_slots ?_
  rw [require_eq_ok] at hoff
  obtain ⟨e, he, howner⟩ := ht hoff
  refine moves_onlyIf (fun _ ↦ ?_) fun _ ↦ ⟨e, he, howner⟩
  refine (moves_mapping (moves_call_any id)).bind_returns fun pending u hu _ ↦ ?_
  exact moves_attempt_end fun _ _ ↦ ⟨e, hu.mem he, howner⟩

theorem moves_confirmCompletedStop : Moves Quiet (confirmCompletedStop w owner context)
    (returns fun _ t ↦ ProvenOff owner context t.log) s := by
  refine moves_resolution.bind_returns fun resolution t _ ht ↦ ?_
  split
  · next hsup =>
    obtain ⟨e, he, hsup⟩ := ht hsup
    exact moves_requireOwnerOffAfterSupersededStop.post fun _ u hu hr ↦
      ⟨hr, .inr ⟨e, hu.mem he, hsup⟩⟩
  · refine (moves_call_any id).bind_any fun recovered u ↦ ?_
    refine moves_attempt_returns fun _ _ ↦ ?_
    refine moves_queryStatus.bind_returns fun status v _ hv ↦ ?_
    cases status with
    | off =>
      refine (moves_call_any id).bind_returns fun resolution y hy _ ↦ ?_
      exact moves_attempt_end fun _ _ ↦ (hv rfl owner context).mono hy.log
    | _ => exact moves_throwing trivial

theorem moves_orderStop : Roams Quiet (orderStop w x) s := by
  refine (moves_call_catching id).bind_any fun answer t ↦ ?_
  cases answer with
  | ok _ => exact moves_pure trivial
  | error e =>
    dsimp only
    split
    · exact moves_pure trivial
    · refine moves_stopResolution.bind_any fun resolution u ↦ ?_
      exact moves_attempt_returns fun _ _ ↦ moves_pure trivial
    · exact moves_throwing trivial

theorem moves_commitStop {authorityContext} : Roams Quiet (commitStop w x authorityContext) s := by
  refine (moves_call_catching id).bind_any fun answer t ↦ ?_
  cases answer with
  | ok _ => exact moves_pure trivial
  | error e =>
    dsimp only
    split
    · exact moves_pure trivial
    · refine moves_stopResolution.bind_any fun resolution u ↦ ?_
      exact moves_attempt_returns fun _ _ ↦ moves_pure trivial
    · exact moves_throwing trivial

theorem moves_supersededStop : Moves Quiet (supersededStop w x)
    (returns fun b t ↦ b = true → ∃ e ∈ t.log, e.Superseded x.commandContext) s := by
  unfold supersededStop
  split
  · refine moves_stopResolution.bind_returns fun resolution t _ ht ↦ moves_pure fun h ↦ ?_
    exact ht (of_decide_eq_true h)
  · exact moves_pure nofun

theorem moves_requireResolvedRelease : Roams Quiet (requireResolvedRelease w x) s := by
  unfold requireResolvedRelease
  split
  · refine moves_stopResolution.bind_any fun resolution t ↦ ?_
    exact moves_attempt_end fun _ _ ↦ trivial
  · exact moves_pure trivial

theorem moves_restoreSettingsFirst : Roams Quiet (restoreSettingsFirst w restoring) s := by
  refine moves_slots ?_
  cases s.slots.pendingStop with
  | none => exact moves_pure trivial
  | some x =>
    dsimp only
    split
    · refine (moves_call_catching id).bind_any fun inspection t ↦ ?_
      split
      · refine (moves_mapping (moves_call_any id)).bind_any
          fun _ u ↦ moves_pure trivial
      · exact moves_pure trivial
    · exact moves_pure trivial

/-! ### A stop from its order to its end -/

theorem moves_beginPendingStopAtAuthority : Roams Proceeds (beginPendingStopAtAuthority w) s := by
  refine moves_slots ?_
  cases hx : s.slots.pendingStop with
  | none => exact moves_throwing trivial
  | some x =>
    dsimp only
    split
    · refine (quiet_proceeds_returns moves_orderStop).bind_returns fun authority t _ ht ↦ ?_
      have hpending : t.slots.pendingStop = some x := by rw [ht.2, hx]
      exact moves_write (proceeds_setPendingStop hpending ⟨rfl, rfl, rfl⟩)
    · exact moves_pure trivial

theorem moves_attemptLocalStopAfterOrderingFailure :
    Roams Proceeds (attemptLocalStopAfterOrderingFailure w) s := by
  refine moves_slots ?_
  cases hx : s.slots.pendingStop with
  | none => exact moves_pure trivial
  | some x =>
    dsimp only
    split
    · exact moves_pure trivial
    · refine Moves.bind_returns
        (((quiet_proceeds moves_stopOwner).mono fun _ _ _ h ↦ h.2).catching) fun stopped t _ ht ↦ ?_
      cases stopped with
      | error e => exact moves_pure trivial
      | ok _ =>
        have hpending : t.slots.pendingStop = some x := by rw [ht, hx]
        exact Moves.bind_any
          (moves_write (proceeds_setPendingStop hpending ⟨rfl, rfl, rfl⟩)) fun _ _ ↦ moves_pure trivial

theorem moves_stopPendingOwner : Roams Proceeds (stopPendingOwner w) s := by
  refine moves_slots ?_
  cases hx : s.slots.pendingStop with
  | none => exact moves_throwing trivial
  | some x =>
    dsimp only
    split
    · exact moves_pure trivial
    · refine Moves.bind_returns (P := fun _ t ↦ t.slots = s.slots)
        (((quiet_proceeds moves_stopOwner).mono fun r t _ h ↦ ?_).handle) fun _ t _ ht ↦ ?_
      · generalize handled _ r = result
        cases result with
        | ok _ => exact h.2
        | error _ => trivial
      · have hpending : t.slots.pendingStop = some x := by rw [ht, hx]
        exact moves_write (proceeds_setPendingStop hpending ⟨rfl, rfl, rfl⟩)

theorem moves_drivePendingStopToOwnerStopped :
    Roams Proceeds (drivePendingStopToOwnerStopped w restoring) s := by
  refine (quiet_proceeds_returns moves_restoreSettingsFirst).bind_any fun restored t ↦ ?_
  refine Moves.bind_returns
    ((moves_beginPendingStopAtAuthority.mono fun _ _ _ _ ↦ trivial).catching) fun ordered u _ _ ↦ ?_
  cases ordered with
  | ok _ => exact moves_stopPendingOwner
  | error e =>
    dsimp only
    split
    · refine moves_attemptLocalStopAfterOrderingFailure.bind_any fun message v ↦ ?_
      cases message <;> exact moves_throwing trivial
    · exact moves_throwing trivial

theorem moves_completeAtAuthority (hx : s.slots.pendingStop = some x) :
    Moves Proceeds (completeAtAuthority w x)
      (returns fun x' t ↦ t.slots.pendingStop = some x' ∧ x'.Same x) s := by
  unfold completeAtAuthority
  split
  · exact moves_throwing trivial
  · refine (quiet_proceeds_returns moves_commitStop).bind_returns fun authority t _ ht ↦ ?_
    have hpending : t.slots.pendingStop = some x := by rw [ht.2, hx]
    refine Moves.bind_returns (P := fun _ (u : Bridge) ↦
        u.slots.pendingStop = some { x with authority })
      (moves_step (proceeds_setPendingStop hpending ⟨rfl, rfl, rfl⟩) rfl) fun _ u _ hu ↦ ?_
    exact moves_pure ⟨hu, rfl, rfl, rfl⟩
  · exact moves_pure ⟨hx, .refl x⟩
  · exact moves_pure ⟨hx, .refl x⟩

def StopEnded (s t : Bridge) : Prop :=
  t.slots.pendingStop = none ∧
    ∀ x, s.slots.pendingStop = some x → ProvenOff x.owner x.commandContext t.log

theorem moves_clearPendingStop (hx : s.slots.pendingStop = some x)
    (hproven : ProvenOff x.owner x.commandContext s.log) :
    Moves Stops (write (Slots.setPendingStop none)) (returns fun _ t ↦ StopEnded s t) s := by
  refine moves_step (stops_setPendingStop fun y hy ↦ ?_) ⟨rfl, fun y hy ↦ ?_⟩
  · cases hx.symm.trans hy
    exact .inr ⟨rfl, hproven⟩
  · cases hx.symm.trans hy
    exact hproven.mono (List.suffix_cons _ _)

theorem StopEnded.of_same {t u} (h : StopEnded t u) (hx : s.slots.pendingStop = some x)
    (hx' : t.slots.pendingStop = some x') (hsame : x'.Same x) : StopEnded s u := by
  refine ⟨h.1, fun y hy ↦ ?_⟩
  cases hx.symm.trans hy
  rw [← hsame.1, ← hsame.2.1]
  exact h.2 x' hx'

theorem moves_completePendingStopAfterOwnerStopped :
    Moves Stops (completePendingStopAfterOwnerStopped w) (returns fun _ t ↦ StopEnded s t) s := by
  refine moves_slots (moves_attempt_returns fun x hx ↦ ?_)
  have hx : s.slots.pendingStop = some x := by
    rw [unwrap_eq_ok, Option.filter_eq_some_iff] at hx
    exact hx.1
  refine (proceeds_stops (moves_completeAtAuthority hx)).bind_returns fun x' t _ ht ↦ ?_
  obtain ⟨hx', hsame⟩ := ht
  refine (quiet_stops moves_supersededStop).bind_returns fun superseded u _ hu ↦ ?_
  have hxu : u.slots.pendingStop = some x' := by rw [hu.2, hx']
  split
  · next hsuperseded =>
    obtain ⟨e, he, hsuperseded⟩ := hu.1 hsuperseded
    refine (quiet_stops moves_requireOwnerOffAfterSupersededStop).bind_returns
      fun _ v hv howner ↦ ?_
    have hxv : v.slots.pendingStop = some x' := by rw [howner.2, hxu]
    exact (moves_clearPendingStop hxv ⟨howner.1, .inr ⟨e, hv.mem he, hsuperseded⟩⟩).post
      fun _ _ _ hr ↦ hr.of_same hx hxv hsame
  · refine (quiet_stops moves_queryStatus).bind_returns fun status v _ hv ↦ ?_
    have hxv : v.slots.pendingStop = some x' := by rw [hv.2, hxu]
    cases status with
    | off =>
      refine (quiet_stops moves_requireResolvedRelease).bind_returns fun _ y hy hslots ↦ ?_
      have hxy : y.slots.pendingStop = some x' := by rw [hslots.2, hxv]
      exact (moves_clearPendingStop hxy ((hv.1 rfl _ _).mono hy.log)).post fun _ _ _ hr ↦
        hr.of_same hx hxy hsame
    | _ => exact moves_throwing trivial

theorem moves_drivePendingStop :
    Moves Stops (drivePendingStop w restoring) (returns fun _ t ↦ StopEnded s t) s := by
  refine (proceeds_stops (moves_drivePendingStopToOwnerStopped.post
    fun _ _ ht _ ↦ ht)).bind_returns fun _ t _ ht ↦ ?_
  refine moves_completePendingStopAfterOwnerStopped.post fun _ u _ hr ↦ ⟨hr.1, fun x hx ↦ ?_⟩
  obtain ⟨x', hx', hsame⟩ := ht.pendingStop x hx
  exact (hr.of_same hx hx' hsame).2 x hx

theorem moves_prepareExplicitStop : Moves Stops (prepareExplicitStop w owner context)
    (returns fun prepared t ↦ if prepared then ∃ x, t.slots.pendingStop = some x ∧
      x.owner = owner ∧ x.commandContext = context else ProvenOff owner context t.log) s := by
  refine moves_slots ?_
  cases hx : s.slots.pendingStop with
  | some x =>
    refine moves_attempt_returns fun _ hsame ↦ moves_pure ?_
    rw [require_eq_ok] at hsame
    exact ⟨x, hx, hsame.1, hsame.2⟩
  | none =>
    refine (quiet_stops (moves_mapping moves_ownerSnapshot)).bind_returns fun snapshot t _ ht ↦ ?_
    split
    · refine (quiet_stops (moves_mapping moves_confirmCompletedStop)).bind_returns
        fun _ u _ hu ↦ ?_
      exact moves_pure hu.1
    · refine moves_attempt_returns fun found _ ↦ moves_attempt_returns fun descriptor _ ↦ ?_
      have hnone : t.slots.pendingStop = none := by rw [ht.2, hx]
      refine Moves.bind_returns (P := fun _ (u : Bridge) ↦ ∃ x, u.slots.pendingStop = some x ∧
          x.owner = owner ∧ x.commandContext = context)
        (moves_step (stops_setPendingStop fun y hy ↦ ?_) ⟨_, rfl, rfl, rfl⟩)
        fun _ u _ hu ↦ moves_pure hu
      cases hnone.symm.trans hy

end CfwRs.NativeBridge
