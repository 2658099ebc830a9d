import CfwRs.NativeBridge.Commands

namespace CfwRs.NativeBridge

open Lib Lib.Checked Lib.Durable GlobalAuthority

namespace Event

def OwnerOff (owner : NativeStopOwner) : Event → Prop
  | called _ .proxySnapshot (.ok snapshot) => owner ≠ .tunnel ∧ snapshot.isStableOff
  | called _ .tunnelSnapshot (.ok snapshot) => owner = .tunnel ∧ snapshot.isStableOff
  | _ => False

def AuthorityOff : Event → Prop
  | called _ .authorityOwnership (.ok ownership) => ownership.state = .off
  | called _ (.reconcileOff _) (.ok ownership) => ownership.state = .off
  | _ => False

def Superseded (context : EngineCommandContext) : Event → Prop
  | called _ (.stopResolution asked) (.ok resolution) => asked = context ∧ resolution = .superseded
  | _ => False

end Event

/-- What has to be observed before a stop of the owner for the context may end. -/
def ProvenOff (owner : NativeStopOwner) (context : EngineCommandContext) (log : List Event) : Prop :=
  (∃ e ∈ log, e.OwnerOff owner) ∧
    ((∃ e ∈ log, e.AuthorityOff) ∨ ∃ e ∈ log, e.Superseded context)

/-- A change of the retained transactions: none is replaced by one of another owner, command or
configuration, and only a proven Off ends a stop, a failed start or its receipt. -/
structure Permitted (log : List Event) (before after : Slots) : Prop where
  pendingStop : ∀ t, before.pendingStop = some t →
    (∃ t', after.pendingStop = some t' ∧ t'.Same t) ∨
      after.pendingStop = none ∧ ProvenOff t.owner t.commandContext log
  pendingStartCleanup : ∀ t t', before.pendingStartCleanup = some t →
    after.pendingStartCleanup = some t' → t'.Same t
  pendingFailedStartOff : ∀ t, before.pendingFailedStartOff = some t →
    (∃ t', after.pendingFailedStartOff = some t' ∧ t'.Same t) ∨
      after.pendingFailedStartOff = none ∧ ProvenOff t.owner t.commandContext log
  completedStartCleanup : ∀ r, before.completedStartCleanup = some r →
    after.completedStartCleanup = some r ∨
      after.completedStartCleanup = none ∧ ProvenOff r.owner r.commandContext log

/-- Every start found nothing retained, and every change of what is retained was permitted by what
had been observed before it. -/
def Truthful : List Event → Prop
  | [] => True
  | .called slots request _ :: log => (request.isStart → slots.Clear) ∧ Truthful log
  | .wrote before after :: log => Permitted log before after ∧ Truthful log

namespace Bridge

/-- A failed start is retained until it is proven Off, or its receipt is, but not both. -/
structure Sound (b : Bridge) : Prop where
  truthful : Truthful b.log
  exclusive : b.slots.pendingFailedStartOff = none ∨ b.slots.completedStartCleanup = none

/-- Code that runs from `s` to `t` keeps the coordinator sound. -/
structure Evolves (s t : Bridge) : Prop where
  log : s.log <:+ t.log
  sound : s.Sound → t.Sound

structure Stops (s t : Bridge) : Prop extends Evolves s t where
  pendingStartCleanup : t.slots.pendingStartCleanup = s.slots.pendingStartCleanup
  pendingFailedStartOff : t.slots.pendingFailedStartOff = s.slots.pendingFailedStartOff
  completedStartCleanup : t.slots.completedStartCleanup = s.slots.completedStartCleanup

/-- The cleanup of a tunnel start leaves the record of a failed start alone. -/
structure CleansUp (s t : Bridge) : Prop extends Evolves s t where
  pendingFailedStartOff : t.slots.pendingFailedStartOff = s.slots.pendingFailedStartOff
  completedStartCleanup : t.slots.completedStartCleanup = s.slots.completedStartCleanup

structure Proceeds (s t : Bridge) : Prop extends Stops s t where
  pendingStop : ∀ x, s.slots.pendingStop = some x → ∃ x', t.slots.pendingStop = some x' ∧ x'.Same x

structure Quiet (s t : Bridge) : Prop extends Evolves s t where
  slots : t.slots = s.slots

end Bridge

theorem NativeStopTransaction.Same.refl (x : NativeStopTransaction) : x.Same x := ⟨rfl, rfl, rfl⟩

theorem NativeStopTransaction.Same.trans {x y z : NativeStopTransaction} (hxy : x.Same y)
    (hyz : y.Same z) : x.Same z :=
  ⟨hxy.1.trans hyz.1, hxy.2.1.trans hyz.2.1, hxy.2.2.trans hyz.2.2⟩

namespace Bridge

variable {s t u : Bridge}

theorem Evolves.refl (s : Bridge) : s.Evolves s := ⟨List.suffix_refl _, id⟩

theorem Evolves.trans (h : s.Evolves t) (h' : t.Evolves u) : s.Evolves u :=
  ⟨h.log.trans h'.log, fun hs ↦ h'.sound (h.sound hs)⟩

theorem Evolves.mem (h : s.Evolves t) {e} (he : e ∈ s.log) : e ∈ t.log := h.log.mem he

theorem Stops.trans (h : s.Stops t) (h' : t.Stops u) : s.Stops u where
  toEvolves := h.toEvolves.trans h'.toEvolves
  pendingStartCleanup := h'.pendingStartCleanup.trans h.pendingStartCleanup
  pendingFailedStartOff := h'.pendingFailedStartOff.trans h.pendingFailedStartOff
  completedStartCleanup := h'.completedStartCleanup.trans h.completedStartCleanup

theorem Quiet.proceeds (h : s.Quiet t) : s.Proceeds t where
  toEvolves := h.toEvolves
  pendingStartCleanup := by rw [h.slots]
  pendingFailedStartOff := by rw [h.slots]
  completedStartCleanup := by rw [h.slots]
  pendingStop x hx := ⟨x, by rw [h.slots, hx], .refl x⟩

instance : IsPreorder Bridge Evolves where
  refl := .refl
  trans _ _ _ := .trans

instance : IsPreorder Bridge Quiet where
  refl s := ⟨.refl s, rfl⟩
  trans _ _ _ h h' := ⟨h.toEvolves.trans h'.toEvolves, h'.slots.trans h.slots⟩

instance : IsPreorder Bridge Stops where
  refl s := ⟨.refl s, rfl, rfl, rfl⟩
  trans _ _ _ := .trans

instance : IsPreorder Bridge CleansUp where
  refl s := ⟨.refl s, rfl, rfl⟩
  trans _ _ _ h h' := ⟨h.toEvolves.trans h'.toEvolves, h'.2.trans h.2, h'.3.trans h.3⟩

instance : IsPreorder Bridge Proceeds where
  refl s := ⟨⟨.refl s, rfl, rfl, rfl⟩, fun x hx ↦ ⟨x, hx, .refl x⟩⟩
  trans _ _ _ h h' := by
    refine ⟨h.toStops.trans h'.toStops, fun x hx ↦ ?_⟩
    obtain ⟨y, hy, hyx⟩ := h.pendingStop x hx
    obtain ⟨z, hz, hzy⟩ := h'.pendingStop y hy
    exact ⟨z, hz, hzy.trans hyx⟩

end Bridge

open Bridge

variable {α β : Type} {w : World} {s : Bridge}
variable {c : Except Thrown α} {d : ConfigurationDescriptor} {log : List Event}
  {proxySnapshot snapshot tunnelSnapshot : EngineSnapshot} {x : Task α}

theorem ProvenOff.mono {owner context log'} (h : ProvenOff owner context log) (hlog : log <:+ log') :
    ProvenOff owner context log' := by
  obtain ⟨⟨e, he, howner⟩, hauthority⟩ := h
  refine ⟨⟨e, hlog.mem he, howner⟩, ?_⟩
  rcases hauthority with ⟨e, he, h⟩ | ⟨e, he, h⟩
  · exact .inl ⟨e, hlog.mem he, h⟩
  · exact .inr ⟨e, hlog.mem he, h⟩

variable {Q : Except Thrown α → Bridge → Prop} {R : Bridge → Bridge → Prop}
  {ownership : AuthorityOwnershipObservation} {request : Request}

theorem quiet_record {answer ends}
    (h : request.isStart → s.slots.Clear) : s.Quiet (s.record request answer ends) where
  log := List.suffix_cons _ _
  sound hs := ⟨⟨h, hs.truthful⟩, hs.exclusive⟩
  slots := rfl

theorem moves_call (h : request.isStart → s.slots.Clear) :
    Moves Quiet (call w request) (fun r t ↦ ∃ slots, Event.called slots request r ∈ t.log) s := by
  have hquiet : s.Quiet (s.record request (w.answer s.log request)
      (w.endsRecovery s.log request)) := quiet_record h
  simp only [Moves, call, ask, wp_run, wp_exchange]
  exact ⟨hquiet, hquiet, s.slots, List.mem_cons_self⟩

theorem moves_call_returns {Q} (hstart : ¬request.isStart)
    (h : ∀ a t slots, Event.called slots request (.ok a) ∈ t.log → Q a t) :
    Moves Quiet (call w request) (returns Q) s := by
  refine (moves_call fun hs ↦ absurd hs hstart).mono fun r t _ hr ↦ ?_
  cases r with
  | ok a => exact hr.elim (h a t)
  | error e => trivial

theorem moves_call_answer (hstart : ¬request.isStart) : Moves Quiet (call w request)
    (returns fun a _ ↦ w.answer s.log request = .ok a) s := by
  have hquiet : s.Quiet (s.record request (w.answer s.log request)
      (w.endsRecovery s.log request)) := quiet_record fun h ↦ absurd h hstart
  simp only [Moves, call, ask, wp_run, wp_exchange]
  refine ⟨hquiet, hquiet, ?_⟩
  cases w.answer s.log request <;> trivial

theorem moves_reworded {f : Thrown → Thrown} {Q} (h : Moves R x (returns Q) s) :
    Moves R (x.handle fun e ↦ .error (f e)) (returns Q) s :=
  Moves.handle (h.mono fun r _ _ hr ↦ by cases r <;> exact hr)

theorem moves_mapping {Q : α → Bridge → Prop} (h : Moves R x (returns Q) s) :
    Moves R (mapping x) (returns Q) s := moves_reworded h

theorem moves_throwing [IsPreorder Bridge R] {e} (h : Q (.error e) s) : Moves R (throwing e) Q s :=
  moves_attempt h

theorem moves_slots {f} (h : Moves R (f s.slots) Q s) :
    Moves R (slots >>= f) Q s := moves_read_bind h

theorem moves_attempt_returns [IsPreorder Bridge R] {f} {Q : β → Bridge → Prop}
    (h : ∀ a, c = .ok a → Moves R (f a) (returns Q) s) : Moves R (attempt c >>= f) (returns Q) s :=
  moves_attempt_bind (fun _ _ ↦ trivial) h

theorem moves_endRecovery : Roams Quiet endRecovery s :=
  moves_step ⟨⟨List.suffix_refl _, fun hs ↦ ⟨hs.truthful, hs.exclusive⟩⟩, rfl⟩ trivial

theorem moves_write {f} (h : R s (s.write f)) : Roams R (write f) s :=
  moves_step h trivial

theorem moves_onlyIf [IsPreorder Bridge R] {p : Prop} [Decidable p] {x}
    {Q} (hx : p → Moves R x Q s) (hpure : ¬p → Q (.ok ()) s) : Moves R (onlyIf p x) Q s := by
  unfold onlyIf
  split
  · next h => exact hx h
  · next h => exact moves_pure (hpure h)

theorem moves_any (h : Moves R x Q s) : Roams R x s :=
  h.mono fun r _ _ _ ↦ by cases r <;> trivial

theorem moves_call_any (hstart : ¬request.isStart) : Roams Quiet (call w request) s :=
  moves_call_returns hstart fun _ _ _ _ ↦ trivial

theorem moves_call_catching (hstart : ¬request.isStart) :
    Roams Quiet ((call w request).catching : Task _) s :=
  ((moves_call fun h ↦ absurd h hstart).mono fun _ _ _ _ ↦ trivial).catching

theorem moves_attempt_end [IsPreorder Bridge R] {Q} (h : ∀ a, c = .ok a → Q a s) :
    Moves R (attempt c) (returns Q) s := by
  refine moves_attempt ?_
  cases c with
  | ok a => exact h a rfl
  | error e => trivial

/-! ### The status -/

def Observed (ownership : AuthorityOwnershipObservation) (log : List Event) : Prop :=
  ∃ slots, Event.called slots .authorityOwnership (.ok ownership) ∈ log ∨
    ∃ managedTunnel, Event.called slots (.reconcileOff managedTunnel) (.ok ownership) ∈ log

theorem Observed.off (h : Observed ownership log) (hoff : ownership.state = .off) :
    ∃ e ∈ log, e.AuthorityOff := by
  obtain ⟨slots, h | ⟨managedTunnel, h⟩⟩ := h
  · exact ⟨_, h, hoff⟩
  · exact ⟨_, h, hoff⟩

theorem moves_observeOwnership :
    Moves Quiet (observeOwnership w) (returns fun ownership t ↦ Observed ownership t.log) s := by
  refine Moves.handle ((moves_call (by simp [Request.isStart])).mono fun r t _ hr ↦ ?_)
  obtain ⟨slots, hr⟩ := hr
  cases r with
  | ok ownership => exact ⟨slots, .inl hr⟩
  | error e =>
    simp only [handled]
    split <;> trivial

theorem moves_reconcileRecovering (h : Observed ownership s.log) :
    Moves Quiet (reconcileRecovering w ownership)
      (returns fun ownership t ↦ Observed ownership t.log) s := by
  unfold reconcileRecovering
  split
  · refine moves_mapping (Moves.bind_returns
      (moves_call_any id) fun managed t _ _ ↦ ?_)
    exact moves_call_returns id fun ownership u slots hu ↦ ⟨slots, .inr ⟨managed, hu⟩⟩
  · exact moves_pure h

theorem moves_completeStopping (h : Observed ownership s.log) :
    Moves Quiet (completeStopping w ownership)
      (returns fun ownership t ↦ Observed ownership t.log) s := by
  unfold completeStopping
  split
  · refine moves_mapping (Moves.bind_returns
      (moves_call_any id) fun recovered t _ _ ↦ ?_)
    refine moves_attempt_returns fun recovered _ ↦ ?_
    refine Moves.bind_returns (moves_call_any id) fun _ u _ _ ↦ ?_
    exact moves_call_returns id fun ownership v slots hv ↦ ⟨slots, .inl hv⟩
  · exact moves_pure h

theorem state_of_requireGlobalOff {u} (h : requireGlobalOff ownership = .ok u) :
    ownership.state = .off := by
  unfold requireGlobalOff at h
  split at h <;> simp_all

theorem eq_of_requireObservation {observation component}
    (h : requireObservation observation component = .ok snapshot) : observation = .ok snapshot := by
  cases observation <;> simp_all [requireObservation]

/-- A status that is Off tells that both owners and the Authority are. -/
def OffMeans (proxySnapshot tunnelSnapshot : EngineSnapshot) (status : NativeEngineStatus)
    (t : Bridge) : Prop :=
  status = .off →
    proxySnapshot.isStableOff ∧ tunnelSnapshot.isStableOff ∧ ∃ e ∈ t.log, e.AuthorityOff

theorem moves_settleOff (h : Observed ownership s.log) :
    Moves Quiet (settleOff w proxySnapshot tunnelSnapshot ownership)
      (returns (OffMeans proxySnapshot tunnelSnapshot)) s := by
  refine moves_attempt_returns fun _ hoff ↦ ?_
  rw [require_eq_ok] at hoff
  refine (moves_reconcileRecovering h).bind_returns fun ownership t _ ht ↦ ?_
  refine (moves_completeStopping ht).bind_returns fun ownership u _ hu ↦ ?_
  refine moves_attempt_returns fun _ hglobal ↦ moves_pure fun _ ↦ ?_
  exact ⟨hoff.1, hoff.2, hu.off (state_of_requireGlobalOff hglobal)⟩

theorem activeProxy_ne_off {mode td} : activeProxy d mode td snapshot ownership ≠ .ok .off := by
  intro h
  simp only [activeProxy, bind_eq_ok] at h
  obtain ⟨_, _, _, _, h⟩ := h
  split at h <;> cases h

theorem activeTunnel_ne_off : activeTunnel d snapshot ownership ≠ .ok .off := by
  intro h
  simp only [activeTunnel, bind_eq_ok] at h
  obtain ⟨_, _, _, _, h⟩ := h
  cases h

theorem moves_classify : Moves Quiet (classify w proxySnapshot tunnelSnapshot)
      (returns (OffMeans proxySnapshot tunnelSnapshot)) s := by
  refine moves_attempt_returns fun proxyDescriptor _ ↦ ?_
  refine moves_attempt_returns fun tunnelDescriptor _ ↦ ?_
  refine moves_attempt_returns fun _ _ ↦ ?_
  refine moves_observeOwnership.bind_returns fun ownership t _ ht ↦ ?_
  -- An active owner is never reported Off.
  rcases proxyDescriptor with _ | proxy
  · rcases tunnelDescriptor with _ | tunnel
    · exact moves_settleOff ht
    · refine moves_attempt ?_
      cases h : activeTunnel tunnel proxySnapshot ownership with
      | error e => trivial
      | ok status =>
        rintro rfl
        exact absurd h activeTunnel_ne_off
  · refine moves_attempt ?_
    cases h : activeProxy proxy _ tunnelDescriptor tunnelSnapshot ownership with
    | error e => trivial
    | ok status =>
      rintro rfl
      exact absurd h activeProxy_ne_off

theorem moves_preferenceBarrier : Roams Quiet (preferenceBarrier w) s := by
  refine (moves_call_any id).bind_any fun pending t ↦ ?_
  exact moves_attempt_returns fun _ _ ↦ moves_endRecovery

def OffSeen (status : NativeEngineStatus) (t : Bridge) : Prop :=
  status = .off → ∀ owner context, ProvenOff owner context t.log

theorem moves_queryStatus {enforcePreferenceBarrier} :
    Moves Quiet (queryStatus w enforcePreferenceBarrier) (returns OffSeen) s := by
  refine Moves.bind_any
    (moves_onlyIf (fun _ ↦ moves_preferenceBarrier) fun _ ↦ trivial) fun _ t ↦ ?_
  refine (moves_mapping (moves_call_any id)).bind_any fun _ u ↦ ?_
  refine Moves.bind_returns
    (moves_call (by simp [Request.isStart])).catching fun proxyObservation v _ hproxy ↦ ?_
  refine Moves.bind_returns
    (moves_call (by simp [Request.isStart])).catching fun tunnelObservation x hx htunnel ↦ ?_
  refine moves_attempt_returns fun proxySnapshot hproxyOk ↦ ?_
  refine moves_attempt_returns fun tunnelSnapshot htunnelOk ↦ ?_
  refine moves_classify.mono fun r y hy hr ↦ ?_
  cases r with
  | error e => trivial
  | ok status =>
    intro hoff owner context
    obtain ⟨hproxyOff, htunnelOff, hauthority⟩ := hr hoff
    refine ⟨?_, .inl hauthority⟩
    by_cases howner : owner = .tunnel
    · obtain ⟨slots, hcalled⟩ := htunnel
      rw [eq_of_requireObservation htunnelOk] at hcalled
      exact ⟨_, hy.mem hcalled, howner, htunnelOff⟩
    · obtain ⟨slots, hcalled⟩ := hproxy
      rw [eq_of_requireObservation hproxyOk] at hcalled
      exact ⟨_, hy.mem (hx.mem hcalled), howner, hproxyOff⟩

end CfwRs.NativeBridge
