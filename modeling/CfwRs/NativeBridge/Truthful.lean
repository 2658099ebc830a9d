import CfwRs.NativeBridge.CommandsSound

namespace CfwRs.NativeBridge

open Lib Lib.Checked Lib.Durable GlobalAuthority Bridge

variable {w : World} {s : Bridge} {context : EngineCommandContext}

theorem moves_setInstallation {pending} : Roams Quiet (setInstallation pending) s :=
  moves_step ⟨⟨List.suffix_refl _, fun hs ↦ ⟨hs.truthful, hs.exclusive⟩⟩, rfl⟩ trivial

theorem moves_awaitTunnelInstallation : Roams Quiet (awaitTunnelInstallation w context) s := by
  refine moves_read_bind (moves_attempt_returns fun _ _ ↦ ?_)
  refine moves_setInstallation.bind_any fun _ t ↦ ?_
  refine (moves_call_catching id).bind_any fun result u ↦ ?_
  split <;> refine moves_setInstallation.bind_any fun _ _ ↦ ?_
  · exact moves_pure trivial
  · exact moves_pure trivial
  · exact moves_pure trivial
  · exact moves_throwing trivial

theorem moves_installTunnel : Roams Evolves (installTunnel w context) s := by
  refine moves_beginMutation.bind_any fun _ t ↦ ?_
  refine (quiet_evolves (moves_call_any id)).bind_any fun _ u ↦ ?_
  refine (quiet_evolves_any (moves_mapping (moves_awaitTunnelInstallation.bind_any
    fun result v ↦ ?_))).bind_any fun result v ↦ ?_
  · exact (moves_call_any id).bind_any fun _ _ ↦ moves_pure trivial
  · cases result with
    | requiresRestart => exact moves_throwing trivial
    | _ => exact moves_pure trivial

theorem moves_cancelTunnelInstall : Roams Evolves (cancelTunnelInstall w context) s := by
  refine moves_beginMutation.bind_any fun _ t ↦ ?_
  refine moves_read_bind (moves_attempt_returns fun _ _ ↦ ?_)
  refine (quiet_evolves (moves_call_catching id)).bind_any fun _ u ↦ ?_
  exact quiet_evolves_any moves_setInstallation

variable {b : Bridge} {command : NativeBridgeCommand} {towardsTunnel : Bool}

theorem moves_prepareInstallation :
    Roams Quiet (prepareInstallation w context towardsTunnel) s := by
  refine moves_read_bind ?_
  cases s.pendingTunnelInstallation with
  | none => exact moves_pure trivial
  | some pending =>
    refine moves_attempt_returns fun _ _ ↦ ?_
    split
    · exact moves_attempt_end fun _ _ ↦ trivial
    · refine (moves_call_catching id).bind_any fun _ u ↦ ?_
      exact moves_setInstallation

theorem moves_requireOff {code message} : Roams Quiet (requireOff w code message) s := by
  refine moves_queryStatus.bind_any fun status t ↦ ?_
  cases status with
  | off => exact moves_pure trivial
  | _ => exact moves_throwing trivial

theorem moves_finishPreflight : Roams Quiet (finishPreflight w) s :=
  moves_requireOff.bind_any fun _ _ ↦ moves_pure trivial

theorem moves_preflightCutover : Roams Evolves (preflightCutover w context towardsTunnel) s := by
  refine moves_beginMutation.bind_any fun _ t ↦ quiet_evolves_any ?_
  refine moves_prepareInstallation.bind_any fun _ u ↦ ?_
  refine moves_requireOff.bind_any fun _ v ↦ ?_
  refine (moves_call_any id).bind_any fun _ x ↦ ?_
  refine (moves_call_any id).bind_any fun _ y ↦ ?_
  split
  · refine (moves_mapping moves_awaitTunnelInstallation).bind_any fun installed z ↦ ?_
    cases installed with
    | awaitingApproval => exact moves_pure trivial
    | requiresRestart => exact moves_throwing trivial
    | completed => exact moves_finishPreflight
  · exact moves_finishPreflight

theorem moves_mutateCredentials : Roams Evolves (mutateCredentials w) s :=
  moves_beginMutation.bind_any fun _ _ ↦
    quiet_evolves_any (moves_mapping (moves_call_any id))

def NativeBridgeCommand.Stops (owner : NativeStopOwner) (context : EngineCommandContext) :
    NativeBridgeCommand → Prop
  | .stopLocalProxy c => owner = .localProxy ∧ context = c
  | .stopSystemProxy c => owner = .systemProxy ∧ context = c
  | .stopTunnel c => owner = .tunnel ∧ context = c
  | _ => False

def StopProven (command : NativeBridgeCommand) (_ : NativeBridgeResult) (t : Bridge) : Prop :=
  ∀ owner context, command.Stops owner context → ProvenOff owner context t.log

theorem moves_dispatch (hs : s.Sound) :
    Moves Evolves (dispatch w command) (returns (StopProven command)) s := by
  cases command with
  | queryStatus =>
    exact (quiet_evolves moves_queryStatus).bind_any fun _ _ ↦ moves_pure nofun
  | startSystemProxy request =>
    exact (moves_startProxy hs).bind_any fun _ _ ↦ moves_pure nofun
  | startLocalProxy request =>
    exact (moves_startProxy hs).bind_any fun _ _ ↦ moves_pure nofun
  | stopLocalProxy c =>
    refine (moves_stopProxy hs).bind_returns fun _ t _ ht ↦ moves_pure ?_
    rintro _ _ ⟨rfl, rfl⟩
    exact ht
  | stopSystemProxy c =>
    refine (moves_stopProxy hs).bind_returns fun _ t _ ht ↦ moves_pure ?_
    rintro _ _ ⟨rfl, rfl⟩
    exact ht
  | installTunnel c => exact moves_installTunnel.bind_any fun _ _ ↦ moves_pure nofun
  | cancelTunnelInstall c =>
    exact moves_cancelTunnelInstall.bind_any fun _ _ ↦ moves_pure nofun
  | authorizeTunnelConfiguration request =>
    exact (moves_authorizeTunnelConfiguration hs).bind_any fun _ _ ↦ moves_pure nofun
  | startTunnel request => exact (moves_startTunnel hs).bind_any fun _ _ ↦ moves_pure nofun
  | stopTunnel c =>
    refine (moves_stopTunnel hs).bind_returns fun _ t _ ht ↦ moves_pure ?_
    rintro _ _ ⟨rfl, rfl⟩
    exact ht
  | preflightCutover c towardsTunnel =>
    exact moves_preflightCutover.bind_any fun _ _ ↦ moves_pure nofun
  | mutateCredentials => exact moves_mutateCredentials.bind_any fun _ _ ↦ moves_pure nofun

theorem moves_execute (hs : s.Sound) :
    Moves Evolves (execute w command) (returns (StopProven command)) s := by
  refine sound_bind hs (quiet_evolves (moves_call_any id)) fun _ t hs _ ↦ ?_
  refine sound_bind hs (quiet_evolves (moves_call_any id)) fun _ u hs _ ↦ ?_
  refine sound_bind hs (moves_onlyIf (fun _ ↦ quiet_evolves_any
    (moves_mapping (moves_call_any id))) fun _ ↦ trivial) fun _ v hs _ ↦ ?_
  exact moves_dispatch hs

/-- A coordinator at the beginning of a command: nothing happened in it yet. -/
def Bridge.fresh (b : Bridge) : Bridge := { b with log := [] }

/-- A coordinator after any commands, each in any surroundings. -/
inductive Reachable : Bridge → Prop
  | launched : Reachable {}
  | executed {b : Bridge} (h : Reachable b) (w : World) (command : NativeBridgeCommand) :
    Reachable ((execute w command).final b.fresh)

theorem Bridge.Sound.fresh (h : b.Sound) : b.fresh.Sound := ⟨trivial, h.exclusive⟩

theorem Reachable.sound (h : Reachable b) : b.Sound := by
  induction h with
  | launched => exact ⟨trivial, .inl rfl⟩
  | executed _ w command ih => exact (moves_execute ih.fresh).2.1.sound ih.fresh

/-- Stop answers are truthful. In every command of a reachable coordinator, no start or preparation
is called while a transaction is retained, what is retained is never replaced by a transaction of
another generation, and a stop, a failed start or its receipt is only dropped after the owner was
seen stably Off in this command, and the Authority was seen Off or past the generation. A stop only
succeeds after the same observations. -/
theorem stop_answers_truthful {b : Bridge} (h : Reachable b) (w : World)
    (command : NativeBridgeCommand) : Truthful ((execute w command).final b.fresh).log ∧
      ∀ result, (execute w command b.fresh).result = .ok result →
        ∀ owner context, command.Stops owner context →
          ProvenOff owner context ((execute w command).final b.fresh).log := by
  have hs := h.sound.fresh
  have hmoves : Moves Evolves (execute w command) (returns (StopProven command)) b.fresh :=
    moves_execute hs
  obtain ⟨-, hevolves, hresult⟩ := hmoves
  refine ⟨(hevolves.sound hs).truthful, fun result hok ↦ ?_⟩
  rw [hok] at hresult
  exact hresult

def passedWorld : World where
  answer _
    | .checkCancellation | .acquireHostOperationLease => .ok ()
    | .pendingPreferenceMutationConfiguration => .ok none
    | .proxySnapshot => .ok ⟨.off, .off, none, none⟩
    | .stopResolution _ => .ok .superseded
    | _ => .error (failure .unavailable "unavailable")
  endsRecovery _ _ := false
  polls := 0
  invalidCommand := failure .configurationRejected "invalidCommand"

def sampleContext : EngineCommandContext := ⟨.fill 16 1, 1, 1⟩

theorem passed_stop_proven :
    (execute passedWorld (.stopSystemProxy sampleContext) (Bridge.fresh {})).result =
        .ok .acknowledged ∧ ProvenOff .systemProxy sampleContext
        ((execute passedWorld (.stopSystemProxy sampleContext)).final (Bridge.fresh {})).log :=
  ⟨rfl, (stop_answers_truthful .launched passedWorld (.stopSystemProxy sampleContext)).2
    .acknowledged rfl .systemProxy sampleContext ⟨rfl, rfl⟩⟩

/-! ### The startup recovery -/

/-- Surroundings in which the journal holds `pending` and the Authority answers `cancelled` to the
cancellation of a prepared start. -/
def journalWorld (pending : Option ConfigurationDescriptor) (cancelled : Except Thrown Bool) :
    World where
  answer _
    | .checkCancellation | .acquireHostOperationLease | .requireCurrentServiceBuilds
    | .finishPreferenceCompensation _ => .ok ()
    | .pendingPreferenceMutationConfiguration => .ok pending
    | .cancelPreparedStart _ => cancelled
    | .pendingReceipt _ => .ok false
    | _ => .error (failure .unavailable "unavailable")
  endsRecovery _ _ := false
  polls := 0
  invalidCommand := failure .configurationRejected "invalidCommand"

def sampleDescriptor : ConfigurationDescriptor :=
  ⟨.tunnel, .fill 16 1, 1, 1, .fill 32 0, .fill 32 0, ""⟩

end CfwRs.NativeBridge
