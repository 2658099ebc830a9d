import CfwRs.Lib.History
import CfwRs.WindowsAuthority.MachineMoves

namespace CfwRs.WindowsAuthority

open Lib Lib.Checked Lib.History

namespace Machine

variable {m m' : Machine} {op : MachineOperation}

abbrev MachineEntry := Entry Machine MachineOperation

/-- The steps taken so far while the lease that is held now was held. -/
def leaseLife (t : List MachineEntry) : List MachineEntry := during (fun m ↦ m.lease.isSome) t

def Accepted (e : MachineEntry) : Prop := (perform e.input).run e.before = .ok () e.after

def Binds (peer : Peer) (e : MachineEntry) : Prop :=
  (∃ isOpen context ticket now, e.input = .bind isOpen peer context ticket now) ∧ Accepted e

def AcceptsStopped (peer : Peer) (context : LeaseContext) (e : MachineEntry) : Prop :=
  (∃ isOpen report now, e.input = .stopped isOpen peer report now ∧ report.context = context) ∧
    Accepted e

variable {l : Lease} {t : List MachineEntry}

/-- The runtime of a live lease is the one peer that was bound in the lease's life, and an owner
that is known to have stopped has reported so. -/
structure Accounted (t : List MachineEntry) (m : Machine) : Prop where
  unbound : ∀ l, m.lease = some l → m.phase = .preparing → ∀ e ∈ leaseLife t, ∀ peer,
    ¬Binds peer e
  bound : ∀ l, m.lease = some l → Live m.phase → ∀ e ∈ leaseLife t, ∀ peer, Binds peer e →
    l.runtime = some peer
  stopped : ∀ l peer, m.lease = some l → m.phase = .stopping → l.ownerStopped = true →
    l.runtime = some peer → ∃ e ∈ leaseLife t, AcceptsStopped peer l.context e

theorem leaseLife_cons_of_some (h : m.lease = some l) :
    leaseLife (⟨m, op, m'⟩ :: t) = ⟨m, op, m'⟩ :: leaseLife t :=
  during_cons_of_held (by simp [h])

theorem leaseLife_cons_of_none (h : m.lease = none) : leaseLife (⟨m, op, m'⟩ :: t) = [] :=
  during_cons_of_not_held (by simp [h])

theorem Accounted.start (h : m.Recovers) : Accounted [] m := by
  obtain ⟨recovery, h⟩ := h
  simp only [recovering, ok_iff] at h
  obtain ⟨-, -, rfl⟩ := h
  exact ⟨by simp, by simp, by simp⟩

theorem binds_of_mem_cons (hl : m.lease = some l) (hop : ∀ peer, ¬Binds peer ⟨m, op, m'⟩)
    {e} {peer} (he : e ∈ leaseLife (⟨m, op, m'⟩ :: t)) (hb : Binds peer e) : e ∈ leaseLife t := by
  rw [leaseLife_cons_of_some hl, List.mem_cons] at he
  rcases he with rfl | he
  · exact absurd hb (hop peer)
  · exact he

theorem not_binds (hop : ∀ isOpen peer context ticket now, op ≠ .bind isOpen peer context ticket now)
    (peer : Peer) : ¬Binds peer ⟨m, op, m'⟩ := by
  rintro ⟨⟨isOpen, context, ticket, now, h⟩, -⟩
  exact hop isOpen peer context ticket now h

theorem Accounted.keep {l'} (hi : Accounted t m) (hbefore : m.lease = some l)
    (hafter : m'.lease = some l') (hcontext : l'.context = l.context)
    (hlive : Live m'.phase → Live m.phase ∧ l'.runtime = l.runtime)
    (hpreparing : m'.phase = .preparing → m.phase = .preparing)
    (hstopped : m'.phase = .stopping → l'.ownerStopped = true →
      m.phase = .stopping ∧ l.ownerStopped = true) (hop : ∀ peer, ¬Binds peer ⟨m, op, m'⟩) :
    Accounted (⟨m, op, m'⟩ :: t) m' where
  unbound _ _ hp e he peer hb :=
    hi.unbound l hbefore (hpreparing hp) e (binds_of_mem_cons hbefore hop he hb) peer hb
  bound k hk hphase e he peer hb := by
    cases hafter.symm.trans hk
    rw [(hlive hphase).2]
    exact hi.bound l hbefore (hlive hphase).1 e (binds_of_mem_cons hbefore hop he hb) peer hb
  stopped k peer hk hphase ho hr := by
    cases hafter.symm.trans hk
    obtain ⟨hphase', ho'⟩ := hstopped hphase ho
    have hruntime : l.runtime = some peer := (hlive (.inr (.inr (.inr hphase)))).2 ▸ hr
    obtain ⟨e, he, hs⟩ := hi.stopped l peer hbefore hphase' ho' hruntime
    refine ⟨e, ?_, hcontext ▸ hs⟩
    rw [leaseLife_cons_of_some hbefore]
    exact List.mem_cons_of_mem _ he

theorem Accounted.step (hi : Accounted t m) (hs : m.Step op m') :
    Accounted (⟨m, op, m'⟩ :: t) m' := by
  rcases hs.cases with haccepted | ⟨rfl, hfails⟩
  · cases (performed haccepted).effect with
    | releases hafter => exact ⟨by simp [hafter], by simp [hafter], by simp [hafter]⟩
    | creates hbefore hphase =>
      refine ⟨?_, ?_, ?_⟩ <;> simp [leaseLife_cons_of_none hbefore, hphase]
    | keeps l l' hbefore hafter hcontext hlive hpreparing hstopped hop =>
      exact hi.keep hbefore hafter hcontext hlive hpreparing hstopped (not_binds hop)
    | binds isOpen peer context ticket now hop l l' hbefore hpreparing hafter hruntime hphase =>
      refine ⟨by simp [hphase], fun k hk _ e he p hb ↦ ?_, by simp [hphase]⟩
      cases hafter.symm.trans hk
      rw [leaseLife_cons_of_some hbefore, List.mem_cons] at he
      rcases he with rfl | he
      · obtain ⟨⟨_, _, _, _, heq⟩, -⟩ := hb
        simp only [hop, MachineOperation.bind.injEq] at heq
        rw [hruntime, heq.2.1]
      · exact absurd hb (hi.unbound l hbefore hpreparing e he p)
    | stops isOpen peer report now hop l l' hbefore hcontext hlive hruntime hafter hkept hphase =>
      refine ⟨by simp [hphase], fun k hk _ e he p hb ↦ ?_, fun k p hk _ _ hr ↦ ?_⟩
      all_goals cases hafter.symm.trans hk
      · rw [hkept.2]
        refine hi.bound l hbefore hlive e (binds_of_mem_cons hbefore (not_binds ?_) he hb) p hb
        simp [hop]
      · refine ⟨⟨m, op, m'⟩, by simp [leaseLife_cons_of_some hbefore], ?_, haccepted⟩
        rw [hkept.2, hruntime, Option.some.injEq] at hr
        exact ⟨isOpen, report, now, hr ▸ hop, hcontext.symm.trans hkept.1.symm⟩
    | aborts isOpen peer expected now hop l l' hbefore hpreparing hafter hruntime hphase =>
      refine ⟨by simp [hphase], fun k hk _ e he p hb ↦ ?_, fun k p hk _ _ hr ↦ ?_⟩
      · have he' := binds_of_mem_cons hbefore (not_binds (by simp [hop])) he hb
        exact absurd hb (hi.unbound l hbefore hpreparing e he' p)
      · cases hafter.symm.trans hk
        simp [hruntime] at hr
  · have hop : ∀ peer, ¬Binds peer ⟨m', op, m'⟩ := fun _ hb ↦ hfails _ hb.2
    cases hl : m'.lease with
    | none =>
      refine ⟨?_, ?_, ?_⟩ <;> simp [hl]
    | some l => exact hi.keep hl hl rfl (fun h ↦ ⟨h, rfl⟩) id (fun h h' ↦ ⟨h, h'⟩) hop

theorem accounted_of_run (h : Run Recovers Step t m) : Accounted t m := by
  induction h with
  | start h => exact .start h
  | step _ hs ih => exact ih.step hs

def FinishesUnbound (older : List MachineEntry) (e : MachineEntry) : Prop :=
  e.input = .finishUnboundAbort ∧ Accepted e ∧ e.before.lease ≠ none ∧
    ∀ b ∈ leaseLife older, ∀ peer, ¬Binds peer b

def ReconcilesExactly (e : MachineEntry) : Prop :=
  ∃ evidence prior, e.input = .reconcile evidence ∧ Accepted e ∧ evidence.exact = true ∧
    e.before.metadata = some prior ∧ evidence.revision = prior.revision ∧
    evidence.root = prior.root ∧ evidence.leaseId = prior.operation.map (·.leaseId)

/-- What a step that reaches Off rests on, given the steps before it. -/
structure OffRules (older : List MachineEntry) (e : MachineEntry) : Prop where
  cause : FinishesUnbound older e ∨ ReconcilesExactly e
  runtime_stopped : e.before.phase = .stopping → ∀ b ∈ leaseLife older, ∀ peer, Binds peer b →
    ∃ l, e.before.lease = some l ∧ ∃ s ∈ leaseLife older, AcceptsStopped peer l.context s

/-- The Authority turns Off only without a runtime or on exact evidence, and a run that it stopped
itself ends only after the runtime that was bound to it has reported its stop. -/
theorem off_only_after_cleanup {t : List MachineEntry} (h : Run Recovers Step t m)
    {e : MachineEntry} {older : List MachineEntry} (he : e :: older <:+ t)
    (hbefore : e.before.phase ≠ .off) (hafter : e.after.phase = .off) : OffRules older e := by
  obtain ⟨hrun, hstep⟩ := h.of_suffix he
  have hacc := accounted_of_run hrun
  rcases hstep.cases with haccepted | ⟨heq, -⟩
  · rcases (performed haccepted).off hbefore hafter with
      ⟨hop, l, hl, hruntime, hphase⟩ | ⟨evidence, prior, hop, hproves, hscope⟩
    · have hunbound : ∀ b ∈ leaseLife older, ∀ peer, ¬Binds peer b := by
        intro b hb peer hbinds
        have hsome := hacc.bound l hl (.inr (.inr (.inr hphase))) b hb peer hbinds
        simp [hruntime] at hsome
      exact ⟨.inl ⟨hop, haccepted, by simp [hl], hunbound⟩,
        fun _ b hb peer hbinds ↦ absurd hbinds (hunbound b hb peer)⟩
    · refine ⟨.inr ⟨evidence, prior, hop, haccepted, hproves.1, hscope.prior_eq, hscope.revision_eq,
        hscope.root_eq, hscope.leaseId_eq⟩, fun hphase b hb peer hbinds ↦ ?_⟩
      obtain ⟨l, hl, hstopped⟩ := hproves.2.2.resolve_left (not_not.mpr hphase)
      have hruntime := hacc.bound l hl (.inr (.inr (.inr hphase))) b hb peer hbinds
      exact ⟨l, hl, hacc.stopped l peer hl hphase hstopped hruntime⟩
  · exact absurd (heq ▸ hafter) hbefore

def sampleOwner : RecordedOwner where
  sid := [1, 1, 0, 0, 0, 0, 0, 5, 18, 0, 0, 0]
  authenticationId := 999
  sessionId := 1

def sampleHost : Peer := { owner := sampleOwner, connection := ⟨1⟩, role := .desktop }

def sampleRuntime : Peer := { owner := sampleOwner, connection := ⟨2⟩, role := .userAgent }

def sampleInstallation : Uuid := .fill 16 1

def sampleRequest : PrepareRequest where
  root := { epoch := 1, generation := 1, installationId := sampleInstallation }
  operationId := .fill 16 2
  mode := .localProxy
  configSha256 := .fill 32 3
  identitySha256 := .fill 32 4
  expectedRevision := 2

def sampleTicket : Bytes := List.replicate 32 5

def sampleContext : LeaseContext where
  operation :=
    { root := sampleRequest.root, operationId := .fill 16 2, mode := .localProxy
      configSha256 := .fill 32 3, identitySha256 := .fill 32 4, owner := sampleOwner
      preparedRevision := 3 }
  leaseId := .fill 16 6

def sampleReport : StoppedReport where
  context := sampleContext
  engineStopped := true
  transportClosed := true
  osRestored := true
  observedMillis := 1

def sampleEvidence (binding : CleanupBinding) (revision : UInt64) (leaseId : Option Uuid) :
    CleanupEvidence where
  binding := binding
  revision := revision
  leaseId := leaseId
  proxyListenerClosed := true
  systemProxyRestored := true
  tunnelEngineStopped := true
  packetPumpClosed := true
  managedTunnelOff := true
  endpointsClosed := true
  secretBuffersCleared := true

def sampleStopped : AuthorityCommittedState where
  schemaVersion := 6
  root := sampleRequest.root
  allocatedGeneration := 1
  revision := 5
  transition := .ownerStopped
  state := .stopping
  operation := some
    { operationId := .fill 16 2, mode := .localProxy, configSha256 := .fill 32 3
      identitySha256 := .fill 32 4, leaseId := .fill 16 6, owner := sampleOwner }

def sampleStart : Machine where
  phase := .recovering
  revision := 1
  durableKnown := true
  metadata := none
  lease := none

def sampleLife : List MachineOperation :=
  [.enroll sampleInstallation,
    .reconcile (sampleEvidence (.recordedOff (.enrollment sampleInstallation)) 1 none),
    .reserveGeneration (fun _ ↦ true) sampleHost
      { installationId := sampleInstallation, configEpoch := 1, generation := 0 },
    .prepare (fun _ ↦ true) sampleRequest sampleHost (.fill 16 6)
      { bytes := Sha256.hash sampleTicket, domain := [] } 0,
    .bind (fun _ ↦ true) sampleRuntime sampleContext sampleTicket 1,
    .stopped (fun _ ↦ true) sampleRuntime sampleReport 2,
    .reconcile (sampleEvidence (.localRuntime sampleStopped) 5 (some (.fill 16 6)))]

theorem sampleStart_recovers : sampleStart.Recovers :=
  ⟨{ committed := none, cursor := none, action := .verifyOff }, rfl⟩

theorem sampleLife_run : Run Recovers Step (execute next ([], sampleStart) sampleLife).1
    (execute next ([], sampleStart) sampleLife).2 :=
  (Run.start sampleStart_recovers).execute step_next sampleLife

theorem off_after_stopped :
    ∃ e older, e :: older <:+ (execute next ([], sampleStart) sampleLife).1 ∧
      e.before.phase = .stopping ∧ e.before.isBound ∧ e.after.phase = .off ∧ OffRules older e :=
  ⟨_, _, List.suffix_refl _, by decide +kernel, by decide +kernel, by decide +kernel,
    off_only_after_cleanup sampleLife_run (List.suffix_refl _) (by decide +kernel)
      (by decide +kernel)⟩

theorem inLockstep_of_run {t} (h : Run Recovers Step t m) : m.InLockstep := by
  induction h with
  | start h =>
    obtain ⟨recovery, h⟩ := h
    simp only [recovering, ok_iff] at h
    obtain ⟨-, -, rfl⟩ := h
    simp [InLockstep, Live]
  | step _ hs ih =>
    rcases hs.cases with haccepted | ⟨rfl, -⟩
    · exact (performed haccepted).lockstep ih
    · exact ih

/-- From any recovery on, an operation that fails changes nothing, a run under way is the one that the
last record is about, and each record follows the one before it. -/
theorem machine_in_lockstep {t : List MachineEntry} (h : Run Recovers Step t m) :
    m.InLockstep ∧ ∀ op m', (∀ e, (perform op).run m = .error e m' → m' = m) ∧
      ((perform op).run m = .ok () m' → m'.metadata ≠ m.metadata →
        ∃ s', m'.metadata = some s' ∧
          ∀ s, m.metadata = some s → s'.validateSuccessor s = .ok ()) :=
  ⟨inLockstep_of_run h, fun op m' ↦ ⟨fun e he ↦ perform_atomic op e m' he, fun ho hne ↦
    successor_of_move ((performed ho).move) hne⟩⟩

theorem sampleLife_in_lockstep :
    (execute next ([], sampleStart) (sampleLife.take 6)).2.phase = .stopping ∧
      (execute next ([], sampleStart) (sampleLife.take 6)).2.InLockstep :=
  ⟨by decide +kernel, (machine_in_lockstep ((Run.start sampleStart_recovers).execute step_next
    (sampleLife.take 6))).1⟩

end Machine

end CfwRs.WindowsAuthority
