import CfwRs.WindowsAuthority.JournalCrash
import CfwRs.WindowsAuthority.MachineHistory

namespace CfwRs.WindowsAuthority

open Lib Lib.Checked Lib.Durable

/-- A refusal of the policy, or a failure of the journal. -/
inductive ControlError
  | authority (error : AuthorityError)
  | journal (error : JournalStoreError)

/-- The controller of the service: what it has on disk and the machine that it holds in memory. Its
native handles are not modelled. -/
structure Controller where
  storage : Storage
  machine : Machine

abbrev ControlCode (α : Type) := Durable Controller ControlError α

namespace Controller

/-- The handling of a recorded Off by native observation: no handle of an earlier run is held, and the
processes of the recorded run have ended. -/
structure Observation where
  emptyController : Bool
  retired : Bool

def onStorage (a : Controller) (s : Storage) : Controller := { a with storage := s }

def suspended (uncertain : Bool) (a : Controller) : Controller :=
  { a with machine := a.machine.next (.enterRecovery uncertain) }

def onJournal {α : Type} (x : JournalCode α) : ControlCode α := fun a ↦
  ⟨(x a.storage).visited.map a.onStorage, (x a.storage).result.mapError .journal⟩

/-- Code of the journal after whose failure the controller no longer knows what is on disk. -/
def orSuspend {α : Type} (x : JournalCode α) : ControlCode α := fun a ↦
  match (x a.storage).result with
  | .ok value => ⟨(x a.storage).visited.map a.onStorage, .ok value⟩
  | .error e =>
    ⟨(x a.storage).visited.map a.onStorage ++ [suspended true (a.onStorage (x.final a.storage))],
      .error (.journal e)⟩

def suspend (uncertain : Bool) : ControlCode Unit := step (suspended uncertain)

def policy {α : Type} (x : Outcome α) : ControlCode α := lifted .authority x

variable (j : WindowsAuthorityJournal) (storeId : Uuid)

/-- Publishes the metadata of a candidate if they have changed. -/
def publishMetadata (candidate machine : Machine) : ControlCode Unit :=
  if candidate.metadata = machine.metadata then pure ()
  else do
    let metadata ← policy (unwrap candidate.metadata .invalid)
    let _ ← orSuspend (j.append storeId metadata)
    pure ()

def commit (candidate : Machine) : ControlCode Unit := do
  let machine ← read (·.machine)
  publishMetadata j storeId candidate machine
  step ({ · with machine := candidate })

def candidate (op : MachineOperation) (machine : Machine) : Outcome Machine :=
  match (Machine.perform op).run machine with
  | .ok _ m => .ok m
  | .error e _ => .error e

def operate (op : MachineOperation) : ControlCode Unit := do
  let machine ← read (·.machine)
  let next ← policy (candidate op machine)
  commit j storeId next

def reconcileOff (retired : Bool) (evidence : CleanupEvidence) : ControlCode Unit := do
  let machine ← read (·.machine)
  policy (require (machine.durableKnown = true) .recovering)
  policy (require (retired = true) .cleanupUnproven)
  operate j storeId (.reconcile evidence)

def recordedOffTarget (m : Machine) : Outcome AuthorityCommittedState := do
  reject (¬m.durableKnown ∨ m.phase ≠ .recovering) .recovering
  let metadata ← unwrap m.metadata .recovering
  CfwRs.WindowsAuthority.journal metadata.validate
  reject (m.lease.isSome ∨ metadata.state ≠ .off ∨ metadata.operation.isSome) .cleanupUnproven
  pure metadata

def recheckRecordedOff (expected : AuthorityCommittedState) : ControlCode Unit := do
  let recovered ← orSuspend j.recover
  if recovered.committed = some expected ∧ recovered.action = .verifyOff then pure ()
  else do
    suspend true
    policy (.error .stale)

def observeRecordedOff (observation : Observation) : ControlCode AuthorityCommittedState := do
  let machine ← read (·.machine)
  let target ← policy (recordedOffTarget machine)
  policy (require (observation.emptyController = true) .cleanupUnproven)
  recheckRecordedOff j target
  policy (require (observation.retired = true) .cleanupUnproven)
  recheckRecordedOff j target
  pure target

def recordedOffProof (target : AuthorityCommittedState) : CleanupEvidence where
  binding := .recordedOff target
  revision := target.revision
  leaseId := none
  proxyListenerClosed := true
  systemProxyRestored := true
  tunnelEngineStopped := true
  packetPumpClosed := true
  managedTunnelOff := true
  endpointsClosed := true
  secretBuffersCleared := true

def verifyRecordedOff (observation : Observation) : ControlCode Unit := do
  let target ← observeRecordedOff j observation
  recheckRecordedOff j target
  reconcileOff j storeId observation.retired (recordedOffProof target)

def reload : ControlCode Unit := do
  suspend false
  let recovery ← orSuspend j.recover
  match Machine.recovering recovery with
  | .ok machine => step ({ · with machine })
  | .error e => do
    suspend true
    policy (.error e)

def enrollNew (installation : Uuid) : ControlCode Unit := do
  let machine ← read (·.machine)
  if machine.metadata.isNone = true then operate j storeId (.enroll installation) else pure ()

def fromJournal (enroll : Bool) (installation : Uuid) : ControlCode Unit := do
  let recovery ← onJournal j.recover
  let machine ← policy (Machine.recovering recovery)
  attempt (reject (enroll = false ∧ machine.metadata.isNone = true) (.journal .storeIdentity))
  step ({ · with machine })
  enrollNew j storeId installation

/-- The start of the service, up to where it offers operations. -/
def serve (installation : Uuid) (observation : Observation) : ControlCode Unit := do
  fromJournal j storeId true installation
  let machine ← read (·.machine)
  if ∃ metadata ∈ machine.metadata, metadata.state = .off then
    verifyRecordedOff j storeId observation
  else pure ()

inductive Command
  | serve (installation : Uuid) (observation : Observation)
  | reopen
  | operate (op : MachineOperation)
  | reconcileOff (retired : Bool) (evidence : CleanupEvidence)
  | suspend (uncertain : Bool)
  | reload

def perform : Command → ControlCode Unit
  | .serve installation observation => serve j storeId installation observation
  | .reopen => fromJournal j storeId false storeId
  | .operate op => operate j storeId op
  | .reconcileOff retired evidence => reconcileOff j storeId retired evidence
  | .suspend uncertain => suspend uncertain
  | .reload => reload j

end Controller

namespace Machine

open WindowsAuthorityJournal

variable {m m' : Machine} {op : MachineOperation} {prior metadata : AuthorityCommittedState}

theorem Records.restartable {kind phase} (h : m.Records kind phase prior metadata)
    (hphase : phase ≠ .recovering ∧ (phase = .quarantined → kind = .reconcileOff)) :
    ∀ s ∈ some metadata, Restartable s := by
  rintro _ ⟨⟩
  unfold Restartable AuthorityCommittedState.action
  rw [h.state_eq, h.transition_eq]
  cases phase <;> simp_all

/-- The machine never records a state that a restart cannot act on. -/
theorem ready_of_perform (h : (perform op).run m = .ok () m') (hm : Ready m.metadata) :
    Ready m'.metadata := by
  cases (performed h).move with
  | keeps lease _ hafter | suspends uncertain hafter | settles phase prior _ _ _ _ hafter =>
    rwa [hafter]
  | enrolls installation _ _ _ _ _ hafter =>
    rw [hafter]
    exact Restartable.ready ⟨_, rfl⟩
  | reserves prior next _ _ hnext hafter =>
    simp only [AuthorityCommittedState.reserveNextGeneration, ok_iff, not_or, not_not] at hnext
    obtain ⟨_, -, _, ⟨hoff, -⟩, _, -, _, -, _, -, rfl⟩ := hnext
    rw [hafter]
    exact Restartable.ready ⟨.verifyOff, by simp [AuthorityCommittedState.action, hoff]⟩
  | prepares isOpen input host leaseId ticket now prior metadata _ hp =>
    obtain ⟨operation, -, hnew⟩ := hp.recorded
    simp only [AuthorityCommittedState.new, ok_iff] at hnew
    obtain ⟨_, -, rfl⟩ := hnew
    rw [hp.after_eq]
    exact Restartable.ready ⟨_, rfl⟩
  | records kind phase prior metadata lease hr _ hphase hquarantined _ _ hafter =>
    rw [hafter]
    exact hr.restartable ⟨hphase.2, hquarantined⟩

end Machine

namespace Controller

open WindowsAuthorityJournal

variable {j : WindowsAuthorityJournal} {storeId : Uuid} {a : Controller} {C : Controller → Prop}
  {α : Type}

theorem final_map (x : JournalCode α) (a : Controller) :
    ((x a.storage).visited.map a.onStorage).getLastD a = a.onStorage (x.final a.storage) := by
  rw [Durable.final, List.getLastD_eq_getLast?, List.getLastD_eq_getLast?, List.getLast?_map]
  cases (x a.storage).visited.getLast? <;> rfl

variable {Q : Except ControlError α → Controller → Prop} {x : JournalCode α}

theorem wp_onJournal : (onJournal x).wp C Q a ↔ x.wp (fun s ↦ C (a.onStorage s))
      (fun r s ↦ Q (r.mapError .journal) (a.onStorage s)) a.storage := by
  simp only [wp, onJournal, Durable.final, List.forall_mem_map, final_map]

def suspending (C : Controller → Prop) (Q : Except ControlError α → Controller → Prop)
    (a : Controller) : Except JournalStoreError α → Storage → Prop
  | .ok value, s => Q (.ok value) (a.onStorage s)
  | .error e, s => C (suspended true (a.onStorage s)) ∧
    Q (.error (.journal e)) (suspended true (a.onStorage s))

theorem wp_orSuspend : (orSuspend x).wp C Q a ↔
      x.wp (fun s ↦ C (a.onStorage s)) (suspending C Q a) a.storage := by
  simp only [wp, orSuspend, Durable.final]
  cases (x a.storage).result with
  | ok value =>
    simp only [List.forall_mem_map, final_map, suspending, Durable.final]
  | error e =>
    simp only [List.forall_mem_append, List.forall_mem_map, List.forall_mem_singleton, suspending,
      List.getLastD_concat, and_assoc]

variable (j) in
/-- What holds of the controller after any number of commands and restarts. -/
structure Sound (a : Controller) : Prop where
  reached : Reached j a.storage
  ready : Ready a.machine.metadata

variable {s : Storage}

theorem Sound.onStorage (h : Sound j a) (hs : Reached j s) : Sound j (a.onStorage s) :=
  ⟨hs, h.ready⟩

theorem Sound.suspended (h : Sound j a) (uncertain : Bool) : Sound j (suspended uncertain a) :=
  ⟨h.reached, h.ready⟩

theorem Sound.setMachine (h : Sound j a) {m : Machine} (hm : Ready m.metadata) :
    Sound j { a with machine := m } := ⟨h.reached, hm⟩

theorem recover_keeps (h : Reached j s) :
    j.recover.wp (Reached j) (keeps (Reached j) fun recovery _ ↦ Ready recovery.committed) s := by
  have hwp : j.recover.wp _ _ s := recoverLocked_wp h.leadsTo fun state hp ↦ hp state rfl
  obtain ⟨-, recovery, w, hresult, -, -, hready, -⟩ := hwp
  refine ⟨fun t ht ↦ .recover h (.inr ht), ?_⟩
  rw [hresult]
  exact ⟨.recover h crash_final, hready⟩

theorem append_keeps {metadata} (h : Reached j s) (hr : Restartable metadata) :
    (j.append storeId metadata).wp (Reached j) (keeps (Reached j) fun _ _ ↦ True) s := by
  refine ⟨fun t ht ↦ .append h hr (.inr ht), ?_⟩
  cases (j.append storeId metadata s).result with
  | ok => exact ⟨.append h hr crash_final, trivial⟩
  | error => exact .append h hr crash_final

section Rules

variable (ha : Sound j a)
include ha

variable {P : α → Prop}
variable {x : JournalCode α}

section

variable (hx : x.wp (Reached j) (keeps (Reached j) fun v _ ↦ P v) a.storage)
include hx

theorem onJournal_keeps : (onJournal x).wp (Sound j) (keeps (Sound j) fun v _ ↦ P v) a := by
  rw [wp_onJournal]
  refine wp_mono hx (fun s hs ↦ ha.onStorage hs) fun r s hr ↦ ?_
  cases r with
  | ok v => exact ⟨ha.onStorage hr.1, hr.2⟩
  | error e => exact ha.onStorage hr

theorem orSuspend_keeps : (orSuspend x).wp (Sound j) (keeps (Sound j) fun v _ ↦ P v) a := by
  rw [wp_orSuspend]
  refine wp_mono hx (fun s hs ↦ ha.onStorage hs) fun r s hr ↦ ?_
  cases r with
  | ok v => exact ⟨ha.onStorage hr.1, hr.2⟩
  | error e => exact ⟨(ha.onStorage hr).suspended true, (ha.onStorage hr).suspended true⟩

end

theorem suspend_keeps (uncertain : Bool) :
    (suspend uncertain).wp (Sound j) (keeps (Sound j) fun _ _ ↦ True) a :=
  wp_step.mpr ⟨ha.suspended uncertain, ha.suspended uncertain, trivial⟩

theorem setMachine_keeps {m} (hm : Ready m.metadata) :
    (step ({ · with machine := m }) : ControlCode Unit).wp (Sound j) (keeps (Sound j) fun _ _ ↦ True) a :=
  wp_step.mpr ⟨ha.setMachine hm, ha.setMachine hm, trivial⟩

theorem policy_keeps {x} (hx : ∀ v, x = .ok v → P v) :
    (policy x).wp (Sound j) (keeps (Sound j) fun v _ ↦ P v) a := by
  rw [policy, wp_attempt]
  cases x with
  | ok v => exact ⟨ha, hx v rfl⟩
  | error e => exact ha

theorem commit_keeps {next} (hnext : Ready next.metadata) :
    (commit j storeId next).wp (Sound j) (keeps (Sound j) fun _ _ ↦ True) a := by
  rw [commit, wp_read_bind]
  refine wp_bind_keeps (P := fun _ _ ↦ True) ?_ fun _ b hb _ ↦ setMachine_keeps hb hnext
  unfold publishMetadata
  split
  · exact wp_pure.mpr ⟨ha, trivial⟩
  · refine wp_bind_keeps (policy_keeps ha fun metadata h ↦ unwrap_eq_ok.mp h) fun metadata b hb h ↦ ?_
    refine wp_bind_keeps (orSuspend_keeps hb (append_keeps hb.reached (hnext metadata h)))
      fun _ c hc _ ↦ wp_pure.mpr ⟨hc, trivial⟩

theorem operate_keeps (op) :
    (operate j storeId op).wp (Sound j) (keeps (Sound j) fun _ _ ↦ True) a := by
  rw [operate, wp_read_bind]
  refine wp_bind_keeps (policy_keeps ha fun m hm ↦ ?_) fun _ b hb hm ↦ commit_keeps hb hm
  unfold candidate at hm
  split at hm
  · next heq => exact Machine.ready_of_perform (Except.ok.inj hm ▸ heq) ha.ready
  · cases hm

theorem reconcileOff_keeps (retired : Bool) (evidence) :
    (reconcileOff j storeId retired evidence).wp (Sound j) (keeps (Sound j) fun _ _ ↦ True) a := by
  rw [reconcileOff, wp_read_bind]
  exact wp_bind_keeps (policy_keeps ha fun _ _ ↦ trivial) fun _ b hb _ ↦
    wp_bind_keeps (policy_keeps hb fun _ _ ↦ trivial) fun _ c hc _ ↦ operate_keeps hc _

theorem recheckRecordedOff_keeps (expected) :
    (recheckRecordedOff j expected).wp (Sound j) (keeps (Sound j) fun _ _ ↦ True) a := by
  refine wp_bind_keeps (orSuspend_keeps ha (recover_keeps ha.reached)) fun recovered b hb _ ↦ ?_
  split
  · exact wp_pure.mpr ⟨hb, trivial⟩
  · exact wp_bind_keeps (suspend_keeps hb true) fun _ c hc _ ↦ policy_keeps hc fun _ _ ↦ trivial

theorem verifyRecordedOff_keeps (observation) :
    (verifyRecordedOff j storeId observation).wp (Sound j) (keeps (Sound j) fun _ _ ↦ True) a := by
  refine wp_bind_keeps (P := fun _ _ ↦ True) ?_ fun target b hb _ ↦
    wp_bind_keeps (recheckRecordedOff_keeps hb target) fun _ c hc _ ↦ reconcileOff_keeps hc _ _
  rw [observeRecordedOff, wp_read_bind]
  exact wp_bind_keeps (policy_keeps ha fun _ _ ↦ trivial) fun target b hb _ ↦
    wp_bind_keeps (policy_keeps hb fun _ _ ↦ trivial) fun _ c hc _ ↦
    wp_bind_keeps (recheckRecordedOff_keeps hc target) fun _ d hd _ ↦
    wp_bind_keeps (policy_keeps hd fun _ _ ↦ trivial) fun _ e he _ ↦
    wp_bind_keeps (recheckRecordedOff_keeps he target) fun _ f hf _ ↦ wp_pure.mpr ⟨hf, trivial⟩

theorem recovering_keeps {recovery} (hr : Ready recovery.committed) :
    (policy (Machine.recovering recovery)).wp (Sound j)
      (keeps (Sound j) fun m _ ↦ Ready m.metadata) a := by
  refine policy_keeps ha fun m hm ↦ ?_
  simp only [Machine.recovering, ok_iff] at hm
  obtain ⟨_, -, rfl⟩ := hm
  exact hr

theorem reload_keeps : (reload j).wp (Sound j) (keeps (Sound j) fun _ _ ↦ True) a := by
  refine wp_bind_keeps (suspend_keeps ha false) fun _ b hb _ ↦
    wp_bind_keeps (orSuspend_keeps hb (recover_keeps hb.reached)) fun recovery c hc hready ↦ ?_
  split
  · next machine hm =>
    simp only [Machine.recovering, ok_iff] at hm
    obtain ⟨_, -, rfl⟩ := hm
    exact setMachine_keeps hc hready
  · exact wp_bind_keeps (suspend_keeps hc true) fun _ d hd _ ↦ policy_keeps hd fun _ _ ↦ trivial

theorem fromJournal_keeps (enroll : Bool) (installation : Uuid) :
    (fromJournal j storeId enroll installation).wp (Sound j) (keeps (Sound j) fun _ _ ↦ True) a := by
  refine wp_bind_keeps (onJournal_keeps ha (recover_keeps ha.reached)) fun recovery b hb hready ↦
    wp_bind_keeps (recovering_keeps hb hready) fun machine c hc hm ↦
    wp_attempt_bind_keeps hc fun _ _ ↦
    wp_bind_keeps (setMachine_keeps hc hm) fun _ d hd _ ↦ ?_
  rw [enrollNew, wp_read_bind]
  split
  · exact operate_keeps hd _
  · exact wp_pure.mpr ⟨hd, trivial⟩

theorem perform_keeps (command : Command) :
    (perform j storeId command).wp (Sound j) (keeps (Sound j) fun _ _ ↦ True) a := by
  cases command with
  | serve installation observation =>
    refine wp_bind_keeps (fromJournal_keeps ha true installation) fun _ b hb _ ↦ ?_
    rw [wp_read_bind]
    split
    · exact verifyRecordedOff_keeps hb observation
    · exact wp_pure.mpr ⟨hb, trivial⟩
  | reopen => exact fromJournal_keeps ha false storeId
  | operate op => exact operate_keeps ha op
  | reconcileOff retired evidence => exact reconcileOff_keeps ha retired evidence
  | suspend uncertain => exact suspend_keeps ha uncertain
  | reload => exact reload_keeps ha

end Rules

def Fresh (a : Controller) : Prop :=
  a.storage = freshStorage ∧ Machine.recovering emptyRecovery = .ok a.machine

variable (j) in
/-- What a command may leave, whether it completes or the service is killed during it; `storeId` is the
identifier drawn for a store that has none. -/
def Step (a : Controller) (input : Uuid × Command) (b : Controller) : Prop :=
  Crash (perform j input.1 input.2) a b

theorem sound_of_run {trace} (h : History.Run Fresh (Step j) trace a) : Sound j a := by
  refine h.invariant (fun b hb ↦ ?_) fun b input c hb hstep ↦ hstep.of_wp hb (perform_keeps hb input.2)
  obtain ⟨hstorage, hmachine⟩ := hb
  obtain ⟨v, hs, hr⟩ := restsAt_freshStorage
  refine ⟨?_, ?_⟩
  · rw [hstorage]
    exact .settled hs hr.settled (by rintro _ ⟨⟩)
  · rw [← Except.ok.inj hmachine]
    rintro _ ⟨⟩

end Controller

end CfwRs.WindowsAuthority
