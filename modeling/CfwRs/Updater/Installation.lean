import CfwRs.Updater.Journal

namespace CfwRs.Updater

open Lib.Checked

section Decommission

inductive NativeServiceRegistrationStatus
  | enabled | requiresApproval | notRegistered | notFound | unknown
deriving DecidableEq, Repr

structure ServicePair where
  proxyAgent : NativeServiceRegistrationStatus
  globalAuthority : NativeServiceRegistrationStatus
deriving DecidableEq, Repr

def ServicePair.dormant (s : ServicePair) : Bool :=
  s.proxyAgent = .notRegistered && s.globalAuthority = .notRegistered

def ServicePair.removable (s : ServicePair) : Bool :=
  s.dormant || (s.globalAuthority = .enabled &&
    (s.proxyAgent = .enabled || s.proxyAgent = .notRegistered))

/-- What the ports answer an installer before the exchange. Those asked several times answer by
the number of earlier questions. -/
structure FinisherPorts where
  dashboardRunning : ℕ → Except String Bool
  dashboards : ℕ → Except String (List Process)
  verifyStaged : Except String Unit
  serviceStatus : ℕ → Except String ServicePair
  unregisterProxyAgent : Except String Unit
  unregisterGlobalAuthority : Except String Unit

def dashboardExitPolls : ℕ := 300

def waitForDashboardExit (running : ℕ → Except String Bool) : (left asked : ℕ) →
    Except String Unit
  | left, asked =>
    match running asked, left with
    | .ok false, _ => .ok ()
    | .error _, _ => .error "process_observation_failed"
    | .ok true, 0 => .error "dashboard_still_running"
    | .ok true, left + 1 => waitForDashboardExit running left (asked + 1)

def observeDashboards (answer : Except String (List Process)) : Except String (List Process) :=
  match answer with
  | .ok dashboards => .ok dashboards
  | .error _ => .error "process_observation_failed"

variable (ports : FinisherPorts)

def requireNoOtherDashboard (asked : ℕ) : Except String Unit := do
  let first ← observeDashboards (ports.dashboards asked)
  if first.isEmpty then .ok ()
  else do
    let second ← observeDashboards (ports.dashboards (asked + 1))
    reject (second.any first.contains = true) "application_reopened"

def unregisterServices (before : ServicePair) : Except String Unit :=
  if before.dormant then .ok ()
  else do
    ports.unregisterProxyAgent
    ports.unregisterGlobalAuthority

def decommissionServices : Except String Unit := do
  let before ← ports.serviceStatus 0
  require (before.removable = true) "services_not_in_a_removable_state"
  unregisterServices ports before
  let after ← ports.serviceStatus 1
  require (after.dormant = true) "services_still_registered"

def decommission : Except String Unit := do
  waitForDashboardExit ports.dashboardRunning dashboardExitPolls 0
  requireNoOtherDashboard ports 0
  ports.verifyStaged
  decommissionServices ports
  requireNoOtherDashboard ports 2

end Decommission

structure StagedUpdate where
  transaction : Transaction
  installed : BundleIdentity
  staged : BundleIdentity
deriving DecidableEq, Repr

/-- How far a dashboard has come in `review_previous_attempt`, which holds the lease. -/
inductive ReviewStage
  | admitted
  | inspected (recorded : Recorded)
  /-- The record was found to belong to no attempt in flight. -/
  | settled (recorded : Recorded)
deriving DecidableEq, Repr

inductive HandOffStage
  | checked
  | begun
  | waiting (installer : Process)
  | notStarted
deriving DecidableEq, Repr

/-- A dashboard process. `running` is the version it was built with, fixed when it was executed. -/
inductive Dashboard
  | absent
  | launching (running : BundleIdentity)
  | idle (running : BundleIdentity) (reviewed : Bool) (staged : Option StagedUpdate)
  | reviewing (running : BundleIdentity) (stage : ReviewStage)
  | handingOff (running : BundleIdentity) (staged : StagedUpdate) (stage : HandOffStage)
  | leaving (running : BundleIdentity)
  | ended
deriving DecidableEq, Repr

inductive Installer
  | absent
  | starting (transaction : Transaction)
  | admitted (transaction : Transaction)
  | loaded (record : InstallRecord)
  | decommissioned (record : InstallRecord)
  | exchanged (record : InstallRecord)
  | aborting (transaction : Transaction) (code : String)
  | ended
deriving DecidableEq, Repr

inductive Holder
  | dashboard (process : Process)
  | installer (process : Process)
deriving DecidableEq, Repr

inductive Event
  | handedOff (transaction : Transaction)
  | advanced (transaction : Transaction)
  | aborted (transaction : Transaction)
  | cleared (transaction : Transaction)
  /-- The exchange, with the lease and the record as they were. -/
  | exchanged (installer : Process) (transaction : Transaction) (lease : Option Holder)
      (recorded : Recorded) (durable : Bool)
  | reported (transaction : Transaction) (outcome : InstallOutcome)
  | discarded
deriving DecidableEq, Repr

/-- What the processes of one user share, and the processes. `origins` tells for every transaction
that was ever staged the process that staged it and what it staged. -/
structure Machine where
  recorded : Recorded
  durable : Bool
  lease : Option Holder
  installed : BundleIdentity
  staging : Transaction → Option BundleIdentity
  dashboards : Process → Dashboard
  installers : Process → Installer
  origins : Transaction → Option (Process × StagedUpdate)
  history : List Event

namespace Machine

variable (m : Machine)

def setDashboard (d : Process) (s : Dashboard) : Machine :=
  { m with dashboards := Function.update m.dashboards d s }

def setInstaller (p : Process) (s : Installer) : Machine :=
  { m with installers := Function.update m.installers p s }

def take (h : Holder) : Machine := { m with lease := some h }

def release (h : Holder) : Machine :=
  { m with lease := if m.lease = some h then none else m.lease }

/-- A write or removal that is visible. One that is not known to be `durable` was answered with
an error. -/
def store (recorded : Recorded) (durable : Bool) (e : Event) : Machine :=
  { m with recorded, durable, history := e :: m.history }

def log (e : Event) : Machine := { m with history := e :: m.history }

def setStaging (t : Transaction) (b : Option BundleIdentity) : Machine :=
  { m with staging := Function.update m.staging t b }

def setOrigin (t : Transaction) (o : Process × StagedUpdate) : Machine :=
  { m with origins := Function.update m.origins t (some o) }

def exchangeBundles (t : Transaction) (staged : BundleIdentity) : Machine :=
  { m.setStaging t (some m.installed) with installed := staged }

end Machine

def Dashboard.running : Dashboard → Option BundleIdentity
  | .absent | .ended => none
  | .launching i | .idle i _ _ | .reviewing i _ | .handingOff i _ _ | .leaving i => some i

abbrev Dashboard.Alive (s : Dashboard) : Prop := s.running.isSome

/-- A dashboard that neither hands off again nor clears its own record. -/
def Dashboard.Retired : Dashboard → Prop
  | .handingOff _ _ (.waiting _) | .handingOff _ _ .notStarted | .leaving _ | .ended => True
  | _ => False

abbrev Installer.Alive : Installer → Prop
  | .absent | .ended => False
  | _ => True

/-- One step of one of the processes. Where a function of the source answers an error without an
effect on what the processes share, there is a step of its own for it. -/
inductive Step : Machine → Machine → Prop
  | launch {m d} (h : m.dashboards d = .absent) :
      Step m (m.setDashboard d (.launching m.installed))
  /-- `admit_dashboard_launch`, which takes the lease for a moment. -/
  | launched {m d i} (h : m.dashboards d = .launching i)
      (hlease : m.lease = none) : Step m (m.setDashboard d (.idle i false none))
  | endDashboard {m d} (h : (m.dashboards d).Alive) :
      Step m ((m.setDashboard d .ended).release (.dashboard d))
  -- `review_previous_attempt`
  | beginReview {m d i} (h : m.dashboards d = .idle i false none) (hlease : m.lease = none) :
      Step m ((m.take (.dashboard d)).setDashboard d (.reviewing i .admitted))
  | inspect {m d i} (h : m.dashboards d = .reviewing i .admitted) :
      Step m (m.setDashboard d (.reviewing i (.inspected m.recorded)))
  | settle {m d i recorded} (h : m.dashboards d = .reviewing i (.inspected recorded)) :
      Step m (m.setDashboard d (.reviewing i (.settled recorded)))
  /-- One directory of those `remove_all` goes through. -/
  | removeStaging {m d i recorded}
      (t : Transaction) (h : m.dashboards d = .reviewing i (.settled recorded)) :
      Step m (m.setStaging t none)
  | reviewedNothing {m d i} (h : m.dashboards d = .reviewing i (.settled .absent)) :
      Step m ((m.setDashboard d (.idle i true none)).release (.dashboard d))
  | discardUninterpretable {m d i detail detail'} (durable : Bool)
      (h : m.dashboards d = .reviewing i (.settled (.uninterpretable detail)))
      (hrecord : m.recorded = .uninterpretable detail') :
      Step m (((m.store .absent durable .discarded).setDashboard d
        (.idle i durable none)).release (.dashboard d))
  | report {m d i record}
      (durable : Bool) (h : m.dashboards d = .reviewing i (.settled (.valid record)))
      (hclear : InstallJournal.clear record.transaction m.recorded = .ok ()) :
      Step m (((if durable then
          (m.store .absent true (.cleared record.transaction)).log
            (.reported record.transaction (classify record i.version))
        else m.store .absent false (.cleared record.transaction)).setDashboard d
          (.idle i durable none)).release (.dashboard d))
  /-- Every error of the review that leaves the record as it is. -/
  | leaveReview {m d i stage} (h : m.dashboards d = .reviewing i stage) :
      Step m ((m.setDashboard d (.idle i false none)).release (.dashboard d))
  -- `prepare_update_install` and `hand_off`
  | stage {m d i} (staged : StagedUpdate)
      (h : m.dashboards d = .idle i true none) (hfresh : m.origins staged.transaction = none)
      (hversion : staged.installed.version ≠ staged.staged.version)
      (hbuild : staged.installed.build < staged.staged.build) :
      Step m (((m.setOrigin staged.transaction (d, staged)).setStaging staged.transaction
        (some staged.staged)).setDashboard d (.idle i true (some staged)))
  | handOff {m d i staged}
      (h : m.dashboards d = .idle i true (some staged)) (hinstalled : m.installed = staged.installed) :
      Step m (m.setDashboard d (.handingOff i staged .checked))
  | handOffRefused {m d i staged} (h : m.dashboards d = .handingOff i staged .checked) :
      Step m (m.setDashboard d (.idle i true (some staged)))
  | beginHandOff {m d i staged record} (durable : Bool)
      (h : m.dashboards d = .handingOff i staged .checked)
      (hbegin : InstallJournal.begin (.newHandedOff staged.transaction staged.installed
        staged.staged d) m.recorded = .ok record) :
      Step m ((m.store (.valid record) durable (.handedOff record.transaction)).setDashboard d
        (if durable then .handingOff i staged .begun else .idle i true (some staged)))
  /-- The core could not be stopped. -/
  | clearHandOff {m d i staged} (durable : Bool) (h : m.dashboards d = .handingOff i staged .begun)
      (hclear : InstallJournal.clear staged.transaction m.recorded = .ok ()) :
      Step m ((m.store .absent durable (.cleared staged.transaction)).setDashboard d
        (.idle i true (some staged)))
  | clearHandOffFailed {m d i staged} (h : m.dashboards d = .handingOff i staged .begun) :
      Step m (m.setDashboard d (.idle i true (some staged)))
  | spawnInstaller {m d p i staged}
      (h : m.dashboards d = .handingOff i staged .begun) (hp : m.installers p = .absent) :
      Step m ((m.setDashboard d (.handingOff i staged (.waiting p))).setInstaller p
        (.starting staged.transaction))
  | spawnFailed {m d i staged} (h : m.dashboards d = .handingOff i staged .begun) :
      Step m (m.setDashboard d (.handingOff i staged .notStarted))
  /-- The lease was found held, by whichever process. -/
  | installerAdmitted {m d p i staged}
      (h : m.dashboards d = .handingOff i staged (.waiting p)) (hlease : m.lease ≠ none) :
      Step m (m.setDashboard d (.leaving i))
  | installerNotAdmitted {m d p i staged} (killed : Bool)
      (h : m.dashboards d = .handingOff i staged (.waiting p)) :
      Step m ((if killed then (m.setInstaller p .ended).release (.installer p) else m).setDashboard
        d (.handingOff i staged .notStarted))
  | abortHandOff {m d i staged record} (durable : Bool)
      (h : m.dashboards d = .handingOff i staged .notStarted)
      (habort : InstallJournal.abort staged.transaction "installer_start_failed" m.recorded =
        .ok record) :
      Step m ((m.store (.valid record) durable (.aborted record.transaction)).setDashboard d
        (.leaving i))
  | abortHandOffFailed {m d i staged} (h : m.dashboards d = .handingOff i staged .notStarted) :
      Step m (m.setDashboard d (.leaving i))
  -- `finish_installation`
  | acquireLease {m p t} (h : m.installers p = .starting t)
      (hlease : m.lease = none) :
      Step m ((m.take (.installer p)).setInstaller p (.admitted t))
  | load {m p t record} (h : m.installers p = .admitted t) (hrecord : m.recorded = .valid record)
      (htransaction : record.transaction = t) (hphase : record.phase = .handedOff) :
      Step m (m.setInstaller p (.loaded record))
  | decommissionFailed {m p record code}
      (ports : FinisherPorts) (h : m.installers p = .loaded record)
      (hports : decommission ports = .error code) :
      Step m (m.setInstaller p (.aborting record.transaction code))
  | advance {m p record advanced} (durable : Bool)
      (ports : FinisherPorts) (h : m.installers p = .loaded record)
      (hports : decommission ports = .ok ())
      (hadvance : InstallJournal.advance record.transaction .handedOff .decommissioned m.recorded =
        .ok advanced) :
      Step m ((m.store (.valid advanced) durable (.advanced record.transaction)).setInstaller p
        (if durable then .decommissioned record
          else .aborting record.transaction "record_write_failed"))
  | advanceFailed {m p record} (ports : FinisherPorts)
      (h : m.installers p = .loaded record) (hports : decommission ports = .ok ()) :
      Step m (m.setInstaller p (.aborting record.transaction "record_write_failed"))
  | exchange {m p record staged} (h : m.installers p = .decommissioned record)
      (hstaging : m.staging record.transaction = some staged) :
      Step m (((m.exchangeBundles record.transaction staged).log
        (.exchanged p record.transaction m.lease m.recorded m.durable)).setInstaller p
          (.exchanged record))
  | exchangeFailed {m p record} (h : m.installers p = .decommissioned record) :
      Step m (m.setInstaller p (.aborting record.transaction "exchange_failed"))
  | recordExchange {m p record advanced} (durable : Bool)
      (h : m.installers p = .exchanged record)
      (hadvance : InstallJournal.advance record.transaction .decommissioned .swapped m.recorded =
        .ok advanced) :
      Step m (((m.store (.valid advanced) durable (.advanced record.transaction)).setInstaller p
        .ended).release (.installer p))
  | abortInstallation {m p t code record} (durable : Bool) (h : m.installers p = .aborting t code)
      (habort : InstallJournal.abort t code m.recorded = .ok record) :
      Step m (((m.store (.valid record) durable (.aborted t)).setInstaller p .ended).release
        (.installer p))
  /-- An installer that is done, or that is ended at any point. -/
  | endInstaller {m p} (h : (m.installers p).Alive) :
      Step m ((m.setInstaller p .ended).release (.installer p))

end CfwRs.Updater
