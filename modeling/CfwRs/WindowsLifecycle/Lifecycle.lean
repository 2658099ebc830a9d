import CfwRs.WindowsLifecycle.Record

namespace CfwRs.WindowsLifecycle

open Lib Lib.Checked SingBox Credentials Coordinator
  CfwRs.WindowsAuthority CfwRs.WindowsVault

/-- A prepare that a dashboard sent for a record it had written. -/
structure SentPrepare where
  record : Record
  input : PrepareRequest

inductive Collection
  | preview (request : CredentialGarbageCollectionRequest)
  | commit (request : CredentialGarbageCollectionCommitRequest)

/-- Where the holder of the user's lifecycle mutex is in its operation. -/
inductive Section
  | preparing (request : EngineStartRequest)
  | observed (request : EngineStartRequest) (revision : Option UInt64)
  | recorded (record : Record) (revision : Option UInt64)
  | sent
  | collecting (collection : Collection)
  | scoped (collection : Collection) (scope : RecordedRuntimeScope)
  | guarded (collection : Collection) (bindings : List CredentialBinding)

/-- The Authority, the prepares that it has not processed, and what the dashboards of one account
share. The records that were made and the identifiers that were used are history. -/
structure Lifecycle (Secret : Type) where
  service : Service
  pending : List SentPrepare
  file : RecordFile
  vault : Option (Document Secret)
  holder : Option Section
  records : List Record
  usedIds : List Uuid

def Lifecycle.start (Secret : Type) : Lifecycle Secret := ⟨.start, [], .absent, none, none, [], []⟩

def MachineOperation.IsPrepare : MachineOperation → Prop
  | .prepare .. => True
  | _ => False

variable {Secret : Type} [DecidableEq Secret]

/-- The steps of the dashboards of the account `sid` and of the Authority. A dashboard that fails,
runs out of time or crashes releases the mutex where it is; a prepare that it sent before stays. -/
inductive Step (F : VaultFormat Secret) (format : RecordFormat) (sid : Bytes) :
    Lifecycle Secret → Lifecycle Secret → Prop
  | performs {s op service}
      (hop : ¬MachineOperation.IsPrepare op) (h : Service.Performs op s.service service) :
      Step F format sid s { s with service }
  | restarts {s service} (h : Service.Restarts s.service service) :
      Step F format sid s { s with service }
  | foreignPrepare {s service isOpen input host leaseId ticket now} (hsid : host.owner.sid ≠ sid) (hfresh : input.operationId ∉ s.usedIds)
      (h : Service.Performs (.prepare isOpen input host leaseId ticket now) s.service service) :
      Step F format sid s { s with service, usedIds := input.operationId :: s.usedIds }
  | processes {s service before after sent isOpen host leaseId ticket now} (hpending : s.pending = before ++ sent :: after)
      (hsid : host.owner.sid = sid)
      (h : Service.Performs (.prepare isOpen sent.input host leaseId ticket now) s.service service) :
      Step F format sid s { s with service, pending := before ++ after }
  | loses {s before after sent} (hpending : s.pending = before ++ sent :: after) :
      Step F format sid s { s with pending := before ++ after }
  | prepare {s} (hfree : s.holder = none) {request : EngineStartRequest}
      (hmode : request.mode ≠ .tunnelSystemProxy) :
      Step F format sid s { s with holder := some (.preparing request) }
  | observe {s request}
      (hholder : s.holder = some (.preparing request)) (hoff : s.service.machine.phase = .off) :
      Step F format sid s
        { s with holder := some (.observed request s.service.machine.snapshot.revision) }
  | writeRecord {s request revision operationId record previous}
      (hholder : s.holder = some (.observed request revision)) (hfresh : operationId ∉ s.usedIds)
      (hnew : Record.new format request operationId = .ok record)
      (hencode : record.encode format = .ok record)
      (hprevious : s.file.decode format = .ok previous) :
      Step F format sid s
        { s with
          file := .written record
          holder := some (.recorded record revision)
          records := record :: s.records
          usedIds := operationId :: s.usedIds }
  | writeFails {s request revision operationId record file}
      (hholder : s.holder = some (.observed request revision)) (hfresh : operationId ∉ s.usedIds)
      (hnew : Record.new format request operationId = .ok record)
      (hfile : file = s.file ∨ file = .written record) :
      Step F format sid s
        { s with
          file
          holder := none
          records := record :: s.records
          usedIds := operationId :: s.usedIds }
  | sendPrepare {s record revision input} (hholder : s.holder = some (.recorded record (some revision)))
      (hinput : record.prepareRequest revision = .ok input) :
      Step F format sid s
        { s with pending := s.pending ++ [⟨record, input⟩], holder := some .sent }
  | collect {s} (hfree : s.holder = none) (collection : Collection) :
      Step F format sid s { s with holder := some (.collecting collection) }
  | readRuntimeScope {s collection scope} (hholder : s.holder = some (.collecting collection))
      (hscope : s.service.recordedRuntimeScope sid = .ok scope) :
      Step F format sid s { s with holder := some (.scoped collection scope) }
  | readRecord {s collection scope record bindings}
      (hholder : s.holder = some (.scoped collection scope))
      (hrecord : s.file.decode format = .ok record)
      (hbindings : protectedBindings format scope record = .ok bindings) :
      Step F format sid s { s with holder := some (.guarded collection bindings) }
  | previewGarbageCollection {s bindings request}
      (hholder : s.holder = some (.guarded (.preview request) bindings)) :
      Step F format sid s { s with holder := none }
  | commitGarbageCollection {s bindings request}
      (hholder : s.holder = some (.guarded (.commit request) bindings)) (environment : Environment) :
      Step F format sid s
        { s with
          vault := (commitGarbageCollection F request bindings environment s.vault).stored
          holder := none }
  | provision {s} (hfree : s.holder = none) (audience : CredentialAudience)
      (references : List CredentialRef) (supplied : List (CredentialRef × Secret))
      (environment : Environment) :
      Step F format sid s
        { s with vault := (provision F audience references supplied environment s.vault).stored }
  | rebind {s} (hfree : s.holder = none)
      (previousAudience audience : CredentialAudience) (slots : List CredentialSlot)
      (environment : Environment) :
      Step F format sid s
        { s with vault := (rebind F previousAudience audience slots environment s.vault).stored }
  | releases (s : Lifecycle Secret) : Step F format sid s { s with holder := none }

def Leased (s : Lifecycle Secret) (record : Record) : Prop :=
  ∃ l, s.service.machine.lease = some l ∧ l.context.operation.operationId = record.operationId

/-- A prepare is still unprocessed that the Authority, being Off, would take. -/
def Awaits (s : Lifecycle Secret) : Prop :=
  s.service.machine.phase = .off ∧
    ∃ sent ∈ s.pending, sent.input.expectedRevision = s.service.machine.revision

/-- If the step reads the scope for a commit, then no such prepare is left. -/
def Prompt (s s' : Lifecycle Secret) : Prop :=
  ∀ request scope, s.holder = some (.collecting (.commit request)) →
    s'.holder = some (.scoped (.commit request) scope) → ¬Awaits s

end CfwRs.WindowsLifecycle
