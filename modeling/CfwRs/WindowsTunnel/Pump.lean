import CfwRs.WindowsTunnel.Policy

namespace CfwRs.WindowsTunnel

open Lib

inductive PumpDirection
  | toEngine
  | toSystem
deriving DecidableEq

inductive TransportError
  | io (osError : Option ℤ)
  | deadline
  | cancelled
  | cleanup (operation cleanup : TransportError)
  | other

inductive PumpError
  | transport (error : TransportError)
  | packet
  | ringFull
  | native
  | contract (text : String)
  | peerClosed (code : ℤ)
  | peerCloseUnobserved
  | stalled (direction : PumpDirection)
  | workerPanicked (direction : PumpDirection) (message : String)
  | cleanup (operation cleanup : PumpError)

def mergeFailures : Option PumpError → Option PumpError → Option PumpError
  | none, none => none
  | some error, none | none, some error => some error
  | some operation, some cleanup => some (.cleanup operation cleanup)

def peerCloseCodes : List ℤ := [109, 232]

def peerCloseCode (osError : Option ℤ) : Option ℤ := osError.filter (· ∈ peerCloseCodes)

structure Tally where
  packets : UInt64
  bytes : UInt64
  largest : ℕ
deriving DecidableEq

def Tally.empty : Tally := ⟨0, 0, 0⟩

def Tally.add (tally : Tally) (length : ℕ) : Tally :=
  ⟨tally.packets + 1, tally.bytes + .ofNat length, max tally.largest length⟩

structure RefusalTally where
  packets : UInt64
  bytes : UInt64
  first : Option Refusal
deriving DecidableEq

def RefusalTally.empty : RefusalTally := ⟨0, 0, none⟩

def RefusalTally.add (tally : RefusalTally) (refusal : Refusal) (length : ℕ) : RefusalTally :=
  ⟨tally.packets + 1, tally.bytes + .ofNat length, some (tally.first.getD refusal)⟩

/-- What the two workers, the owner and the controls share. -/
structure Shared where
  abort : Bool
  peerClosing : Bool
  peerCloseCode : ℤ
  firstFailure : Option PumpDirection
  toEngine : Tally
  toSystem : Tally
  ringFullWaits : UInt64
  refused : RefusalReason → RefusalTally

structure PumpReport where
  toEngine : Tally
  toSystem : Tally
  ringFullWaits : UInt64
  refused : RefusalReason → RefusalTally

namespace Shared

def new (abort : Bool) : Shared :=
  ⟨abort, false, 0, none, .empty, .empty, 0, fun _ ↦ .empty⟩

def refuse (shared : Shared) (refusal : Refusal) (length : ℕ) : Shared :=
  let tally := (shared.refused refusal.reason).add refusal length
  { shared with refused := Function.update shared.refused refusal.reason tally }

def fail (shared : Shared) (direction : PumpDirection) : Shared :=
  { shared with firstFailure := some (shared.firstFailure.getD direction) }

def report (shared : Shared) : PumpReport :=
  ⟨shared.toEngine, shared.toSystem, shared.ringFullWaits, shared.refused⟩

end Shared

inductive EndpointExit
  | cancelled
  | peerClosed (code : ℤ)
  | stalled
  | failed
deriving DecidableEq

def classify : PumpError → EndpointExit
  | .transport .cancelled => .cancelled
  | .transport .deadline => .stalled
  | .transport (.io osError) => (peerCloseCode osError).elim .failed .peerClosed
  | .transport (.cleanup .cancelled (.io osError)) =>
    if (peerCloseCode osError).isSome then .cancelled else .failed
  | _ => .failed

/-- What a worker makes of an error of its endpoint, and what the reader records of it. -/
def endpointExit (direction : PumpDirection) (error : PumpError) (shared : Shared) :
    Option PumpError × Shared :=
  match classify error with
  | .cancelled => if shared.abort then (none, shared) else (some error, shared)
  | .peerClosed code =>
    if shared.peerClosing then
      (none, if direction = .toSystem then { shared with peerCloseCode := code } else shared)
    else (some (.peerClosed code), shared)
  | .stalled => (some (.stalled direction), shared)
  | .failed => (some error, shared)

/-- The end of a worker: its guard records a failure, decides whether the other worker goes on,
and drops. -/
inductive Exit
  | finishing (result : Option PumpError)
  | dropping (keepSibling : Bool) (result : Option PumpError)
  | unwinding (message : String)
  | done (result : Option PumpError)

/-- One step of the guard of a worker. -/
inductive ExitStep (direction : PumpDirection) : Shared → Exit → Shared → Exit → Prop
  | finishOk (shared : Shared) : ExitStep direction shared (.finishing none) shared
      (.dropping (direction = .toEngine && shared.peerClosing) none)
  | finishError (shared : Shared) (error : PumpError) :
      ExitStep direction shared (.finishing (some error)) (shared.fail direction)
        (.dropping false (some error))
  | keep (shared : Shared) (result : Option PumpError) :
      ExitStep direction shared (.dropping true result) shared (.done result)
  | cancel (shared : Shared) (result : Option PumpError) :
      ExitStep direction shared (.dropping false result) { shared with abort := true } (.done result)
  | unwind (shared : Shared) (message : String) :
      ExitStep direction shared (.unwinding message) (shared.fail direction)
        (.dropping false (some (.workerPanicked direction message)))

/-- Where the worker is that carries packets to the engine. -/
inductive WriterAt
  | top
  | checkClosing
  | receiving
  | waiting
  | received (bytes : Bytes)
  | sending (bytes : Bytes)
  | counting (bytes : Bytes)
  | leaving (error : PumpError)
  | exit (exit : Exit)

/-- The worker to the engine, with the packets that the engine took. -/
structure Writer where
  pc : WriterAt
  sent : List Bytes

def Writer.goto (writer : Writer) (pc : WriterAt) : Writer := { writer with pc }

/-- The steps of `to_engine`. -/
inductive WriterStep : Shared → Writer → Shared → Writer → Prop
  | aborted {shared w} (hpc : w.pc = .top) (habort : shared.abort = true) :
      WriterStep shared w shared (w.goto (.exit (.finishing none)))
  | going {shared w} (hpc : w.pc = .top) (habort : shared.abort = false) :
      WriterStep shared w shared (w.goto .checkClosing)
  | closing {shared w} (hpc : w.pc = .checkClosing)
      (hclosing : shared.peerClosing = true) :
      WriterStep shared w shared (w.goto (.exit (.finishing none)))
  | notClosing {shared w} (hpc : w.pc = .checkClosing)
      (hclosing : shared.peerClosing = false) : WriterStep shared w shared (w.goto .receiving)
  | receive {shared w} (hpc : w.pc = .receiving) (bytes : Bytes) :
      WriterStep shared w shared (w.goto (.received bytes))
  | nothing {shared w} (hpc : w.pc = .receiving) :
      WriterStep shared w shared (w.goto .waiting)
  | receiveError {shared w} (hpc : w.pc = .receiving) (error : PumpError) :
      WriterStep shared w shared (w.goto (.exit (.finishing (some error))))
  | readable {shared w} (hpc : w.pc = .waiting) :
      WriterStep shared w shared (w.goto .top)
  | waitError {shared w} (hpc : w.pc = .waiting) (error : PumpError) :
      WriterStep shared w shared (w.goto (.exit (.finishing (some error))))
  | discard {shared w bytes} (hpc : w.pc = .received bytes)
      (hclosing : shared.peerClosing = true) :
      WriterStep shared w shared (w.goto (.exit (.finishing none)))
  | forward {shared w bytes} (hpc : w.pc = .received bytes)
      (hclosing : shared.peerClosing = false) : WriterStep shared w shared (w.goto (.sending bytes))
  | send {shared w bytes} (hpc : w.pc = .sending bytes) :
      WriterStep shared w shared ⟨.counting bytes, w.sent ++ [bytes]⟩
  | sendError {shared w bytes} (hpc : w.pc = .sending bytes)
      (error : PumpError) : WriterStep shared w shared (w.goto (.leaving error))
  | count {shared w bytes} (hpc : w.pc = .counting bytes) :
      WriterStep shared w { shared with toEngine := shared.toEngine.add bytes.length } (w.goto .top)
  | leave {shared w error} (hpc : w.pc = .leaving error) :
      WriterStep shared w (endpointExit .toEngine error shared).2
        (w.goto (.exit (.finishing (endpointExit .toEngine error shared).1)))
  | panicked {shared w} (hpc : ∀ exit, w.pc ≠ .exit exit) (message : String) :
      WriterStep shared w shared (w.goto (.exit (.unwinding message)))
  | exit {shared shared' w exit exit'} (hpc : w.pc = .exit exit)
      (hexit : ExitStep .toEngine shared exit shared' exit') :
      WriterStep shared w shared' (w.goto (.exit exit'))

/-- A packet that the reader received, with the header that `validate` made of it. -/
structure EnginePacket where
  bytes : Bytes
  header : IpHeader

/-- Where the worker is that carries packets to the system. -/
inductive ReaderAt
  | top
  | receiving
  | received (packet : EnginePacket)
  | sending (packet : EnginePacket)
  | full (packet : EnginePacket)
  | counting (packet : EnginePacket)
  | leaving (error : PumpError)
  | retiring (outcome : Option PumpError)
  | exit (exit : Exit)

/-- The worker to the system, with what became of the packets: those it received, those the
session took, those refused, and those given up in a run that is stopping. It is also kept whether
the peer's close was expected when the worker learned of it, and when it checked that. -/
structure Reader where
  pc : ReaderAt
  received : List EnginePacket
  sent : List Bytes
  refused : List (Refusal × Bytes)
  dropped : List EnginePacket
  expectedWhenSeen : Option Bool
  expectedWhenChecked : Option Bool

def Reader.goto (reader : Reader) (pc : ReaderAt) : Reader := { reader with pc }

def isPeerClose (error : PumpError) : Bool :=
  match classify error with
  | .peerClosed _ => true
  | _ => false

/-- The steps of `to_system` and of `deliver`. -/
inductive ReaderStep (policy : DeliveryPolicy) : Shared → Reader → Shared → Reader → Prop
  | aborted {shared r} (hpc : r.pc = .top) (habort : shared.abort = true) :
      ReaderStep policy shared r shared (r.goto (.retiring none))
  | going {shared r} (hpc : r.pc = .top) (habort : shared.abort = false) :
      ReaderStep policy shared r shared (r.goto .receiving)
  | receive {shared r} (hpc : r.pc = .receiving) (packet : EnginePacket) :
      ReaderStep policy shared r shared
        { r with pc := .received packet, received := r.received ++ [packet] }
  | nothing {shared r} (hpc : r.pc = .receiving) :
      ReaderStep policy shared r shared (r.goto .top)
  | receiveError {shared r} (hpc : r.pc = .receiving) (error : PumpError)
      (hclose : isPeerClose error = false) :
      ReaderStep policy shared r shared (r.goto (.leaving error))
  | receiveClose {shared r} (hpc : r.pc = .receiving) (error : PumpError)
      (hclose : isPeerClose error = true) :
      ReaderStep policy shared r shared
        { r with pc := .leaving error, expectedWhenSeen := some shared.peerClosing }
  | admitted {shared r packet} (hpc : r.pc = .received packet)
      (hadmits : policy.admits packet.header = .ok ()) :
      ReaderStep policy shared r shared (r.goto (.sending packet))
  | refuse {shared r packet refusal}
      (hpc : r.pc = .received packet) (hadmits : policy.admits packet.header = .error refusal) :
      ReaderStep policy shared r (shared.refuse refusal packet.bytes.length)
        { r with pc := .top, refused := r.refused ++ [(refusal, packet.bytes)] }
  | send {shared r packet} (hpc : r.pc = .sending packet) :
      ReaderStep policy shared r shared
        { r with pc := .counting packet, sent := r.sent ++ [packet.bytes] }
  | count {shared r packet} (hpc : r.pc = .counting packet) :
      ReaderStep policy shared r
        { shared with toSystem := shared.toSystem.add packet.bytes.length } (r.goto .top)
  | ringFull {shared r packet} (hpc : r.pc = .sending packet) :
      ReaderStep policy shared r shared (r.goto (.full packet))
  | sendError {shared r packet} (hpc : r.pc = .sending packet)
      (error : PumpError) : ReaderStep policy shared r shared (r.goto (.retiring (some error)))
  | giveUp {shared r packet} (hpc : r.pc = .full packet)
      (habort : shared.abort = true) :
      ReaderStep policy shared r shared
        { r with pc := .top, dropped := r.dropped ++ [packet] }
  | retry {shared r packet} (hpc : r.pc = .full packet)
      (habort : shared.abort = false) :
      ReaderStep policy shared r { shared with ringFullWaits := shared.ringFullWaits + 1 }
        (r.goto (.sending packet))
  | stalled {shared r packet} (hpc : r.pc = .full packet)
      (habort : shared.abort = false) :
      ReaderStep policy shared r shared (r.goto (.retiring (some (.stalled .toSystem))))
  | leave {shared r error} (hpc : r.pc = .leaving error) :
      ReaderStep policy shared r (endpointExit .toSystem error shared).2
        { r with
          pc := .retiring (endpointExit .toSystem error shared).1
          expectedWhenChecked := if isPeerClose error then some shared.peerClosing else none }
  | retire {shared r outcome} (hpc : r.pc = .retiring outcome) (retired : Option PumpError) :
      ReaderStep policy shared r shared (r.goto (.exit (.finishing (mergeFailures outcome retired))))
  | panicked {shared r} (hpc : ∀ exit, r.pc ≠ .exit exit) (message : String) :
      ReaderStep policy shared r shared (r.goto (.exit (.unwinding message)))
  | exit {shared shared' r exit exit'} (hpc : r.pc = .exit exit)
      (hexit : ExitStep .toSystem shared exit shared' exit') :
      ReaderStep policy shared r shared' (r.goto (.exit exit'))

structure PumpRetirement where
  report : PumpReport
  peerCloseCode : ℤ

inductive Owner
  | running
  | waiting
  | retiring (expected : Bool)
  | returned (result : Except PumpError PumpRetirement)

def unexpectedFinish : PumpError := .contract "pump retirement requires expect_peer_close"

def stillReferenced : PumpError :=
  .contract "packet endpoint is still referenced after its workers retired"

def retireFailure (shared : Shared) (toEngine toSystem : Option PumpError)
    (lastReference : Bool) : Option PumpError :=
  let failure := match shared.firstFailure with
    | some .toSystem => mergeFailures toSystem toEngine
    | _ => mergeFailures toEngine toSystem
  mergeFailures failure (if lastReference then none else some stillReferenced)

def finishResult (shared : Shared) (expected : Bool) (failure : Option PumpError) :
    Except PumpError PumpRetirement :=
  match expected, failure with
  | false, none => .error unexpectedFinish
  | false, some failure => .error (.cleanup failure unexpectedFinish)
  | true, some failure => .error failure
  | true, none =>
    if shared.peerCloseCode = 0 then .error .peerCloseUnobserved
    else .ok ⟨shared.report, shared.peerCloseCode⟩

structure Pump where
  shared : Shared
  writer : Writer
  reader : Reader
  owner : Owner

/-- The steps of the pump: those of its workers and its owner, and the calls of its controls. The
owner waits for the reader or for its deadline, whichever comes first. -/
inductive Step (policy : DeliveryPolicy) : Pump → Pump → Prop
  | writer {p shared writer}
      (h : WriterStep p.shared p.writer shared writer) : Step policy p { p with shared, writer }
  | reader {p shared reader} (h : ReaderStep policy p.shared p.reader shared reader) :
      Step policy p { p with shared, reader }
  | expectPeerClose (p : Pump) :
      Step policy p { p with shared := { p.shared with peerClosing := true } }
  | abort (p : Pump) : Step policy p { p with shared := { p.shared with abort := true } }
  | finishUnexpected {p} (howner : p.owner = .running)
      (hclosing : p.shared.peerClosing = false) :
      Step policy p
        { p with shared := { p.shared with abort := true }, owner := .retiring false }
  | finish {p} (howner : p.owner = .running) (hclosing : p.shared.peerClosing = true) :
      Step policy p { p with owner := .waiting }
  | waited {p} (howner : p.owner = .waiting) :
      Step policy p
        { p with shared := { p.shared with abort := true }, owner := .retiring true }
  | retire {p expected toEngine toSystem}
      (howner : p.owner = .retiring expected) (hwriter : p.writer.pc = .exit (.done toEngine))
      (hreader : p.reader.pc = .exit (.done toSystem)) (lastReference : Bool) :
      Step policy p { p with owner := .returned (finishResult p.shared expected
        (retireFailure p.shared toEngine toSystem lastReference)) }

def Pump.start (abort : Bool) : Pump :=
  ⟨.new abort, ⟨.top, []⟩, ⟨.top, [], [], [], [], none, none⟩, .running⟩

end CfwRs.WindowsTunnel
