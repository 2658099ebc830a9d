import CfwRs.WindowsTunnel.Pump

namespace CfwRs.WindowsTunnel

open Lib Relation

def tallyOf (packets : List Bytes) : Tally :=
  ⟨.ofNat packets.length, .ofNat (packets.map List.length).sum,
    (packets.map List.length).foldl max 0⟩

def refusalTallyOf (refused : List (Refusal × Bytes)) : RefusalTally :=
  ⟨.ofNat refused.length, .ofNat (refused.map (·.2.length)).sum, refused.head?.map Prod.fst⟩

theorem tallyOf_append (packets) (bytes : Bytes) :
    tallyOf (packets ++ [bytes]) = (tallyOf packets).add bytes.length := by
  simp [tallyOf, Tally.add]

theorem refusalTallyOf_append (refused : List (Refusal × Bytes)) (refusal : Refusal)
    (bytes : Bytes) : refusalTallyOf (refused ++ [(refusal, bytes)]) =
      (refusalTallyOf refused).add refusal bytes.length := by
  cases refused <;> simp [refusalTallyOf, RefusalTally.add, UInt64.add_assoc]

@[simp] theorem mergeFailures_eq_none {first second} :
    mergeFailures first second = none ↔ first = none ∧ second = none := by
  cases first <;> cases second <;> simp [mergeFailures]

section Account

variable {policy : DeliveryPolicy} {shared shared' : Shared} {r r' : Reader}
  {settled : List EnginePacket}

def admittedOf (policy : DeliveryPolicy) (packets : List EnginePacket) : List Bytes :=
  packets.filterMap fun packet ↦
    match policy.admits packet.header with
    | .ok () => some packet.bytes
    | .error _ => none

def refusedOf (policy : DeliveryPolicy) (packets : List EnginePacket) : List (Refusal × Bytes) :=
  packets.filterMap fun packet ↦
    match policy.admits packet.header with
    | .ok () => none
    | .error refusal => some (refusal, packet.bytes)

variable {packet : EnginePacket} {pc : ReaderAt}

theorem admittedOf_append_admitted (h : policy.admits packet.header = .ok ())
    (packets : List EnginePacket) :
    admittedOf policy (packets ++ [packet]) = admittedOf policy packets ++ [packet.bytes] ∧
      refusedOf policy (packets ++ [packet]) = refusedOf policy packets := by
  simp [admittedOf, refusedOf, h]

theorem admittedOf_append_refused {refusal}
    (h : policy.admits packet.header = .error refusal) (packets) :
    admittedOf policy (packets ++ [packet]) = admittedOf policy packets ∧
      refusedOf policy (packets ++ [packet]) =
        refusedOf policy packets ++ [(refusal, packet.bytes)] := by
  simp [admittedOf, refusedOf, h]

def Exit.Fails : Exit → Prop
  | .finishing result | .dropping _ result | .done result => result ≠ none
  | .unwinding _ => True

def ReaderAt.Fails : ReaderAt → Prop
  | .retiring outcome => outcome ≠ none
  | .exit ending => ending.Fails
  | _ => False

def ReaderAt.Left : ReaderAt → Prop
  | .retiring _ | .exit _ => True
  | _ => False

def ReaderAt.pending : ReaderAt → List EnginePacket
  | .received packet | .sending packet | .full packet | .counting packet => [packet]
  | _ => []

def ReaderAt.uncounted : ReaderAt → List Bytes
  | .counting packet => [packet.bytes]
  | _ => []

def ReaderAt.Passed (policy : DeliveryPolicy) : ReaderAt → Prop
  | .sending packet | .full packet | .counting packet => policy.admits packet.header = .ok ()
  | _ => True

/-- The account of the reader: every packet it received is settled, or it is the one it works on,
or it was given up in a run that stops without the close of the peer. -/
structure Account (policy : DeliveryPolicy) (shared : Shared) (r : Reader)
    (settled : List EnginePacket) : Prop where
  received : r.received = settled ++ r.pc.pending ++ r.dropped
  sent : r.sent = admittedOf policy settled ++ r.pc.uncounted
  refused : r.refused = refusedOf policy settled
  passed : r.pc.Passed policy
  toSystem : shared.toSystem = tallyOf (admittedOf policy settled)
  refusedTally : ∀ reason, shared.refused reason =
    refusalTallyOf (r.refused.filter (·.1.reason = reason))
  dropped : r.dropped ≠ [] → shared.abort = true ∧ (r.pc = .top ∨ r.pc.Left) ∧
    shared.peerCloseCode = 0
  closed : shared.peerCloseCode ≠ 0 → r.expectedWhenChecked = some true ∧ r.pc.Left

theorem Account.congr (h : Account policy shared r settled)
    (hsystem : shared'.toSystem = shared.toSystem) (hrefused : shared'.refused = shared.refused)
    (hcode : shared'.peerCloseCode = shared.peerCloseCode)
    (habort : shared.abort = true → shared'.abort = true) : Account policy shared' r settled where
  __ := h
  toSystem := hsystem.trans h.toSystem
  refusedTally reason := by rw [hrefused, h.refusedTally]
  dropped hdropped := by
    obtain ⟨ha, hpc, hzero⟩ := h.dropped hdropped
    exact ⟨habort ha, hpc, hcode.trans hzero⟩
  closed hclosed := h.closed (hcode ▸ hclosed)

theorem Account.goto (h : Account policy shared r settled) (hpending : pc.pending = r.pc.pending)
    (huncounted : pc.uncounted = r.pc.uncounted) (hpassed : pc.Passed policy)
    (hdropped : r.dropped ≠ [] → pc = .top ∨ pc.Left) (hclosed : r.pc.Left → pc.Left) :
    Account policy shared (r.goto pc) settled where
  __ := h
  received := by
    rw [Reader.goto, hpending]
    exact h.received
  sent := by
    rw [Reader.goto, huncounted]
    exact h.sent
  passed := hpassed
  dropped hne := ⟨(h.dropped hne).1, hdropped hne, (h.dropped hne).2.2⟩
  closed hne := ⟨(h.closed hne).1, hclosed (h.closed hne).2⟩

theorem ExitStep.fails {direction exit exit'}
    (h : ExitStep direction shared exit shared' exit') (hfails : exit.Fails) : exit'.Fails := by
  cases h with
  | finishOk => exact absurd rfl hfails
  | finishError => exact Option.some_ne_none _
  | keep => exact hfails
  | cancel => exact hfails
  | unwind => exact Option.some_ne_none _

theorem ExitStep.frame {direction exit exit'} (h : ExitStep direction shared exit shared' exit') :
    shared'.toSystem = shared.toSystem ∧ shared'.toEngine = shared.toEngine ∧
      shared'.refused = shared.refused ∧ shared'.peerCloseCode = shared.peerCloseCode ∧
      (shared.abort = true → shared'.abort = true) := by
  cases h with
  | finishOk | finishError | keep | unwind => exact ⟨rfl, rfl, rfl, rfl, id⟩
  | cancel => exact ⟨rfl, rfl, rfl, rfl, fun _ ↦ rfl⟩

section

variable (h : Account policy shared r settled)
include h

theorem Account.busy (hpc : r.pc = pc) (htop : pc ≠ .top) (hleft : ¬pc.Left) :
    r.received = settled ++ pc.pending ∧ r.sent = admittedOf policy settled ++ pc.uncounted ∧
      pc.Passed policy ∧ r.dropped = [] ∧ shared.peerCloseCode = 0 := by
  subst hpc
  have hdropped : r.dropped = [] := by
    by_contra hne
    exact (h.dropped hne).2.1.elim htop hleft
  have hreceived := h.received
  rw [hdropped, List.append_nil] at hreceived
  refine ⟨hreceived, h.sent, h.passed, hdropped, ?_⟩
  by_contra hne
  exact hleft (h.closed hne).2

theorem Account.receive (hpc : r.pc = .receiving) (packet) : Account policy shared
      { r with pc := .received packet, received := r.received ++ [packet] } settled := by
  obtain ⟨hreceived, hsent, -, hdropped, hcode⟩ := h.busy hpc nofun id
  exact { h with
    received := by simp [hreceived, hdropped, ReaderAt.pending]
    sent := hsent
    passed := trivial
    dropped := fun hne ↦ absurd hdropped hne
    closed := fun hne ↦ absurd hcode hne }

theorem Account.refuse {refusal} (hpc : r.pc = .received packet)
    (hadmits : policy.admits packet.header = .error refusal) :
    Account policy (shared.refuse refusal packet.bytes.length)
      { r with pc := .top, refused := r.refused ++ [(refusal, packet.bytes)] }
      (settled ++ [packet]) := by
  obtain ⟨hreceived, hsent, -, hdropped, hcode⟩ := h.busy hpc nofun id
  obtain ⟨hadmitted, hrefused⟩ := admittedOf_append_refused hadmits settled
  refine {
    received := by simp [hreceived, hdropped, ReaderAt.pending]
    sent := by simpa [hadmitted, ReaderAt.uncounted] using hsent
    refused := by rw [hrefused, ← h.refused]
    passed := trivial
    toSystem := by rw [hadmitted]; exact h.toSystem
    refusedTally := fun reason ↦ ?_
    dropped := fun hne ↦ absurd hdropped hne
    closed := fun hne ↦ absurd hcode hne }
  by_cases hreason : refusal.reason = reason
  · subst hreason
    simp [Shared.refuse, h.refusedTally, refusalTallyOf_append]
  · simp [Shared.refuse, h.refusedTally, hreason, Function.update_of_ne (Ne.symm hreason)]

theorem Account.send (hpc : r.pc = .sending packet) : Account policy shared
      { r with pc := .counting packet, sent := r.sent ++ [packet.bytes] } settled := by
  obtain ⟨hreceived, hsent, hpassed, hdropped, hcode⟩ := h.busy hpc nofun id
  exact { h with
    received := by simp [hreceived, hdropped, ReaderAt.pending]
    sent := by simp [hsent, ReaderAt.uncounted]
    passed := hpassed
    dropped := fun hne ↦ absurd hdropped hne
    closed := fun hne ↦ absurd hcode hne }

theorem Account.count (hpc : r.pc = .counting packet) :
    Account policy { shared with toSystem := shared.toSystem.add packet.bytes.length }
      (r.goto .top) (settled ++ [packet]) := by
  obtain ⟨hreceived, hsent, hpassed, hdropped, hcode⟩ := h.busy hpc nofun id
  obtain ⟨hadmitted, hrefused⟩ := admittedOf_append_admitted hpassed settled
  exact { h with
    received := by simp [Reader.goto, hreceived, hdropped, ReaderAt.pending]
    sent := by simpa [Reader.goto, hadmitted, ReaderAt.uncounted] using hsent
    refused := by rw [hrefused]; exact h.refused
    passed := trivial
    toSystem := by rw [hadmitted, tallyOf_append, ← h.toSystem]
    dropped := fun hne ↦ absurd hdropped hne
    closed := fun hne ↦ absurd hcode hne }

theorem Account.giveUp (hpc : r.pc = .full packet) (habort : shared.abort = true) :
    Account policy shared { r with pc := .top, dropped := r.dropped ++ [packet] } settled := by
  obtain ⟨hreceived, hsent, -, hdropped, hcode⟩ := h.busy hpc nofun id
  exact { h with
    received := by simpa [hdropped, ReaderAt.pending] using hreceived
    sent := hsent
    passed := trivial
    dropped := fun _ ↦ ⟨habort, .inl rfl, hcode⟩
    closed := fun hne ↦ absurd hcode hne }

end

/-- An error of an endpoint changes nothing but the recorded close, and that only for an expected
close at the reader. -/
theorem endpointExit_frame (direction) (error : PumpError) (shared : Shared) :
    let shared' := (endpointExit direction error shared).2
    shared'.toSystem = shared.toSystem ∧ shared'.toEngine = shared.toEngine ∧
      shared'.refused = shared.refused ∧ shared'.abort = shared.abort ∧
      (shared'.peerCloseCode = shared.peerCloseCode ∨
        direction = .toSystem ∧ isPeerClose error = true ∧ shared.peerClosing = true) := by
  unfold endpointExit isPeerClose
  cases hclass : classify error with
  | cancelled =>
    dsimp only
    split <;> exact ⟨rfl, rfl, rfl, rfl, .inl rfl⟩
  | peerClosed code =>
    cases hclosing : shared.peerClosing with
    | false => exact ⟨rfl, rfl, rfl, rfl, .inl rfl⟩
    | true =>
      cases direction with
      | toEngine => exact ⟨rfl, rfl, rfl, rfl, .inl rfl⟩
      | toSystem => exact ⟨rfl, rfl, rfl, rfl, .inr ⟨rfl, rfl, rfl⟩⟩
  | stalled => exact ⟨rfl, rfl, rfl, rfl, .inl rfl⟩
  | failed => exact ⟨rfl, rfl, rfl, rfl, .inl rfl⟩

section

variable (h : Account policy shared r settled)
include h

theorem Account.leave {error} (hpc : r.pc = .leaving error) :
    Account policy (endpointExit .toSystem error shared).2 { r with
        pc := .retiring (endpointExit .toSystem error shared).1
        expectedWhenChecked := if isPeerClose error then some shared.peerClosing else none }
      settled := by
  obtain ⟨hreceived, hsent, -, hdropped, hcode⟩ := h.busy hpc nofun id
  obtain ⟨hsystem, -, hrefused, -, hrecord⟩ := endpointExit_frame .toSystem error shared
  refine { h with
    received := by simp [hreceived, hdropped, ReaderAt.pending]
    sent := hsent
    passed := trivial
    toSystem := hsystem.trans h.toSystem
    refusedTally := fun reason ↦ by rw [hrefused]; exact h.refusedTally reason
    dropped := fun hne ↦ absurd hdropped hne
    closed := fun hne ↦ ⟨?_, trivial⟩ }
  rcases hrecord with hsame | ⟨-, hclose, hexpected⟩
  · exact absurd (hsame.trans hcode) hne
  · simp [hclose, hexpected]

theorem Account.move {pc'} (hpc : r.pc = pc) (htop : pc ≠ .top) (hleft : ¬pc.Left)
    (hpending : pc'.pending = pc.pending) (huncounted : pc'.uncounted = pc.uncounted)
    (hpassed : pc'.Passed policy) : Account policy shared (r.goto pc') settled := by
  obtain ⟨-, -, -, hdropped, -⟩ := h.busy hpc htop hleft
  subst hpc
  exact h.goto hpending huncounted hpassed (fun hne ↦ absurd hdropped hne) fun hl ↦ absurd hl hleft

theorem Account.exit (hpc : r.pc = pc) (hpending : pc.pending = []) (huncounted : pc.uncounted = [])
    (exit : Exit) : Account policy shared (r.goto (.exit exit)) settled := by
  subst hpc
  exact h.goto hpending.symm huncounted.symm trivial (fun _ ↦ .inr trivial) fun _ ↦ trivial

end

def ReaderSound (policy : DeliveryPolicy) (shared : Shared) (r : Reader) : Prop :=
  r.pc.Fails ∨ ∃ settled, Account policy shared r settled

theorem ReaderSound.step (h : ReaderSound policy shared r)
    (hstep : ReaderStep policy shared r shared' r') : ReaderSound policy shared' r' := by
  rcases h with hfails | ⟨settled, h⟩
  · -- an error of the reader stays
    left
    cases hstep with
    | retire hpc retired =>
      rw [hpc] at hfails
      exact fun hnone ↦ hfails (mergeFailures_eq_none.mp hnone).1
    | exit hpc hexit =>
      rw [hpc] at hfails
      exact hexit.fails hfails
    | panicked => trivial
    | aborted hpc | going hpc | receive hpc | nothing hpc | receiveError hpc | receiveClose hpc
    | admitted hpc | refuse hpc | send hpc | count hpc | ringFull hpc | sendError hpc | giveUp hpc
    | retry hpc | stalled hpc | leave hpc =>
      rw [hpc] at hfails
      exact hfails.elim
  · cases hstep with
    | aborted hpc habort =>
      refine .inr ⟨settled, h.goto ?_ ?_ trivial (fun _ ↦ .inr trivial) fun _ ↦ trivial⟩
      · rw [hpc]; rfl
      · rw [hpc]; rfl
    | going hpc habort =>
      refine .inr ⟨settled, h.goto ?_ ?_ trivial (fun hne ↦ ?_) fun hleft ↦ ?_⟩
      · rw [hpc]; rfl
      · rw [hpc]; rfl
      · -- whoever gave up a packet saw the abort, which stays
        rw [(h.dropped hne).1] at habort
        cases habort
      · rw [hpc] at hleft
        exact hleft.elim
    | receive hpc packet => exact .inr ⟨settled, h.receive hpc packet⟩
    | nothing hpc => exact .inr ⟨settled, h.move hpc nofun id rfl rfl trivial⟩
    | receiveError hpc error hclose =>
      exact .inr ⟨settled, h.move hpc nofun id rfl rfl trivial⟩
    | receiveClose hpc error hclose =>
      have hmoved : Account policy shared (r.goto (.leaving error)) settled :=
        h.move hpc nofun id rfl rfl trivial
      exact .inr ⟨settled, hmoved.received, hmoved.sent, hmoved.refused, hmoved.passed,
        hmoved.toSystem, hmoved.refusedTally, hmoved.dropped, hmoved.closed⟩
    | admitted hpc hadmits => exact .inr ⟨settled, h.move hpc nofun id rfl rfl hadmits⟩
    | refuse hpc hadmits => exact .inr ⟨_, h.refuse hpc hadmits⟩
    | send hpc => exact .inr ⟨settled, h.send hpc⟩
    | count hpc => exact .inr ⟨_, h.count hpc⟩
    | ringFull hpc =>
      have hpassed := h.passed
      rw [hpc] at hpassed
      exact .inr ⟨settled, h.move hpc nofun id rfl rfl hpassed⟩
    | sendError hpc error => exact .inl (Option.some_ne_none _)
    | giveUp hpc habort => exact .inr ⟨settled, h.giveUp hpc habort⟩
    | @retry _ packet hpc habort =>
      have hpassed := h.passed
      rw [hpc] at hpassed
      have hmoved : Account policy shared (r.goto (.sending packet)) settled :=
        h.move hpc nofun id rfl rfl hpassed
      exact .inr ⟨settled, hmoved.congr rfl rfl rfl id⟩
    | stalled hpc habort => exact .inl (Option.some_ne_none _)
    | leave hpc => exact .inr ⟨settled, h.leave hpc⟩
    | retire hpc retired => exact .inr ⟨settled, h.exit hpc rfl rfl _⟩
    | panicked hpc message => exact .inl trivial
    | exit hpc hexit =>
      obtain ⟨hsystem, -, hrefused, hcode, habort⟩ := hexit.frame
      exact .inr ⟨settled, (h.exit hpc rfl rfl _).congr hsystem hrefused hcode habort⟩

end Account

section Writer

variable {shared shared' : Shared} {w w' : Writer}

def WriterAt.Fails : WriterAt → Prop
  | .exit ending => ending.Fails
  | _ => False

def WriterAt.uncounted : WriterAt → List Bytes
  | .counting bytes => [bytes]
  | _ => []

def WriterSound (shared : Shared) (w : Writer) : Prop :=
  w.pc.Fails ∨ ∃ counted, w.sent = counted ++ w.pc.uncounted ∧ shared.toEngine = tallyOf counted

theorem WriterStep.frame (h : WriterStep shared w shared' w') :
    shared'.toSystem = shared.toSystem ∧ shared'.refused = shared.refused ∧
      shared'.peerCloseCode = shared.peerCloseCode ∧
      (shared.abort = true → shared'.abort = true) := by
  cases h with
  | leave =>
    obtain ⟨hsystem, -, hrefused, habort, hrecord⟩ := endpointExit_frame .toEngine _ shared
    refine ⟨hsystem, hrefused, ?_, fun h ↦ habort.trans h⟩
    rcases hrecord with hsame | ⟨hdirection, -⟩
    · exact hsame
    · cases hdirection
  | exit hpc hexit =>
    obtain ⟨hsystem, -, hrefused, hcode, habort⟩ := hexit.frame
    exact ⟨hsystem, hrefused, hcode, habort⟩
  | _ => exact ⟨rfl, rfl, rfl, id⟩

theorem WriterSound.step (h : WriterSound shared w) (hstep : WriterStep shared w shared' w') :
    WriterSound shared' w' := by
  rcases h with hfails | ⟨counted, hsent, htally⟩
  · left
    cases hstep with
    | exit hpc hexit =>
      rw [hpc] at hfails
      exact hexit.fails hfails
    | panicked => trivial
    | aborted hpc | going hpc | closing hpc | notClosing hpc | receive hpc | nothing hpc
    | receiveError hpc | readable hpc | waitError hpc | discard hpc | forward hpc | send hpc
    | sendError hpc | count hpc | leave hpc =>
      rw [hpc] at hfails
      exact hfails.elim
  · cases hstep with
    | send hpc =>
      rw [hpc] at hsent
      exact .inr ⟨counted, by rw [hsent]; simp [WriterAt.uncounted], htally⟩
    | @count _ bytes hpc =>
      rw [hpc] at hsent
      refine .inr ⟨counted ++ [bytes], ?_, ?_⟩
      · simpa [Writer.goto, WriterAt.uncounted] using hsent
      · rw [tallyOf_append, ← htally]
    | leave hpc =>
      obtain ⟨-, hengine, -⟩ := endpointExit_frame .toEngine _ shared
      rw [hpc] at hsent
      exact .inr ⟨counted, hsent, hengine.trans htally⟩
    | exit hpc hexit =>
      obtain ⟨-, hengine, -⟩ := hexit.frame
      rw [hpc] at hsent
      exact .inr ⟨counted, hsent, hengine.trans htally⟩
    | panicked => exact .inl trivial
    | aborted hpc | going hpc | closing hpc | notClosing hpc | receive hpc | nothing hpc
    | receiveError hpc | readable hpc | waitError hpc | discard hpc | forward hpc | sendError hpc =>
      rw [hpc] at hsent
      exact .inr ⟨counted, hsent, htally⟩

end Writer

section Pump

variable {policy : DeliveryPolicy} {p p' : Pump}
variable {r : Reader} {shared shared' : Shared}

theorem ReaderStep.toEngine_eq {r'} (h : ReaderStep policy shared r shared' r') :
    shared'.toEngine = shared.toEngine := by
  cases h with
  | leave =>
    obtain ⟨-, hengine, -⟩ := endpointExit_frame .toSystem _ shared
    exact hengine
  | exit hpc hexit =>
    obtain ⟨-, hengine, -⟩ := hexit.frame
    exact hengine
  | _ => rfl

theorem WriterStep.not_done {w w' result}
    (h : WriterStep shared w shared' w') : w.pc ≠ .exit (.done result) := by
  intro hdone
  cases h with
  | exit hpc hexit =>
    rw [hdone] at hpc
    cases hpc
    cases hexit
  | panicked hpc => exact hpc _ hdone
  | aborted hpc | going hpc | closing hpc | notClosing hpc | receive hpc | nothing hpc
  | receiveError hpc | readable hpc | waitError hpc | discard hpc | forward hpc | send hpc
  | sendError hpc | count hpc | leave hpc =>
    rw [hdone] at hpc
    cases hpc

theorem ReaderStep.not_done {r' result}
    (h : ReaderStep policy shared r shared' r') : r.pc ≠ .exit (.done result) := by
  intro hdone
  cases h with
  | exit hpc hexit =>
    rw [hdone] at hpc
    cases hpc
    cases hexit
  | panicked hpc => exact hpc _ hdone
  | aborted hpc | going hpc | receive hpc | nothing hpc | receiveError hpc | receiveClose hpc
  | admitted hpc | refuse hpc | send hpc | count hpc | ringFull hpc | sendError hpc | giveUp hpc
  | retry hpc | stalled hpc | leave hpc | retire hpc =>
    rw [hdone] at hpc
    cases hpc

theorem retireFailure_eq_none {toEngine toSystem lastReference}
    (h : retireFailure shared toEngine toSystem lastReference = none) :
    toEngine = none ∧ toSystem = none := by
  simp only [retireFailure, mergeFailures_eq_none] at h
  obtain ⟨h, -⟩ := h
  split at h
  · exact (mergeFailures_eq_none.mp h).symm
  · exact mergeFailures_eq_none.mp h

theorem finishResult_eq_ok {expected failure retirement} (h : finishResult shared expected failure = .ok retirement) :
    failure = none ∧ shared.peerCloseCode ≠ 0 ∧
      retirement = ⟨shared.report, shared.peerCloseCode⟩ := by
  unfold finishResult at h
  split at h
  · cases h
  · cases h
  · cases h
  · split at h
    · cases h
    · next hcode =>
      cases h
      exact ⟨rfl, hcode, rfl⟩

/-- The workers are sound, and a retirement is that of their last state. -/
structure PumpSound (policy : DeliveryPolicy) (p : Pump) : Prop where
  writer : WriterSound p.shared p.writer
  reader : ReaderSound policy p.shared p.reader
  returned : ∀ retirement, p.owner = .returned (.ok retirement) →
    p.writer.pc = .exit (.done none) ∧ p.reader.pc = .exit (.done none) ∧
      p.shared.peerCloseCode ≠ 0 ∧ retirement = ⟨p.shared.report, p.shared.peerCloseCode⟩

theorem pumpSound_start (abort : Bool) : PumpSound policy (.start abort) where
  writer := .inr ⟨[], rfl, rfl⟩
  reader := .inr ⟨[], {
    received := rfl
    sent := rfl
    refused := rfl
    passed := trivial
    toSystem := rfl
    refusedTally := fun _ ↦ rfl
    dropped := fun h ↦ absurd rfl h
    closed := fun h ↦ absurd rfl h }⟩
  returned _ h := by cases h

theorem ReaderSound.congr (h : ReaderSound policy shared r)
    (hsystem : shared'.toSystem = shared.toSystem) (hrefused : shared'.refused = shared.refused)
    (hcode : shared'.peerCloseCode = shared.peerCloseCode)
    (habort : shared.abort = true → shared'.abort = true) : ReaderSound policy shared' r := by
  rcases h with hfails | ⟨settled, h⟩
  · exact .inl hfails
  · exact .inr ⟨settled, h.congr hsystem hrefused hcode habort⟩

theorem PumpSound.step (h : PumpSound policy p) (hstep : Step policy p p') :
    PumpSound policy p' := by
  cases hstep with
  | writer hw =>
    obtain ⟨hsystem, hrefused, hcode, habort⟩ := hw.frame
    refine ⟨h.writer.step hw, h.reader.congr hsystem hrefused hcode habort, fun ret hret ↦ ?_⟩
    exact absurd (h.returned ret hret).1 hw.not_done
  | reader hr =>
    refine ⟨?_, h.reader.step hr, fun ret hret ↦ absurd (h.returned ret hret).2.1 hr.not_done⟩
    rcases h.writer with hfails | ⟨counted, hsent, htally⟩
    · exact .inl hfails
    · exact .inr ⟨counted, hsent, hr.toEngine_eq.trans htally⟩
  | expectPeerClose => exact ⟨h.writer, h.reader.congr rfl rfl rfl id, h.returned⟩
  | abort => exact ⟨h.writer, h.reader.congr rfl rfl rfl fun _ ↦ rfl, h.returned⟩
  | finishUnexpected =>
    exact ⟨h.writer, h.reader.congr rfl rfl rfl fun _ ↦ rfl, fun _ hret ↦ by cases hret⟩
  | finish => exact ⟨h.writer, h.reader, fun _ hret ↦ by cases hret⟩
  | waited =>
    exact ⟨h.writer, h.reader.congr rfl rfl rfl fun _ ↦ rfl, fun _ hret ↦ by cases hret⟩
  | retire howner hwriter hreader lastReference =>
    refine ⟨h.writer, h.reader, fun ret hret ↦ ?_⟩
    obtain ⟨hnone, hcode, rfl⟩ := finishResult_eq_ok (Owner.returned.inj hret)
    obtain ⟨rfl, rfl⟩ := retireFailure_eq_none hnone
    exact ⟨hwriter, hreader, hcode, rfl⟩

theorem pumpSound_of_run {abort} (h : ReflTransGen (Step policy) (.start abort) p) :
    PumpSound policy p := by
  induction h with
  | refl => exact pumpSound_start abort
  | tail _ hstep ih => exact ih.step hstep

structure Truthful (policy : DeliveryPolicy) (p : Pump) (retirement : PumpRetirement) : Prop where
  expected : p.reader.expectedWhenChecked = some true
  writer : p.writer.pc = .exit (.done none)
  reader : p.reader.pc = .exit (.done none)
  dropped : p.reader.dropped = []
  sent : p.reader.sent = admittedOf policy p.reader.received
  refused : p.reader.refused = refusedOf policy p.reader.received
  toSystem : retirement.report.toSystem = tallyOf p.reader.sent
  refusedTally : ∀ reason, retirement.report.refused reason =
    refusalTallyOf (p.reader.refused.filter (·.1.reason = reason))
  toEngine : retirement.report.toEngine = tallyOf p.writer.sent

/-- A retirement is truthful in every run: the close of the peer was expected when the reader
checked it, both workers ended without a failure, every packet that the reader received was sent
or refused, in their order, and the counters are those of these packets. -/
theorem retirement_truthful {abort : Bool} {retirement : PumpRetirement}
    (h : ReflTransGen (Step policy) (.start abort) p)
    (howner : p.owner = .returned (.ok retirement)) : Truthful policy p retirement := by
  have hsound := pumpSound_of_run h
  obtain ⟨hwriter, hreader, hcode, rfl⟩ := hsound.returned retirement howner
  rcases hsound.reader with hfails | ⟨settled, haccount⟩
  · rw [hreader] at hfails
    exact absurd rfl hfails
  rcases hsound.writer with hfails | ⟨counted, hsent, htally⟩
  · rw [hwriter] at hfails
    exact absurd rfl hfails
  have hdropped : p.reader.dropped = [] := by
    by_contra hne
    exact hcode (haccount.dropped hne).2.2
  have hreceived : p.reader.received = settled := by
    simpa [hreader, hdropped, ReaderAt.pending] using haccount.received
  have hsystem : p.reader.sent = admittedOf policy settled := by
    simpa [hreader, ReaderAt.uncounted] using haccount.sent
  have hengine : p.writer.sent = counted := by
    simpa [hwriter, WriterAt.uncounted] using hsent
  exact {
    expected := (haccount.closed hcode).1
    writer := hwriter
    reader := hreader
    dropped := hdropped
    sent := by rw [hsystem, hreceived]
    refused := by rw [haccount.refused, hreceived]
    toSystem := by rw [hsystem]; exact haccount.toSystem
    refusedTally := haccount.refusedTally
    toEngine := by rw [hengine]; exact htally }

end Pump

section Sample

def adapterPolicy : DeliveryPolicy := samplePolicy

def sampleEnginePacket (last : UInt8) : EnginePacket where
  bytes := [0x45, 0, 0, 20, 0, 9, 0, 0, 64, 17, 0, 0, 203, 0, 113, 7, 198, 18, 64, last]
  header := .v4 ⟨samplePeer, ⟨[198, 18, 64, last], rfl⟩, some 17, .whole none, none⟩

def brokenPipe : PumpError := .transport (.io (some 109))

theorem reader_told : ∃ p, ReflTransGen (Step adapterPolicy) (.start false) p ∧
    p.shared.abort = false ∧ p.shared.peerClosing = false ∧ p.shared.firstFailure = none ∧
    p.writer = ⟨.top, []⟩ ∧ p.owner = .running ∧ p.reader.pc = .leaving brokenPipe ∧
    p.reader.received.length = 2 ∧ p.reader.expectedWhenSeen = some false :=
  ⟨_, .head (.reader (.going rfl rfl)) <| .head (.reader (.receive rfl (sampleEnginePacket 1))) <|
    .head (.reader (.admitted rfl rfl)) <| .head (.reader (.send rfl)) <|
    .head (.reader (.count rfl)) <| .head (.reader (.going rfl rfl)) <|
    .head (.reader (.receive rfl (sampleEnginePacket 2))) <| .head (.reader (.refuse rfl rfl)) <|
    .head (.reader (.going rfl rfl)) <| .head (.reader (.receiveClose rfl brokenPipe rfl)) .refl,
    rfl, rfl, rfl, rfl, rfl, rfl, rfl, rfl⟩

theorem raced_run : ∃ p retirement, ReflTransGen (Step adapterPolicy) (.start false) p ∧
    p.owner = .returned (.ok retirement) ∧ p.reader.received.length = 2 ∧
    p.reader.expectedWhenSeen = some false := by
  obtain ⟨⟨⟨abort, closing, code, failure, toEngine, toSystem, waits, refused⟩, writer,
    ⟨pc, received, sent, refusals, dropped, seen, checked⟩, owner⟩, hrun, rfl, rfl, rfl, rfl, rfl,
    rfl, hreceived, rfl⟩ := reader_told
  have hreader := (hrun.tail (.expectPeerClose _)).trans <|
    .head (.reader (.leave rfl)) <| .head (.reader (.retire rfl none)) <|
    .head (.reader (.exit rfl (.finishOk _))) <| .single (.reader (.exit rfl (.cancel _ _)))
  have hwriter := hreader.trans <|
    .head (.writer (.aborted rfl rfl)) <| .head (.writer (.exit rfl (.finishOk _))) <|
    .single (.writer (.exit rfl (.keep _ _)))
  exact ⟨_, _, hwriter.trans <| .head (.finish rfl rfl) <| .head (.waited rfl) <|
    .single (.retire rfl rfl rfl true), rfl, hreceived, rfl⟩

/-- The owner may expect the close after the reader was told of it. -/
theorem retired_after_late_expectation : ∃ p retirement,
    ReflTransGen (Step adapterPolicy) (.start false) p ∧ p.owner = .returned (.ok retirement) ∧
      p.reader.expectedWhenSeen ≠ some true := by
  obtain ⟨p, retirement, hrun, howner, -, hseen⟩ := raced_run
  exact ⟨p, retirement, hrun, howner, by simp [hseen]⟩

theorem raced_run_truthful : ∃ p retirement,
    ReflTransGen (Step adapterPolicy) (.start false) p ∧ p.owner = .returned (.ok retirement) ∧
      p.reader.received.length = 2 ∧ Truthful adapterPolicy p retirement := by
  obtain ⟨p, retirement, hrun, howner, hreceived, -⟩ := raced_run
  exact ⟨p, retirement, hrun, howner, hreceived, retirement_truthful hrun howner⟩

end Sample

end CfwRs.WindowsTunnel
