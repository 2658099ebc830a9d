import CfwRs.WindowsLifecycle.Lifecycle

namespace CfwRs.WindowsLifecycle

open Lib Lib.Checked SingBox Credentials Coordinator
  CfwRs.WindowsAuthority CfwRs.WindowsVault Relation

variable {Secret : Type} [DecidableEq Secret] {F : VaultFormat Secret} {format : RecordFormat}
  {sid : Bytes} {s s' t : Lifecycle Secret} {r : Record}

/-- A revision that was observed while the Authority was Off: the journal has left it behind, or
it is still there and has no operation. -/
def Stands (service : Service) (revision : UInt64) : Prop :=
  revision.toNat < service.level ∨
    revision.toNat = service.level ∧ ∀ md, service.durable = some md → md.operation = none

variable {holder : Option Section} {scope : RecordedRuntimeScope} {service : Service}

theorem Stands.grows {service' revision} (h : Stands service revision)
    (hgrows : Service.Grows service service') : Stands service' revision := by
  rcases hgrows with hsame | hlater
  · have hlevel : service'.level = service.level := by rw [Service.level, hsame, Service.level]
    rcases h with hbehind | ⟨hlast, hnone⟩
    · exact .inl (hlevel ▸ hbehind)
    · exact .inr ⟨hlevel ▸ hlast, hsame ▸ hnone⟩
  · rcases h with hbehind | ⟨hlast, -⟩
    · exact .inl (hbehind.trans hlater)
    · exact .inl (hlast ▸ hlater)

theorem Stands.le {revision} (h : Stands service revision) :
    revision.toNat ≤ service.level := h.elim Nat.le_of_lt fun h ↦ h.1.le

theorem level_of_off (h : service.Sound) (hoff : service.machine.phase = .off) :
    service.machine.durableKnown = true ∧ service.level = service.machine.revision.toNat ∧
      ∀ md, service.durable = some md → md.operation = none := by
  have hknown := h.machine.known (by simp [hoff])
  obtain ⟨-, md, hmd, hnone⟩ := h.machine.off hoff
  refine ⟨hknown, h.level_eq hknown hmd, fun md' hmd' ↦ ?_⟩
  rw [← h.durable hknown, hmd] at hmd'
  cases hmd'
  exact hnone

def Section.revision : Section → Option UInt64
  | .observed _ revision | .recorded _ revision => revision
  | _ => none

def Section.record : Section → Option Record
  | .recorded record _ => some record
  | _ => none

structure Sound (F : VaultFormat Secret) (s : Lifecycle Secret) : Prop where
  service : s.service.Sound
  accepted : Accepted F s.vault
  ids : (s.records.map (·.operationId)).Nodup
  used : ∀ r ∈ s.records, r.operationId ∈ s.usedIds
  file : ∀ r, s.file = .written r → r ∈ s.records
  pending : ∀ sent ∈ s.pending, sent.input.operationId = sent.record.operationId ∧
    Stands s.service sent.input.expectedRevision
  observed : ∀ section' revision, s.holder = some section' → section'.revision = some revision →
    Stands s.service revision

omit [DecidableEq Secret] in
theorem sound_start : Sound F (Lifecycle.start Secret) where
  service := Service.sound_start
  accepted _ h := by cases h
  ids := List.nodup_nil
  used _ h := absurd h List.not_mem_nil
  file _ h := by cases h
  pending _ h := absurd h List.not_mem_nil
  observed _ _ h := by cases h

omit [DecidableEq Secret] in
theorem Sound.onService (h : Sound F s) {pending} {usedIds}
    (hstep : service.Sound ∧ Service.Grows s.service service)
    (hpending : ∀ sent ∈ pending, sent ∈ s.pending) (hused : ∀ id ∈ s.usedIds, id ∈ usedIds) :
    Sound F { s with service, pending, usedIds } where
  service := hstep.1
  accepted := h.accepted
  ids := h.ids
  used r hr := hused _ (h.used r hr)
  file := h.file
  pending sent hsent :=
    ⟨(h.pending sent (hpending sent hsent)).1,
      (h.pending sent (hpending sent hsent)).2.grows hstep.2⟩
  observed section' revision hholder hrevision :=
    (h.observed section' revision hholder hrevision).grows hstep.2

omit [DecidableEq Secret] in
theorem Sound.goto (h : Sound F s)
    (hholder : ∀ section' revision, holder = some section' → section'.revision = some revision →
      Stands s.service revision) : Sound F { s with holder } :=
  { h with observed := hholder }

omit [DecidableEq Secret] in
theorem Sound.setVault (h : Sound F s) {vault}
    (hvault : Accepted F vault) : Sound F { s with vault } :=
  { h with accepted := hvault }

theorem operationId_of_new {request operationId}
    (h : Record.new format request operationId = .ok r) : r.operationId = operationId := by
  simp only [Record.new, ok_iff] at h
  obtain ⟨_, -, _, -, rfl⟩ := h
  rfl

theorem prepareRequest_ok {revision input} (h : r.prepareRequest revision = .ok input) :
    input.operationId = r.operationId ∧ input.expectedRevision = revision := by
  simp only [Record.prepareRequest, ok_iff] at h
  obtain ⟨_, -, _, -, rfl⟩ := h
  exact ⟨rfl, rfl⟩

omit [DecidableEq Secret] in
theorem Sound.addRecord (h : Sound F s) {file} {operationId}
    (hid : r.operationId = operationId) (hfresh : operationId ∉ s.usedIds)
    (hfile : file = s.file ∨ file = .written r)
    (hholder : ∀ section' revision, holder = some section' → section'.revision = some revision →
      Stands s.service revision) : Sound F { s with
      file, holder, records := r :: s.records, usedIds := operationId :: s.usedIds } where
  service := h.service
  accepted := h.accepted
  ids := by
    refine List.nodup_cons.mpr ⟨fun hmem ↦ ?_, h.ids⟩
    obtain ⟨r', hr', hsame⟩ := List.mem_map.mp hmem
    have hsame : r'.operationId = operationId := hsame.trans hid
    exact hfresh (hsame ▸ h.used r' hr')
  used r' hr' := by
    rcases List.mem_cons.mp hr' with rfl | hr'
    · exact hid ▸ List.mem_cons_self
    · exact List.mem_cons_of_mem _ (h.used r' hr')
  file r' hr' := by
    rcases hfile with hold | hnew
    · exact List.mem_cons_of_mem _ (h.file r' (hold.symm.trans hr'))
    · cases hnew.symm.trans hr'
      exact List.mem_cons_self
  pending := h.pending
  observed := hholder

omit [DecidableEq Secret] in
theorem stands_of_snapshot (h : service.Sound) (hoff : service.machine.phase = .off)
    {revision} (hrevision : service.machine.snapshot.revision = some revision) :
    Stands service revision := by
  obtain ⟨hknown, hlevel, hnone⟩ := level_of_off h hoff
  simp only [Machine.snapshot, hknown, if_true, Option.some.injEq] at hrevision
  exact .inr ⟨hrevision ▸ hlevel.symm, hnone⟩

theorem call_stored (h : Accepted F s.vault) (call : Call Secret) {environment}
    {α : Type} {outcome : Outcome Secret α}
    (hrun : call.run F environment s.vault = outcome.observed) : Accepted F outcome.stored ∧
      ∀ e ∈ entriesOf s.vault, e ∈ entriesOf outcome.stored ∨ call.removes e.binding := by
  rw [← Outcome.observed_snd, ← hrun]
  exact ⟨(call.transition h).accepted, (call.transition h).kept⟩

theorem mem_of_split {α : Type} {l before after : List α} {a} (h : l = before ++ a :: after) :
    ∀ b ∈ before ++ after, b ∈ l := by
  intro b hb
  rw [h]
  exact ((List.sublist_cons_self a after).append_left before).mem hb

theorem Sound.step (h : Sound F s) (hstep : Step F format sid s s') : Sound F s' := by
  cases hstep with
  | performs hop hperforms =>
    exact h.onService (hperforms.step h.service) (fun _ h ↦ h) fun _ h ↦ h
  | restarts hrestarts => exact h.onService (hrestarts.step h.service) (fun _ h ↦ h) fun _ h ↦ h
  | foreignPrepare hsid hfresh hperforms =>
    exact h.onService (hperforms.step h.service) (fun _ h ↦ h) fun _ h ↦ List.mem_cons_of_mem _ h
  | processes hpending hsid hperforms =>
    exact h.onService (hperforms.step h.service) (mem_of_split hpending) fun _ h ↦ h
  | loses hpending =>
    exact h.onService ⟨h.service, .inl rfl⟩ (mem_of_split hpending) fun _ h ↦ h
  | observe hholder hoff =>
    refine h.goto fun section' revision hholder hrevision ↦ ?_
    cases hholder
    exact stands_of_snapshot h.service hoff hrevision
  | writeRecord hholder hfresh hnew hencode hprevious =>
    refine h.addRecord (operationId_of_new hnew) hfresh (.inr rfl) fun section' revision hs hr ↦ ?_
    cases hs
    exact h.observed _ revision hholder hr
  | writeFails hholder hfresh hnew hfile =>
    refine h.addRecord (operationId_of_new hnew) hfresh hfile fun section' revision hs _ ↦ ?_
    cases hs
  | sendPrepare hholder hinput =>
    obtain ⟨hid, hexpected⟩ := prepareRequest_ok hinput
    have hstands := h.observed _ _ hholder rfl
    refine { h with pending := fun sent hsent ↦ ?_, observed := fun _ _ hs hr ↦ ?_ }
    · rcases List.mem_append.mp hsent with hold | hnew
      · exact h.pending sent hold
      · rw [List.mem_singleton.mp hnew]
        exact ⟨hid, hexpected ▸ hstands⟩
    · cases hs
      cases hr
  | prepare | collect | readRuntimeScope | readRecord | previewGarbageCollection | releases =>
    refine h.goto ?_
    rintro _ _ ⟨⟩ ⟨⟩
  | @commitGarbageCollection bindings request =>
    refine (h.setVault (call_stored h.accepted
      (.commitGarbageCollection request bindings) rfl).1).goto ?_
    rintro _ _ ⟨⟩
  | provision _ audience references supplied =>
    exact h.setVault (call_stored h.accepted (.provision audience references supplied) rfl).1
  | rebind _ previousAudience audience slots =>
    exact h.setVault (call_stored h.accepted (.rebind previousAudience audience slots) rfl).1

/-- The operation of the record has the lease, or it may still get it: its prepare is on its way
for the current revision, or it is about to be sent. -/
def Alive (s : Lifecycle Secret) (r : Record) : Prop :=
  Leased s r ∨
    (∃ sent ∈ s.pending, sent.record.operationId = r.operationId ∧
      sent.input.expectedRevision.toNat = s.service.level) ∨
    ∃ section' r', s.holder = some section' ∧ section'.record = some r' ∧
      r'.operationId = r.operationId

/-- A lease after a step was there before, or a prepare on its way asked for it. -/
theorem Leased.back (h : Sound F s) (hstep : Step F format sid s s') (hr : r ∈ s.records)
    (hleased : Leased s' r) :
    Leased s r ∨ ∃ sent ∈ s.pending, sent.record.operationId = r.operationId ∧
      sent.input.expectedRevision.toNat = s.service.level := by
  obtain ⟨l', hl', hid⟩ := hleased
  cases hstep with
  | performs hop hperforms =>
    rcases hperforms.lease hl' with ⟨l, hl, hcontext⟩ | ⟨_, _, _, _, _, _, rfl, -⟩
    · exact .inl ⟨l, hl, hcontext ▸ hid⟩
    · exact absurd trivial hop
  | restarts hrestarts =>
    have hnone := hrestarts.no_lease
    rw [hl'] at hnone
    cases hnone
  | foreignPrepare hsid hfresh hperforms =>
    rcases hperforms.lease hl' with ⟨l, hl, hcontext⟩ | ⟨_, _, _, _, _, _, hop, -, -, hsame⟩
    · exact .inl ⟨l, hl, hcontext ▸ hid⟩
    · cases hop
      exact absurd (hsame.symm.trans hid ▸ h.used r hr) hfresh
  | @processes service before after sent _ _ _ _ _ hpending hsid hperforms =>
    rcases hperforms.lease hl' with
      ⟨l, hl, hcontext⟩ | ⟨_, _, _, _, _, _, hop, hoff, hexpected, hsame⟩
    · exact .inl ⟨l, hl, hcontext ▸ hid⟩
    · cases hop
      have hmem : sent ∈ s.pending := by simp [hpending]
      obtain ⟨hsent, -⟩ := h.pending sent hmem
      obtain ⟨-, hlevel, -⟩ := level_of_off h.service hoff
      exact .inr ⟨sent, hmem, hsent.symm.trans (hsame.symm.trans hid),
        hexpected ▸ hlevel.symm⟩
  | _ => exact .inl ⟨l', hl', hid⟩

theorem records_step (hstep : Step F format sid s s') (hr : r ∈ s.records) : r ∈ s'.records := by
  cases hstep with
  | writeRecord | writeFails => exact List.mem_cons_of_mem _ hr
  | _ => exact hr

theorem grows_step (h : Sound F s) (hstep : Step F format sid s s') :
    Service.Grows s.service s'.service := by
  cases hstep with
  | performs _ hperforms | foreignPrepare _ _ hperforms | processes _ _ hperforms =>
    exact (hperforms.step h.service).2
  | restarts hrestarts => exact (hrestarts.step h.service).2
  | _ => exact .inl rfl

theorem level_le_of_grows {service'} (h : Service.Grows service service') :
    service.level ≤ service'.level := by
  rcases h with hsame | hlater
  · rw [Service.level, Service.level, hsame]
  · exact hlater.le

theorem pending_back (hstep : Step F format sid s s') {sent} (hsent : sent ∈ s'.pending) :
    sent ∈ s.pending ∨ ∃ revision, s.holder = some (.recorded sent.record revision) := by
  cases hstep with
  | processes hpending | loses hpending => exact .inl (mem_of_split hpending sent hsent)
  | sendPrepare hholder hinput =>
    rcases List.mem_append.mp hsent with hold | hnew
    · exact .inl hold
    · rw [List.mem_singleton.mp hnew]
      exact .inr ⟨_, hholder⟩
  | _ => exact .inl hsent

theorem Alive.back (h : Sound F s) (hstep : Step F format sid s s') (hr : r ∈ s.records)
    (halive : Alive s' r) : Alive s r := by
  rcases halive with hleased | ⟨sent, hsent, hid, hrevision⟩ | ⟨section', r', hholder, hr', hid⟩
  · rcases hleased.back h hstep hr with hleased | hpending
    · exact .inl hleased
    · exact .inr (.inl hpending)
  · rcases pending_back hstep hsent with hold | ⟨revision, hholder⟩
    · refine .inr (.inl ⟨sent, hold, hid, ?_⟩)
      have hle := (h.pending sent hold).2.le
      have hlevel := level_le_of_grows (grows_step h hstep)
      omega
    · exact .inr (.inr ⟨_, sent.record, hholder, rfl, hid⟩)
  · have hback : s'.holder = s.holder → Alive s r := fun hsame ↦
      .inr (.inr ⟨section', r', hsame ▸ hholder, hr', hid⟩)
    cases hstep with
    | prepare | observe | sendPrepare | collect | readRuntimeScope | readRecord =>
      cases hholder
      cases hr'
    | writeFails | previewGarbageCollection | commitGarbageCollection | releases => cases hholder
    | writeRecord _ hfresh hnew =>
      cases hholder
      cases hr'
      have hused := h.used r hr
      rw [← hid, operationId_of_new hnew] at hused
      exact absurd hused hfresh
    | _ => exact hback rfl

theorem Alive.of_run (h : Sound F s) (hrun : ReflTransGen (Step F format sid) s t)
    (hr : r ∈ s.records) (halive : Alive t r) : Alive s r := by
  induction hrun using ReflTransGen.head_induction_on with
  | refl => exact halive
  | head hstep _ ih => exact (ih (h.step hstep) (records_step hstep hr)).back h hstep hr

def Behind (s : Lifecycle Secret) : Prop :=
  ∀ sent ∈ s.pending, sent.input.expectedRevision.toNat < s.service.level

/-- What the holder of the mutex has secured for the commit of a collection. An answer that is
neither Off nor has an operation lets no collection through. -/
def Section.Covers (s : Lifecycle Secret) : Section → Prop
  | .scoped (.commit _) scope =>
    scope.snapshot.state = .off ∨ scope.operation ≠ none → Behind s ∧
      ∀ r ∈ s.records, Leased s r → scope.snapshot.state ≠ .off ∧
        ∃ operation, scope.operation = some operation ∧ operation.operationId = r.operationId
  | .guarded (.commit _) bindings =>
    Behind s ∧ ∀ r ∈ s.records, Leased s r → ∀ b ∈ r.bindings, b ∈ bindings
  | _ => True

def Covered (s : Lifecycle Secret) : Prop :=
  ∀ section', s.holder = some section' → section'.Covers s

theorem Behind.step (h : Sound F s) (hstep : Step F format sid s s')
    (hholder : ∀ r revision, s.holder ≠ some (.recorded r revision)) (hbehind : Behind s) :
    Behind s' := by
  intro sent hsent
  rcases pending_back hstep hsent with hold | ⟨revision, hrecorded⟩
  · exact (hbehind sent hold).trans_le (level_le_of_grows (grows_step h hstep))
  · exact absurd hrecorded (hholder _ _)

theorem Behind.leased (h : Sound F s) (hstep : Step F format sid s s') (hbehind : Behind s)
    (hr : r ∈ s.records) (hleased : Leased s' r) : Leased s r := by
  rcases hleased.back h hstep hr with hleased | ⟨sent, hsent, -, hrevision⟩
  · exact hleased
  · exact absurd hrevision (hbehind sent hsent).ne

/-- What the holder has secured stays so while it is not the one that moves. -/
theorem Section.Covers.step (h : Sound F s) (hstep : Step F format sid s s')
    (hrecords : s'.records = s.records) {section'} (hholder : s.holder = some section')
    (hcovers : section'.Covers s) : section'.Covers s' := by
  have hbehind (hne : section'.record = none) (hb : Behind s) : Behind s' := by
    refine hb.step h hstep fun r revision hrecorded ↦ ?_
    cases hholder.symm.trans hrecorded
    cases hne
  unfold Section.Covers at hcovers ⊢
  split
  · intro hscope
    obtain ⟨hb, hleased⟩ := hcovers hscope
    refine ⟨hbehind rfl hb, fun r hr hl ↦ ?_⟩
    rw [hrecords] at hr
    exact hleased r hr (hb.leased h hstep hr hl)
  · obtain ⟨hb, hleased⟩ := hcovers
    refine ⟨hbehind rfl hb, fun r hr hl ↦ ?_⟩
    rw [hrecords] at hr
    exact hleased r hr (hb.leased h hstep hr hl)
  · trivial

omit [DecidableEq Secret] in
theorem scope_of_ok (h : service.Sound) (hscope : service.recordedRuntimeScope sid = .ok scope) :
    ∃ md, service.durable = some md ∧ service.machine.metadata = some md ∧
      service.machine.durableKnown = true ∧ scope.snapshot.state = service.machine.phase ∧
      scope.operation = md.operation := by
  simp only [Service.recordedRuntimeScope, Machine.recordedRuntimeScope, ok_iff, not_not] at hscope
  obtain ⟨_, ⟨_, hknown, md, hmd, rfl⟩, _, -, rfl⟩ := hscope
  exact ⟨md, (h.durable hknown).symm.trans hmd, hmd, hknown, rfl, rfl⟩

omit [DecidableEq Secret] in
theorem covers_scope (h : Sound F s) {request}
    (hscope : s.service.recordedRuntimeScope sid = .ok scope) (hprompt : ¬Awaits s) :
    (Section.scoped (.commit request) scope).Covers { s with holder } := by
  obtain ⟨md, hdurable, hmd, hknown, hstate, hoperation⟩ := scope_of_ok h.service hscope
  intro hadmits
  refine ⟨fun sent hsent ↦ ?_, fun r _ ⟨l, hl, hid⟩ ↦ ?_⟩
  · rcases (h.pending sent hsent).2 with hbehind | ⟨hlast, hnone⟩
    · exact hbehind
    · rcases hadmits with hoff | hsome
      · -- Off, and the prepare is for this very revision
        have hrevision := hlast.trans (h.service.level_eq hknown hmd)
        exact absurd ⟨hstate ▸ hoff, sent, hsent, UInt64.toNat_inj.mp hrevision⟩ hprompt
      · exact absurd (hoperation.trans (hnone md hdurable)) hsome
  · obtain ⟨md', operation, hmd', hrecorded, hop⟩ := h.service.machine.leased l hl
    cases hmd.symm.trans hmd'
    refine ⟨fun hoff ↦ ?_, operation, hoperation.trans hop, ?_⟩
    · rw [(h.service.machine.off (hstate ▸ hoff)).1] at hl
      cases hl
    · simp only [LeaseContext.recorded, journal_eq_ok, JournalOperation.new, ok_iff] at hrecorded
      obtain ⟨_, -, rfl⟩ := hrecorded
      exact hid

theorem eq_of_decode {file : RecordFile} {r}
    (h : file.decode format = .ok (some r)) : file = .written r := by
  cases file with
  | absent => cases h
  | malformed => cases h
  | written r' =>
    simp only [RecordFile.decode, Record.encode, ok_iff, Option.some.injEq] at h
    obtain ⟨_, ⟨_, -, _, -, rfl⟩, rfl⟩ := h
    rfl

omit [DecidableEq Secret] in
theorem covers_bindings (h : Sound F s) {request : CredentialGarbageCollectionCommitRequest}
    {record} {bindings} (hcovers : (Section.scoped (.commit request) scope).Covers s)
    (hrecord : s.file.decode format = .ok record)
    (hbindings : protectedBindings format scope record = .ok bindings) :
    (Section.guarded (.commit request) bindings).Covers { s with holder } := by
  rcases protectedBindings_eq_ok hbindings with ⟨hoff, -⟩ | ⟨r, operation, rfl, hop, hid, rfl⟩
  · obtain ⟨hb, hleased⟩ := hcovers (.inl hoff)
    exact ⟨hb, fun r hr hl ↦ absurd hoff (hleased r hr hl).1⟩
  · obtain ⟨hb, hleased⟩ := hcovers (.inr (by simp [hop]))
    refine ⟨hb, fun r' hr' hl b hmem ↦ ?_⟩
    obtain ⟨-, operation', hop', hid'⟩ := hleased r' hr' hl
    cases hop.symm.trans hop'
    -- identifiers are used once, so the record of the file is the leased one
    have hsame := List.inj_on_of_nodup_map h.ids (h.file r (eq_of_decode hrecord)) hr'
      (hid.trans hid')
    exact hsame ▸ hmem

theorem Covered.step (h : Sound F s) (hcovered : Covered s) (hstep : Step F format sid s s')
    (hprompt : Prompt s s') : Covered s' := by
  have hframe (hholder : s'.holder = s.holder) (hrecords : s'.records = s.records) :
      Covered s' := by
    intro section' hsection
    rw [hholder] at hsection
    exact (hcovered section' hsection).step h hstep hrecords hsection
  cases hstep with
  | performs | restarts | foreignPrepare | processes | loses | provision | rebind =>
    exact hframe rfl rfl
  | prepare | observe | sendPrepare | writeRecord | collect =>
    rintro _ ⟨⟩
    trivial
  | writeFails | previewGarbageCollection | commitGarbageCollection | releases =>
    intro _ hsection
    cases hsection
  | @readRuntimeScope collection scope hholder hscope =>
    rintro _ ⟨⟩
    cases collection with
    | preview request => trivial
    | commit request => exact covers_scope h hscope (hprompt request scope hholder rfl)
  | @readRecord collection scope record bindings hholder hrecord hbindings =>
    rintro _ ⟨⟩
    cases collection with
    | preview request => trivial
    | commit request => exact covers_bindings h (hcovered _ hholder) hrecord hbindings

theorem covered_of_run
    (hrun : ReflTransGen (fun s s' ↦ Step F format sid s s' ∧ Prompt s s') (.start Secret) s) :
    Sound F s ∧ Covered s := by
  induction hrun with
  | refl =>
    refine ⟨sound_start, fun _ h ↦ ?_⟩
    cases h
  | tail _ hstep ih => exact ⟨ih.1.step hstep.1, ih.2.step ih.1 hstep.1 hstep.2⟩

/-- A commit of a collection keeps the bindings of every operation that has the lease or may still
get it. -/
theorem collection_spares_operations
    (hrun : ReflTransGen (fun s s' ↦ Step F format sid s s' ∧ Prompt s s') (.start Secret) s)
    {request : CredentialGarbageCollectionCommitRequest} {bindings : List CredentialBinding}
    (hholder : s.holder = some (.guarded (.commit request) bindings)) (environment : Environment)
    {r : Record} (hr : r ∈ s.records) (hfuture : ReflTransGen (Step F format sid) s t)
    (hleased : Leased t r) : ∀ e ∈ entriesOf s.vault, e.binding ∈ r.bindings →
      e ∈ entriesOf (commitGarbageCollection F request bindings environment s.vault).stored := by
  obtain ⟨hsound, hcovered⟩ := covered_of_run hrun
  obtain ⟨hbehind, hprotected⟩ := hcovered _ hholder
  have hleased : Leased s r := by
    rcases Alive.of_run hsound hfuture hr (.inl hleased) with
      hleased | ⟨sent, hsent, -, hrevision⟩ | ⟨section', r', hsection, hrecord, -⟩
    · exact hleased
    · exact absurd hrevision (hbehind sent hsent).ne
    · cases hholder.symm.trans hsection
      cases hrecord
  intro e he hbinding
  rcases (call_stored hsound.accepted (.commitGarbageCollection request bindings) rfl).2 e he with
    hkept | hremoved
  · exact hkept
  · refine absurd (List.mem_append_right _ ?_) hremoved
    exact hprotected r hr hleased _ hbinding

section Sample

open Machine

def sampleRecordFormat : RecordFormat where
  parseUuid _ := some sampleInstallation
  identityDigest configuration _ _ _ _ := some configuration
  recordBytes _ := 1000

def sampleDigest : String := (sampleAudience 0).profileDigest

def sampleSlot : CredentialSlot :=
  ⟨sampleReference 0, .shadowsocksPassword, 0, ["outbounds", "0", "password"]⟩

def sampleConfiguration : EngineStartRequest where
  context := ⟨"installation", 1, 1⟩
  mode := .localProxy
  credentialAudience := sampleAudience 0
  configJson := .null
  configContentDigest := sampleDigest
  configDigest := sampleDigest
  credentialSlots := [sampleSlot]
  tunnelOptions := none

def sampleRecord : Record where
  schemaVersion := 1
  root := ⟨1, 1, sampleInstallation⟩
  operationId := .fill 16 2
  mode := .localProxy
  configurationSha256 := sampleDigest
  identitySha256 := sampleDigest
  audience := sampleAudience 0
  slots := [sampleSlot]
  networkOptions := none

theorem exists_digest : ∃ d, digest sampleDigest = .ok d :=
  ⟨_, bind_eq_ok.mpr ⟨⟨⟩, require_pos (sampleAudience 0).canonical.2, rfl⟩⟩

theorem sampleRecord_valid : sampleRecord.validate sampleRecordFormat = .ok () := by
  obtain ⟨d, hd⟩ := exists_digest
  simp only [Record.validate, Record.contentDigest, Record.identityDigest, sampleRecord, hd,
    bind_eq_ok]
  exact ⟨⟨⟩, rfl, ⟨⟩, rfl, ⟨⟩, rfl, d, rfl, d, rfl, ⟨⟩, rfl, ⟨⟩, rfl, sampleDigest, rfl,
    require_pos rfl⟩

def sampleReserved : AuthorityCommittedState where
  schemaVersion := 6
  root := { epoch := 0, generation := 0, installationId := sampleInstallation }
  allocatedGeneration := 1
  revision := 2
  transition := .reserveGeneration
  state := .off
  operation := none

def sampleOff : Service := ⟨⟨.off, 2, true, some sampleReserved, none⟩, some sampleReserved⟩

abbrev SampleStep := Step sampleFormat sampleRecordFormat sampleOwner.sid

def SamplePrompt (s s' : Lifecycle ℕ) : Prop := SampleStep s s' ∧ Prompt s s'

theorem SamplePrompt.of_step {s s'} (h : SampleStep s s')
    (hholder : ∀ collection, s.holder ≠ some (.collecting collection) := by rintro _ ⟨⟩) :
    SamplePrompt s s' :=
  ⟨h, fun _ _ hs _ ↦ absurd hs (hholder _)⟩

theorem sampleOff_reached :
    ReflTransGen SamplePrompt (.start ℕ) { Lifecycle.start ℕ with service := sampleOff } := by
  have henroll : Service.Performs (.enroll sampleInstallation) .start
      ⟨⟨.recovering, 1, true, some (.enrollment sampleInstallation), none⟩,
        some (.enrollment sampleInstallation)⟩ := .published rfl (by decide)
  have hreconcile : Service.Performs
      (.reconcile (sampleEvidence (.recordedOff (.enrollment sampleInstallation)) 1 none))
      ⟨⟨.recovering, 1, true, some (.enrollment sampleInstallation), none⟩,
        some (.enrollment sampleInstallation)⟩
      ⟨⟨.off, 1, true, some (.enrollment sampleInstallation), none⟩,
        some (.enrollment sampleInstallation)⟩ := .unrecorded rfl rfl
  have hreserve : Service.Performs (.reserveGeneration (fun _ ↦ true) sampleHost
      { installationId := sampleInstallation, configEpoch := 1, generation := 0 })
      ⟨⟨.off, 1, true, some (.enrollment sampleInstallation), none⟩,
        some (.enrollment sampleInstallation)⟩ sampleOff := .published rfl (by decide)
  exact .head (.of_step (.performs id henroll)) <|
    .head (.of_step (.performs id hreconcile)) <|
    .single (.of_step (.performs id hreserve))

def sampleScope (d : Digest) : RecordedRuntimeScope where
  snapshot := ⟨.preparing, some 3, some ⟨1, 1, sampleInstallation⟩⟩
  operation := some
    { operationId := .fill 16 2, mode := .localProxy, configSha256 := d, identitySha256 := d
      leaseId := .fill 16 6, owner := sampleOwner }

theorem sampleOff_prepared (d : Digest) : ∃ service l, Service.Performs (.prepare (fun _ ↦ true)
      { root := ⟨1, 1, sampleInstallation⟩, operationId := .fill 16 2, mode := .localProxy
        configSha256 := d, identitySha256 := d, expectedRevision := 2 } sampleHost (.fill 16 6)
      { bytes := .fill 32 0, domain := [] } 0) sampleOff service ∧
      service.machine.lease = some l ∧ l.context.operation.operationId = .fill 16 2 ∧
      service.machine.phase = .preparing ∧
      service.recordedRuntimeScope sampleOwner.sid = .ok (sampleScope d) := by
  refine ⟨_, _, .published rfl ?_, rfl, rfl, rfl, rfl⟩
  simp [sampleOff, sampleReserved]

def sampleVault : Option (Document ℕ) :=
  (provision sampleFormat (sampleAudience 0) [sampleReference 0] [(sampleReference 0, 20)] (calm 1)
    none).stored

def samplePrepare (d : Digest) : SentPrepare where
  record := sampleRecord
  input :=
    { root := ⟨1, 1, sampleInstallation⟩, operationId := .fill 16 2, mode := .localProxy
      configSha256 := d, identitySha256 := d, expectedRevision := 2 }

def sampleSent (d : Digest) : Lifecycle ℕ :=
  ⟨sampleOff, [samplePrepare d], .written sampleRecord, sampleVault, none, [sampleRecord],
    [.fill 16 2]⟩

theorem sampleSent_reached {d} (hd : digest sampleDigest = .ok d) :
    ReflTransGen SamplePrompt (.start ℕ) (sampleSent d) := by
  have hnew : Record.new sampleRecordFormat sampleConfiguration (.fill 16 2) = .ok sampleRecord :=
    bind_eq_ok.mpr ⟨sampleInstallation, rfl, bind_eq_ok.mpr ⟨⟨⟩, sampleRecord_valid, rfl⟩⟩
  have hencode : sampleRecord.encode sampleRecordFormat = .ok sampleRecord :=
    bind_eq_ok.mpr ⟨⟨⟩, sampleRecord_valid, rfl⟩
  have hinput : sampleRecord.prepareRequest 2 = .ok (samplePrepare d).input :=
    bind_eq_ok.mpr ⟨d, hd, bind_eq_ok.mpr ⟨d, hd, rfl⟩⟩
  refine sampleOff_reached.trans ?_
  refine .head (.of_step (.provision rfl (sampleAudience 0) [sampleReference 0]
    [(sampleReference 0, 20)] (calm 1))) ?_
  refine .head (.of_step (.prepare rfl (by decide : sampleConfiguration.mode ≠ _))) ?_
  refine .head (.of_step (.observe rfl rfl)) ?_
  refine .head (.of_step (.writeRecord rfl (by simp [Lifecycle.start]) hnew hencode rfl)) ?_
  refine .head (.of_step (.sendPrepare rfl hinput)) ?_
  exact .single (.of_step (.releases _))

def sampleCommit : CredentialGarbageCollectionCommitRequest :=
  ⟨sampleDigest, [], some 1, [⟨sampleAudience 0, sampleReference 0⟩]⟩

def sampleEntry : VaultEntry ℕ := ⟨⟨sampleAudience 0, sampleReference 0⟩, 20⟩

theorem entries_sampleVault : entriesOf sampleVault = [sampleEntry] := by decide +kernel

theorem entries_sampleCommit :
    entriesOf (commitGarbageCollection sampleFormat sampleCommit [] (calm 2) sampleVault).stored =
      [] := by decide +kernel

theorem decode_sampleRecord : (RecordFile.written sampleRecord).decode sampleRecordFormat =
    .ok (some sampleRecord) :=
  bind_eq_ok.mpr ⟨sampleRecord, bind_eq_ok.mpr ⟨⟨⟩, sampleRecord_valid, rfl⟩, rfl⟩

/-- The scope is read while the prepare is still on its way; the collection removes the password
of the operation, which gets its lease afterwards. -/
theorem collection_removes_awaited : ∃ (s t : Lifecycle ℕ) (bindings : List CredentialBinding)
    (r : Record) (e : VaultEntry ℕ), ReflTransGen SampleStep (.start ℕ) s ∧
      s.holder = some (.guarded (.commit sampleCommit) bindings) ∧ r ∈ s.records ∧
      ReflTransGen SampleStep { s with
          vault := (commitGarbageCollection sampleFormat sampleCommit bindings (calm 2)
            s.vault).stored
          holder := none } t ∧
      Leased t r ∧ e ∈ entriesOf s.vault ∧ e.binding ∈ r.bindings ∧
      e ∉ entriesOf (commitGarbageCollection sampleFormat sampleCommit bindings (calm 2)
        s.vault).stored ∧ e ∉ entriesOf t.vault := by
  obtain ⟨d, hd⟩ := exists_digest
  obtain ⟨service, l, hperforms, hl, hid, -⟩ := sampleOff_prepared d
  have hbindings : protectedBindings sampleRecordFormat
      ⟨sampleOff.machine.snapshot, none⟩ (some sampleRecord) = .ok [] :=
    bind_eq_ok.mpr ⟨⟨⟩, rfl, bind_eq_ok.mpr ⟨⟨⟩, sampleRecord_valid, rfl⟩⟩
  have hsteps : ReflTransGen SamplePrompt ≤ ReflTransGen SampleStep :=
    ReflTransGen.mono fun _ _ h ↦ h.1
  have hsent := hsteps _ _ (sampleSent_reached hd)
  have hguarded := hsent.trans <| .head (.collect rfl (.commit sampleCommit)) <|
      .head (.readRuntimeScope rfl rfl) <|
        .single (.readRecord rfl decode_sampleRecord hbindings)
  have hpending : (sampleSent d).pending = [] ++ samplePrepare d :: [] := rfl
  refine ⟨_, _, [], sampleRecord, sampleEntry, hguarded, rfl, List.mem_singleton_self _,
    .single (.processes hpending rfl hperforms), ⟨l, hl, hid⟩, ?_, ?_, ?_, ?_⟩
  · exact entries_sampleVault ▸ List.mem_singleton_self _
  · exact Record.mem_bindings.mpr ⟨sampleSlot, List.mem_singleton_self _, rfl⟩
  · exact entries_sampleCommit ▸ List.not_mem_nil
  · exact entries_sampleCommit ▸ List.not_mem_nil

theorem sample_collection_spares : ∃ (s : Lifecycle ℕ) (bindings : List CredentialBinding),
    ReflTransGen (fun s s' ↦ SampleStep s s' ∧ Prompt s s') (.start ℕ) s ∧
      s.holder = some (.guarded (.commit sampleCommit) bindings) ∧ sampleRecord ∈ s.records ∧
      Leased s sampleRecord ∧ ∀ e ∈ entriesOf s.vault, e.binding ∈ sampleRecord.bindings →
        e ∈ entriesOf (commitGarbageCollection sampleFormat sampleCommit bindings (calm 2)
          s.vault).stored := by
  obtain ⟨d, hd⟩ := exists_digest
  obtain ⟨service, l, hperforms, hl, hid, hphase, hscope⟩ := sampleOff_prepared d
  have hmatches : sampleRecord.matchesOperation sampleRecordFormat ⟨1, 1, sampleInstallation⟩
      { operationId := .fill 16 2, mode := .localProxy, configSha256 := d, identitySha256 := d
        leaseId := .fill 16 6, owner := sampleOwner } = .ok () :=
    bind_eq_ok.mpr ⟨⟨⟩, sampleRecord_valid, bind_eq_ok.mpr ⟨d, hd, bind_eq_ok.mpr ⟨d, hd,
      require_pos ⟨rfl, rfl, rfl, rfl, rfl⟩⟩⟩⟩
  have hbindings : protectedBindings sampleRecordFormat (sampleScope d) (some sampleRecord) =
      .ok sampleRecord.bindings :=
    bind_eq_ok.mpr ⟨⟨⟩, rfl, bind_eq_ok.mpr ⟨⟨⟩, sampleRecord_valid, bind_eq_ok.mpr ⟨_, rfl,
      bind_eq_ok.mpr ⟨_, rfl, bind_eq_ok.mpr ⟨_, rfl, bind_eq_ok.mpr ⟨⟨⟩, hmatches, rfl⟩⟩⟩⟩⟩⟩
  let leased : Lifecycle ℕ := { sampleSent d with service, pending := [] }
  have hleased : ReflTransGen SamplePrompt (.start ℕ) leased := by
    refine (sampleSent_reached hd).tail (.of_step ?_ fun _ h ↦ by cases h)
    have hpending : (sampleSent d).pending = [] ++ samplePrepare d :: [] := rfl
    exact .processes hpending rfl hperforms
  have hguarded : ReflTransGen SamplePrompt (.start ℕ)
      { leased with holder := some (.guarded (.commit sampleCommit) sampleRecord.bindings) } := by
    refine hleased.trans ?_
    refine .head (.of_step (.collect rfl (.commit sampleCommit))) ?_
    refine .head ⟨.readRuntimeScope rfl hscope, fun _ _ _ _ hawaits ↦ ?_⟩ ?_
    · cases hphase.symm.trans hawaits.1
    · exact .single (.of_step (.readRecord rfl decode_sampleRecord hbindings))
  have hlease : Leased { leased with
      holder := some (.guarded (.commit sampleCommit) sampleRecord.bindings) } sampleRecord :=
    ⟨l, hl, hid⟩
  exact ⟨_, _, hguarded, rfl, List.mem_singleton_self _, hlease,
    collection_spares_operations hguarded rfl (calm 2) (List.mem_singleton_self _) .refl hlease⟩

end Sample

end CfwRs.WindowsLifecycle
