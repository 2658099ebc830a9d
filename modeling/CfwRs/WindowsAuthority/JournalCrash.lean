import CfwRs.WindowsAuthority.JournalAppend

namespace CfwRs.WindowsAuthority.WindowsAuthorityJournal

open Lib Lib.Checked Lib.Durable JournalCodec Storage

variable {j : WindowsAuthorityJournal} {s : Storage} {v : JournalView}
  {state next : AuthorityCommittedState} {P : Option AuthorityCommittedState → Prop}
  {prior final : Option AuthorityCommittedState} {fresh : Uuid}
variable {P' : Option AuthorityCommittedState → Prop} {cursor : JournalCursor}
  {position : Option JournalCursor}

theorem LeadsTo.mono (h : LeadsTo j.serde P v) (hP : ∀ x, P x → P' x) : LeadsTo j.serde P' v := by
  cases h with
  | settled h hp => exact .settled h (hP _ hp)
  | announced h files hp => exact .announced h files (hP _ hp)
  | underway h progress hs =>
    refine .underway h ?_ (hP _ hs)
    cases progress with
    | unpublished files temp_eq hreturnable => exact .unpublished files temp_eq (hP _ hreturnable)
    | published files temp_eq head_eq headTemp_eq => exact .published files temp_eq head_eq headTemp_eq

theorem leadsTo_mono (h : On (LeadsTo j.serde P) s) (hP : ∀ x, P x → P' x) :
    On (LeadsTo j.serde P') s := by
  obtain ⟨v, hs, h⟩ := h
  exact ⟨v, hs, h.mono hP⟩

/-- What an append that is given up at any point leaves: the history before it, that history
compacted, or the one that it was to commit. -/
def Outcome (prior : Option AuthorityCommittedState) (next : AuthorityCommittedState)
    (final : Option AuthorityCommittedState) : Prop :=
  final = prior ∨ (∃ state record, prior = some state ∧ state.checkpoint = .ok record ∧
    final = some record) ∨ final = some next

def Ready (prior : Option AuthorityCommittedState) : Prop := ∀ state ∈ prior, Restartable state

theorem Restartable.checkpoint {record} (h : Restartable state)
    (hc : state.checkpoint = .ok record) : Restartable record := by
  obtain ⟨-, rfl⟩ := checkpoint_eq_ok hc
  obtain ⟨action, ha⟩ := h
  unfold Restartable
  simp only [AuthorityCommittedState.action] at ha ⊢
  cases hs : state.state <;> simp_all

theorem Ready.outcome (h : Ready prior) (hn : Restartable next) (ho : Outcome prior next final) :
    Ready final := by
  rcases ho with rfl | ⟨state, record, rfl, hrecord, rfl⟩ | rfl
  · exact h
  · exact ((h state rfl).checkpoint hrecord).ready
  · exact hn.ready

/-- An append ends in storage that stands for one of its outcomes, and at rest with its own state if
it returns. -/
theorem append_wp (h : On (LeadsTo j.serde P) s) (hP : ∀ x, P x → Ready x) :
    (j.append fresh next).wp (On (LeadsTo j.serde fun x ↦ ∃ prior, P prior ∧ Outcome prior next x))
      (keeps (On (LeadsTo j.serde fun x ↦ ∃ prior, P prior ∧ Outcome prior next x))
        fun cursor t ↦ On (fun w ↦ Rested j.serde w (some next) (some cursor)) t) s := by
  have hweak : ∀ x, P x → ∃ prior, P prior ∧ Outcome prior next x := fun x hx ↦ ⟨x, hx, .inl rfl⟩
  refine lifted_bind_keeps (leadsTo_mono h hweak) fun _ hvalid ↦ ?_
  rw [wp_bind]
  refine wp_mono (recoverLocked_wp h fun state hp ↦ hP _ hp state rfl)
    (fun _ ht ↦ leadsTo_mono ht hweak) ?_
  rintro r t ⟨recovery, w, rfl, ht, hw, hp, -⟩
  rw [after_ok]
  have hstart : On (LeadsTo j.serde fun x ↦ ∃ prior, P prior ∧ Outcome prior next x) t :=
    ⟨w, ht, .settled hw.settled (hweak _ hp)⟩
  have hnext : ∃ prior, P prior ∧ Outcome prior next (some next) := ⟨_, hp, .inr (.inr rfl)⟩
  cases hcheck : checkAppend next recovery.committed with
  | error e =>
    rw [appendRecovered, hcheck]
    exact lifted_bind_keeps hstart fun _ h ↦ by cases h
  | ok =>
    generalize recovery.committed = before at *
    generalize recovery.cursor = position at *
    have hdone {u x storeId cursor journal} (hu : Shows u x)
        (hx : Committed j.serde x storeId cursor [] journal next) :
        On (LeadsTo j.serde fun x ↦ ∃ prior, P prior ∧ Outcome prior next x) u ∧
          On (fun w ↦ Rested j.serde w (some next) (some cursor)) u :=
      ⟨⟨x, hu, .settled (.committed hx) hnext⟩, x, hu, .committed hx⟩
    cases hw with
    | untouched anchor_eq no_files =>
      exact appendFirst_wp ht (.untouched anchor_eq no_files) ⟨_, hp, .inl rfl⟩ hvalid
        (require_eq_ok.mp hcheck) hnext fun _ _ _ _ _ hu hx _ ↦ hdone hu hx
    | marked anchor_eq tidy =>
      exact appendFirst_wp ht (.marked anchor_eq tidy) ⟨_, hp, .inl rfl⟩ hvalid
        (require_eq_ok.mp hcheck) hnext fun _ _ _ _ _ hu hx _ ↦ hdone hu hx
    | committed hc =>
      exact appendNext_wp ht hc hcheck ⟨_, hp, .inl rfl⟩
        (fun record hrecord ↦ ⟨_, hp, .inr (.inl ⟨_, record, rfl, hrecord, rfl⟩)⟩) hnext
        (fun _ _ ↦ hstart) (fun _ _ h ↦ h) fun _ _ _ _ _ hu hx _ ↦ hdone hu hx

variable (j) in
def RestsAt (prior : Option AuthorityCommittedState) (position : Option JournalCursor) : Storage → Prop :=
  On fun w ↦ Rested j.serde w prior position

theorem RestsAt.recover (h : RestsAt j prior position s) (hr : Ready prior) :
    ∃ recovery, (j.recover s).result = .ok recovery ∧ recovery.committed = prior ∧
      recovery.cursor = position := by
  obtain ⟨v, hs, h⟩ := h
  obtain ⟨recovery, hcommitted, hcursor, -, hwp⟩ := wp_recoverLocked_rested hs h hr
  have hrecovery : j.recoverLocked.wp (fun _ ↦ True) (fun r _ ↦ r = .ok recovery) s := (hwp _ _).mpr rfl
  exact ⟨recovery, hrecovery.2, hcommitted, hcursor⟩

theorem wp_append_rested (hs : s.Shows v) (h : Rested j.serde v prior position) (hr : Ready prior)
    (hvalid : next.validate = .ok ()) {C : Storage → Prop}
    {Q : Except JournalStoreError JournalCursor → Storage → Prop} :
    (j.append fresh next).wp C Q s ↔ (j.appendRecovered fresh prior next).wp C Q s := by
  obtain ⟨recovery, rfl, -, -, hwp⟩ := wp_recoverLocked_rested hs h hr
  rw [append, validating, hvalid, wp_bind, wp_attempt, mapError_ok, after_ok, wp_bind, hwp, after_ok]

theorem append_returns_first (fresh : Uuid) (h : RestsAt j none none s)
    (hvalid : next.validate = .ok ()) (henroll : next.transition = .enrollOff) :
    ∃ cursor, (j.append fresh next s).result = .ok cursor ∧
      (cursor.sequence = 1 ∧ cursor.generation = 1) ∧
      RestsAt j (some next) (some cursor) ((j.append fresh next).final s) := by
  obtain ⟨v, hs, h⟩ := h
  have hwp : (j.append fresh next).wp (On (LeadsTo j.serde fun _ ↦ True)) (fun r t ↦
      ∃ cursor, r = .ok cursor ∧ (cursor.sequence = 1 ∧ cursor.generation = 1) ∧
        RestsAt j (some next) (some cursor) t) s := by
    rw [wp_append_rested hs h (by rintro _ ⟨⟩) hvalid]
    refine appendFirst_wp hs h trivial hvalid henroll trivial fun t w storeId cursor journal ht hw h1 ↦ ?_
    exact ⟨cursor, rfl, h1, w, ht, .committed hw⟩
  exact hwp.2

theorem append_returns (fresh : Uuid) (h : RestsAt j (some state) (some cursor) s)
    (hr : Restartable state) (hnext : next.validateSuccessor state = .ok ())
    (hlt : cursor.sequence < j.recordCapacity) (hroom : Begins next →
      cursor.sequence.toNat + Limits.lifecycleFinishReserve ≤ j.recordCapacity.toNat) :
    ∃ cursor', (j.append fresh next s).result = .ok cursor' ∧
      checkedSucc cursor.sequence = some cursor'.sequence ∧ cursor'.generation = cursor.generation ∧
      RestsAt j (some next) (some cursor') ((j.append fresh next).final s) := by
  obtain ⟨v, hs, h⟩ := h
  have hwp : (j.append fresh next).wp (On (LeadsTo j.serde fun _ ↦ True)) (fun r t ↦
      ∃ cursor', r = .ok cursor' ∧ checkedSucc cursor.sequence = some cursor'.sequence ∧
        cursor'.generation = cursor.generation ∧ RestsAt j (some next) (some cursor') t) s := by
    rw [wp_append_rested hs h hr.ready (AuthorityCommittedState.valid_of_successor hnext)]
    cases h with
    | committed hc =>
      have hkept := not_compacts hc.endsAt hroom
      refine appendNext_wp hs hc hnext trivial (fun _ _ ↦ trivial) trivial
        (fun hcompacts ↦ absurd hcompacts hkept) (fun hfull ↦ absurd hlt (UInt64.not_lt.mpr hfull))
        fun t w storeId cursor' journal' ht hw hsequence ↦ ?_
      obtain hcompacts | ⟨-, hsucc, hgeneration⟩ := hsequence
      · exact absurd hcompacts hkept
      · exact ⟨cursor', rfl, hsucc, hgeneration, w, ht, .committed hw⟩
  exact hwp.2

def appendAll (j : WindowsAuthorityJournal) (fresh : Uuid) (states : List AuthorityCommittedState)
    (s : Storage) : Storage :=
  states.foldl (fun s state ↦ (j.append fresh state).final s) s

theorem RestsAt.appendAll (fresh : Uuid) (states)
    (h : RestsAt j (some state) (some cursor) s) (hr : ∀ x ∈ state :: states, Restartable x)
    (hchain : (state :: states).IsChain fun prior next ↦ next.validateSuccessor prior = .ok ())
    (hroom : cursor.sequence.toNat + states.length + Limits.lifecycleFinishReserve ≤
      j.recordCapacity.toNat) : ∃ last cursor', (state :: states).getLast? = some last ∧
      cursor'.sequence.toNat = cursor.sequence.toNat + states.length ∧
      RestsAt j (some last) (some cursor') (appendAll j fresh states s) := by
  induction states generalizing s state cursor with
  | nil => exact ⟨state, cursor, rfl, rfl, h⟩
  | cons next states ih =>
    have hreserve : Limits.lifecycleFinishReserve = 7 := rfl
    obtain ⟨hnext, hchain⟩ := List.isChain_cons_cons.mp hchain
    obtain ⟨hstate, hrest⟩ := List.forall_mem_cons.mp hr
    rw [List.length_cons] at hroom
    obtain ⟨cursor', -, hsucc, -, hnext⟩ := append_returns fresh h hstate hnext
      (UInt64.lt_iff_toNat_lt.mpr (by omega)) fun _ ↦ by omega
    obtain ⟨hlt, heq⟩ := checkedSucc_eq_some.mp hsucc
    have hsequence := toNat_add_one hlt
    rw [heq] at hsequence
    obtain ⟨last, cursor'', hlast, hcount, hrests⟩ := ih hnext hrest hchain (by omega)
    refine ⟨last, cursor'', ?_, ?_, hrests⟩
    · rw [List.getLast?_cons_cons]
      exact hlast
    · rw [List.length_cons]
      omega

variable (j) in
/-- The last states that a recovery from `s` may find, whether or not others were interrupted before
it. Storage at rest has one; a record whose temporary was complete may be found or given up. -/
def Previous (s : Storage) (prior : Option AuthorityCommittedState) : Prop :=
  ∃ t recovery, Interrupted j.recover s t ∧ (j.recover t).result = .ok recovery ∧
    recovery.committed = prior

theorem recovers (h : On (LeadsTo j.serde P) s) (hP : ∀ x, P x → Ready x) :
    ∃ recovery, (j.recover s).result = .ok recovery ∧ P recovery.committed := by
  have hwp : j.recover.wp _ _ s := recoverLocked_wp h fun state hp ↦ hP _ hp state rfl
  obtain ⟨-, recovery, w, hresult, -, -, hp, -⟩ := hwp
  exact ⟨recovery, hresult, hp⟩

theorem Previous.ready (h : Previous j s prior) (hs : On (LeadsTo j.serde Ready) s) : Ready prior := by
  obtain ⟨t, recovery, hinterrupted, hresult, rfl⟩ := h
  have ht : On (LeadsTo j.serde Ready) t :=
    hinterrupted.of_wp hs fun _ hu ↦ recoverLocked_wp hu fun state hp ↦ hp state rfl
  obtain ⟨found, hfound, hready⟩ := recovers ht fun _ h ↦ h
  cases hresult.symm.trans hfound
  exact hready

theorem previous_of_interrupted {t} (ht : Interrupted j.recover s t)
    (h : On (LeadsTo j.serde (· = prior)) t) (hr : Ready prior) : Previous j s prior := by
  obtain ⟨recovery, hresult, hprior⟩ := recovers h fun _ hx ↦ hx ▸ hr
  exact ⟨t, recovery, ht, hresult, hprior⟩

section Staged

variable {anchor : JournalAnchor} {pending : JournalCursor} {old : Option (Bytes × JournalCursor)}
  {others : List UInt64} {journal : Bytes}
  (hs : s.Shows v) (h : Pending j.serde v anchor pending old others journal prior state)
  (files : Files v pending.generation (old.map (·.1)) (some journal) (old.map (·.2.text)) none)
include hs h files

/-- Recovery with a complete temporary writes it anew: once with the temporary gone and once with the
journal published, a crash may end it. -/
theorem recover_visits_of_staged {C} (hwp : j.recover.wp C (fun _ _ ↦ True) s) :
    let removed := v.remove (.temporary (.journal pending.generation))
    (∃ t, C t ∧ t.Shows removed) ∧
      ∃ t, C t ∧ t.Shows (removed.put (.record (.journal pending.generation)) journal) := by
  intro removed
  have hsome : anchor.pending.isSome = true := by rw [h.pending_eq, Option.isSome_some]
  obtain ⟨previous, hcheck, hsettle⟩ := wp_recoverPending_staged hs h (by simp) files
  have hremove : removed.files (.temporary (.journal pending.generation)) = none := by
    rw [JournalView.files_remove, if_pos rfl]
  have hold : ∀ b ∈ removed.files (.record (.journal pending.generation)),
      b.length ≤ Limits.maxJournalBytes := by
    rw [files.remove_journalTemp.journal_eq]
    exact h.old_length
  have hfile : v.files (.temporary (.journal pending.generation)) ≠ none := by
    rw [files.journalTemp_eq]
    simp
  rw [recover, wp_recoverLocked_tidy hs h.anchor_eq h.tidy (Nat.succ_le_succ h.others_lt.2),
    settlePending, if_pos hsome, wp_bind, hsettle] at hwp
  simp only [settleCandidate, validating, h.endsAt.decodes, h.endsAt.verifyCursor, hcheck, wp_run,
    completePending, discardTemporary, Option.isSome_some, if_true, removeTemporary,
    wp_unlinkManagedEntry hs hfile, wp_publishFile hs.remove h.endsAt.length_le hold hremove] at hwp
  exact ⟨⟨_, hwp.1, hs.remove⟩, _, hwp.2.2.1, hs.remove.publish hremove⟩

theorem staged_previous (hprior : Ready prior) (hstate : Ready (some state)) :
    Previous j s prior ∧ Previous j s (some state) := by
  have hremove : Pending j.serde (v.remove (.temporary (.journal pending.generation))) anchor pending
      old others journal prior state := h.remove h.generation_journal
  have hfiles := files.remove_journalTemp
  -- A crash that recovery may not avoid: every set of stores that it stays in has a member like this.
  have hcrash : ∀ w : JournalView, (∀ C : Storage → Prop, j.recover.wp C (fun _ _ ↦ True) s →
      ∃ t, C t ∧ t.Shows w) → ∃ t, Crash j.recover s t ∧ t.Shows w := by
    intro w hvisits
    obtain ⟨t, ht, hshows⟩ := exists_crash (C := fun t : Storage ↦ ¬t.Shows w) fun hwp ↦ by
      obtain ⟨t, hnot, hshows⟩ := hvisits _ hwp
      exact hnot hshows
    exact ⟨t, ht, Classical.not_not.mp hshows⟩
  obtain ⟨t, ht, hshows⟩ := hcrash _ fun C hwp ↦ (recover_visits_of_staged hs h files hwp).1
  obtain ⟨u, hu, hshows'⟩ := hcrash _ fun C hwp ↦ (recover_visits_of_staged hs h files hwp).2
  constructor
  · exact previous_of_interrupted (.single ht) ⟨_, hshows, .announced hremove hfiles rfl⟩ hprior
  · refine previous_of_interrupted (.single hu) ⟨_, hshows', .underway
      (hremove.put h.generation_journal)
      (.published hfiles.put_journal (by simp) (.inl rfl) (by simp)) rfl⟩ hstate

end Staged

theorem leadsTo_previous (h : On (LeadsTo j.serde Ready) s) : On (LeadsTo j.serde (Previous j s)) s := by
  obtain ⟨v, hs, h⟩ := h
  refine ⟨v, hs, ?_⟩
  cases h with
  | settled h hp => exact .settled h (previous_of_interrupted .refl ⟨v, hs, .settled h rfl⟩ hp)
  | announced h files hp =>
    exact .announced h files (previous_of_interrupted .refl ⟨v, hs, .announced h files rfl⟩ hp)
  | underway h progress hstate =>
    cases progress with
    | published files temp_eq head_eq headTemp_eq =>
      have hprevious := previous_of_interrupted .refl ⟨v, hs, .underway h
        (.published files temp_eq head_eq headTemp_eq) rfl⟩ hstate
      exact .underway h (.published files temp_eq head_eq headTemp_eq) hprevious
    | @unpublished journalTemp files temp_eq hprior =>
      cases hj : journalTemp with
      | none =>
        rw [hj] at files
        exact .announced h files (previous_of_interrupted .refl ⟨v, hs, .announced h files rfl⟩ hprior)
      | some b =>
        obtain rfl := temp_eq b hj
        rw [hj] at files
        obtain ⟨hbefore, hafter⟩ := staged_previous hs h files hprior hstate
        exact .underway h (.unpublished files (by simp) hbefore) hafter

variable (j) in
/-- The storage that appends and recoveries may come to, whether they complete or not, from storage
with a valid history. -/
inductive Reached : Storage → Prop
  | settled {s : Storage} {v : JournalView} {prior : Option AuthorityCommittedState} (hs : s.Shows v)
      (h : Settled j.serde v prior) (hr : Ready prior) : Reached s
  | append {s t fresh state} (h : Reached s)
      (hr : Restartable state) (hc : Crash (j.append fresh state) s t) : Reached t
  | recover {s t : Storage} (h : Reached s) (hc : Crash j.recover s t) : Reached t

theorem Reached.leadsTo (h : Reached j s) : On (LeadsTo j.serde Ready) s := by
  induction h with
  | settled hs h hr => exact ⟨_, hs, .settled h hr⟩
  | append _ hr hc ih =>
    have hcrash := hc.of_wp (leadsTo_mono ih fun x hx ↦ ⟨x, hx, .inl rfl⟩) (append_wp ih fun _ h ↦ h)
    exact leadsTo_mono hcrash fun _ ⟨_, hready, ho⟩ ↦ hready.outcome hr ho
  | recover _ hc ih => exact hc.of_wp ih (recoverLocked_wp ih fun state hp ↦ hp state rfl)

/-- However often an append and the recoveries after it are interrupted, the recovery that completes
finds the history before the append, that history compacted, or the one the append was to commit, and
it finds the last if the append had returned. -/
theorem append_survives_crashes (h : Reached j s) (hr : Restartable next) {t u : Storage}
    (hcrash : Crash (j.append fresh next) s t) (hrecover : Interrupted j.recover t u) :
    ∃ recovery, (j.recover u).result = .ok recovery ∧
      (∃ prior, Previous j s prior ∧ Outcome prior next recovery.committed) ∧
      ∀ cursor, (j.append fresh next s).result = .ok cursor → t = (j.append fresh next).final s →
        recovery.committed = some next := by
  have hprevious := leadsTo_previous h.leadsTo
  have hready : ∀ x, Previous j s x → Ready x := fun x hx ↦ hx.ready h.leadsTo
  have happend : (j.append fresh next).wp _ _ s := append_wp hprevious hready
  have houtcome : ∀ x, (∃ prior, Previous j s prior ∧ Outcome prior next x) → Ready x :=
    fun x ⟨prior, hprior, ho⟩ ↦ (hready prior hprior).outcome hr ho
  have hfinish : ∀ P : Option AuthorityCommittedState → Prop, (∀ x, P x → Ready x) →
      On (LeadsTo j.serde P) t → On (LeadsTo j.serde P) u := fun P hP ht ↦
    hrecover.of_wp ht fun _ hs ↦ recoverLocked_wp hs fun state hp ↦ hP _ hp state rfl
  have ht := hcrash.of_wp (leadsTo_mono hprevious fun x hx ↦ ⟨x, hx, .inl rfl⟩) happend
  obtain ⟨recovery, hresult, hfound⟩ := recovers (hfinish _ houtcome ht) houtcome
  refine ⟨recovery, hresult, hfound, fun cursor hreturned hfinal ↦ ?_⟩
  have hnext : ∀ x, x = some next → Ready x := fun _ heq ↦ heq ▸ hr.ready
  have hkept := happend.2
  rw [hreturned, ← hfinal] at hkept
  obtain ⟨-, w, hw, hrested⟩ := hkept
  obtain ⟨found, hfound', heq⟩ :=
    recovers (hfinish (· = some next) hnext ⟨w, hw, .settled hrested.settled rfl⟩) hnext
  rw [Except.ok.inj (hresult.symm.trans hfound')]
  exact heq

theorem Reached.appendAll {states} (h : Reached j s)
    (hr : ∀ state ∈ states, Restartable state) : Reached j (appendAll j fresh states s) := by
  induction states generalizing s with
  | nil => exact h
  | cons state states ih =>
    obtain ⟨hstate, hrest⟩ := List.forall_mem_cons.mp hr
    exact ih (.append h hstate crash_final) hrest

theorem recover_fails {e} (h : RestsAt j (some state) position s)
    (he : state.restartAction = .error e) : (j.recover s).result = .error (.validation e) := by
  obtain ⟨v, hs, h⟩ := h
  cases h with
  | @committed storeId cursor journal _ h =>
    have hwp : j.recover.wp (fun _ ↦ True) (fun r _ ↦ r = .error (.validation e)) s := by
      rw [recover, wp_recoverLocked_tidy hs h.anchor_eq h.tidy (Nat.le_succ 1),
        settlePending_settledAnchor]
      simp [recoverSettled, validating, wp_readCommitted hs h.files h.endsAt, he, Except.mapError]
    exact hwp.2

section Samples

def freshStorage : Storage where
  files := ∅
  registry := .ok none

theorem restsAt_freshStorage : RestsAt j none none freshStorage :=
  ⟨⟨fun _ ↦ none, none⟩, ⟨fun name ↦ AList.lookup_empty name, rfl, by simp⟩, .untouched rfl fun _ ↦ rfl⟩

noncomputable def sampleJournal : WindowsAuthorityJournal where
  serde := .canonical
  enumerate names := names
  enumerate_perm names := .refl names
  recordCapacity := .ofNat Limits.maxRecords
  reserve_le := by decide
  le_maxRecords := by decide

def sampleEnrolled : AuthorityCommittedState := .enrollment (.fill 16 1)

def sampleReserved : AuthorityCommittedState :=
  { sampleEnrolled with allocatedGeneration := 1, revision := 2, transition := .reserveGeneration }

def samplePrepared : AuthorityCommittedState where
  schemaVersion := 6
  root := { epoch := 1, generation := 1, installationId := .fill 16 1 }
  allocatedGeneration := 1
  revision := 3
  transition := .prepare
  state := .preparing
  operation := some
    { operationId := .fill 16 2, mode := .localProxy, configSha256 := .fill 32 3
      identitySha256 := .fill 32 4, leaseId := .fill 16 6
      owner := { sid := [1, 0, 0, 0, 0, 0, 0, 5], authenticationId := 1, sessionId := 1 } }

def sampleRecovering : AuthorityCommittedState :=
  { samplePrepared with revision := 4, transition := .reconcileOff, state := .recovering }

/-- The storage of a run that is interrupted after its preparation. -/
noncomputable def preparedStorage : Storage :=
  appendAll sampleJournal (.fill 16 9) [sampleEnrolled, sampleReserved, samplePrepared] freshStorage

theorem reached_preparedStorage : Reached sampleJournal preparedStorage := by
  obtain ⟨v, hs, h⟩ := restsAt_freshStorage
  refine (Reached.settled hs h.settled (by rintro _ ⟨⟩)).appendAll ?_
  simp only [List.forall_mem_cons, List.not_mem_nil, false_implies, implies_true, and_true]
  exact ⟨⟨_, rfl⟩, ⟨_, rfl⟩, ⟨_, rfl⟩⟩

theorem restsAt_preparedStorage : ∃ cursor, cursor.sequence = 3 ∧
    RestsAt sampleJournal (some samplePrepared) (some cursor) preparedStorage := by
  have henrolled : sampleEnrolled.validate = .ok () := by decide
  obtain ⟨cursor, -, ⟨hone, -⟩, hfirst⟩ :=
    append_returns_first (j := sampleJournal) (.fill 16 9) restsAt_freshStorage henrolled rfl
  have hready : ∀ x ∈ [sampleEnrolled, sampleReserved, samplePrepared], Restartable x := by
    simp only [List.forall_mem_cons, List.not_mem_nil, false_implies, implies_true, and_true]
    exact ⟨⟨_, rfl⟩, ⟨_, rfl⟩, ⟨_, rfl⟩⟩
  have hchain : [sampleEnrolled, sampleReserved, samplePrepared].IsChain
      fun prior next ↦ next.validateSuccessor prior = .ok () := by
    decide
  obtain ⟨last, cursor', hlast, hcount, hrests⟩ :=
    hfirst.appendAll (.fill 16 9) [sampleReserved, samplePrepared] hready hchain (by rw [hone]; decide)
  obtain rfl := Option.some.inj hlast
  refine ⟨cursor', UInt64.toNat_inj.mp ?_, ?_⟩
  · rw [hcount, hone]
    rfl
  · exact hrests

theorem enrollment_survives_crashes :
    ∃ recovery, (sampleJournal.recover ((sampleJournal.append (.fill 16 9) sampleEnrolled).final
        freshStorage)).result = .ok recovery ∧ recovery.committed = some sampleEnrolled := by
  have henrolled : sampleEnrolled.validate = .ok () := by decide
  have hready : Restartable sampleEnrolled := ⟨_, rfl⟩
  obtain ⟨v, hs, h⟩ := restsAt_freshStorage
  obtain ⟨cursor, hreturned, -⟩ :=
    append_returns_first (.fill 16 9) ⟨v, hs, h⟩ henrolled rfl
  obtain ⟨recovery, hresult, -, hfound⟩ := append_survives_crashes
    (.settled hs h.settled (by rintro _ ⟨⟩)) hready crash_final .refl
  exact ⟨recovery, hresult, hfound cursor hreturned rfl⟩

/-- Nothing is interrupted here, and still recovery fails after the append. -/
theorem unrestartable_state_unrecoverable :
    let append := sampleJournal.append (.fill 16 9) sampleRecovering
    Reached sampleJournal preparedStorage ∧ Previous sampleJournal preparedStorage (some samplePrepared) ∧
      sampleRecovering.validateSuccessor samplePrepared = .ok () ∧
      (∃ cursor, (append preparedStorage).result = .ok cursor) ∧
      (sampleJournal.recover (append.final preparedStorage)).result =
        .error (.validation .invalidState) := by
  obtain ⟨cursor, hthree, hrests⟩ := restsAt_preparedStorage
  have hsuccessor : sampleRecovering.validateSuccessor samplePrepared = .ok () := by decide
  have hprepared : Restartable samplePrepared := ⟨_, rfl⟩
  have hlt : cursor.sequence < sampleJournal.recordCapacity := by
    rw [hthree]
    decide
  obtain ⟨cursor', hreturned, -, -, hafter⟩ := append_returns (.fill 16 9) hrests hprepared hsuccessor hlt
    fun hbegins ↦ absurd hbegins (by decide)
  obtain ⟨v, hs, h⟩ := hrests
  refine ⟨reached_preparedStorage, ?_, hsuccessor, ⟨cursor', hreturned⟩,
    recover_fails hafter (by decide)⟩
  exact previous_of_interrupted .refl ⟨v, hs, .settled h.settled rfl⟩ hprepared.ready

end Samples

end CfwRs.WindowsAuthority.WindowsAuthorityJournal
