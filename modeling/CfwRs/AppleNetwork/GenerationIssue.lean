import CfwRs.AppleNetwork.GenerationStore

namespace CfwRs.AppleNetwork

open Lib.Checked Relation Revisions Function

variable {Rev Call : Type}

def Shared.withCache (s : Shared Rev) (cache : Option LineageBytes) : Shared Rev :=
  { s with cache := cache }

/-- `replacement` is `current` with the next generation. -/
structure Replaces (S : Revisions Rev) (current replacement : AuthorityRecord Rev)
    (d : LineageDocument) (next : UInt64) : Prop where
  current : current = S.recordOf (.canonical d)
  bound : d.generation.toNat + 1 < UInt64.size
  next_eq : next = d.generation + 1
  replacement : replacement = S.recordOf (.canonical { d with generation := next })

variable {S : Revisions Rev}

theorem Replaces.lt {current replacement d next} (h : Replaces S current replacement d next) : d.generation < next := by
  have hbound := h.bound
  rw [h.next_eq, UInt64.lt_iff_toNat_lt, UInt64.toNat_add]
  simp only [UInt64.reduceToNat, UInt64.size] at hbound ⊢
  omega

def Next.WellFormed (S : Revisions Rev) : Next Rev → Prop
  | .exchange current replacement next => ∃ d, Replaces S current replacement d next
  | _ => True

def Phase.WellFormed (S : Revisions Rev) : Phase Rev → Prop
  | .caching _ next => next.WellFormed S
  | .writing _ next => next.WellFormed S
  | .exchanging current replacement next => ∃ d, Replaces S current replacement d next
  | .creating candidate => ∃ bytes, candidate = S.recordOf bytes
  | _ => True

def Phase.Owns : Phase Rev → UInt64 → Prop
  | .finished (.ok (.generation value)), g => value = g
  | .reading (.recovering _ next _ true), g => next = g
  | .matching (.recovering _ next _ true) _, g => next = g
  | _, _ => False

/-- A call takes the write of another for its own: its exchange had no effect, and it succeeds. -/
def Phase.Mistakes (before after : Phase Rev) : Prop :=
  (∃ replacement next writeError bytes,
    before = .matching (.recovering replacement next writeError false) bytes) ∧
  ∃ reply, after = .finished (.ok reply)

/-- The item changes by its creation, and by exchanges for its next generation. -/
inductive Evolves (S : Revisions Rev) :
    Option (AuthorityRecord Rev) → Option (AuthorityRecord Rev) → Prop
  | same (item : Option (AuthorityRecord Rev)) : Evolves S item item
  | created (bytes : LineageBytes) : Evolves S none (some (S.recordOf bytes))
  | exchanged {current replacement d next}
      (h : Replaces S current replacement d next) : Evolves S (some current) (some replacement)

def Grows (S : Revisions Rev) (before after : Option (AuthorityRecord Rev)) : Prop :=
  ∀ d, before = some (S.recordOf (.canonical d)) → ∃ d',
    after = some (S.recordOf (.canonical d')) ∧ d.generation ≤ d'.generation ∧
      d'.installationId = d.installationId ∧ d'.configEpoch = d.configEpoch

/-- One step of a call: it comes to own a generation only by the exchange of the item for it, or by
taking the write of another for its own. -/
inductive Moves (S : Revisions Rev) (before after : Phase Rev) :
    Option (AuthorityRecord Rev) → Option (AuthorityRecord Rev) → Prop
  | kept (item : Option (AuthorityRecord Rev))
      (h : ∀ g, after.Owns g → before.Owns g ∨ before.Mistakes after) : Moves S before after item item
  | created (bytes : LineageBytes) (h : ∀ g, ¬after.Owns g) :
      Moves S before after none (some (S.recordOf bytes))
  | exchanged {current replacement d next}
      (h : Replaces S current replacement d next) (howns : ∀ g, after.Owns g → g = next) :
      Moves S before after (some current) (some replacement)

theorem Moves.evolves {before after item item'}
    (h : Moves S before after item item') : Evolves S item item' := by
  cases h with
  | kept item => exact .same item
  | created bytes => exact .created bytes
  | exchanged h => exact .exchanged h

/-- A phase in which the call owns no generation. -/
def Phase.Free (S : Revisions Rev) (phase : Phase Rev) : Prop :=
  phase.WellFormed S ∧ ∀ g, ¬phase.Owns g

theorem Phase.Free.kept {before after} (h : after.Free S)
    (item : Option (AuthorityRecord Rev)) : after.WellFormed S ∧ Moves S before after item item :=
  ⟨h.1, .kept item fun g hown ↦ absurd hown (h.2 g)⟩

theorem Evolves.labelled {before after} (h : Evolves S before after)
    (hbefore : ∀ record ∈ before, ∃ bytes, record = S.recordOf bytes) :
    ∀ record ∈ after, ∃ bytes, record = S.recordOf bytes := by
  intro record hrecord
  cases h with
  | same => exact hbefore record hrecord
  | created bytes => exact ⟨bytes, (Option.some.inj hrecord).symm⟩
  | exchanged hreplaces => exact ⟨_, (Option.some.inj hrecord).symm.trans hreplaces.replacement⟩

theorem Grows.trans {a b c} (h : Grows S a b) (h' : Grows S b c) : Grows S a c := by
  intro d hd
  obtain ⟨d', hd', hle, hid, hepoch⟩ := h d hd
  obtain ⟨d'', hd'', hle', hid', hepoch'⟩ := h' d' hd'
  exact ⟨d'', hd'', UInt64.le_trans hle hle', hid'.trans hid, hepoch'.trans hepoch⟩

namespace Revisions

variable {S : Revisions Rev} {operation : Operation} {event : Event}

theorem recordOf_injective : Function.Injective S.recordOf := by
  intro a b h
  exact congrArg AuthorityRecord.bytes h

theorem grows_of_evolves {before after} (h : Evolves S before after) : Grows S before after := by
  intro d hd
  cases h with
  | same => exact ⟨d, hd, UInt64.le_refl _, rfl, rfl⟩
  | created bytes => cases hd
  | @exchanged current replacement d' next h =>
    have hsame := recordOf_injective (h.current.symm.trans (Option.some.inj hd))
    cases hsame
    exact ⟨_, congrArg some h.replacement, UInt64.le_of_lt h.lt, rfl, rfl⟩

variable {c : Except GenerationStoreError Unit} {d : LineageDocument} {error : GenerationStoreError}
  {next : Next Rev} {record : AuthorityRecord Rev} {uuid : BitVec 128}

theorem eq_of_fromDocument (h : S.fromDocument d = .ok record) :
    record = S.recordOf (.canonical d) := by
  obtain ⟨bytes, hbytes, h⟩ := bind_eq_ok.mp h
  obtain ⟨-, -, hbytes⟩ := bind_eq_ok.mp hbytes
  rw [← Except.ok.inj h, ← Except.ok.inj hbytes]

theorem of_checkedAdd {n next} (h : checkedAdd n = .ok next) :
    n.toNat + 1 < UInt64.size ∧ next = n + 1 := by
  rw [checkedAdd, unwrap_eq_ok] at h
  split at h
  · next hlt => exact ⟨hlt, (Option.some.inj h).symm⟩
  · cases h

variable {bytes : LineageBytes} {g : UInt64} {phase : Phase Rev} {purpose : Purpose Rev}
  {s : Shared Rev}

theorem free_finished : (Phase.finished (.error error) : Phase Rev).Free S := ⟨trivial, fun _ ↦ id⟩

theorem free_unread : (Phase.unread error purpose).Free S := by
  cases purpose <;> exact free_finished

theorem free_absent : (S.absent uuid purpose).Free S := by
  cases purpose with
  | initial =>
    rw [absent]
    cases h : S.fromDocument (.new uuid) with
    | error e => exact free_finished
    | ok record => exact ⟨⟨_, eq_of_fromDocument h⟩, fun _ ↦ id⟩
  | _ => exact free_finished

theorem free_resume (h : next.WellFormed S) : (resume operation next c).Free S := by
  cases next with
  | exchange current replacement value =>
    cases c with
    | error e => exact free_finished
    | ok _ => exact ⟨h, fun _ ↦ id⟩
  | reportConflict actual =>
    cases c with
    | error e => exact free_finished
    | ok _ => cases operation <;> exact free_finished
  | _ => cases c <;> exact ⟨trivial, fun _ ↦ id⟩

theorem eq_of_labelled {item current} (hitem : ∀ record ∈ item, ∃ bytes, record = S.recordOf bytes)
    (hcurrent : current = S.recordOf bytes) (h : Labelled item current) : item = some current := by
  obtain ⟨record, hrecord, hrevision⟩ := Option.map_eq_some_iff.mp h
  obtain ⟨bytes', rfl⟩ := hitem record hrecord
  rw [hrecord, hcurrent]
  rw [hcurrent] at hrevision
  exact congrArg (some ∘ S.recordOf) (S.injective hrevision)

variable [DecidableEq Rev]

theorem document_recordOf (h : S.document (S.recordOf bytes) = .ok d) : bytes = .canonical d := by
  obtain ⟨-, -, h⟩ := bind_eq_ok.mp h
  cases bytes with
  | canonical d' =>
    obtain ⟨-, -, h⟩ := bind_eq_ok.mp h
    exact congrArg LineageBytes.canonical (Except.ok.inj h)
  | other e => cases h

theorem free_begin : (settled (S.begin operation (S.recordOf bytes))).Free S := by
  cases hbegin : S.begin operation (S.recordOf bytes) with
  | error e => exact free_finished
  | ok phase =>
    obtain ⟨d, hdocument, h⟩ := bind_eq_ok.mp hbegin
    cases document_recordOf hdocument
    cases operation with
    | load =>
      cases Except.ok.inj h
      exact ⟨trivial, fun _ ↦ id⟩
    | reserveNext expected =>
      simp only [bind_eq_ok, reject_eq_ok, exists_const, not_not] at h
      obtain ⟨rfl, next, hnext, replacement, hreplacement, h⟩ := h
      cases Except.ok.inj h
      obtain ⟨hbound, hnext⟩ := of_checkedAdd hnext
      exact ⟨⟨d, rfl, hbound, hnext, eq_of_fromDocument hreplacement⟩, fun _ ↦ id⟩

theorem loaded_moves (item : Option (AuthorityRecord Rev)) :
    (S.loaded operation (S.recordOf bytes) purpose).WellFormed S ∧ Moves S (.matching purpose bytes)
      (S.loaded operation (S.recordOf bytes) purpose) item item := by
  cases purpose with
  | initial => exact free_begin.kept item
  | afterDuplicate => exact free_begin.kept item
  | conflicted =>
    rw [loaded]
    cases S.document (S.recordOf bytes) <;> exact ⟨trivial, .kept item fun _ ↦ False.elim⟩
  | recovering replacement next writeError tookEffect =>
    rw [loaded]
    split
    · exact free_finished.kept item
    · split
      · refine ⟨trivial, .kept item fun g hown ↦ ?_⟩
        cases tookEffect with
        | true => exact .inl hown
        | false => exact .inr ⟨⟨_, _, _, _, rfl⟩, _, rfl⟩
      · exact ⟨trivial, .kept item fun _ ↦ False.elim⟩

theorem advance_withCache (cache) (h : ∀ record next, phase ≠ .caching record next) : ∃ cache',
      S.advance operation event (s.withCache cache) phase =
        ((S.advance operation event s phase).1.withCache cache',
          (S.advance operation event s phase).2) := by
  rcases event with ⟨answer, uuid⟩
  rcases s with ⟨item, old⟩
  cases phase with
  | starting => cases answer <;> exact ⟨cache, rfl⟩
  | reading purpose => cases answer <;> cases item <;> exact ⟨cache, rfl⟩
  | matching purpose bytes =>
    by_cases hmatch : answer = .ok ∧ item = some (S.recordOf bytes)
    · obtain ⟨rfl, rfl⟩ := hmatch
      simp [advance, Shared.withCache]
    · simp [advance, Shared.withCache, hmatch]
  | creating candidate => rcases answer with _ | _ | _ <;> cases item <;> exact ⟨cache, rfl⟩
  | caching record next => exact absurd rfl (h record next)
  | writing record next =>
    rcases answer with _ | _ | _
    · exact ⟨some record.bytes, rfl⟩
    · exact ⟨cache, rfl⟩
    · exact ⟨some record.bytes, rfl⟩
  | exchanging current replacement next =>
    by_cases hlabel : Labelled item current
    · rcases answer with _ | _ | _ <;> simp [advance, Shared.withCache, hlabel]
    · rcases answer with _ | _ | _ <;> simp [advance, Shared.withCache, hlabel]
  | finished result => exact ⟨cache, rfl⟩

theorem advance_moves (hitem : ∀ record ∈ s.item, ∃ bytes, record = S.recordOf bytes)
    (hphase : phase.WellFormed S) : (S.advance operation event s phase).2.WellFormed S ∧
      Moves S phase (S.advance operation event s phase).2 s.item
        (S.advance operation event s phase).1.item := by
  cases phase with
  | starting =>
    rw [advance]
    split <;> exact ⟨trivial, .kept _ fun _ ↦ False.elim⟩
  | reading purpose =>
    rw [advance]
    split
    · exact free_unread.kept _
    · exact free_absent.kept _
    · refine ⟨trivial, .kept _ fun g hown ↦ .inl ?_⟩
      cases purpose with
      | recovering replacement next writeError tookEffect => cases tookEffect <;> exact hown
      | _ => exact hown
  | matching purpose bytes =>
    rw [advance]
    split
    · exact loaded_moves _
    · exact free_unread.kept _
  | creating candidate =>
    obtain ⟨bytes, rfl⟩ := hphase
    rw [advance]
    split
    · next hnone =>
      rw [hnone]
      exact ⟨free_begin.1, .created bytes free_begin.2⟩
    · exact ⟨trivial, .kept _ fun _ ↦ False.elim⟩
    · next hnone =>
      rw [hnone]
      exact ⟨trivial, .created bytes fun _ ↦ id⟩
    · exact free_finished.kept _
  | caching record next =>
    rw [advance]
    split
    · exact (free_resume hphase).kept _
    · exact ⟨hphase, .kept _ fun _ ↦ False.elim⟩
  | writing record next =>
    rw [advance]
    split <;> exact (free_resume hphase).kept _
  | exchanging current replacement next =>
    obtain ⟨d, hreplaces⟩ := hphase
    rw [advance]
    split
    · split
      · next h =>
        rw [eq_of_labelled hitem hreplaces.current h]
        exact ⟨trivial, .exchanged hreplaces fun _ ↦ Eq.symm⟩
      · exact ⟨trivial, .kept _ fun _ ↦ False.elim⟩
    · split
      · next h =>
        rw [eq_of_labelled hitem hreplaces.current h.2]
        exact ⟨trivial, .exchanged hreplaces fun _ ↦ Eq.symm⟩
      · exact ⟨trivial, .kept _ fun _ ↦ False.elim⟩
  | finished result => exact ⟨trivial, .kept _ fun _ ↦ .inl⟩

/-- A call that comes to own a generation has just exchanged the item for it. -/
theorem owns_of_advance (hitem : ∀ record ∈ s.item, ∃ bytes, record = S.recordOf bytes)
    (hphase : phase.WellFormed S) (hown : (S.advance operation event s phase).2.Owns g)
    (hgenuine : ¬phase.Mistakes (S.advance operation event s phase).2) :
    phase.Owns g ∨ ∃ current replacement d, Replaces S current replacement d g ∧
      s.item = some current ∧ (S.advance operation event s phase).1.item = some replacement := by
  obtain ⟨-, hmoves⟩ : (S.advance operation event s phase).2.WellFormed S ∧ _ :=
    advance_moves hitem hphase
  generalize S.advance operation event s phase = result at *
  obtain ⟨⟨item', cache⟩, after⟩ := result
  generalize s.item = item at *
  cases hmoves with
  | kept _ h => exact .inl ((h g hown).resolve_right hgenuine)
  | created bytes h => exact absurd hown (h g)
  | @exchanged current replacement d _ h howns =>
    obtain rfl := howns g hown
    exact .inr ⟨current, replacement, d, h, rfl, rfl⟩

end Revisions

namespace Stores

variable {S : Revisions Rev} {s t : Stores Rev Call}

/-- What holds of the keychain item and of every call. -/
structure Inv (S : Revisions Rev) (s : Stores Rev Call) : Prop where
  item : ∀ record ∈ s.shared.item, ∃ bytes, record = S.recordOf bytes
  phase : ∀ call, (s.phase call).WellFormed S

theorem Initial.inv (h : Initial S s) : Inv S s where
  item := h.item
  phase call := by
    rw [h.phase call]
    trivial

/-- Every generation has at most one owner, and is not above the stored one. -/
structure Issued (S : Revisions Rev) (s : Stores Rev Call) : Prop where
  bound {call : Call} {g : UInt64} : (s.phase call).Owns g →
    ∃ d, s.shared.item = some (S.recordOf (.canonical d)) ∧ g ≤ d.generation
  unique {call other : Call} {g : UInt64} : (s.phase call).Owns g → (s.phase other).Owns g →
    call = other

theorem Initial.issued (h : Initial S s) : Issued S s where
  bound {call g} hown := by
    rw [h.phase call] at hown
    cases hown
  unique {call other g} hown := by
    rw [h.phase call] at hown
    cases hown

variable [DecidableEq Rev] [DecidableEq Call] {operation : Call → Operation}
variable {event : Event}
variable {call : Call}

theorem act_self : (s.act S operation call event).phase call =
    (S.advance (operation call) event s.shared (s.phase call)).2 := update_self ..

theorem act_of_ne {other} (h : other ≠ call) :
    (s.act S operation call event).phase other = s.phase other := update_of_ne h ..

theorem act_inv (h : Inv S s) (call : Call) (event : Event) : Inv S (s.act S operation call event) ∧
      Evolves S s.shared.item (s.act S operation call event).shared.item := by
  obtain ⟨hphase, hmoves⟩ := advance_moves h.item (h.phase call)
  have hevolves := hmoves.evolves
  refine ⟨⟨hevolves.labelled h.item, fun other ↦ ?_⟩, hevolves⟩
  by_cases hother : other = call
  · rw [hother, act_self]
    exact hphase
  · rw [act_of_ne hother]
    exact h.phase other

theorem Step.inv (hstep : Step S operation s t) (h : Inv S s) :
    Inv S t ∧ Evolves S s.shared.item t.shared.item := by
  cases hstep with
  | act call event => exact act_inv h call event
  | cache bytes => exact ⟨⟨h.item, h.phase⟩, .same _⟩

theorem run_inv (hrun : ReflTransGen (Step S operation) s t) (h : Inv S s) :
    Inv S t ∧ Grows S s.shared.item t.shared.item := by
  induction hrun with
  | refl => exact ⟨h, fun d hd ↦ ⟨d, hd, UInt64.le_refl _, rfl, rfl⟩⟩
  | tail _ hstep ih =>
    obtain ⟨hinv, hevolves⟩ := hstep.inv ih.1
    exact ⟨hinv, ih.2.trans (grows_of_evolves hevolves)⟩

def GenuineStep (S : Revisions Rev) (operation : Call → Operation) (s t : Stores Rev Call) : Prop :=
  Step S operation s t ∧ ∀ call, ¬(s.phase call).Mistakes (t.phase call)

theorem act_issued (h : Issued S s) (hinv : Inv S s)
    (hgenuine : ¬(s.phase call).Mistakes ((s.act S operation call event).phase call)) :
    Issued S (s.act S operation call event) := by
  have hgrows : Grows S s.shared.item (s.act S operation call event).shared.item :=
    grows_of_evolves (act_inv hinv call event).2
  -- an owner of before, or the call that has just exchanged the item
  have howner {c : Call} {g : UInt64} (hown : ((s.act S operation call event).phase c).Owns g) :
      (s.phase c).Owns g ∨ c = call ∧ ∃ current replacement d, Replaces S current replacement d g ∧
        s.shared.item = some current ∧
        (s.act S operation call event).shared.item = some replacement := by
    by_cases hc : c = call
    · subst hc
      rw [act_self] at hown hgenuine
      exact (owns_of_advance hinv.item (hinv.phase c) hown hgenuine).imp_right
        fun h ↦ ⟨rfl, h⟩
    · rw [act_of_ne hc] at hown
      exact .inl hown
  -- nobody owned the generation that is stored now
  have hnew {c : Call} {g : UInt64} {current replacement : AuthorityRecord Rev}
      {d : LineageDocument} (hreplaces : Replaces S current replacement d g)
      (hitem : s.shared.item = some current) : ¬(s.phase c).Owns g := by
    intro hown
    obtain ⟨d', hd', hle⟩ := h.bound hown
    rw [hitem, hreplaces.current] at hd'
    cases recordOf_injective (Option.some.inj hd')
    exact absurd hreplaces.lt (UInt64.not_lt.mpr hle)
  refine ⟨fun {c g} hown ↦ ?_, fun {c c' g} hown hown' ↦ ?_⟩
  · rcases howner hown with hown | ⟨rfl, current, replacement, d, hreplaces, -, hitem⟩
    · obtain ⟨d, hd, hle⟩ := h.bound hown
      obtain ⟨d', hd', hle', -⟩ := hgrows d hd
      exact ⟨d', hd', UInt64.le_trans hle hle'⟩
    · exact ⟨_, hitem.trans (congrArg some hreplaces.replacement), UInt64.le_refl _⟩
  · rcases howner hown with hold | ⟨hcall, _, _, _, hreplaces, hitem, -⟩
    · rcases howner hown' with hold' | ⟨-, _, _, _, hreplaces, hitem, -⟩
      · exact h.unique hold hold'
      · exact absurd hold (hnew hreplaces hitem)
    · rcases howner hown' with hold' | ⟨hcall', -⟩
      · exact absurd hold' (hnew hreplaces hitem)
      · exact hcall.trans hcall'.symm

theorem run_issued (hrun : ReflTransGen (GenuineStep S operation) s t) (hinv : Inv S s)
    (h : Issued S s) : Inv S t ∧ Issued S t := by
  induction hrun with
  | refl => exact ⟨hinv, h⟩
  | tail _ hstep ih =>
    obtain ⟨hstep, hgenuine⟩ := hstep
    refine ⟨(hstep.inv ih.1).1, ?_⟩
    cases hstep with
    | act call event => exact act_issued ih.2 ih.1 (hgenuine call)
    | cache bytes => exact ⟨ih.2.bound, ih.2.unique⟩

def withCache (s : Stores Rev Call) (cache : Option LineageBytes) : Stores Rev Call :=
  ⟨s.shared.withCache cache, s.phase⟩

theorem act_eq {phase shared}
    (h : S.advance (operation call) event s.shared (s.phase call) = (shared, phase)) :
    s.act S operation call event = ⟨shared, update s.phase call phase⟩ := by
  rw [act, h]

variable (event call) in
theorem step_of_advance {phase shared}
    (h : S.advance (operation call) event s.shared (s.phase call) = (shared, phase)) :
    Step S operation s ⟨shared, update s.phase call phase⟩ :=
  act_eq h ▸ .act s call event

/-- Whatever is in the cache file, a call can make the same steps: a cache that cannot be read is
written anew. -/
theorem run_withCache_of_act (S : Revisions Rev) (operation : Call → Operation)
    (s : Stores Rev Call) (call : Call) (event : Event) (cache) : ∃ cache',
      ReflTransGen (Step S operation) (s.withCache cache)
        ((s.act S operation call event).withCache cache') := by
  by_cases hcaching : ∃ record next, s.phase call = .caching record next
  · obtain ⟨record, next, hphase⟩ := hcaching
    have hwrites : Step S operation (s.withCache cache)
        ⟨s.shared.withCache cache, update s.phase call (.writing record next)⟩ := by
      refine step_of_advance ⟨.error false, 0⟩ call ?_
      rw [withCache, hphase]
      rfl
    by_cases hserves : event.answer = .ok ∧ s.shared.cache = some record.bytes
    · have hwritten : Step S operation
          ⟨s.shared.withCache cache, update s.phase call (.writing record next)⟩
          ⟨s.shared.withCache (some record.bytes), update (update s.phase call
            (.writing record next)) call (resume (operation call) next (.ok ()))⟩ := by
        refine step_of_advance ⟨.ok, 0⟩ call ?_
        dsimp only
        rw [update_self]
        rfl
      rw [update_idem] at hwritten
      refine ⟨some record.bytes, .tail (.single hwrites) ?_⟩
      rwa [act_eq (by rw [hphase, advance, if_pos hserves])]
    · refine ⟨cache, .single ?_⟩
      rwa [act_eq (by rw [hphase, advance, if_neg hserves])]
  · obtain ⟨cache', h⟩ := advance_withCache cache fun record next hphase ↦
      hcaching ⟨record, next, hphase⟩
    exact ⟨cache', .single (step_of_advance event call h)⟩

theorem run_withCache (hrun : ReflTransGen (Step S operation) s t) (cache : Option LineageBytes) :
    ∃ cache', ReflTransGen (Step S operation) (s.withCache cache) (t.withCache cache') := by
  induction hrun with
  | refl => exact ⟨cache, .refl⟩
  | tail _ hstep ih =>
    obtain ⟨cache', hrun⟩ := ih
    cases hstep with
    | act call event =>
      obtain ⟨cache'', hrun'⟩ := run_withCache_of_act S operation _ call event cache'
      exact ⟨cache'', hrun.trans hrun'⟩
    | cache bytes => exact ⟨cache', hrun⟩

end Stores

section Sample

open Stores

def sampleRevisions : Revisions LineageBytes := ⟨id, injective_id⟩

def sampleLineage : LineageDocument := ⟨Limits.lineageSchemaVersion, 7, 1, 0⟩

def sampleStart : Stores LineageBytes Bool where
  shared := ⟨some (sampleRevisions.recordOf (.canonical sampleLineage)), none⟩
  phase _ := .starting

theorem sampleStart_initial : Initial sampleRevisions sampleStart where
  phase _ := rfl
  item _ hrecord := ⟨_, (Option.some.inj hrecord).symm⟩

def sampleOperation (_ : Bool) : Operation := .reserveNext 0

def runEvents (s : Stores LineageBytes Bool) (events : List (Bool × Answer)) :
    Stores LineageBytes Bool :=
  events.foldl (fun s e ↦ s.act sampleRevisions sampleOperation e.1 ⟨e.2, 9⟩) s

theorem runEvents_reaches (s : Stores LineageBytes Bool) (events : List (Bool × Answer)) :
    ReflTransGen (Step sampleRevisions sampleOperation) s (runEvents s events) := by
  induction events generalizing s with
  | nil => exact .refl
  | cons e events ih => exact (ReflTransGen.single (.act s e.1 ⟨e.2, 9⟩)).trans (ih _)

def untilExchange (call : Bool) : List (Bool × Answer) := List.replicate 5 (call, .ok)

def sampleEnd : Stores LineageBytes Bool :=
  runEvents sampleStart (untilExchange false ++ (untilExchange true).take 4 ++
    [(false, .ok), (true, .error false), (true, .ok), (true, .ok)])

end Sample

end CfwRs.AppleNetwork
