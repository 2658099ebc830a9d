import CfwRs.Profiles.RepositoryInvariant

namespace CfwRs.Profiles

open Lib Lib.Checked Durable

variable {V P : Type}

namespace ProfileRepository

open ProfileFormat

variable {R : ProfileRepository V P} {s : Disk V} {view other target : View V}
  {replacement : ProfileReplacement P} {plan : ReplacementPlan V P} {n : ℕ}

theorem PlanFor.whole (hplan : PlanFor R replacement view plan) (hwritten : Written R view) :
    Whole R (planned plan view) := by
  refine ⟨hplan.sound, ?_⟩
  obtain ⟨name, timestamp, -, -, hencode⟩ := hplan.encode
  have hstored := hwritten.write hencode
  rw [← hplan.id] at hstored
  unfold planned
  split
  · exact hstored.writeSelection
  · exact hstored

theorem whole_of_target (hview : Whole R view)
    (h : target = view ∨ ∃ plan, PlanFor R replacement view plan ∧ target = planned plan view) :
    Whole R target := by
  rcases h with rfl | ⟨plan, hplan, rfl⟩
  · exact hview
  · exact hplan.whole hview.written

theorem During.safe (h : During R replacement view other) (hview : Whole R view) :
    Safe R other := by
  obtain ⟨target, K, hK, hother, htarget⟩ := h.exists_recoverable hview.free
  exact ⟨target, whole_of_target hview htarget, hK.settle hother⟩

theorem replace_stays [DecidableEq P] (hs : Within (Whole R) 0 s) :
    Stays (Within (Safe R) 1) (R.replaceWithTimestampInDirectory replacement) s := by
  have hsafe (d : Disk V) (hd : Within (During R replacement s.view) 1 d) :
      Within (Safe R) 1 d := hd.mono (fun _ h ↦ h.safe hs.1) (Nat.le_refl 1)
  exact wp_mono (replaceWithTimestampInDirectory_stays hs.1.sound_files hs.2) hsafe fun _ ↦ hsafe

variable {previous : Option ProfileSelection}

theorem restoreSelection_stays {id K} (hK : Recoverable R target K) (hs : Within K (n + 1) s)
    (hprevious : ∀ selection ∈ previous, K (written s.view .selection (.selection selection))) :
    Stays (Within K (n + 2)) (R.restoreSelection id previous) s := by
  have hmono {d : Disk V} (hd : Within K (n + 1) d) : Within K (n + 2) d :=
    hd.mono (fun _ h ↦ h) (Nat.le_succ _)
  unfold restoreSelection
  split
  · next selection hfilter =>
    refine wp_attempt_bind (fun _ _ ↦ hmono hs) fun encoded hencode ↦ ?_
    obtain ⟨-, -, hencode⟩ := bind_eq_ok.mp hencode
    cases Except.ok.inj hencode
    have hwritten := hprevious selection (Option.filter_eq_some_iff.mp hfilter).1
    refine wp_bind_of (writeReplaceAtomic_within hs hwritten) (fun _ _ h ↦ h) fun _ d hd ↦ ?_
    have hd' : Within K (n + 1) d := ⟨hd.1 ▸ hwritten, hd.2⟩
    exact wp_mono (recoverRepository_stays hK hd') (fun _ ↦ hmono) fun _ _ ↦ hmono
  · exact wp_mono (recoverRepository_stays hK hs) (fun _ ↦ hmono) fun _ _ ↦ hmono

theorem During.reselect (h : During R replacement view other) (hfree : view .selectedReplace = none)
    (hpresent : (other .selectedReplace).isSome = true)
    (hprevious : view .selection = previous.map fun selection ↦ ⟨.selection selection, true⟩) :
    ∃ target K, Recoverable R target K ∧ K other ∧
      (∀ selection ∈ previous, K (written other .selection (.selection selection))) ∧
      (target = view ∨ ∃ plan, PlanFor R replacement view plan ∧ target = planned plan view) := by
  have hselected {selection : ProfileSelection} (h : selection ∈ previous) :
      view .selection = some ⟨.selection selection, true⟩ := by
    rw [hprevious, Option.mem_def.mp h]
    rfl
  cases h with
  | before =>
    rw [hfree] at hpresent
    cases hpresent
  | alone hplan hplanned =>
    rw [hplanned, written_of_ne (by nofun), hfree] at hpresent
    cases hpresent
  | @intended plan intent _ hplan htransaction hid hplanned hother =>
    rcases hother with (rfl | rfl) | rfl | rfl | rfl
    · rw [hfree] at hpresent
      cases hpresent
    · refine ⟨view, _, htransaction.recoverable_unstarted, .inr rfl, fun selection h ↦ ?_, .inl rfl⟩
      rw [written_eq_self ((begun_of_ne (by nofun)).trans (hselected h))]
      exact .inr rfl
    · refine ⟨_, _, htransaction.recoverable_started, .inl rfl, fun selection h ↦ ?_,
        .inr ⟨_, hplan, hplanned.symm⟩⟩
      rw [written_eq_self (stored_selection.trans (hselected h))]
      exact .inl rfl
    · -- the new selection goes back to the old one, and the recovery goes forward again
      refine ⟨_, _, htransaction.recoverable_started, .inr (.inl rfl), fun selection h ↦ .inl ?_,
        .inr ⟨_, hplan, hplanned.symm⟩⟩
      rw [selected, written, written, Function.update_idem]
      exact written_eq_self (stored_selection.trans (hselected h))
    · rw [htransaction.replaced_free] at hpresent
      cases hpresent

theorem Transaction.envelope_ne {intent envelope} (h : Transaction R view intent envelope) :
    view (.profile intent.profileId) ≠ some ⟨.envelope envelope, true⟩ := by
  intro hsame
  obtain ⟨file, entry, hfile, hentry, -, hbefore⟩ := h.before.profile
  obtain ⟨_, _, hfile', hentry', -, hafter⟩ := h.after.profile
  rw [written_self, ← hsame, hfile] at hfile'
  cases hfile'
  cases hentry.symm.trans hentry'
  obtain ⟨-, -, hne, -⟩ := SelectedProfileReplaceIntent.of_validateDigests
    (SelectedProfileReplaceIntent.validate_eq_ok.mp h.validate).2
  exact hne (hbefore.symm.trans hafter)

theorem Transaction.selects {intent envelope} (h : Transaction R view intent envelope) :
    ∃ selection : ProfileSelection, selection.profileId = intent.profileId ∧
      view .selection = some ⟨.selection selection, true⟩ := by
  obtain ⟨file, selection, hfile, hselection, hid, -⟩ := h.before.selection
  obtain ⟨rfl, -⟩ := decodeSelection_eq_ok.mp hselection
  exact ⟨selection, hid, hfile⟩

theorem During.written (h : During R replacement view other) (hview : Written R view) :
    Written R other := by
  cases h with
  | before => exact hview
  | alone hplan _ => exact (hplan.whole hview).written
  | @intended plan intent _ hplan _ hid _ hother =>
    obtain ⟨name, timestamp, -, -, hencode⟩ := hplan.encode
    rw [← hid] at hencode
    have hbegun : Written R (begun view intent) := hview.update nofun
    rcases hother with (rfl | rfl) | rfl | rfl | rfl
    · exact hview
    · exact hbegun
    · exact hbegun.write hencode
    · exact (hbegun.write hencode).writeSelection
    · exact (hview.write hencode).writeSelection

/-- Apart from the profile and the selection, the files of a replacement are some from which the
recovery goes back to `view`. A new selection comes with a new profile. -/
structure Restorable (R : ProfileRepository V P) (id : String) (view other base : View V)
    (K : View V → Prop) : Prop where
  recoverable : Recoverable R view K
  mem : K base
  profile : base (.profile id) = view (.profile id)
  selection : base .selection = view .selection
  same (name : EntryName) : name ≠ .profile id → name ≠ .selection → other name = base name
  selected : other .selection = view .selection ∨ other (.profile id) ≠ view (.profile id) ∧
    ∃ selection : ProfileSelection, selection.profileId = id ∧
      view .selection = some ⟨.selection selection, true⟩

theorem During.restorable (h : During R replacement view other)
    (hfree : view .selectedReplace = none) :
    ∃ base K, Restorable R replacement.id view other base K := by
  cases h with
  | before => exact ⟨view, _, recoverable_of_free hfree, rfl, rfl, rfl, fun _ _ _ ↦ rfl, .inl rfl⟩
  | alone hplan hplanned =>
    rw [hplanned]
    exact ⟨view, _, recoverable_of_free hfree, rfl, rfl, rfl, fun _ hprofile _ ↦
      written_of_ne hprofile, .inl (written_of_ne (by nofun))⟩
  | @intended plan intent _ hplan htransaction hid hplanned hother =>
    rw [← hid]
    have hK := htransaction.recoverable_unstarted
    have hprofile : begun view intent (.profile intent.profileId) = _ := begun_of_ne (by nofun)
    have hselection : begun view intent .selection = _ := begun_of_ne (by nofun)
    have hnew {files : View V} (hfiles : files (.profile intent.profileId) =
        some ⟨.envelope plan.envelope, true⟩) : files (.profile intent.profileId) ≠ view _ :=
      fun h ↦ htransaction.envelope_ne (h.symm.trans hfiles)
    rcases hother with (rfl | rfl) | rfl | rfl | rfl
    · exact ⟨_, _, hK, .inl rfl, rfl, rfl, fun _ _ _ ↦ rfl, .inl rfl⟩
    · exact ⟨_, _, hK, .inr rfl, hprofile, hselection, fun _ _ _ ↦ rfl, .inl hselection⟩
    · exact ⟨_, _, hK, .inr rfl, hprofile, hselection, fun _ h _ ↦ written_of_ne h,
        .inl stored_selection⟩
    · exact ⟨_, _, hK, .inr rfl, hprofile, hselection, fun _ h h' ↦ (written_of_ne h').trans
        (written_of_ne h), .inr ⟨hnew ((written_of_ne (by nofun)).trans written_self),
        htransaction.selects⟩⟩
    · exact ⟨_, _, hK, .inl rfl, rfl, rfl, fun _ h h' ↦ (written_of_ne h').trans
        (written_of_ne h), .inr ⟨hnew ((written_of_ne (by nofun)).trans written_self),
        htransaction.selects⟩⟩

/-- With the old profile and the old selection, the files are those that go back. -/
theorem Restorable.mem_of_eq {id base files K} (h : Restorable R id view other base K)
    (hprofile : files (.profile id) = view (.profile id))
    (hselection : files .selection = view .selection)
    (hsame : ∀ name, name ≠ .profile id → name ≠ .selection → files name = other name) :
    K files := by
  have hbase : files = base := by
    funext name
    by_cases hid : name = .profile id
    · rw [hid, hprofile, h.profile]
    · by_cases hname : name = .selection
      · rw [hname, hselection, h.selection]
      · exact (hsame name hid hname).trans (h.same name hid hname)
  exact hbase ▸ h.mem

theorem Written.of_load {id stored length}
    (h : Written R view) (hload : R.loadProfile view id = .ok (length, stored)) :
    ∃ envelope, R.encodeWithTimestamp id stored.record.name stored.profile stored.sourceUrl
        stored.record.createdEpochSecs = .ok envelope ∧
      view (.profile id) = some ⟨.envelope envelope, true⟩ := by
  obtain ⟨file, hfile, -, hentry⟩ := loadProfile_eq_ok.mp hload
  obtain ⟨_, _, _, _, rfl⟩ := h _ file hfile
  exact ⟨_, encode_of_decodeEntry hentry, hfile⟩

theorem writeReplaceAtomic_returns {name content}
    (ht : Tidy n s.temporaries) : (R.writeReplaceAtomic name content).wp (fun _ ↦ True)
      (returns fun _ d ↦ d.view = written s.view name content ∧ Tidy n d.temporaries) s :=
  returns_of_ends (writeReplaceAtomic_within (K := fun _ ↦ True) ⟨trivial, ht⟩ trivial)
    fun _ _ h ↦ h

theorem restoreSelection_returns {id base K} (h : Restorable R id view other base K)
    (hprofile : s.view (.profile id) = view (.profile id))
    (hsame : ∀ name, name ≠ .profile id → s.view name = other name) (ht : Tidy 1 s.temporaries)
    (hprevious : view .selection = previous.map fun selection ↦ ⟨.selection selection, true⟩) :
    (R.restoreSelection id previous).wp (fun _ ↦ True) (returns fun _ d ↦ d.view = view) s := by
  have hrecover {d : Disk V} (hd : Within K 1 d) := returns_of_ends (recoverRepository_ends h.recoverable hd) fun _ _ h ↦ h.1.2
  unfold restoreSelection
  split
  · next selection hfilter =>
    refine wp_attempt_bind_returns fun encoded hencode ↦ ?_
    obtain ⟨-, -, hencode⟩ := bind_eq_ok.mp hencode
    cases Except.ok.inj hencode
    refine wp_bind_returns (writeReplaceAtomic_returns ht) fun _ d hd ↦ hrecover ⟨?_, hd.2⟩
    rw [hd.1]
    refine h.mem_of_eq ((written_of_ne (by nofun)).trans hprofile) ?_ fun name hid hname ↦
      (written_of_ne hname).trans (hsame name hid)
    rw [hprevious, (Option.filter_eq_some_iff.mp hfilter).1]
    rfl
  · next hfilter =>
    -- a selection of this profile would have been written back
    have hselection := h.selected.resolve_right fun ⟨_, selection, hid, hselection⟩ ↦ by
      obtain ⟨_, rfl, hfile⟩ := Option.map_eq_some_iff.mp (hprevious.symm.trans hselection)
      cases hfile
      exact Option.filter_eq_none_iff.mp hfilter selection rfl (decide_eq_true hid)
    exact hrecover ⟨h.mem_of_eq hprofile ((hsame _ (by nofun)).trans hselection)
      fun _ hid _ ↦ hsame _ hid, ht⟩

variable [DecidableEq P] {expected : StoredProfile P} {name : Option String} {profile : P}
  {sourceUrl : Option String}

/-- When a replacement that started on `view` is taken back from `other`, the profile that is
written back was the stored one, and the selection is the one of before. -/
def Reversible (R : ProfileRepository V P) (expected : StoredProfile P) (name : Option String)
    (profile : P) (sourceUrl : Option String) (view other : View V) : Prop :=
  ∀ length current, R.loadProfile other expected.record.id = .ok (length, current) →
    current ≠ expected → checkCandidate expected current name profile sourceUrl = .ok () →
    (∃ length, R.loadProfile view expected.record.id = .ok (length, expected)) ∧
      other .selection = view .selection

theorem compensateReplacement_stays (hview : Whole R view)
    (hs : Within (During R (candidate expected name profile sourceUrl) view) 1 s)
    (hprevious : view .selection = previous.map fun selection ↦ ⟨.selection selection, true⟩)
    (hreversible : Reversible R expected name profile sourceUrl view s.view) :
    Stays (Within (Safe R) 2) (R.compensateReplacement expected name profile sourceUrl previous)
      s := by
  have hsafe {m : ℕ} {target : View V} {K : View V → Prop} (hK : Recoverable R target K)
      (htarget : Whole R target) (d : Disk V) (hd : Within K m d) : Within (Safe R) m d :=
    ⟨⟨target, htarget, hK.settle hd.1⟩, hd.2⟩
  have hstart' : Within (Safe R) 1 s := hs.mono (fun _ h ↦ h.safe hview) (Nat.le_refl 1)
  have hstart : Within (Safe R) 2 s := hstart'.mono (fun _ h ↦ h) (Nat.le_succ 1)
  refine wp_attempt_bind (fun _ _ ↦ hstart) fun _ _ ↦ ?_
  refine wp_inspect_bind hstart (fun _ _ ↦ hstart) fun loaded hload ↦ ?_
  obtain ⟨length, current⟩ := loaded
  dsimp only
  by_cases hcurrent : current = expected
  · rw [if_pos hcurrent]
    refine wp_inspect_bind hstart (fun _ _ ↦ hstart) fun present hpresent ↦ ?_
    cases present with
    | false => exact wp_pure.mpr hstart
    | true =>
      obtain ⟨target, K, hK, hother, hselections, htarget⟩ :=
        hs.1.reselect hview.free (Except.ok.inj hpresent) hprevious
      have hwhole := whole_of_target hview htarget
      exact wp_mono (restoreSelection_stays hK ⟨hother, hs.2⟩ hselections)
        (hsafe hK hwhole) fun _ ↦ hsafe hK hwhole
  · rw [if_neg hcurrent]
    refine wp_attempt_bind (fun _ _ ↦ hstart) fun _ hcandidate ↦ ?_
    refine wp_attempt_bind (fun _ _ ↦ hstart) fun envelope hencode ↦ ?_
    obtain ⟨⟨length', hold⟩, hselection⟩ := hreversible length current hload hcurrent hcandidate
    -- the old profile is encoded as the file that it was read from
    obtain ⟨_, hencode', hfile⟩ := hview.written.of_load hold
    cases hencode.symm.trans hencode'
    obtain ⟨base, K, hrestorable⟩ := hs.1.restorable hview.free
    have hK := hrestorable.recoverable
    have hback := hrestorable.mem_of_eq (written_self.trans hfile.symm)
        ((written_of_ne (by nofun)).trans hselection) fun _ h _ ↦ written_of_ne h
    refine wp_bind_of (writeReplaceAtomic_within hstart'
      ⟨view, hview, hK.settle hback⟩) (fun _ _ h ↦ h) fun _ d hd ↦ ?_
    have hsame : d.view .selection = view .selection := by
      rw [hd.1]
      exact hselection
    have hd' : Within K 1 d := ⟨hd.1 ▸ hback, hd.2⟩
    refine wp_mono (restoreSelection_stays hK hd' fun selection h ↦ ?_) (hsafe hK hview)
      fun _ ↦ hsafe hK hview
    rw [written_eq_self]
    · exact hd'.1
    · rw [hsame, hprevious, Option.mem_def.mp h]
      rfl

def CommitReversible (R : ProfileRepository V P) (expected : StoredProfile P)
    (name : Option String) (profile : P) (sourceUrl : Option String) (s : Disk V) : Prop :=
  ∀ e, (R.replaceWithTimestampInDirectory (candidate expected name profile sourceUrl) s).result =
      .error e → e.isProfileChanged = false →
    Reversible R expected name profile sourceUrl s.view
      ((R.replaceWithTimestampInDirectory (candidate expected name profile sourceUrl)).final s).view

theorem commitReplaceInDirectory_stays (hs : Within (Whole R) 0 s)
    (hreversible : CommitReversible R expected name profile sourceUrl s.next) :
    Stays (Within (Safe R) 2) (R.commitReplaceInDirectory expected name profile sourceUrl) s := by
  have hstart : Within (Safe R) 2 s := hs.mono (fun _ h ↦ h.safe) (Nat.zero_le 2)
  have hduring {d : Disk V}
      (hd : Within (During R (candidate expected name profile sourceUrl) s.view) 1 d) :
      Within (Safe R) 2 d := hd.mono (fun _ h ↦ h.safe hs.1) (Nat.le_succ 1)
  refine wp_attempt_bind (fun _ _ ↦ hstart) fun _ _ ↦ ?_
  refine wp_readAll_bind hs hstart (fun _ ↦ hstart) fun existing hshows ↦ ?_
  refine wp_bind.mpr (wp_catching.mpr (wp_mono (wp_exact (replaceWithTimestampInDirectory_stays
    hs.1.sound_files hs.2)) (fun _ ↦ hduring) fun r d hr ↦ after_ok.mpr ?_))
  obtain ⟨hd, hresult, hfinal⟩ := hr
  cases r with
  | ok committed => exact wp_pure.mpr (hduring hd)
  | error operation =>
    dsimp only
    cases hchanged : operation.isProfileChanged with
    | true => exact wp_attempt.mpr (hduring hd)
    | false =>
      have hback := hreversible operation hresult.symm hchanged
      rw [← hfinal] at hback
      refine wp_catching_bind (compensateReplacement_stays hs.1 hd
        hshows.selection hback) fun r d' hd' ↦ ?_
      cases r <;> exact wp_attempt.mpr hd'

theorem compensateReplacement_returns {length} (hview : Whole R view)
    (hexpected : R.loadProfile view expected.record.id = .ok (length, expected))
    (hs : Within (During R (candidate expected name profile sourceUrl) view) 1 s)
    (hprevious : view .selection = previous.map fun selection ↦ ⟨.selection selection, true⟩) :
    (R.compensateReplacement expected name profile sourceUrl previous).wp (fun _ ↦ True)
      (returns fun _ d ↦ d.view = view) s := by
  obtain ⟨envelope, hencode, hfile⟩ := hview.written.of_load hexpected
  obtain ⟨base, K, h⟩ := hs.1.restorable hview.free
  refine wp_attempt_bind_returns fun _ _ ↦ ?_
  refine wp_inspect_bind trivial (fun _ _ ↦ trivial) fun loaded hcurrent ↦ ?_
  obtain ⟨length', current⟩ := loaded
  dsimp only
  by_cases hsame : current = expected
  · subst hsame
    rw [if_pos rfl]
    -- a file that reads as the old profile is the old file
    obtain ⟨_, hencode', hfile'⟩ := (hs.1.written hview.written).of_load hcurrent
    cases hencode.symm.trans hencode'
    have hprofile := hfile'.trans hfile.symm
    have hselection := h.selected.resolve_right fun hnew ↦ hnew.1 hprofile
    refine wp_inspect_bind trivial (fun _ _ ↦ trivial) fun present hpresent ↦ ?_
    cases present with
    | false =>
      have hfree : s.next.view .selectedReplace = none := by simpa using Except.ok.inj hpresent
      have hsettle := h.recoverable.settle (h.mem_of_eq hprofile hselection fun _ _ _ ↦ rfl)
      exact wp_pure.mpr (Except.ok.inj ((settle_of_none hfree).symm.trans hsettle))
    | true =>
      exact restoreSelection_returns h hprofile (fun _ _ ↦ rfl) hs.2
        hprevious
  · rw [if_neg hsame]
    refine wp_attempt_bind_returns fun _ _ ↦ wp_attempt_bind_returns fun _ hencode' ↦ ?_
    cases hencode.symm.trans hencode'
    refine wp_bind_returns (writeReplaceAtomic_returns hs.2) fun _ d hd ↦ ?_
    refine restoreSelection_returns h ?_ (fun name hid ↦ ?_) hd.2 hprevious
    · rw [hd.1, written_self, hfile]
    · rw [hd.1, written_of_ne hid]
      rfl

end ProfileRepository

section Sample

open ProfileFormat ProfileRepository

theorem sampleDisk_within {fails} : Within (Whole (sampleRepository fails)) 0 sampleDisk := by
  refine ⟨⟨⟨_, sampleDisk_sound, rfl⟩, fun id file hfile ↦ ?_⟩, fun h ↦ (by cases h), Nat.le_refl 0⟩
  have hfile' : sampleDisk.files.lookup (.profile id) = some file := hfile
  rw [sampleDisk, Directory.lookup_insert, if_neg (by simp), Directory.lookup_insert] at hfile'
  split at hfile'
  · next hid =>
    cases hid
    exact ⟨"Home", false, none, 5, (Option.some.inj hfile').symm⟩
  · cases hfile'

def sampleStored : StoredProfile Bool :=
  ⟨⟨sampleId, "Home", 10, hexText 'a', 5, .localFile⟩, false, none⟩

theorem exists_error {α : Type} {r : Except ProfileError α}
    (h : (match r with | .error e => e.isProfileChanged | .ok _ => true) = false) :
    ∃ e, r = .error e ∧ e.isProfileChanged = false := by
  cases r with
  | error e => exact ⟨e, rfl, h⟩
  | ok _ => cases h

theorem eq_ok_of_toBool {ε : Type} {r : Except ε Unit} (h : r.toBool = true) : r = .ok () := by
  cases r with
  | ok _ => rfl
  | error _ => cases h

/-- The second read of the repository fails. -/
def unreadable : ProfileRepository Bool Bool := sampleRepository (· = 1)

theorem unreadable_error : ∃ e, (unreadable.commitReplaceInDirectory sampleStored none true none
    sampleDisk).result = .error e ∧ e.isProfileChanged = false :=
  exists_error (by decide +kernel)

theorem unreadable_compensated : (unreadable.compensateReplacement sampleStored none true none
      (some sampleSelection) ((unreadable.replaceWithTimestampInDirectory
        (candidate sampleStored none true none)).final sampleDisk.next)).result = .ok () :=
  eq_ok_of_toBool (by decide +kernel)

/-- A profile that was stored under this id at some other time. -/
def staleStored : StoredProfile Bool :=
  ⟨⟨sampleId, "Home", 10, hexText 'b', 5, .localFile⟩, true, none⟩

def storedDocument (view : View Bool) : Option Bool :=
  match view (.profile sampleId) with
  | some ⟨.envelope envelope, _⟩ => some envelope.profile
  | _ => none

end Sample

end CfwRs.Profiles
