import CfwRs.Profiles.SelectedReplace

namespace CfwRs.Profiles

open Lib Lib.Checked Durable

variable {V P : Type}

namespace ProfileFormat

variable {F : ProfileFormat V P} {existing : RepositorySnapshot} {length : ℕ}
  {current : StoredProfile P} {replacement : ProfileReplacement P} {now : UInt64}
  {plan : ReplacementPlan V P}

theorem normalizeName_of_replacementName {name normal}
    (hcurrent : normalizeName current.record.name = .ok current.record.name)
    (h : replacementName current name = .ok normal) : normalizeName normal = .ok normal := by
  cases name with
  | none => exact Except.ok.inj h ▸ hcurrent
  | some name => exact normalizeName_idem h

def replacementSelection (F : ProfileFormat V P) (replacement : ProfileReplacement P) :
    ProfileSelection :=
  ⟨Limits.selectionSchemaVersion, replacement.id, F.digest replacement.profile⟩

structure Planned (F : ProfileFormat V P) (existing : RepositorySnapshot) (length : ℕ)
    (current : StoredProfile P) (replacement : ProfileReplacement P) (now : UInt64)
    (plan : ReplacementPlan V P) : Prop where
  expected : ∀ expected ∈ replacement.expected, expected = current
  current_eq : plan.current = current
  id : plan.stored.record.id = replacement.id
  digest : plan.stored.record.digest = F.digest replacement.profile
  encode : ∃ name, replacementName current replacement.name = .ok name ∧
    F.encodeWithTimestamp replacement.id name replacement.profile replacement.sourceUrl
      (replacement.createdEpochSecs.getD now) = .ok plan.envelope
  bindings : (F.credentialReferences current.profile).length ≤
      credentialBindingCount existing.credentialCatalog ∧
    credentialBindingCount existing.credentialCatalog -
      (F.credentialReferences current.profile).length +
      (F.credentialReferences replacement.profile).length ≤
        Limits.maxRepositoryCredentialReferences
  bytes : existing.storedBytes - length + F.envelopeLength plan.envelope ≤
    Limits.maxRepositoryBytes
  selection : plan.selection = (existing.selection.filter (·.profileId = replacement.id)).map
    fun _ ↦ F.replacementSelection replacement

theorem planned_of_eq_ok [DecidableEq P]
    (h : F.planReplacement existing length current replacement now = .ok plan) :
    Planned F existing length current replacement now plan := by
  simp only [planReplacement, ensureCredentialReferenceCapacity, ensureRepositoryBytes, ok_iff,
    exists_const, Nat.not_lt] at h
  obtain ⟨hexpected, hreferences, hbindings, name, hname, envelope, hencode, hbytes, selection,
    hselection, rfl⟩ := h
  refine ⟨?_, rfl, rfl, rfl, ⟨name, hname, hencode⟩, ⟨hreferences, hbindings⟩, hbytes, ?_⟩
  · intro expected hmem
    exact Classical.byContradiction fun hne ↦ hexpected ⟨expected, hmem, hne⟩
  · cases hfilter : existing.selection.filter (·.profileId = replacement.id) with
    | none =>
      rw [hfilter] at hselection
      exact (Except.ok.inj hselection).symm
    | some _ =>
      rw [hfilter] at hselection
      cases hnew : ProfileSelection.new replacement.id (F.digest replacement.profile) with
      | error e =>
        rw [hnew] at hselection
        cases hselection
      | ok new =>
        rw [hnew] at hselection
        obtain ⟨-, -, rfl⟩ := ProfileSelection.new_eq_ok.mp hnew
        exact (Except.ok.inj hselection).symm

theorem of_planIntent {intent} (h : F.planIntent plan = .ok intent) :
    ∃ digest, F.storedEnvelopeDigest plan.current = .ok digest ∧
      intent = ⟨Limits.selectedReplaceSchemaVersion, plan.stored.record.id,
        plan.current.record.digest, plan.stored.record.digest, digest,
        F.envelopeDigest plan.envelope⟩ ∧
      F.decodeIntent (⟨.intent intent, true⟩ : StoredFile V) = .ok intent := by
  obtain ⟨digest, hdigest, h⟩ := bind_eq_ok.mp h
  obtain ⟨new, hnew, h⟩ := bind_eq_ok.mp h
  obtain ⟨encoded, hencode, h⟩ := bind_eq_ok.mp h
  obtain ⟨-, -, h⟩ := bind_eq_ok.mp h
  cases Except.ok.inj h
  obtain ⟨-, -, h⟩ := bind_eq_ok.mp hnew
  cases Except.ok.inj h
  obtain ⟨_, hvalid, h⟩ := bind_eq_ok.mp hencode
  obtain ⟨_, hlength, h⟩ := bind_eq_ok.mp h
  cases Except.ok.inj h
  refine ⟨digest, hdigest, rfl, decodeIntent_eq_ok.mpr ⟨rfl, ?_, hvalid⟩⟩
  exact Nat.not_lt.mp (reject_eq_ok.mp hlength)

end ProfileFormat

namespace ProfileRepository

open ProfileFormat

variable {R : ProfileRepository V P} {s : Disk V} {existing : RepositorySnapshot} {length : ℕ}
  {current : StoredProfile P} {replacement : ProfileReplacement P} {now : UInt64}
  {plan : ReplacementPlan V P} {intent : SelectedProfileReplaceIntent}
variable {d : Disk V} {selection : ProfileSelection} {target view : View V}

theorem selection_of_plan (hshows : Shows R.toProfileFormat s.files existing)
    (hplanned : Planned R.toProfileFormat existing length current replacement now plan)
    (h : plan.selection = some selection) : selection = R.replacementSelection replacement ∧
      ∃ old : ProfileSelection, old.profileId = replacement.id ∧
        s.view .selection = some ⟨.selection old, true⟩ := by
  rw [hplanned.selection, Option.map_eq_some_iff] at h
  obtain ⟨old, hold, rfl⟩ := h
  obtain ⟨hold, hid⟩ := Option.filter_eq_some_iff.mp hold
  refine ⟨rfl, old, of_decide_eq_true hid, hshows.selection.trans ?_⟩
  rw [hold]
  rfl

theorem free_of_sound (hsound : Sound R.toProfileFormat s.files) : s.view .selectedReplace = none := by
  cases hfree : s.view .selectedReplace with
  | none => rfl
  | some file =>
    rcases hsound.name (Directory.mem_keys.mpr ⟨file, hfree⟩) with h | ⟨_, h⟩ <;> cases h

variable (hsound : Sound R.toProfileFormat s.files) (hid : isCanonicalUuid replacement.id = true)
  (hshows : Shows R.toProfileFormat s.files existing)
  (hload : R.loadProfile s.view replacement.id = .ok (length, current))
  (hplanned : Planned R.toProfileFormat existing length current replacement now plan)

include hsound hid hshows hload hplanned in
theorem transaction_of_planIntent (hselection : plan.selection = some selection)
    (hintent : R.planIntent plan = .ok intent) :
    Transaction R s.view intent plan.envelope ∧ intent.profileId = replacement.id ∧
      intent.replacementSelection = R.replacementSelection replacement := by
  obtain ⟨file, hfile, -, hentry⟩ := loadProfile_eq_ok.mp hload
  obtain ⟨-, old, holdId, hold⟩ := selection_of_plan hshows hplanned hselection
  obtain ⟨hvalid, entry, hholds, hdigest⟩ := hsound.holds_selected hold
  rw [holdId] at hholds
  cases hholds.unique ⟨file, hfile, hentry⟩
  obtain ⟨digest, hstored, rfl, hdecode⟩ := of_planIntent hintent
  obtain ⟨name, hname, hencode⟩ := hplanned.encode
  have hnormal := normalizeName_of_replacementName (of_decodeEntry_valid hentry).1 hname
  obtain ⟨entry', hentry', hreads⟩ := exists_decodeEntry hid hnormal hencode
  rw [hplanned.id, hplanned.digest, hplanned.current_eq] at hdecode ⊢
  rw [hplanned.current_eq] at hstored
  have hselected : R.decodeSelection ⟨.selection old, true⟩ = .ok old :=
    decodeSelection_eq_ok.mpr ⟨rfl, hvalid⟩
  refine ⟨⟨free_of_sound hsound, hdecode, ⟨⟨file, .valid current, hfile, hentry, hstored, rfl⟩,
    ⟨_, old, hold, hselected, holdId, hdigest.symm⟩⟩, ⟨⟨_, entry', written_self, hentry',
      hreads.envelopeDigest, hreads.digest⟩, ⟨_, old, ?_, hselected, holdId, hdigest.symm⟩⟩⟩, rfl, rfl⟩
  exact (written_of_ne (by nofun)).trans hold

def planned (plan : ReplacementPlan V P) (view : View V) : View V :=
  match plan.selection with
  | some selection => written (written view (.profile plan.stored.record.id)
      (.envelope plan.envelope)) .selection (.selection selection)
  | none => written view (.profile plan.stored.record.id) (.envelope plan.envelope)

def SoundView (R : ProfileRepository V P) (view : View V) : Prop :=
  ∃ files, Sound R.toProfileFormat files ∧ viewOf files = view

open Directory in
include hsound hid hshows hload hplanned in
theorem soundView_planned : SoundView R (planned plan s.view) := by
  obtain ⟨file, hfile, rfl, hentry⟩ := loadProfile_eq_ok.mp hload
  have hlookup := hfile
  obtain ⟨name, hname, hencode⟩ := hplanned.encode
  have hnormal := normalizeName_of_replacementName (of_decodeEntry_valid hentry).1 hname
  obtain ⟨entry, hentry', hreads⟩ := exists_decodeEntry hid hnormal hencode
  have hentries : 1 + total isProfile (s.files.erase (.profile replacement.id)) =
      total isProfile s.files := (total_eq_add_erase (w := isProfile) hlookup).symm
  have hbytes : R.length file + total R.profileBytes (s.files.erase (.profile replacement.id)) =
      total R.profileBytes s.files := (total_eq_add_erase (w := R.profileBytes) hlookup).symm
  have hbindings : (R.credentialReferences current.profile).length +
      total R.bindingsIn (s.files.erase (.profile replacement.id)) = total R.bindingsIn s.files := by
    rw [total_eq_add_erase hlookup, bindingsIn, hentry]
    rfl
  have hentries_le := hsound.entries_le
  have hbytes_le := hplanned.bytes
  rw [hshows.storedBytes] at hbytes_le
  obtain ⟨-, hbindings_le⟩ := hplanned.bindings
  rw [hshows.listing.bindings] at hbindings_le
  have hreferences := hreads.bindings
  have hlength : R.length ⟨.envelope plan.envelope, true⟩ = R.envelopeLength plan.envelope := rfl
  unfold planned
  cases hselection : plan.selection with
  | none =>
    refine ⟨s.files.insert (.profile replacement.id) ⟨.envelope plan.envelope, true⟩,
      hsound.insertProfile hentry' ?_ (by omega) (by omega) (by omega), ?_⟩
    · intro old hold holdId
      rw [hplanned.selection] at hselection
      cases hexisting : existing.selection with
      | none => simp [hexisting, hshows.selection] at hold
      | some other =>
        have hother : other = old := by simpa [hexisting, hshows.selection] using hold
        simp [hexisting, hother, holdId] at hselection
    · rw [viewOf_insert, hplanned.id]
      rfl
  | some selection =>
    obtain ⟨rfl, old, holdId, hold⟩ := selection_of_plan hshows hplanned hselection
    have holdLookup := hold
    have hvalid := (hsound.holds_selected hold).1
    have hselected : total R.selectionBytes s.files = 156 := by
      rw [total_selectionBytes, weight_of_lookup holdLookup]
      exact ProfileSelection.length_text hvalid
    have hnew : (R.replacementSelection replacement).validate = .ok () := by
      refine ProfileSelection.validate_eq_ok.mpr ⟨rfl, hid, ?_⟩
      rw [replacementSelection, ← hreads.digest]
      exact (of_decodeEntry hentry').2.2
    have hwithout := hsound.erase (.inl rfl)
    have hle {w : EntryName → StoredFile V → ℕ} :
        total w ((s.files.erase .selection).erase (.profile replacement.id)) ≤
          total w (s.files.erase (.profile replacement.id)) := by
      rw [AList.erase_erase]
      exact total_erase_le
    have hno : total R.selectionBytes (s.files.erase .selection) = 0 := by
      rw [total_selectionBytes, weight, lookup_erase]
      rfl
    have hentries' := hle (w := isProfile)
    have hbytes' := hle (w := R.profileBytes)
    have hbindings' := hle (w := R.bindingsIn)
    have hstored : Sound R.toProfileFormat ((s.files.erase .selection).insert
        (.profile replacement.id) ⟨.envelope plan.envelope, true⟩) := by
      refine hwithout.insertProfile hentry' ?_ (by omega) (by omega) (by omega)
      intro other hother
      rw [lookup_erase] at hother
      cases hother
    refine ⟨_, hstored.insertSelection hnew
      ⟨⟨.envelope plan.envelope, true⟩, AList.lookup_insert _, hentry'⟩ hreads.digest ?_, ?_⟩
    · rw [total_insert, ProfileSelection.length_text hnew]
      simp only [profileBytes]
      omega
    · rw [viewOf_insert, viewOf_insert, viewOf_erase, hplanned.id,
        Function.update_comm (a := EntryName.selection)
          (by simp),
        Function.update_idem]
      rfl

structure PlanFor (R : ProfileRepository V P) (replacement : ProfileReplacement P) (view : View V)
    (plan : ReplacementPlan V P) : Prop where
  load : ∃ length, R.loadProfile view replacement.id = .ok (length, plan.current)
  expected : ∀ expected ∈ replacement.expected, expected = plan.current
  id : plan.stored.record.id = replacement.id
  encode : ∃ name timestamp, replacementName plan.current replacement.name = .ok name ∧
    (replacement.createdEpochSecs = some timestamp ∨
      replacement.createdEpochSecs = none ∧ ∃ k, timestamp = R.now k) ∧
    R.encodeWithTimestamp replacement.id name replacement.profile replacement.sourceUrl timestamp =
      .ok plan.envelope
  selection {old : ProfileSelection} : view .selection = some ⟨.selection old, true⟩ →
    old.profileId = replacement.id → plan.selection = some (R.replacementSelection replacement)
  sound : SoundView R (planned plan view)

/-- The files at any time of a replacement: the old ones, those of a profile that is replaced
alone, or those of a replacement with an intent. -/
inductive During (R : ProfileRepository V P) (replacement : ProfileReplacement P) (view : View V) :
    View V → Prop
  | before : During R replacement view view
  | alone {plan : ReplacementPlan V P} (hplan : PlanFor R replacement view plan)
      (hplanned : planned plan view =
        written view (.profile replacement.id) (.envelope plan.envelope)) :
      During R replacement view (planned plan view)
  | intended {plan intent other} (hplan : PlanFor R replacement view plan)
      (htransaction : Transaction R view intent plan.envelope)
      (hid : intent.profileId = replacement.id)
      (hplanned : planned plan view = replaced view intent plan.envelope)
      (hother : Replacing view intent plan.envelope other) : During R replacement view other

/-- Whatever fails or crashes in a replacement, the files are those of one of its times. -/
theorem replaceWithTimestampInDirectory_stays [DecidableEq P]
    (hsound : Sound R.toProfileFormat s.files) (ht : Tidy 0 s.temporaries) :
    Stays (Within (During R replacement s.view) 1)
      (R.replaceWithTimestampInDirectory replacement) s := by
  have hbefore {d : Disk V} (hd : d.view = s.view) (htd : d.temporaries = s.temporaries) :
      Within (During R replacement s.view) 1 d := by
    refine ⟨?_, ?_⟩
    · rw [hd]
      exact .before
    · rw [htd]
      exact ht.mono (Nat.zero_le 1)
  have hstart := hbefore rfl rfl
  refine wp_attempt_bind (fun _ _ ↦ hstart) fun _ hid ↦ ?_
  rw [validateProfileId, require_eq_ok] at hid
  obtain ⟨existing, hexisting, hshows⟩ := exists_readAll hsound ht
  refine wp_inspect_of_eq_bind hexisting hstart (fun _ _ ↦ hstart) ?_
  refine wp_inspect_bind hstart (fun _ _ ↦ hstart) fun loaded hload ↦ ?_
  obtain ⟨length, current⟩ := loaded
  refine wp_bind.mpr (wp_read.mpr (after_ok.mpr (wp_attempt_bind (fun _ _ ↦ hstart)
    fun plan hplan ↦ ?_)))
  have hplanned := planned_of_eq_ok hplan
  have hfor : PlanFor R replacement s.view plan := by
    obtain ⟨name, hname, hencode⟩ := hplanned.encode
    have hcurrent := hplanned.current_eq
    subst hcurrent
    refine ⟨⟨length, hload⟩, hplanned.expected, hplanned.id, ⟨name, _, hname, ?_, hencode⟩,
      fun {old} hold holdId ↦ ?_, soundView_planned hsound hid hshows hload hplanned⟩
    · cases replacement.createdEpochSecs with
      | none => exact .inr ⟨rfl, _, rfl⟩
      | some timestamp => exact .inl rfl
    · have hexisting : existing.selection = some old := by
        have hselection := hshows.selection.symm.trans hold
        simpa using hselection
      rw [hplanned.selection, hexisting, Option.filter_some, decide_eq_true holdId]
      rfl
  -- a replacement without an intent is one write
  have halone (h : planned plan s.view =
      written s.view (.profile replacement.id) (.envelope plan.envelope)) :
      Stays (Within (During R replacement s.view) 1) (do
        R.writeReplaceAtomic (.profile replacement.id) (.envelope plan.envelope)
        return (plan.result, plan.stored)) s.next.next := by
    have hdone : During R replacement s.view
        (written s.view (.profile replacement.id) (.envelope plan.envelope)) := h ▸ .alone hfor h
    refine wp_bind_of (writeReplaceAtomic_within ⟨.before, ht⟩ hdone)
      (fun _ _ h ↦ h) fun _ d hd ↦ wp_pure.mpr ⟨?_, hd.2.mono (Nat.zero_le 1)⟩
    rw [hd.1]
    exact hdone
  cases hselection : plan.selection with
  | none =>
    refine halone ?_
    rw [planned, hselection, hplanned.id]
  | some selection =>
    obtain ⟨hnew, old, holdId, hold⟩ := selection_of_plan hshows hplanned hselection
    dsimp only
    by_cases hdigest : plan.current.record.digest = plan.stored.record.digest
    · rw [if_neg (not_not.mpr hdigest)]
      refine halone ?_
      -- the selection has the digest of the replacement already
      have hsame : old = selection := by
        obtain ⟨file, hfile, -, hentry⟩ := loadProfile_eq_ok.mp hload
        obtain ⟨hvalid, entry, hholds, hselected⟩ := hsound.holds_selected hold
        rw [holdId] at hholds
        cases hholds.unique ⟨file, hfile, hentry⟩
        obtain ⟨hschema, -, -⟩ := ProfileSelection.validate_eq_ok.mp hvalid
        rw [hplanned.current_eq, hplanned.digest] at hdigest
        rw [hnew, replacementSelection, ← hschema, ← holdId, ← hdigest]
        exact congrArg (ProfileSelection.mk _ _) hselected.symm
      rw [planned, hselection, hplanned.id, ← hsame]
      exact written_eq_self ((written_of_ne (by simp)).trans hold)
    · rw [if_pos hdigest]
      refine wp_attempt_bind (fun _ _ ↦ hstart) fun intent hintent ↦ ?_
      obtain ⟨htransaction, hintentId, hrolled⟩ :=
        transaction_of_planIntent hsound hid hshows hload hplanned hselection hintent
      have hreplaced : planned plan s.view = replaced s.view intent plan.envelope := by
        rw [planned, hselection, replaced, hintentId, hplanned.id, hnew, hrolled]
      have hduring (d : Disk V) (hd : Within (Replacing s.view intent plan.envelope) 1 d) :
          Within (During R replacement s.view) 1 d :=
        ⟨.intended hfor htransaction hintentId hreplaced hd.1, hd.2⟩
      rw [hnew, ← hrolled]
      exact wp_mono (replaceSelected_stays htransaction
        (hplanned.id.trans hintentId.symm) ht) hduring fun _ ↦ hduring

theorem sound_of_view (h : SoundView R d.view) : Sound R.toProfileFormat d.files := by
  obtain ⟨files, hfiles, hview⟩ := h
  exact hfiles.congr hview

theorem recoverable_of_free (h : view .selectedReplace = none) : Recoverable R view (· = view) := by
  refine ⟨?_, ?_⟩
  · rintro _ rfl
    exact settle_of_none h
  · rintro _ _ rfl hstep
    exact absurd hstep (Transaction.no_step h)

/-- At any time of a replacement the files stand for the old or the new ones. -/
theorem During.exists_recoverable {other} (h : During R replacement view other)
    (hfree : view .selectedReplace = none) : ∃ target K, Recoverable R target K ∧ K other ∧
      (target = view ∨ ∃ plan, PlanFor R replacement view plan ∧ target = planned plan view) := by
  cases h with
  | before => exact ⟨view, _, recoverable_of_free hfree, rfl, .inl rfl⟩
  | alone hplan hplanned =>
    refine ⟨_, _, recoverable_of_free ?_, rfl, .inr ⟨_, hplan, rfl⟩⟩
    rw [hplanned]
    exact hfree
  | intended hplan htransaction hid hplanned hother =>
    rcases hother with hother | hother
    · exact ⟨view, _, htransaction.recoverable_unstarted, hother, .inl rfl⟩
    · exact ⟨_, _, htransaction.recoverable_started, hother, .inr ⟨_, hplan, hplanned.symm⟩⟩

theorem isSome_of_settle {name} (h : R.settle view = .ok target)
    (hname : name ≠ .selectedReplace) (hsome : (view name).isSome = true) :
    (target name).isSome = true := by
  unfold settle at h
  split at h
  · rw [← Except.ok.inj h]
    exact hsome
  · obtain ⟨intent, -, h⟩ := bind_eq_ok.mp h
    obtain ⟨state, -, h⟩ := bind_eq_ok.mp h
    cases state with
    | previous =>
      rw [← Except.ok.inj h, Function.update_of_ne hname]
      exact hsome
    | replacement =>
      rw [← Except.ok.inj h, Function.update_of_ne hname]
      exact hsome
    | replacementProfileWithPreviousSelection =>
      rw [← Except.ok.inj h, Function.update_of_ne hname, Function.update_apply]
      split
      · rfl
      · exact hsome

theorem checkEntryCount_of_settle (h : R.settle d.view = .ok target) (hsound : SoundView R target)
    (ht : d.temporaries.keys.length ≤ Limits.maxAbandonedTemporaries) :
    checkEntryCount d = .ok () := by
  obtain ⟨files, hfiles, rfl⟩ := hsound
  have hsubset : d.files.keys ⊆ .selectedReplace :: files.keys := by
    intro name hname
    by_cases heq : name = .selectedReplace
    · exact heq ▸ List.mem_cons_self ..
    · obtain ⟨file, hfile⟩ := Directory.mem_keys.mp hname
      have hsome := isSome_of_settle h heq (Option.isSome_of_eq_some hfile)
      exact List.mem_cons_of_mem _ (Directory.mem_keys.mpr (Option.isSome_iff_exists.mp hsome))
  have hlength := (List.subperm_of_subset d.files.keys_nodup hsubset).length_le
  rw [List.length_cons] at hlength
  have hkeys := hfiles.length_keys_le
  refine reject_neg (Nat.not_lt.mpr ?_)
  omega

theorem recoverRepository_completes {K n} (hK : Recoverable R target K)
    (hd : Within K (n + 1) d) (hsound : SoundView R target)
    (hn : n + 1 ≤ Limits.maxAbandonedTemporaries) (hcalm : ¬R.Faulty) :
    (R.recoverRepository d).result = .ok () := by
  have hends := (recoverRepository_ends hK hd).2
  cases hresult : (R.recoverRepository d).result with
  | ok _ => rfl
  | error e =>
    rw [hresult] at hends
    refine absurd (hends.2 ?_) hcalm
    exact checkEntryCount_of_settle (hK.settle hd.1) hsound (hd.2.length_le.trans hn)

theorem soundView_of_target (hsound : SoundView R view)
    (h : target = view ∨ ∃ plan, PlanFor R replacement view plan ∧ target = planned plan view) :
    SoundView R target := by
  rcases h with rfl | ⟨plan, hplan, rfl⟩
  · exact hsound
  · exact hplan.sound

end ProfileRepository

end CfwRs.Profiles
