import CfwRs.Profiles.CrashAtomic

namespace CfwRs.Profiles

open Lib Lib.Checked Durable

variable {V P : Type}

namespace ProfileRepository

open ProfileFormat

variable {R : ProfileRepository V P} {s : Disk V} {view target : View V} {n : ℕ}

/-- Every profile file is one that the repository wrote. -/
def Written (R : ProfileRepository V P) (view : View V) : Prop :=
  ∀ id file, view (.profile id) = some file → ∃ name profile sourceUrl timestamp,
    file = ⟨.envelope (R.envelope id name profile sourceUrl timestamp), true⟩

structure Whole (R : ProfileRepository V P) (view : View V) : Prop where
  sound : SoundView R view
  written : Written R view

/-- The files stand for those of a repository between two operations. -/
def Safe (R : ProfileRepository V P) (view : View V) : Prop :=
  ∃ target, Whole R target ∧ R.settle view = .ok target

theorem Whole.free (h : Whole R view) : view .selectedReplace = none := by
  obtain ⟨⟨files, hfiles, rfl⟩, -⟩ := h
  exact free_of_sound (s := ⟨files, ∅, 0⟩) hfiles

theorem Whole.safe (h : Whole R view) : Safe R view := ⟨view, h, settle_of_none h.free⟩

theorem Whole.sound_files {d : Disk V} (h : Whole R d.view) : Sound R.toProfileFormat d.files :=
  sound_of_view h.sound

theorem Written.write {id name profile sourceUrl timestamp envelope} (h : Written R view)
    (hencode : R.encodeWithTimestamp id name profile sourceUrl timestamp = .ok envelope) :
    Written R (written view (.profile id) (.envelope envelope)) := by
  intro other file hfile
  by_cases hid : other = id
  · subst hid
    rw [written_self] at hfile
    obtain ⟨-, -, rfl⟩ := encodeWithTimestamp_eq_ok.mp hencode
    exact ⟨name, profile, sourceUrl, timestamp, (Option.some.inj hfile).symm⟩
  · rw [written_of_ne fun h ↦ hid (EntryName.profile.inj h)] at hfile
    exact h other file hfile

theorem Written.update {name file} (h : Written R view)
    (hname : ∀ id, name = .profile id → file = none) :
    Written R (Function.update view name file) := by
  intro id other hother
  rw [Function.update_apply] at hother
  split at hother
  · next heq =>
    rw [hname id heq.symm] at hother
    cases hother
  · exact h id other hother

theorem Written.writeSelection {selection} (h : Written R view) :
    Written R (written view .selection (.selection selection)) := h.update nofun

/-- Recovering a safe disk keeps it safe, and makes it whole when it completes. -/
theorem recoverRepository_safe (hs : Within (Safe R) (n + 1) s) :
    R.recoverRepository.wp (Within (Safe R) (n + 1)) (ends (Within (Safe R) (n + 1))
      fun _ ↦ Within (Whole R) 0) s := by
  obtain ⟨⟨target, hwhole, hsettle⟩, ht⟩ := hs
  have hsafe {m : ℕ} (d : Disk V) (hd : Within (fun view ↦ R.settle view = .ok target) m d) :
      Within (Safe R) m d := ⟨⟨target, hwhole, hd.1⟩, hd.2⟩
  refine wp_mono (recoverRepository_ends recoverable_settle ⟨hsettle, ht⟩) hsafe fun r d hr ↦ ?_
  cases r with
  | ok _ => exact ⟨hr.1.2 ▸ hwhole, hr.2⟩
  | error e => exact hsafe d hr.1

theorem wp_readAll_bind {α : Type} {C} {Q : Except ProfileError α → Disk V → Prop}
    {f} (hs : Within (Whole R) 0 s) (hC : C s.next) (herror : ∀ e, Q (.error e) s.next)
    (hok : ∀ existing, Shows R.toProfileFormat s.files existing → (f existing).wp C Q s.next) :
    (R.inspect R.readAll >>= f).wp C Q s := by
  obtain ⟨existing, hexisting, hshows⟩ := exists_readAll hs.1.sound_files hs.2
  exact wp_inspect_of_eq_bind hexisting hC (fun _ ↦ herror) (hok existing hshows)

section Import

variable {id : String} {profile : P} {sourceUrl : Option String}

open Directory in
theorem whole_import {name timestamp envelope existing} (hs : Whole R s.view)
    (hshows : Shows R.toProfileFormat s.files existing) (hid : isCanonicalUuid id = true)
    (hname : normalizeName name = .ok name)
    (hreferences : credentialBindingCount existing.credentialCatalog +
      (R.credentialReferences profile).length ≤ Limits.maxRepositoryCredentialReferences)
    (hentries : existing.records.length + existing.invalid.length < Limits.maxRepositoryEntries)
    (hencode : R.encodeWithTimestamp id name profile sourceUrl timestamp = .ok envelope)
    (hbytes : existing.storedBytes + R.envelopeLength envelope ≤ Limits.maxRepositoryBytes)
    (hnone : s.view (.profile id) = none) :
    Whole R (written s.view (.profile id) (.envelope envelope)) := by
  obtain ⟨entry, hentry, hreads⟩ := exists_decodeEntry hid hname hencode
  have herase {w : EntryName → StoredFile V → ℕ} :
      total w (s.files.erase (.profile id)) = total w s.files := total_erase_of_lookup hnone
  rw [hshows.listing.bindings] at hreferences
  rw [hshows.listing.entries] at hentries
  rw [hshows.storedBytes] at hbytes
  have hbindings := hreads.bindings
  have hlength : R.length ⟨.envelope envelope, true⟩ = R.envelopeLength envelope := rfl
  have hsound : Sound R.toProfileFormat (s.files.insert (.profile id) ⟨.envelope envelope, true⟩) := by
    refine hs.sound_files.insertProfile hentry ?_ ?_ ?_ ?_
    · -- nothing could select a profile that was not there
      intro selection hselection hselected
      obtain ⟨-, other, ⟨file, hfile, -⟩, -⟩ := hs.sound_files.holds_selected hselection
      rw [hselected] at hfile
      cases hnone.symm.trans hfile
    · rw [herase]
      omega
    · rw [herase]
      omega
    · rw [herase]
      omega
  exact ⟨⟨_, hsound, viewOf_insert⟩, hs.written.write hencode⟩

variable [DecidableEq P]

theorem import_ends {name} (hs : Within (Whole R) 0 s) :
    (R.importWithIdAndSourceOutcomeInDirectory id name profile sourceUrl).wp (Within (Safe R) 1)
      (ends (Within (Safe R) 1) fun _ ↦ Within (Whole R) 0) s := by
  have hstart : Within (Safe R) 1 s := hs.mono (fun _ h ↦ h.safe) (Nat.zero_le 1)
  refine wp_attempt_bind (fun _ _ ↦ hstart) fun _ hid ↦ ?_
  refine wp_attempt_bind (fun _ _ ↦ hstart) fun normal hnormal ↦ ?_
  rw [validateProfileId, require_eq_ok] at hid
  refine wp_readAll_bind hs hstart (fun _ ↦ hstart) fun existing hshows ↦ ?_
  split
  · exact wp_attempt.mpr hstart
  · split
    · refine wp_inspect_bind hstart (fun _ _ ↦ hstart) fun loaded _ ↦ ?_
      exact wp_attempt_bind (fun _ _ ↦ hstart) fun _ _ ↦ wp_pure.mpr hs
    · refine wp_attempt_bind (fun _ _ ↦ hstart) fun _ hreferences ↦ ?_
      refine wp_attempt_bind (fun _ _ ↦ hstart) fun _ hentries ↦ ?_
      refine wp_attempt_bind (fun _ _ ↦ hstart) fun envelope hencode ↦ ?_
      refine wp_attempt_bind (fun _ _ ↦ hstart) fun _ hbytes ↦ ?_
      have hwhole (hnone : s.view (.profile id) = none) := whole_import hs.1 hshows hid (normalizeName_idem hnormal)
          (Nat.not_lt.mp (reject_eq_ok.mp hreferences)) (Nat.not_le.mp (reject_eq_ok.mp hentries))
          hencode (Nat.not_lt.mp (reject_eq_ok.mp hbytes)) hnone
      refine wp_bind_of (writeNewAtomic_within ⟨hs.1.safe, hs.2⟩
        fun hnone ↦ (hwhole hnone).safe) (fun _ _ h ↦ h) fun _ d hd ↦ wp_pure.mpr ⟨?_, hd.2.1⟩
      rw [hd.1]
      exact hwhole hd.2.2

end Import

section Select

def Reselected (R : ProfileRepository V P) (view other : View V) : Prop :=
  other = view ∨ ∃ selection, other = written view .selection (.selection selection) ∧ Whole R other

variable {other : View V}

theorem Reselected.whole (hwhole : Whole R view) (h : Reselected R view other) : Whole R other := by
  rcases h with rfl | ⟨_, -, h⟩
  · exact hwhole
  · exact h

variable {id : String} {selection : ProfileSelection}

theorem Reselected.restore {file} (h : Reselected R view other)
    (hselection : view .selection = file) : Function.update other .selection file = view := by
  subst hselection
  rcases h with rfl | ⟨_, rfl, -⟩
  · exact Function.update_eq_self ..
  · rw [written, Function.update_idem, Function.update_eq_self]

/-- A selection that the selection of a profile may write. -/
def Selectable (R : ProfileRepository V P) (s : Disk V) (selection : ProfileSelection) : Prop :=
  ∃ profiles record, R.readProfiles s = .ok profiles ∧ record ∈ profiles.records ∧
    ProfileSelection.new record.id record.digest = .ok selection ∧
    profiles.storedBytes + selection.text.length ≤ Limits.maxRepositoryBytes

theorem whole_select (hs : Within (Whole R) 0 s) (h : Selectable R s selection) :
    Whole R (written s.view .selection (.selection selection)) := by
  obtain ⟨profiles, record, hprofiles, hrecord, hnew, hbytes⟩ := h
  obtain ⟨_, hread, hlisting, hstored⟩ := exists_readProfiles hs.1.sound_files hs.2
  cases hread.symm.trans hprofiles
  obtain ⟨stored, hholds, rfl⟩ := (hlisting.record record).mp hrecord
  have hvalid := (ProfileSelection.encode_of_new hnew).1
  obtain ⟨-, -, rfl⟩ := ProfileSelection.new_eq_ok.mp hnew
  rw [hstored] at hbytes
  exact ⟨⟨_, hs.1.sound_files.insertSelection hvalid hholds rfl hbytes, viewOf_insert⟩,
    hs.1.written.writeSelection⟩

section Within

variable {K : View V → Prop} (hs : Within K 0 s) (hselect : ∀ selection, Selectable R s selection →
    K (written s.view .selection (.selection selection)))
include hs hselect

theorem selectInDirectory_within : (R.selectInDirectory id).wp (Within K 1)
      (ends (Within K 1) fun _ ↦ Within K 0) s := by
  have hstart : Within K 1 s := hs.mono (fun _ h ↦ h) (Nat.zero_le 1)
  refine wp_attempt_bind (fun _ _ ↦ hstart) fun _ _ ↦ ?_
  refine wp_inspect_bind hstart (fun _ _ ↦ hstart) fun profiles hprofiles ↦ ?_
  split
  · split <;> exact wp_attempt.mpr hstart
  · next record hrecord =>
    refine wp_attempt_bind (fun _ _ ↦ hstart) fun selection hnew ↦ ?_
    refine wp_bind.mpr (wp_attempt.mpr ?_)
    rw [(ProfileSelection.encode_of_new hnew).2]
    refine wp_attempt_bind (fun _ _ ↦ hstart) fun _ hbytes ↦ ?_
    have hwritten := hselect selection ⟨profiles, record, hprofiles,
      List.mem_of_find?_eq_some hrecord, hnew, Nat.not_lt.mp (reject_eq_ok.mp hbytes)⟩
    refine wp_bind_of (writeReplaceAtomic_within hs hwritten) (fun _ _ h ↦ h)
      fun _ d hd ↦ wp_pure.mpr ⟨?_, hd.2⟩
    rw [hd.1]
    exact hwritten

omit hs hselect in
theorem undoSelection_within {previous} (hs : Within K 1 s)
    (hundo : K (Function.update s.view .selection
      (previous.map fun selection ↦ ⟨.selection selection, true⟩))) :
    Stays (Within K 2) (R.undoSelection previous) s := by
  have hstart : Within K 2 s := hs.mono (fun _ h ↦ h) (Nat.le_succ 1)
  cases previous with
  | some selection =>
    refine wp_attempt_bind (fun _ _ ↦ hstart) fun encoded hencode ↦ ?_
    obtain ⟨-, -, hencode⟩ := bind_eq_ok.mp hencode
    cases Except.ok.inj hencode
    refine stays_of_ends (writeReplaceAtomic_within hs hundo) (fun _ h ↦ h) fun _ d hd ↦ ?_
    refine ⟨?_, hd.2.mono (Nat.le_succ 1)⟩
    rw [hd.1]
    exact hundo
  | none =>
    refine wp_inspect_bind hstart (fun _ _ ↦ hstart) fun present _ ↦ ?_
    cases present with
    | true =>
      exact stays_of_ends (unlinkCommitted_within hstart hundo) (fun _ h ↦ h.1)
        fun _ _ h ↦ h.1
    | false => exact wp_pure.mpr hstart

theorem selectRecovering_within (hundo : ∀ existing, R.readAll s = .ok existing → ∀ view, K view →
      K (Function.update view .selection
        (existing.selection.map fun selection ↦ ⟨.selection selection, true⟩))) :
    (R.selectRecovering id).wp (Within K 2) (ends (Within K 2) fun _ ↦ Within K 0) s := by
  have hstart : Within K 2 s := hs.mono (fun _ h ↦ h) (Nat.zero_le 2)
  refine wp_inspect_bind hstart (fun _ _ ↦ hstart) fun existing hexisting ↦ ?_
  refine wp_bind.mpr (wp_catching.mpr (wp_mono (selectInDirectory_within hs hselect)
    (fun _ h ↦ h.mono (fun _ h ↦ h) (Nat.le_succ 1)) fun r d hr ↦ after_ok.mpr ?_))
  cases r with
  | ok record => exact wp_pure.mpr hr
  | error operation =>
    refine wp_catching_bind (undoSelection_within hr (hundo existing hexisting _ hr.1)) fun r d' hd' ↦ ?_
    cases r <;> exact wp_attempt.mpr hd'

end Within

theorem selectRecovering_ends (hs : Within (Whole R) 0 s) :
    (R.selectRecovering id).wp (Within (Safe R) 2)
      (ends (Within (Safe R) 2) fun _ ↦ Within (Whole R) 0) s := by
  have hsafe (d : Disk V) (hd : Within (Reselected R s.view) 2 d) : Within (Safe R) 2 d :=
    hd.mono (fun _ h ↦ (h.whole hs.1).safe) (Nat.le_refl 2)
  refine wp_mono (selectRecovering_within (K := Reselected R s.view) ⟨.inl rfl, hs.2⟩
    (fun selection h ↦ .inr ⟨selection, rfl, whole_select hs h⟩) fun existing hexisting view hview ↦ .inl ?_)
    hsafe fun r d hr ↦ ?_
  · obtain ⟨_, hread, hshows⟩ := exists_readAll hs.1.sound_files hs.2
    cases hread.symm.trans hexisting
    exact hview.restore hshows.selection
  · cases r with
    | ok _ => exact hr.mono (fun _ h ↦ h.whole hs.1) (Nat.le_refl 0)
    | error e => exact hsafe d hr

end Select

section Update

variable {id : String} {sourceUrl : Option String}

open Directory in
theorem whole_update {name length current envelope existing} (hs : Whole R s.view)
    (hshows : Shows R.toProfileFormat s.files existing)
    (hload : R.loadProfile s.view id = .ok (length, current))
    (hname : normalizeName name = .ok name)
    (hencode : R.encodeWithTimestamp id name current.profile sourceUrl
      current.record.createdEpochSecs = .ok envelope)
    (hbytes : existing.storedBytes - length + R.envelopeLength envelope ≤ Limits.maxRepositoryBytes) :
    Whole R (written s.view (.profile id) (.envelope envelope)) := by
  obtain ⟨file, hfile, rfl, hentry⟩ := loadProfile_eq_ok.mp hload
  have hlookup := hfile
  have hid := (of_decodeEntry hentry).2.1
  obtain ⟨entry, hentry', hreads⟩ := exists_decodeEntry hid hname hencode
  have hsplit (w : EntryName → StoredFile V → ℕ) :
      w (.profile id) file + total w (s.files.erase (.profile id)) = total w s.files :=
    (total_eq_add_erase hlookup).symm
  have hentries : 1 + total isProfile (s.files.erase (.profile id)) = total isProfile s.files :=
    hsplit isProfile
  have hprofileBytes : R.length file + total R.profileBytes (s.files.erase (.profile id)) =
      total R.profileBytes s.files := hsplit R.profileBytes
  have hbindings : R.bindings (.valid current) + total R.bindingsIn (s.files.erase (.profile id)) =
      total R.bindingsIn s.files := by
    rw [← hsplit R.bindingsIn, bindingsIn, hentry]
  have hentries_le := hs.sound_files.entries_le
  have hbindings_le := hs.sound_files.bindings_le
  rw [hshows.storedBytes] at hbytes
  have hreferences : R.bindings entry ≤ R.bindings (.valid current) := hreads.bindings
  have hlength : R.length ⟨.envelope envelope, true⟩ = R.envelopeLength envelope := rfl
  refine ⟨⟨_, hs.sound_files.insertProfile hentry' ?_ (by omega) (by omega) (by omega),
    viewOf_insert⟩, hs.written.write hencode⟩
  intro selection hselection hselected
  obtain ⟨-, other, hother, hdigest⟩ := hs.sound_files.holds_selected hselection
  rw [hselected] at hother
  cases hother.unique ⟨file, hlookup, hentry⟩
  rw [hreads.digest, ← (of_decodeEntry_valid hentry).2]
  exact hdigest.symm

theorem updateMetadataInDirectory_stays {name} (hs : Within (Whole R) 0 s) :
    Stays (Within (Safe R) 1) (R.updateMetadataInDirectory id name sourceUrl) s := by
  have hstart : Within (Safe R) 1 s := hs.mono (fun _ h ↦ h.safe) (Nat.zero_le 1)
  refine wp_readAll_bind hs hstart (fun _ ↦ hstart) fun existing hshows ↦ ?_
  refine wp_inspect_bind hstart (fun _ _ ↦ hstart) fun loaded hload ↦ ?_
  obtain ⟨file, hfile, -, hentry⟩ := loadProfile_eq_ok.mp hload
  refine wp_attempt_bind (fun _ _ ↦ hstart) fun normal hname ↦ ?_
  refine wp_attempt_bind (fun _ _ ↦ hstart) fun envelope hencode ↦ ?_
  refine wp_attempt_bind (fun _ _ ↦ hstart) fun _ hbytes ↦ ?_
  have hwhole := whole_update hs.1 hshows hload
    (normalizeName_of_replacementName (of_decodeEntry_valid hentry).1 hname) hencode
    (Nat.not_lt.mp (reject_eq_ok.mp hbytes))
  refine wp_bind_of (writeReplaceAtomic_within ⟨hs.1.safe, hs.2⟩ hwhole.safe)
    (fun _ _ h ↦ h) fun _ d hd ↦ wp_pure.mpr ⟨?_, hd.2.mono (Nat.zero_le 1)⟩
  rw [hd.1]
  exact hwhole.safe

end Update

section Delete

theorem Whole.erase {name} (h : Whole R view)
    (hname : name = .selection ∨ ∀ selection, name = .profile selection.profileId →
      view .selection ≠ some ⟨.selection selection, true⟩) :
    Whole R (Function.update view name none) := by
  obtain ⟨⟨files, hfiles, rfl⟩, hwritten⟩ := h
  exact ⟨⟨files.erase name, hfiles.erase hname, viewOf_erase⟩, hwritten.update fun _ _ ↦ rfl⟩

variable {invalidSelection : InvalidSelection}
variable {existing : RepositorySnapshot} {id : String}

theorem not_selected_of_clearsSelection {selection}
    (h : clearsSelection existing id invalidSelection = .ok false)
    (hselection : existing.selection = some selection) : selection.profileId ≠ id := by
  intro hid
  unfold clearsSelection at h
  rw [if_pos ⟨selection, hselection, hid⟩] at h
  split at h <;> cases h

/-- The profile goes only once no selection names it. -/
theorem clearSelection_ends {clears} (hs : Within (Whole R) 0 s) (hselection : s.view .selection =
      existing.selection.map fun selection ↦ ⟨.selection selection, true⟩)
    (hclears : clearsSelection existing id invalidSelection = .ok clears) :
    (R.clearSelection clears).wp (Within (Whole R) 0) (ends (Within (Whole R) 0)
      fun _ d ↦ Within (Whole R) 0 d ∧ ∀ selection : ProfileSelection, id = selection.profileId →
        d.view .selection ≠ some ⟨.selection selection, true⟩) s := by
  cases clears with
  | false =>
    refine wp_pure.mpr ⟨hs, fun selection hid hselected ↦ ?_⟩
    rw [hselection, Option.map_eq_some_iff] at hselected
    obtain ⟨other, hother, heq⟩ := hselected
    cases heq
    exact not_selected_of_clearsSelection hclears hother hid.symm
  | true =>
    refine wp_post (unlinkCommitted_within hs (hs.1.erase (.inl rfl))) fun r d hr ↦ ?_
    cases r with
    | error e => exact hr.1
    | ok _ =>
      refine ⟨hr.1, fun selection _ ↦ ?_⟩
      rw [hr.2]
      nofun

theorem deleteInDirectory_stays (hs : Within (Whole R) 0 s) :
    Stays (Within (Safe R) 1) (R.deleteInDirectory id invalidSelection) s := by
  have hsafe {d : Disk V} (hd : Within (Whole R) 0 d) : Within (Safe R) 1 d :=
    hd.mono (fun _ h ↦ h.safe) (Nat.zero_le 1)
  have hstart := hsafe hs
  refine wp_readAll_bind hs hstart (fun _ ↦ hstart) fun existing hshows ↦ ?_
  refine wp_attempt_bind (fun _ _ ↦ hstart) fun clears hclears ↦ ?_
  refine wp_inspect_bind hstart (fun _ _ ↦ hstart) fun found _ ↦ ?_
  cases found with
  | none => exact wp_pure.mpr hstart
  | some file =>
    refine wp_attempt_bind (fun _ _ ↦ hstart) fun _ _ ↦ ?_
    refine wp_bind_of (wp_mono (clearSelection_ends hs hshows.selection hclears)
      (fun _ ↦ hsafe) fun _ _ h ↦ h) (fun _ _ h ↦ hsafe h) fun _ d hd ↦ ?_
    have hdeleted := hd.1.1.erase (.inr fun selection hid ↦ hd.2 selection (EntryName.profile.inj hid))
    refine wp_bind_of (wp_mono (unlinkCommitted_within hd.1 hdeleted) (fun _ ↦ hsafe)
      fun _ _ h ↦ h) (fun _ _ h ↦ hsafe h.1) fun _ _ h ↦ wp_pure.mpr (hsafe h.1)

end Delete

end ProfileRepository

end CfwRs.Profiles
