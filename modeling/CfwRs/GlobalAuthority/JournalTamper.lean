import CfwRs.GlobalAuthority.JournalCrash

namespace CfwRs.GlobalAuthority

open Lib Lib.Checked Lib.Durable

namespace DescriptorRelativeAuthorityJournalStore

open AuthorityJournalRecoveryReducer

variable {decoder : JSONDecoder} {s : JournalStore} {anchor : AuthorityJournalAnchor}

theorem compareAndSwap_returns {expected} {replacement} {P : AuthorityJournalAnchor → Prop}
    (h : P replacement) :
    (do compareAndSwap expected replacement; pure replacement :
      StoreCode AuthorityJournalAnchor).wp (fun _ ↦ True) (returns fun a _ ↦ P a) s :=
  wp_bind_any fun _ _ ↦ wp_pure.mpr h

def Reconciled (before after : AuthorityJournalAnchor) : Prop :=
  after.committed = before.committed ∨
    ∃ p, before.pending = some p ∧ after.committed = some p

theorem clearPending_reconciles :
    (clearPending anchor).wp (fun _ ↦ True) (returns fun a _ ↦ Reconciled anchor a) s := by
  refine anchoring_bind_returns fun a h ↦ ?_
  exact compareAndSwap_returns (.inl (AuthorityJournalAnchor.new_eq_ok.mp h).2.1)

theorem promotePending_reconciles :
    (promotePending anchor).wp (fun _ ↦ True) (returns fun a _ ↦ Reconciled anchor a) s := by
  refine wp_attempt_bind_returns fun p hp ↦ anchoring_bind_returns fun a h ↦ ?_
  exact compareAndSwap_returns
    (.inr ⟨p, unwrap_eq_ok.mp hp, (AuthorityJournalAnchor.new_eq_ok.mp h).2.1⟩)

variable {g : UInt64} {journal : Bytes} {name : EntryName} {pending : AuthorityJournalAnchorCursor}

theorem completePending_reconciles :
    (completePending decoder anchor pending journal).wp (fun _ ↦ True)
      (returns fun a _ ↦ Reconciled anchor a) s :=
  wp_bind_any fun _ _ ↦ wp_bind_any fun _ _ ↦ wp_bind_any fun _ _ ↦ wp_bind_any fun _ _ ↦
    promotePending_reconciles

theorem settlePending_reconciles {headData} :
    (settlePending decoder anchor pending journal headData).wp (fun _ ↦ True)
      (returns fun a _ ↦ Reconciled anchor a) s := by
  refine wp_bind_any fun diskHead t ↦ ?_
  split
  · exact wp_bind_any fun _ _ ↦ promotePending_reconciles
  · split
    · split
      · exact clearPending_reconciles
      · exact completePending_reconciles
    · simp

theorem resolvePending_reconciles {image} :
    (resolvePending decoder anchor pending image).wp (fun _ ↦ True)
      (returns fun a _ ↦ Reconciled anchor a) s := by
  unfold resolvePending
  split
  · exact clearPending_reconciles
  · exact wp_bind_any fun _ _ ↦ clearPending_reconciles
  · simp
  · exact settlePending_reconciles
  · exact completePending_reconciles

theorem reconcilePending_reconciles : (reconcilePending decoder anchor).wp (fun _ ↦ True)
      (returns fun a _ ↦ Reconciled anchor a) s := by
  unfold reconcilePending
  split
  · exact wp_pure.mpr (.inl rfl)
  · exact wp_bind_any fun _ _ ↦ wp_bind_any fun _ _ ↦ resolvePending_reconciles

theorem acceptRecovery_returns {recovery} {exact : Prop}
    [Decidable exact] : (acceptRecovery recovery exact).wp (fun _ ↦ True)
      (returns fun _ t ↦ t = s ∧ (∃ action, recovery.posture = .recovering action) ∧ exact) s := by
  unfold acceptRecovery
  split
  · simp
  · next action h =>
    exact wp_attempt_returns.mpr fun _ hexact ↦ ⟨rfl, ⟨action, h⟩, require_eq_ok.mp hexact⟩

theorem checkFile_eq_some {maximumBytes file data}
    (h : checkFile name maximumBytes file = .ok (some data)) : file = some ⟨data, true⟩ := by
  cases file with
  | none => simp [checkFile] at h
  | some f =>
    simp only [checkFile, ok_iff, Option.some.injEq, exists_const] at h
    obtain ⟨hsecure, -, rfl⟩ := h
    rw [← hsecure]

theorem loadImage_returns : (loadImage g).wp (fun _ ↦ True) (returns fun image t ↦ t = s ∧
      ∀ data, image.journal = some data → s.lookup (.journal g) = some ⟨data, true⟩) s := by
  simp only [loadImage, wp_bind, wp_readOptional]
  refine after_returns fun journal hjournal ↦ ?_
  rw [wp_bind, wp_readOptional]
  refine after_returns fun head _ ↦ ?_
  rw [wp_bind, wp_entryExists, after_ok, wp_pure]
  exact ⟨rfl, fun data hdata ↦ checkFile_eq_some (hjournal.trans (congrArg Except.ok hdata))⟩

theorem unlinkAll_lookup {names} (h : name ∉ names) :
    (unlinkAll names).wp (fun _ ↦ True) (returns fun _ t ↦ t.lookup name = s.lookup name) s := by
  induction names generalizing s with
  | nil => exact wp_pure.mpr rfl
  | cons other names ih =>
    rw [List.mem_cons, not_or] at h
    rw [unlinkAll, wp_bind, wp_step]
    refine ⟨trivial, ?_⟩
    have hlookup : (s.remove other).lookup name = s.lookup name := by
      rw [JournalStore.lookup_remove, if_neg h.1]
    rw [← hlookup]
    exact ih h.2

theorem enforceGenerationRetention_lookup : (enforceGenerationRetention g).wp (fun _ ↦ True)
      (returns fun _ t ↦ t.lookup (.journal g) = s.lookup (.journal g)) s := by
  simp only [enforceGenerationRetention, wp_bind, wp_scanGenerationEntries]
  refine after_returns fun entries _ ↦ wp_attempt_bind_returns fun _ _ ↦ ?_
  refine wp_attempt_bind_returns fun _ _ ↦ unlinkAll_lookup fun hmem ↦ ?_
  obtain ⟨-, g', hg, hne⟩ := mem_obsoleteEntries hmem
  exact hne (Option.some.inj hg).symm

variable (decoder) in
/-- No two different frames of the two journals have the same digest. -/
def Collisionless (journal other : Bytes) : Prop :=
  ∀ x y, (AuthorityJournalCodec.format decoder).FrameIn x journal →
    (AuthorityJournalCodec.format decoder).FrameIn y other →
    Sha256.hash x = Sha256.hash y → x = y

/-- A cursor determines the whole history before it. -/
theorem EndsAt.unique {cursor other state state'} (h : EndsAt decoder cursor journal state)
    (h' : EndsAt decoder cursor other state') (hc : Collisionless decoder journal other) :
    journal = other ∧ state = state' := by
  obtain ⟨records, hd⟩ := h.describes
  obtain ⟨records', hd'⟩ := h'.describes
  obtain ⟨r, hr, rfl, hrd⟩ := hd.last
  obtain ⟨r', hr', rfl, hrd'⟩ := hd'.last
  have hlength : records.length = records'.length := hd.sequence_eq.symm.trans hd'.sequence_eq
  exact hd.isLog.eq_of_getLast hd'.isLog hr hr' hlength (hrd.trans hrd'.symm) hc

theorem recoveryForCommittedAnchor_returns :
    (recoveryForCommittedAnchor decoder anchor).wp (fun _ ↦ True)
      (returns fun recovery t ↦ ∃ cursor journal state, anchor.committed = some cursor ∧
        recovery.committedState = some state ∧ EndsAt decoder cursor journal state ∧
        t.lookup (.journal cursor.generation) = some ⟨journal, true⟩) s := by
  refine wp_attempt_bind_returns fun cursor hc ↦ ?_
  refine wp_bind_returns loadImage_returns fun image t himage ↦ ?_
  refine wp_attempt_bind_returns fun recovery hr ↦ ?_
  obtain ⟨rfl, himage⟩ := himage
  rw [unwrap_eq_ok] at hc hr
  refine wp_bind_returns acceptRecovery_returns fun _ t h ↦ wp_pure.mpr ?_
  obtain ⟨rfl, ⟨action, hposture⟩, head, hhead, state, hstate, hmatches, hrevision⟩ := h
  rcases describes_of_recover hr hposture with ⟨-, -, hnone⟩ | ⟨journal, h', records, st, rfl, hd, rfl⟩
  · rw [hnone] at hstate
    cases hstate
  · obtain rfl := Option.some.inj hhead
    obtain rfl := Option.some.inj hstate
    obtain rfl := AuthorityJournalAnchorCursor.matches_iff.mp hmatches
    exact ⟨cursor, journal, _, hc, rfl, ⟨⟨records, hd⟩, hrevision⟩, himage journal rfl⟩

/-- What recovery may answer while the keychain holds `anchor`, when it leaves `t` behind. -/
structure Traced (decoder : JSONDecoder) (anchor : AuthorityJournalAnchor)
    (recovery : AuthorityJournalRecovery) (t : JournalStore) : Prop where
  ends_at_cursor : ∀ state, recovery.committedState = some state → ∃ cursor journal,
    (anchor.committed = some cursor ∨ anchor.pending = some cursor) ∧
      t.lookup (.journal cursor.generation) = some ⟨journal, true⟩ ∧
      EndsAt decoder cursor journal state ∧
      ∀ other state', EndsAt decoder cursor other state' →
        Collisionless decoder journal other → other = journal ∧ state' = state
  not_empty : anchor.committed ≠ none → recovery.committedState = none →
    recovery.posture = .recovering .restoreAnchorAccess

theorem recoverAnchored_returns {markerExists} :
    (recoverAnchored decoder markerExists anchor).wp (fun _ ↦ True)
      (returns (Traced decoder anchor)) s := by
  refine wp_bind_returns reconcilePending_reconciles fun reconciled t hr ↦ ?_
  unfold recoverReconciled
  split
  · next hnone =>
    -- Without a committed cursor there was none before either.
    refine wp_bind_any fun _ _ ↦ wp_bind_any fun _ _ ↦ wp_bind_any fun _ _ ↦ wp_pure.mpr ?_
    refine ⟨by simp [emptyRecovery], fun hsome ↦ ?_⟩
    rcases hr with hsame | ⟨p, -, hp⟩
    · exact absurd (hsame ▸ hnone) hsome
    · simp [hnone] at hp
  · next committed hcommitted =>
    refine wp_bind_any fun _ _ ↦ wp_bind_any fun _ _ ↦
      wp_bind_returns recoveryForCommittedAnchor_returns fun recovery t h ↦
      wp_bind_returns enforceGenerationRetention_lookup fun _ u hu ↦ wp_pure.mpr ?_
    obtain ⟨cursor, journal, state, hc, hstate, hends, hjournal⟩ := h
    cases hcommitted.symm.trans hc
    refine ⟨fun st hst ↦ ?_, by simp [hstate]⟩
    cases hstate.symm.trans hst
    refine ⟨committed, journal, ?_, hu.trans hjournal, hends, fun other state' hother hcol ↦ ?_⟩
    · rcases hr with hsame | ⟨p, hp, hp'⟩
      · exact .inl (hsame ▸ hc)
      · exact .inr (hp.trans (hp'.symm.trans hc))
    · obtain ⟨rfl, rfl⟩ := hends.unique hother hcol
      exact ⟨rfl, rfl⟩

theorem recoverLocked_returns (hk : s.keychain = .ok (some anchor)) :
    (recoverLocked decoder).wp (fun _ ↦ True) (returns (Traced decoder anchor)) s := by
  simp only [recoverLocked, wp_run, wp_entryExists]
  refine after_returns fun _ _ ↦ ?_
  simp only [wp_bind, wp_scanGenerationEntries]
  refine after_returns fun _ _ ↦ ?_
  simp only [wp_run, wp_entryExists, wp_load, hk]
  exact recoverAnchored_returns

/-- Whatever is in the directory, a recovery that does not quarantine the Authority answers with the
one history that the anchor names. -/
theorem recovery_traced_to_anchor (hk : s.keychain = .ok (some anchor))
    {recovery : AuthorityJournalRecovery} (h : (recover decoder s).result = .ok recovery)
    {action : AuthorityRecoveryAction} (hposture : recovery.posture = .recovering action) :
    Traced decoder anchor recovery ((recover decoder).final s) := by
  have hlocked : returns _ (recoverLocked decoder s).result _ := (recoverLocked_returns hk).2
  simp only [recover, handle] at h
  cases hr : (recoverLocked decoder s).result with
  | ok r =>
    rw [hr] at h hlocked
    obtain rfl := Except.ok.inj h
    exact hlocked
  | error e =>
    rw [hr] at h
    simp only [handled, recoveryFor] at h
    split at h
    · obtain rfl := Except.ok.inj h
      exact ⟨by simp, fun _ _ ↦ rfl⟩
    · obtain rfl := Except.ok.inj h
      simp [quarantine] at hposture
    · obtain rfl := Except.ok.inj h
      simp [quarantine] at hposture
    · obtain rfl := Except.ok.inj h
      simp [quarantine] at hposture
    · cases h

theorem enrollment_traced : ∃ storeID cursor recovery,
    enrolledStore.keychain = .ok (some (settledAnchor storeID (some cursor))) ∧
      recovery.committedState = some sampleEnrolled ∧
      Traced .canonical (settledAnchor storeID (some cursor)) recovery
        ((recover .canonical).final enrolledStore) := by
  obtain ⟨storeID, cursor, journal, h, -⟩ := appended_enrolledStore
  have hleads : LeadsTo .canonical (· = some sampleEnrolled) enrolledStore :=
    .settled (.committed h) rfl
  obtain ⟨recovery, hreturns, hstate, ⟨action, hposture⟩, -⟩ := hleads.recovers
    (Restartable.ready ⟨_, rfl⟩)
  exact ⟨storeID, cursor, recovery, h.keychain_eq, hstate,
    recovery_traced_to_anchor h.keychain_eq hreturns hposture⟩

/-- An anchor alone does not exclude an empty history: the first append writes it before anything
else. -/
theorem anchored_store_recovers_empty : ∃ s anchor, s.keychain = .ok (some anchor) ∧
    (recover .canonical s).result = .ok emptyRecovery :=
  ⟨freshStore.setAnchor (settledAnchor (.fill 16 2) none), _, rfl, rfl⟩

end DescriptorRelativeAuthorityJournalStore

end CfwRs.GlobalAuthority
