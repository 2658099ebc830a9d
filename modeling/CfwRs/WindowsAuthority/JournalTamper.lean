import CfwRs.WindowsAuthority.JournalCrash

namespace CfwRs.WindowsAuthority.WindowsAuthorityJournal

open Lib Lib.Checked Lib.Durable JournalCodec Storage

variable {j : WindowsAuthorityJournal} {s : Storage} {anchor : JournalAnchor} {cursor : JournalCursor}
variable {a : JournalAnchor} {image : PendingImage} {maximum : ℕ} {name : EntryName}
  {same : Option JournalCursor}

theorem new_returns {storeId committed pending}
    (h : JournalAnchor.new storeId committed pending = .ok a) :
    a.committed = committed ∧ a.pending = pending := by
  simp only [JournalAnchor.new, ok_iff] at h
  obtain ⟨_, -, rfl⟩ := h
  exact ⟨rfl, rfl⟩

/-- The anchor after a pending record has been dealt with. -/
structure Reconciled (before after : JournalAnchor) : Prop where
  committed : after.committed = before.committed ∨
    ∃ p, before.pending = some p ∧ after.committed = some p
  pending : after.pending = none

theorem replaceAnchor_reconciles {expected} (h : Reconciled anchor a) :
    (do replaceAnchor expected a; pure a : JournalCode JournalAnchor).wp (fun _ ↦ True)
      (returns fun a _ ↦ Reconciled anchor a) s :=
  wp_bind_any fun _ _ ↦ wp_pure.mpr h

theorem abandonPending_reconciles :
    (j.abandonPending anchor same image).wp (fun _ ↦ True) (returns fun a _ ↦ Reconciled anchor a) s := by
  refine wp_bind_any fun _ _ ↦ wp_bind_any fun _ _ ↦ lifted_bind_returns fun a h ↦ ?_
  exact replaceAnchor_reconciles ⟨.inl (new_returns h).1, (new_returns h).2⟩

theorem commitPending_reconciles (hp : anchor.pending = some cursor) :
    (commitPending anchor cursor).wp (fun _ ↦ True) (returns fun a _ ↦ Reconciled anchor a) s := by
  refine wp_bind_any fun _ _ ↦ wp_bind_any fun _ _ ↦ lifted_bind_returns fun a h ↦ ?_
  exact replaceAnchor_reconciles ⟨.inr ⟨cursor, hp, (new_returns h).1⟩, (new_returns h).2⟩

theorem settleCandidate_reconciles {other found} (hp : anchor.pending = some cursor) :
    (j.settleCandidate anchor cursor same other image found).wp (fun _ ↦ True)
      (returns fun a _ ↦ Reconciled anchor a) s := by
  cases found with
  | none => exact abandonPending_reconciles
  | some bytes =>
    exact wp_bind_any fun _ _ ↦ wp_bind_any fun _ _ ↦ wp_bind_any fun _ _ ↦ wp_bind_any fun _ _ ↦
      wp_bind_any fun _ _ ↦ wp_bind_any fun _ _ ↦ commitPending_reconciles hp

theorem settlePending_reconciles :
    (j.settlePending anchor).wp (fun _ ↦ True) (returns fun a _ ↦ Reconciled anchor a) s := by
  unfold settlePending
  split
  · refine wp_attempt_bind_returns fun pending hpending ↦ ?_
    have hp : anchor.pending = some pending := unwrap_eq_ok.mp hpending
    exact wp_bind_any fun _ _ ↦ wp_bind_any fun _ _ ↦ wp_bind_any fun _ _ ↦ wp_bind_any fun _ _ ↦
      settleCandidate_reconciles hp
  · next hnone => exact wp_pure.mpr ⟨.inl rfl, by simpa using hnone⟩

theorem checkFile_eq_some {file bytes}
    (h : checkFile maximum file = .ok (some bytes)) : ∃ f, file = some f ∧ f.bytes = bytes := by
  cases file with
  | none => cases h
  | some f =>
    simp only [checkFile, ok_iff, Option.some.injEq] at h
    obtain ⟨_, -, _, -, rfl⟩ := h
    exact ⟨f, rfl, rfl⟩

theorem readEntry_returns :
    (readEntry name maximum).wp (fun _ ↦ True) (returns fun bytes t ↦ t = s ∧
      ∀ b, bytes = some b → ∃ f, s.lookup name = some f ∧ f.bytes = b) s := by
  rw [readEntry, wp_read_bind, storing, wp_attempt_returns]
  intro bytes h
  exact ⟨rfl, fun b hb ↦ checkFile_eq_some (hb ▸ mapError_eq_ok.mp h)⟩

theorem requiredRead_returns {name} :
    (requiredRead name maximum).wp (fun _ ↦ True) (returns fun bytes t ↦ t = s ∧
      ∃ f, s.lookup (.record name) = some f ∧ f.bytes = bytes) s := by
  refine wp_bind_returns readEntry_returns fun bytes t ⟨ht, hbytes⟩ ↦ wp_attempt_returns.mpr fun b hb ↦ ?_
  exact ⟨ht, hbytes b (unwrap_eq_ok.mp hb)⟩

/-- A file of the store holds a validly chained journal that ends at the cursor. -/
def Holds (j : WindowsAuthorityJournal) (s : Storage) (cursor : JournalCursor)
    (state : AuthorityCommittedState) : Prop :=
  ∃ file, s.lookup (.record (.journal cursor.generation)) = some file ∧
    EndsAt j.serde cursor file.bytes state

theorem readCommitted_returns : (j.readCommitted cursor).wp (fun _ ↦ True) (returns fun decoded t ↦
      Holds j t cursor decoded.state) s := by
  refine wp_bind_returns readEntry_returns fun _ t ⟨ht, _⟩ ↦ wp_attempt_bind_returns fun _ _ ↦
    wp_bind_returns readEntry_returns fun _ u ⟨hu, _⟩ ↦ wp_attempt_bind_returns fun _ _ ↦
    wp_bind_returns requiredRead_returns fun bytes w ⟨hw, file, hfile, hbytes⟩ ↦
    lifted_bind_returns fun decoded hdecoded ↦ lifted_bind_returns fun _ hverify ↦
    wp_bind_returns requiredRead_returns fun _ x ⟨hx, _⟩ ↦ lifted_bind_returns fun _ _ ↦
    wp_attempt_bind_returns fun _ _ ↦ wp_pure.mpr ?_
  rw [← hw, ← hx] at hfile
  exact ⟨file, hfile, hbytes ▸ endsAt_of_verifyCursor hdecoded hverify⟩

theorem unlinkAll_lookup {names} (h : name ∉ names) :
    (unlinkAll names).wp (fun _ ↦ True) (returns fun _ t ↦ t.lookup name = s.lookup name) s := by
  induction names generalizing s with
  | nil => exact wp_pure.mpr rfl
  | cons other names ih =>
    rw [List.mem_cons, not_or] at h
    refine wp_bind_returns (P := fun _ t ↦ t.lookup name = s.lookup name) ?_ fun _ t ht ↦ ht ▸ ih h.2
    refine lifted_bind_returns fun _ _ ↦ lifted_bind_returns fun _ _ ↦ ?_
    rw [wp_step]
    refine ⟨trivial, ?_⟩
    exact Directory.lookup_erase.trans (if_neg h.1)

theorem inspectEntries_returns :
    j.inspectEntries.wp (fun _ ↦ True) (returns fun _ t ↦ t = s) s := by
  exact lifted_bind_returns fun _ _ ↦ wp_attempt_bind_returns fun _ _ ↦ wp_pure.mpr rfl

theorem cleanupOld_lookup (h : anchor.committed = some cursor) :
    (j.cleanupOld anchor).wp (fun _ ↦ True) (returns fun _ t ↦
      t.lookup (.record (.journal cursor.generation)) =
        s.lookup (.record (.journal cursor.generation))) s := by
  refine wp_attempt_bind_returns fun _ _ ↦ wp_attempt_bind_returns fun c hc ↦
    wp_bind_returns inspectEntries_returns fun names t ht ↦ ?_
  cases h.symm.trans (unwrap_eq_ok.mp hc)
  rw [ht]
  refine wp_attempt_bind_returns fun _ _ ↦ unlinkAll_lookup fun hmem ↦ ?_
  obtain ⟨g, hg, hlt⟩ := of_decide_eq_true (List.mem_filter.mp hmem).2
  obtain ⟨-, hk⟩ := Option.ite_none_right_eq_some.mp hg
  exact UInt64.lt_irrefl _ (Option.some.inj hk ▸ hlt)

variable (j) in
/-- No two different frames of the two journals have the same digest. -/
def Collisionless (journal other : Bytes) : Prop :=
  ∀ x y, (format j.serde).FrameIn x journal → (format j.serde).FrameIn y other →
    Sha256.hash x = Sha256.hash y → x = y

/-- A cursor determines the whole history before it. -/
theorem endsAt_unique {journal other state state'}
    (h : EndsAt j.serde cursor journal state) (h' : EndsAt j.serde cursor other state')
    (hc : Collisionless j journal other) : journal = other ∧ state = state' := by
  obtain ⟨records, r, hlog, hr, rfl, hrd, hlength⟩ := h.exists_records
  obtain ⟨records', r', hlog', hr', rfl, hrd', hlength'⟩ := h'.exists_records
  exact hlog.eq_of_getLast hlog' hr hr' (hlength.symm.trans hlength') (hrd.trans hrd'.symm) hc

/-- What recovery may answer while the registry holds `anchor`, when it leaves `t` behind. -/
structure Traced (j : WindowsAuthorityJournal) (anchor : JournalAnchor) (recovery : JournalRecovery)
    (t : Storage) : Prop where
  ends_at_cursor : ∀ state, recovery.committed = some state → ∃ cursor file,
    (anchor.committed = some cursor ∨ anchor.pending = some cursor) ∧
      recovery.cursor = some cursor ∧
      t.lookup (.record (.journal cursor.generation)) = some file ∧
      EndsAt j.serde cursor file.bytes state ∧
      ∀ other state', EndsAt j.serde cursor other state' →
        Collisionless j file.bytes other → other = file.bytes ∧ state' = state
  not_empty : anchor.committed ≠ none → recovery.committed ≠ none

theorem recoverSettled_returns {reconciled} (h : Reconciled anchor reconciled) :
    (j.recoverSettled reconciled).wp (fun _ ↦ True) (returns (Traced j anchor)) s := by
  unfold recoverSettled
  split
  · next hnone =>
    -- Without a committed cursor there was none before either.
    refine wp_bind_any fun _ _ ↦ wp_bind_any fun _ _ ↦ wp_pure.mpr ⟨by simp [emptyRecovery], ?_⟩
    intro hsome
    rcases h.committed with hsame | ⟨p, -, hp⟩
    · exact absurd (hsame ▸ hnone) hsome
    · simp [hnone] at hp
  · next cursor hcursor =>
    refine wp_bind_returns readCommitted_returns fun decoded t ⟨file, hfile, hends⟩ ↦
      lifted_bind_returns fun action _ ↦
      wp_bind_returns (cleanupOld_lookup hcursor) fun _ u hu ↦ wp_pure.mpr ⟨?_, by simp⟩
    rintro _ ⟨⟩
    refine ⟨cursor, file, ?_, rfl, hu.trans hfile, hends, fun other state' hother hcol ↦ ?_⟩
    · rcases h.committed with hsame | ⟨p, hp, hp'⟩
      · exact .inl (hsame ▸ hcursor)
      · exact .inr (hp.trans (hp'.symm.trans hcursor))
    · obtain ⟨rfl, rfl⟩ := endsAt_unique hends hother hcol
      exact ⟨rfl, rfl⟩

section Registry

variable {bytes : Bytes} (hregistry : s.registry = .ok (some bytes))
  (hdecode : JournalAnchor.decode j.serde bytes = .ok anchor)
include hregistry hdecode

theorem loadAnchor_returns :
    j.loadAnchor.wp (fun _ ↦ True) (returns fun loaded _ ↦ loaded = some anchor) s := by
  have hanchor : j.decodeAnchor (some bytes) = .ok (some anchor) := by
    rw [decodeAnchor, hdecode]
    rfl
  refine wp_bind_returns (P := fun found _ ↦ found = some bytes) ?_ fun found t hfound ↦ ?_
  · rw [readRegistry, wp_read_bind, hregistry]
    refine lifted_bind_returns fun found hfound ↦ wp_attempt_bind_returns fun _ _ ↦ wp_pure.mpr ?_
    exact (Except.ok.inj hfound).symm
  · rw [hfound, validating, hanchor, wp_attempt]
    exact rfl

theorem recoverLocked_returns : j.recoverLocked.wp (fun _ ↦ True) (returns (Traced j anchor)) s := by
  refine wp_bind_returns inspectEntries_returns fun _ t ht ↦ ?_
  subst ht
  refine wp_bind_returns (loadAnchor_returns hregistry hdecode) fun loaded _ hloaded ↦ ?_
  rw [hloaded]
  exact wp_bind_any fun _ _ ↦ wp_bind_returns settlePending_reconciles fun _ _ hr ↦
    recoverSettled_returns hr

end Registry

/-- Whatever is in the directory, a recovery that succeeds answers with the one history that the
anchor names. -/
theorem recovery_traced_to_registry {bytes : Bytes} (hregistry : s.registry = .ok (some bytes))
    (hdecode : JournalAnchor.decode j.serde bytes = .ok anchor) {recovery : JournalRecovery}
    (h : (j.recover s).result = .ok recovery) : Traced j anchor recovery (j.recover.final s) := by
  have hlocked : j.recover.wp _ _ s := recoverLocked_returns hregistry hdecode
  have htraced := hlocked.2
  rw [h] at htraced
  exact htraced

theorem preparation_traced : ∃ storeId cursor recovery,
    preparedStorage.registry = .ok (some (settledAnchor storeId (some cursor)).text) ∧
      recovery.committed = some samplePrepared ∧
      Traced sampleJournal (settledAnchor storeId (some cursor)) recovery
        (sampleJournal.recover.final preparedStorage) := by
  obtain ⟨cursor, -, hrests⟩ := restsAt_preparedStorage
  obtain ⟨recovery, hresult, hcommitted, -⟩ := hrests.recover (Restartable.ready ⟨_, rfl⟩)
  obtain ⟨v, hs, h⟩ := hrests
  cases h with
  | @committed storeId _ _ _ h =>
    have hregistry := hs.registry_eq
    rw [h.anchor_eq] at hregistry
    have hvalid := hs.valid _ h.anchor_eq
    exact ⟨storeId, cursor, recovery, hregistry, hcommitted, recovery_traced_to_registry hregistry
      (JournalAnchor.decode_eq_ok.mpr ⟨rfl, hvalid⟩) hresult⟩

end CfwRs.WindowsAuthority.WindowsAuthorityJournal
