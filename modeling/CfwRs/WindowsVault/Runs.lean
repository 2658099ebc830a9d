import CfwRs.WindowsVault.Isolation

namespace CfwRs.WindowsVault

open Lib Lib.Checked SingBox Credentials

variable {Secret : Type} [DecidableEq Secret] {F : VaultFormat Secret}
  {environment : Environment} {stored : Option (Document Secret)}

def liveBindings (catalog : List CredentialProfileCatalogEntry) (runtime : List CredentialBinding) :
    List CredentialBinding := catalog.flatMap (·.bindings) ++ runtime

namespace Call

def removes : Call Secret → CredentialBinding → Prop
  | .provision .. | .rebind .. => fun _ ↦ False
  | .commitGarbageCollection request runtime => (· ∉ liveBindings request.catalog runtime)

/-- The entries that a call is to make: a provision for its audience those it was given, a rebind
for its audience those of its slots. -/
def grants : Call Secret → VaultEntry Secret → Prop
  | .provision audience _ supplied => fun e ↦
    e.binding.audience = audience ∧ (e.reference, e.secret) ∈ supplied
  | .rebind _ audience slots => fun e ↦
    e.binding.audience = audience ∧ e.reference ∈ slots.map (·.reference)
  | .commitGarbageCollection .. => fun _ ↦ False

end Call

omit [DecidableEq Secret] in
@[simp] theorem Outcome.observed_snd {α : Type} (outcome : Outcome Secret α) :
    outcome.observed.2 = outcome.stored := by
  unfold observed
  split <;> rfl

def Accepted (F : VaultFormat Secret) (stored : Option (Document Secret)) : Prop :=
  ∀ document, stored = some document → Canonical F document

section Transition

variable {α : Type} {requireExisting : Bool} {removed : CredentialBinding → Prop}
  {granted : VaultEntry Secret → Prop}
  {operation : Document Secret → Except CredentialVaultError (Bool × Document Secret × α)}

/-- What a call does to the stored document, with its error if it has one. -/
structure Transition (F : VaultFormat Secret) (removed : CredentialBinding → Prop)
    (granted : VaultEntry Secret → Prop) (stored : Option (Document Secret))
    (error : Option CredentialVaultError) (stored' : Option (Document Secret)) : Prop where
  accepted : Accepted F stored'
  unchanged : ∀ e, error = some e → e ≠ .outcomeUnknown → stored' = stored
  kept : ∀ e ∈ entriesOf stored, e ∈ entriesOf stored' ∨ removed e.binding
  added : ∀ e ∈ entriesOf stored', e ∈ entriesOf stored ∨ granted e

omit [DecidableEq Secret] in
theorem Transition.stay (h : Accepted F stored) (error) :
    Transition F removed granted stored error stored :=
  ⟨h, fun _ _ _ ↦ rfl, fun _ he ↦ .inl he, fun _ he ↦ .inl he⟩

/-- What an operation may make of a document when it changes it. -/
structure Changes (removed : CredentialBinding → Prop) (granted : VaultEntry Secret → Prop)
    (document changed : Document Secret) : Prop where
  schemaVersion_eq : changed.schemaVersion = document.schemaVersion
  kept : ∀ e ∈ document.entries, e ∈ changed.entries ∨ removed e.binding
  added : ∀ e ∈ changed.entries, e ∈ document.entries ∨ granted e

omit [DecidableEq Secret] in
theorem schemaVersion_current (h : Accepted F stored) :
    (current environment stored).schemaVersion = Limits.schemaVersion := by
  cases stored with
  | none => rfl
  | some document => exact (h document rfl).schemaVersion_eq

omit [DecidableEq Secret] in
theorem Effect.transition {outcome} (h : Accepted F stored)
    (heffect : Effect F environment stored requireExisting operation outcome)
    (hoperation : ∀ document result,
      operation (current environment stored) = .ok (true, document, result) →
        Changes removed granted (current environment stored) document) :
    Transition F removed granted stored outcome.observed.1 outcome.observed.2 := by
  cases heffect with
  | failed e => exact .stay h _
  | unchanged hop hexisting => exact .stay h _
  | @changed document result answer hop hexisting hvalid hbytes hanswer =>
    have hchanges := hoperation document result hop
    have hentries : (current environment stored).entries = entriesOf stored := entries_current
    rw [Outcome.observed_snd]
    refine ⟨?_, fun e he hne ↦ ?_, fun e he ↦ ?_, fun e he ↦ ?_⟩
    · rintro _ ⟨⟩
      exact ⟨hvalid, hchanges.schemaVersion_eq.trans (schemaVersion_current h), hbytes⟩
    · rcases hanswer with rfl | rfl
      · cases he
      · cases he
        exact absurd rfl hne
    · exact hchanges.kept e (hentries ▸ he)
    · exact hentries ▸ hchanges.added e he

end Transition

theorem changes_provision {audience references supplied document changed removed c}
    (h : document.provision F audience references supplied = .ok (c, changed)) :
    Changes removed (fun e ↦ e.binding.audience = audience ∧ (e.reference, e.secret) ∈ supplied)
      document changed := by
  obtain ⟨hkept, hadded, hschema⟩ := provision_spec h
  exact ⟨hschema, fun e he ↦ .inl (hkept e he), hadded⟩

theorem mem_slotReferences {slots r} : r ∈ slotReferences slots ↔ r ∈ slots.map (·.reference) := by
  rw [slotReferences, List.mem_insertionSort, List.mem_dedup]

variable {request : CredentialGarbageCollectionCommitRequest}

omit [DecidableEq Secret] in
theorem changes_collect {runtime} {document changed : Document Secret} {c} {receipt}
    (h : collect request runtime environment document = .ok (c, changed, receipt)) :
    request.expectedVaultRevision = some document.revision ∧
      request.expectedOrphanBindings = (document.entries.filter
        (·.binding ∉ liveBindings request.catalog runtime)).map VaultEntry.binding ∧
      changed.schemaVersion = document.schemaVersion ∧ (c = false → changed = document) ∧
      changed.entries = document.entries.filter
        (·.binding ∈ liveBindings request.catalog runtime) := by
  simp only [collect, ok_iff] at h
  obtain ⟨-, hrevision, actual, hactual, -, hexpected, h⟩ := h
  have horphans : actual = (document.entries.filter
      (·.binding ∉ liveBindings request.catalog runtime)).map VaultEntry.binding :=
    orphans_eq_ok hactual
  refine ⟨hrevision, hexpected ▸ horphans, ?_⟩
  split at h
  · next hnone =>
    cases h
    refine ⟨rfl, fun _ ↦ rfl, (List.filter_eq_self.mpr fun e he ↦ ?_).symm⟩
    have hempty : document.entries.filter (·.binding ∉ liveBindings request.catalog runtime) = [] :=
      List.map_eq_nil_iff.mp (horphans ▸ hnone)
    simpa using List.filter_eq_nil_iff.mp hempty e he
  · cases h
    refine ⟨rfl, Bool.noConfusion, List.filter_congr fun e he ↦ ?_⟩
    have hmem : e.binding ∈ actual ↔ e.binding ∉ liveBindings request.catalog runtime := by
      rw [horphans, List.mem_map]
      constructor
      · rintro ⟨e', he', hbinding⟩
        rw [← hbinding]
        simpa using (List.mem_filter.mp he').2
      · intro hlive
        exact ⟨e, List.mem_filter.mpr ⟨he, decide_eq_true hlive⟩, rfl⟩
    simp [hmem]

theorem Call.transition (h : Accepted F stored) (call : Call Secret) :
    Transition F call.removes call.grants stored (call.run F environment stored).1
      (call.run F environment stored).2 := by
  cases call with
  | provision audience references supplied =>
    refine mutate_effect.transition h fun document result hop ↦ ?_
    simp only [ok_iff] at hop
    obtain ⟨⟨c, provisioned⟩, hprovision, heq⟩ := hop
    cases heq
    exact changes_provision hprovision
  | rebind previousAudience audience slots =>
    refine mutate_effect.transition h fun document result hop ↦ ?_
    simp only [ok_iff] at hop
    obtain ⟨supplied, hresolve, ⟨c, provisioned⟩, hprovision, heq⟩ := hop
    cases heq
    have hchanges : Changes (fun _ ↦ False) _ _ provisioned := changes_provision hprovision
    refine ⟨hchanges.schemaVersion_eq, hchanges.kept, fun e he ↦ ?_⟩
    rcases hchanges.added e he with hold | ⟨haudience, hsupplied⟩
    · exact .inl hold
    · simp only [Document.resolve, bind_eq_ok] at hresolve
      obtain ⟨_, -, hall⟩ := hresolve
      exact .inr ⟨haudience, mem_slotReferences.mp (mem_of_resolveAll hall _ hsupplied).1⟩
  | commitGarbageCollection request runtime =>
    rw [Call.run, WindowsVault.commitGarbageCollection]
    split
    · refine mutate_effect.transition h fun document result hop ↦ ?_
      obtain ⟨-, -, hschema, -, hentries⟩ := changes_collect hop
      refine ⟨hschema, fun e he ↦ ?_, fun e he ↦ ?_⟩
      · by_cases hlive : e.binding ∈ liveBindings request.catalog runtime
        · rw [hentries]
          exact .inl (List.mem_filter.mpr ⟨he, decide_eq_true hlive⟩)
        · exact .inr hlive
      · rw [hentries] at he
        exact .inl (List.mem_of_mem_filter he)
    · exact .stay h _

/-- What a collection does when it answers with a receipt or changes the vault. -/
structure Collected (request : CredentialGarbageCollectionCommitRequest)
    (runtime : List CredentialBinding) (before after : Document Secret) : Prop where
  revision : request.expectedVaultRevision = some before.revision
  orphans : request.expectedOrphanBindings = (before.entries.filter
    (·.binding ∉ liveBindings request.catalog runtime)).map VaultEntry.binding
  entries : after.entries = before.entries.filter (·.binding ∈ liveBindings request.catalog runtime)

omit [DecidableEq Secret] in
theorem Effect.collected {runtime outcome}
    (heffect : Effect F environment stored true (collect request runtime environment) outcome)
    (h : (∃ receipt, outcome.result = .ok receipt) ∨ outcome.stored ≠ stored) :
    ∃ before after, stored = some before ∧ outcome.stored = some after ∧
      Collected request runtime before after := by
  cases heffect with
  | failed e =>
    rcases h with ⟨_, h⟩ | h
    · cases h
    · exact absurd rfl h
  | unchanged hop hexisting =>
    obtain ⟨before, rfl⟩ := Option.ne_none_iff_exists'.mp (hexisting rfl)
    obtain ⟨hrevision, horphans, -, hsame, hentries⟩ := changes_collect hop
    rw [hsame rfl] at hentries
    exact ⟨before, before, rfl, rfl, hrevision, horphans, hentries⟩
  | changed hop hexisting hvalid hbytes hanswer =>
    obtain ⟨before, rfl⟩ := Option.ne_none_iff_exists'.mp (hexisting rfl)
    obtain ⟨hrevision, horphans, -, -, hentries⟩ := changes_collect hop
    exact ⟨before, _, rfl, rfl, hrevision, horphans, hentries⟩

theorem commit_collected {runtime}
    (h : (∃ receipt, (commitGarbageCollection F request runtime environment stored).result =
        .ok receipt) ∨
      (commitGarbageCollection F request runtime environment stored).stored ≠ stored) :
    ∃ before after, stored = some before ∧
      (commitGarbageCollection F request runtime environment stored).stored = some after ∧
      Collected request runtime before after := by
  unfold commitGarbageCollection at h ⊢
  split at h
  · next hcanonical =>
    rw [if_pos hcanonical]
    exact mutate_effect.collected h
  · rcases h with ⟨_, h⟩ | h
    · cases h
    · exact absurd rfl h

theorem preview_eq_ok {request runtime preview}
    (h : previewGarbageCollection F request runtime environment stored = .ok preview) :
    ∃ document, stored = some document ∧ preview.vaultRevision = document.revision ∧
      preview.orphanBindings = (document.entries.filter
        (·.binding ∉ liveBindings request.catalog runtime)).map VaultEntry.binding := by
  simp only [previewGarbageCollection, ok_iff, read_eq_ok_iff] at h
  obtain ⟨-, -, _, ⟨-, -, rfl⟩, document, hstored, orphans, horphans, rfl⟩ := h
  exact ⟨document, hstored, rfl, orphans_eq_ok horphans⟩

/-- The calls that were made and the stored document that they led to from an empty vault. -/
inductive Reached (F : VaultFormat Secret) : List (Call Secret) → Option (Document Secret) → Prop
  | empty : Reached F [] none
  | call {history stored}
      (h : Reached F history stored) (call : Call Secret) (environment : Environment) :
      Reached F (call :: history) (call.run F environment stored).2

variable {history : List (Call Secret)}

theorem Reached.accepted (h : Reached F history stored) : Accepted F stored := by
  induction h with
  | empty =>
    intro document hdocument
    cases hdocument
  | call _ call environment ih => exact (call.transition ih).accepted

theorem Reached.granted (h : Reached F history stored) :
    ∀ e ∈ entriesOf stored, ∃ call ∈ history, call.grants e := by
  induction h with
  | empty => exact fun _ h ↦ absurd h List.not_mem_nil
  | call hreached call environment ih =>
    intro e he
    rcases (call.transition hreached.accepted).added e he with hold | hnew
    · obtain ⟨earlier, hearlier, hgrants⟩ := ih e hold
      exact ⟨earlier, List.mem_cons_of_mem _ hearlier, hgrants⟩
    · exact ⟨call, List.mem_cons_self, hnew⟩

omit [DecidableEq Secret] in
theorem agree_of_accepted (h : Accepted F stored) : Agree (entriesOf stored) := by
  cases stored with
  | none => exact fun _ h ↦ absurd h List.not_mem_nil
  | some document => exact (h document rfl).valid.agree

theorem Reached.resolve_granted (h : Reached F history stored) {audience} {references} {resolved}
    (hresolve : resolveForEngine F audience references environment stored = .ok resolved) :
    ∀ p ∈ resolved, ∃ call ∈ history, call.grants ⟨⟨audience, p.1⟩, p.2⟩ := by
  simp only [resolveForEngine, Document.resolve, bind_eq_ok, read_eq_ok_iff] at hresolve
  obtain ⟨_, ⟨-, -, rfl⟩, _, -, hall⟩ := hresolve
  intro p hp
  have hmem := (mem_of_resolveAll hall p hp).2
  have hentries : (current environment stored).entries = entriesOf stored := entries_current
  exact h.granted _ (hentries ▸ hmem)

/-- What holds of the vault after any calls: isolation of the audiences, immutable credentials,
exact collections, and no change by a call that failed. -/
structure Guarded (F : VaultFormat Secret) (history : List (Call Secret))
    (stored : Option (Document Secret)) : Prop where
  accepted : ∀ document, stored = some document → document.decode F = .ok document
  agree : Agree (entriesOf stored)
  isolated : ∀ audience references environment resolved,
    resolveForEngine F audience references environment stored = .ok resolved →
      ∀ p ∈ resolved, ∃ call ∈ history, call.grants ⟨⟨audience, p.1⟩, p.2⟩
  kept : ∀ (call : Call Secret) (environment : Environment), ∀ e ∈ entriesOf stored,
    e ∈ entriesOf (call.run F environment stored).2 ∨ call.removes e.binding
  unchanged : ∀ (call : Call Secret) (environment : Environment) (error : CredentialVaultError),
    (call.run F environment stored).1 = some error → error ≠ .outcomeUnknown →
      (call.run F environment stored).2 = stored
  previewed : ∀ request runtime environment preview,
    previewGarbageCollection F request runtime environment stored = .ok preview →
      ∃ document, stored = some document ∧ preview.vaultRevision = document.revision ∧
        preview.orphanBindings = (document.entries.filter
          (·.binding ∉ liveBindings request.catalog runtime)).map VaultEntry.binding
  collected : ∀ request runtime environment,
    (∃ receipt, (commitGarbageCollection F request runtime environment stored).result =
        .ok receipt) ∨
      (commitGarbageCollection F request runtime environment stored).stored ≠ stored →
    ∃ before after, stored = some before ∧
      (commitGarbageCollection F request runtime environment stored).stored = some after ∧
      Collected request runtime before after

/-- The vault keeps its guarantees over all sequences of calls. -/
theorem vault_guarded (h : Reached F history stored) : Guarded F history stored where
  accepted document hdocument :=
    Document.decode_eq_ok_iff.mpr ⟨h.accepted document hdocument, rfl⟩
  agree := agree_of_accepted h.accepted
  isolated _ _ _ _ hresolve := h.resolve_granted hresolve
  kept call _ := (call.transition h.accepted).kept
  unchanged call _ := (call.transition h.accepted).unchanged
  previewed _ _ _ _ hpreview := preview_eq_ok hpreview
  collected _ _ _ hcollected := commit_collected hcollected

section Sample

def sampleFormat : VaultFormat ℕ where
  bytes n := n
  admits kind _ := kind = .shadowsocksPassword
  documentBytes document := 100 + 400 * document.entries.length

def calm (revision : BitVec 128) : Environment := ⟨.ok (), .ok (), .published, 0, revision⟩

def sampleCall : Call ℕ :=
  .provision (sampleAudience 0) [sampleReference 0] [(sampleReference 0, 20)]

theorem sample_vault_guarded : entriesOf (sampleCall.run sampleFormat (calm 1) none).2 =
        [⟨⟨sampleAudience 0, sampleReference 0⟩, 20⟩] ∧
      Guarded sampleFormat [sampleCall] (sampleCall.run sampleFormat (calm 1) none).2 :=
  ⟨by decide +kernel, vault_guarded (.call .empty sampleCall (calm 1))⟩

end Sample

end CfwRs.WindowsVault
