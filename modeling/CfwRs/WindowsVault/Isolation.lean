import CfwRs.WindowsVault.Documents

namespace CfwRs.WindowsVault

open Lib Lib.Checked SingBox Credentials

variable {Secret : Type} [DecidableEq Secret] {F : VaultFormat Secret}
  {environment : Environment} {stored : Option (Document Secret)}

def entriesOf : Option (Document Secret) → List (VaultEntry Secret)
  | none => []
  | some document => document.entries

section Mutate

variable {α : Type} {requireExisting : Bool}
  {operation : Document Secret → Except CredentialVaultError (Bool × Document Secret × α)}

def current (environment : Environment) (stored : Option (Document Secret)) : Document Secret :=
  stored.getD (.empty environment.emptyRevision)

omit [DecidableEq Secret] in
theorem entries_current : (current environment stored).entries = entriesOf stored := by
  cases stored <;> rfl

theorem read_eq_ok_iff {previous} :
    read F environment stored = .ok previous ↔ environment.opens = .ok () ∧
      (∀ document, stored = some document → Canonical F document) ∧ stored = previous := by
  simp only [read, bind_eq_ok]
  constructor
  · rintro ⟨⟨⟩, hopens, h⟩
    cases stored with
    | none =>
      cases h
      refine ⟨hopens, ?_, rfl⟩
      rintro _ ⟨⟩
    | some document =>
      simp only [decodeStored, ok_iff, Document.decode_eq_ok_iff] at h
      obtain ⟨_, ⟨hc, rfl⟩, rfl⟩ := h
      refine ⟨hopens, ?_, rfl⟩
      rintro _ ⟨⟩
      exact hc
  · rintro ⟨hopens, hc, rfl⟩
    refine ⟨(), hopens, ?_⟩
    cases stored with
    | none => rfl
    | some document =>
      simp only [decodeStored, ok_iff, Document.decode_eq_ok_iff]
      exact ⟨document, ⟨hc document rfl, rfl⟩, rfl⟩

/-- What a change can do: nothing, or publish a changed document that is valid. Only an uncertain
publication can store a document and answer with an error. -/
inductive Effect (F : VaultFormat Secret) (environment : Environment)
    (stored : Option (Document Secret)) (requireExisting : Bool)
    (operation : Document Secret → Except CredentialVaultError (Bool × Document Secret × α)) :
    Outcome Secret α → Prop
  | failed (e : CredentialVaultError) :
    Effect F environment stored requireExisting operation ⟨.error e, stored⟩
  | unchanged {document result}
    (hoperation : operation (current environment stored) = .ok (false, document, result))
    (hexisting : requireExisting = true → stored ≠ none) :
    Effect F environment stored requireExisting operation ⟨.ok result, stored⟩
  | changed {document result answer}
    (hoperation : operation (current environment stored) = .ok (true, document, result))
    (hexisting : requireExisting = true → stored ≠ none)
    (hvalid : Valid F document.entries)
    (hbytes : F.documentBytes { document with revision := environment.revision } ≤
      Limits.maxDocumentBytes)
    (hanswer : answer = .ok result ∨ answer = .error .outcomeUnknown) :
    Effect F environment stored requireExisting operation
      ⟨answer, some { document with revision := environment.revision }⟩

theorem mutate_effect : Effect F environment stored requireExisting operation
    (mutate F environment stored requireExisting operation) := by
  unfold mutate
  split
  · exact .failed _
  · next result hprepare =>
    simp only [prepare, ok_iff, read_eq_ok_iff, not_and] at hprepare
    obtain ⟨_, ⟨-, -, rfl⟩, -, hexisting, ⟨changed, document, r⟩, hoperation, h⟩ := hprepare
    split at h
    · next hchanged =>
      cases hchanged
      cases h
      exact .unchanged hoperation hexisting
    · simp only [ok_iff] at h
      obtain ⟨_, -, _, -, hsome⟩ := h
      cases hsome
  · next encoded result hprepare =>
    simp only [prepare, ok_iff, read_eq_ok_iff, not_and] at hprepare
    obtain ⟨_, ⟨-, -, rfl⟩, -, hexisting, ⟨changed, document, r⟩, hoperation, h⟩ := hprepare
    split at h
    · cases h
    · next hchanged =>
      simp only [Bool.not_eq_false] at hchanged
      cases hchanged
      simp only [ok_iff, Document.encode_eq_ok_iff] at h
      obtain ⟨_, ⟨hvalid, hbytes, rfl⟩, -, -, rfl, rfl⟩ := h
      split
      · exact .changed hoperation hexisting hvalid hbytes (.inl rfl)
      · exact .failed _
      · exact .changed hoperation hexisting hvalid hbytes (.inr rfl)
      · exact .failed _

end Mutate

section Operations

variable {audience : CredentialAudience} {required : List CredentialRef}
  {supplied : List (CredentialRef × Secret)} {entries entries' : List (VaultEntry Secret)}
  {e : VaultEntry Secret}

theorem provisionOne_cases {reference}
    (h : provisionOne F audience supplied entries reference = .ok entries') :
    entries' = entries ∨ ∃ p ∈ supplied, p.1.id = reference.id ∧
      entries' = bindMissing entries ⟨⟨audience, reference⟩, p.2⟩ := by
  unfold provisionOne at h
  split at h
  · next r secret hfind =>
    simp only [ok_iff] at h
    obtain ⟨-, -, -, -, rfl⟩ := h
    have hid : r.id = reference.id := by simpa using List.find?_some hfind
    exact .inr ⟨(r, secret), List.mem_of_find?_eq_some hfind, hid, rfl⟩
  · simp only [ok_iff] at h
    obtain ⟨-, -, rfl⟩ := h
    exact .inl rfl

section

variable (h : provisionAll F audience supplied entries required = .ok entries')
include h

theorem mem_provisionAll_of_mem (he : e ∈ entries) : e ∈ entries' := by
  induction required generalizing entries with
  | nil =>
    cases h
    exact he
  | cons reference required ih =>
    simp only [provisionAll, bind_eq_ok] at h
    obtain ⟨between, hone, hrest⟩ := h
    refine ih hrest ?_
    rcases provisionOne_cases hone with rfl | ⟨p, -, -, rfl⟩
    · exact he
    · exact mem_bindMissing_of_mem he _

theorem of_mem_provisionAll (he : e ∈ entries') :
    e ∈ entries ∨ (e.binding.audience = audience ∧ e.reference ∈ required ∧
      ∃ p ∈ supplied, p.1.id = e.reference.id ∧ p.2 = e.secret) := by
  induction required generalizing entries with
  | nil =>
    cases h
    exact .inl he
  | cons reference required ih =>
    simp only [provisionAll, bind_eq_ok] at h
    obtain ⟨between, hone, hrest⟩ := h
    rcases ih hrest with hbetween | ⟨haudience, href, hp⟩
    · rcases provisionOne_cases hone with rfl | ⟨p, hp, hid, rfl⟩
      · exact .inl hbetween
      · rcases mem_of_mem_bindMissing hbetween with hold | rfl
        · exact .inl hold
        · exact .inr ⟨rfl, List.mem_cons_self, p, hp, hid, rfl⟩
    · exact .inr ⟨haudience, List.mem_cons_of_mem _ href, hp⟩

end

omit [DecidableEq Secret] in
theorem mem_required_of_checkSupplied {seen u}
    (h : checkSupplied required seen supplied = .ok u) : ∀ p ∈ supplied, p.1 ∈ required := by
  induction supplied generalizing seen with
  | nil => exact fun _ h ↦ absurd h List.not_mem_nil
  | cons p supplied ih =>
    simp only [checkSupplied, ok_iff, not_or, not_not] at h
    obtain ⟨-, ⟨hmem, -⟩, hrest⟩ := h
    exact List.forall_mem_cons.mpr ⟨hmem, ih hrest⟩

/-- What `provision` adds to a document is what it was given, for the audience it was given. -/
theorem provision_spec {document provisioned : Document Secret} {changed}
    (h : document.provision F audience required supplied = .ok (changed, provisioned)) :
    (∀ e ∈ document.entries, e ∈ provisioned.entries) ∧
      (∀ e ∈ provisioned.entries, e ∈ document.entries ∨
        (e.binding.audience = audience ∧ (e.reference, e.secret) ∈ supplied)) ∧
      provisioned.schemaVersion = document.schemaVersion := by
  simp only [Document.provision, validateReferences, ok_iff] at h
  obtain ⟨_, ⟨_, -, hnodup⟩, _, hsupplied, entries, hall, _, -, -, rfl⟩ := h
  refine ⟨fun e he ↦ mem_sortEntries.mpr (mem_provisionAll_of_mem hall he), fun e he ↦ ?_, rfl⟩
  rcases of_mem_provisionAll hall (mem_sortEntries.mp he) with hold | ⟨haudience, href, p, hp, hid, hsecret⟩
  · exact .inl hold
  · have hsame : p.1 = e.reference := List.inj_on_of_nodup_map hnodup
      (mem_required_of_checkSupplied hsupplied p hp) href hid
    exact .inr ⟨haudience, hsame ▸ hsecret ▸ hp⟩

omit [DecidableEq Secret] in
theorem mem_of_resolveAll {document : Document Secret} {references} {resolved}
    (h : document.resolveAll audience references = .ok resolved) :
    ∀ p ∈ resolved, p.1 ∈ references ∧ (⟨⟨audience, p.1⟩, p.2⟩ : VaultEntry Secret) ∈ document.entries := by
  induction references generalizing resolved with
  | nil =>
    cases h
    exact fun _ h ↦ absurd h List.not_mem_nil
  | cons reference references ih =>
    simp only [Document.resolveAll, ok_iff] at h
    obtain ⟨entry, hfind, rest, hrest, rfl⟩ := h
    have hbinding : entry.binding = ⟨audience, reference⟩ := by simpa using List.find?_some hfind
    refine List.forall_mem_cons.mpr ⟨⟨List.mem_cons_self, ?_⟩, fun p hp ↦ ?_⟩
    · rw [← hbinding]
      exact List.mem_of_find?_eq_some hfind
    · exact ⟨List.mem_cons_of_mem _ (ih hrest p hp).1, (ih hrest p hp).2⟩

omit [DecidableEq Secret] in
theorem orphans_eq_ok {document : Document Secret} {catalog} {runtime orphans}
    (h : document.orphans catalog runtime = .ok orphans) : orphans = (document.entries.filter
      (·.binding ∉ catalog.flatMap (·.bindings) ++ runtime)).map VaultEntry.binding := by
  simp only [Document.orphans, ok_iff, List.mem_dedup] at h
  obtain ⟨-, -, -, -, -, -, rfl⟩ := h
  rfl

end Operations

end CfwRs.WindowsVault
