import CfwRs.WindowsAuthority.JournalStore

namespace CfwRs.WindowsAuthority

open Lib Lib.Checked Lib.Durable

/-- The storage as the journal sees it when nobody else has touched it: every entry is a file in
good order, and the registry holds a valid anchor or nothing. -/
structure JournalView where
  files : EntryName → Option Bytes
  anchor : Option JournalAnchor

namespace JournalView

def put (v : JournalView) (name : EntryName) (bytes : Bytes) : JournalView :=
  { v with files := Function.update v.files name (some bytes) }

def remove (v : JournalView) (name : EntryName) : JournalView :=
  { v with files := Function.update v.files name none }

def setAnchor (v : JournalView) (anchor : JournalAnchor) : JournalView :=
  { v with anchor := some anchor }

variable {v : JournalView} {name other : EntryName} {bytes : Bytes} {anchor : JournalAnchor}

@[simp] theorem anchor_put : (v.put name bytes).anchor = v.anchor := rfl

@[simp] theorem anchor_remove : (v.remove name).anchor = v.anchor := rfl

@[simp] theorem anchor_setAnchor : (v.setAnchor anchor).anchor = some anchor := rfl

@[simp] theorem files_setAnchor : (v.setAnchor anchor).files = v.files := rfl

theorem files_put :
    (v.put name bytes).files other = if other = name then some bytes else v.files other :=
  Function.update_apply ..

theorem files_remove : (v.remove name).files other = if other = name then none else v.files other :=
  Function.update_apply ..

end JournalView

def StoredFile.sound (bytes : Bytes) : StoredFile := { bytes, kind := .file, secure := true }

structure Storage.Shows (s : Storage) (v : JournalView) : Prop where
  lookup_eq : ∀ name, s.lookup name = (v.files name).map .sound
  registry_eq : s.registry = .ok (v.anchor.map JournalAnchor.text)
  valid : ∀ a ∈ v.anchor, a.validate = .ok ()

/-- What is known of the view is known of the storage. -/
def Storage.On (R : JournalView → Prop) (s : Storage) : Prop := ∃ v, s.Shows v ∧ R v

namespace Storage.Shows

variable {s : Storage} {v : JournalView} {name : EntryName} {bytes : Bytes}

section

variable (h : s.Shows v)
include h

theorem put : (s.put name (.sound bytes)).Shows (v.put name bytes) where
  lookup_eq other := by
    refine Directory.lookup_insert.trans ?_
    rw [JournalView.files_put]
    split
    · rfl
    · exact h.lookup_eq other
  registry_eq := h.registry_eq
  valid := h.valid

theorem remove : (s.remove name).Shows (v.remove name) where
  lookup_eq other := by
    refine Directory.lookup_erase.trans ?_
    rw [JournalView.files_remove]
    split
    · rfl
    · exact h.lookup_eq other
  registry_eq := h.registry_eq
  valid := h.valid

theorem publish {name} (htemp : v.files (.temporary name) = none) :
    ((s.put (.temporary name) (.sound bytes)).rename (.temporary name) (.record name)).Shows
      (v.put (.record name) bytes) where
  lookup_eq other := by
    have hput : (s.put (.temporary name) (.sound bytes)).Shows (v.put (.temporary name) bytes) :=
      h.put
    have hsource := hput.lookup_eq (.temporary name)
    rw [JournalView.files_put, if_pos rfl] at hsource
    refine (Directory.lookup_rename hsource).trans ?_
    rw [JournalView.files_put]
    split
    · rfl
    · split
      · next heq => rw [heq, htemp, Option.map_none]
      · next hne =>
        refine (hput.lookup_eq other).trans ?_
        rw [JournalView.files_put, if_neg hne]
  registry_eq := h.registry_eq
  valid := h.valid

theorem setRecord {anchor} (hvalid : anchor.validate = .ok ()) :
    (s.setRecord anchor.text).Shows (v.setAnchor anchor) where
  lookup_eq := h.lookup_eq
  registry_eq := rfl
  valid a ha := by
    obtain rfl := Option.some.inj ha
    exact hvalid

theorem mem_keys : name ∈ s.files.keys ↔ v.files name ≠ none := by
  refine Directory.mem_keys.trans ?_
  have hlookup := h.lookup_eq name
  rw [lookup] at hlookup
  rw [hlookup]
  cases v.files name <;> simp

end

end Storage.Shows

namespace WindowsAuthorityJournal

open Storage

variable {s : Storage} {v : JournalView} {R : JournalView → Prop} {C : Storage → Prop}
variable {Q : Except JournalStoreError Unit → Storage → Prop} {bytes : Bytes} {maximum : ℕ}

theorem checkFile_sound {data} (h : ∀ b ∈ data, b.length ≤ maximum) :
    checkFile maximum (data.map .sound) = .ok data := by
  cases data with
  | none => rfl
  | some b =>
    simp [checkFile, verifyFile, StoredFile.sound, h b rfl, pure, Except.pure]

theorem wp_readEntry (h : s.Shows v) {name} (hsmall : ∀ b ∈ v.files name, b.length ≤ maximum) {Q} :
    (readEntry name maximum).wp C Q s ↔ Q (.ok (v.files name)) s := by
  simp [readEntry, storing, wp_run, h.lookup_eq, checkFile_sound hsmall]

variable {name : RecordName}

section

variable (h : s.Shows v)
include h

theorem wp_requiredRead (hfile : v.files (.record name) = some bytes)
    (hsmall : bytes.length ≤ maximum) {Q : Except JournalStoreError Bytes → Storage → Prop} :
    (requiredRead name maximum).wp C Q s ↔ Q (.ok bytes) s := by
  have hread : ∀ b ∈ v.files (.record name), b.length ≤ maximum := by
    intro b hb
    rw [hfile] at hb
    exact Option.some.inj hb ▸ hsmall
  simp [requiredRead, readFile, wp_readEntry h hread, hfile, unwrap]

theorem wp_unlinkManagedEntry {name} (hfile : v.files name ≠ none) :
    (unlinkManagedEntry name).wp C Q s ↔ C (s.remove name) ∧ Q (.ok ()) (s.remove name) := by
  obtain ⟨bytes, hbytes⟩ := Option.ne_none_iff_exists'.mp hfile
  have hlookup : s.lookup name = some (.sound bytes) := by rw [h.lookup_eq, hbytes, Option.map_some]
  have hkind : reject ((StoredFile.sound bytes).kind = .directory) StorageError.unexpectedDirectory =
      .ok () := by
    simp [StoredFile.sound]
  simp [unlinkManagedEntry, storing, wp_run, hlookup, unwrap, hkind]

theorem discardTemporary_wp (hR : R (v.remove (.temporary name)))
    (hQ : ∀ t, t.Shows (v.remove (.temporary name)) → Q (.ok ()) t) :
    (discardTemporary name (v.files (.temporary name)).isSome).wp (On R) Q s := by
  unfold discardTemporary
  split
  · next hsome =>
    rw [removeTemporary, wp_unlinkManagedEntry h (Option.isSome_iff_ne_none.mp hsome)]
    exact ⟨⟨_, h.remove, hR⟩, hQ _ h.remove⟩
  · next hnone =>
    rw [wp_pure]
    refine hQ s ?_
    have hfile : v.files (.temporary name) = none := by simpa using hnone
    rwa [JournalView.remove, ← hfile, Function.update_eq_self]

theorem wp_publishFile (hlength : bytes.length ≤ maximum)
    (hsmall : ∀ b ∈ v.files (.record name), b.length ≤ maximum)
    (htemp : v.files (.temporary name) = none) :
    (publishFile name bytes maximum).wp C Q s ↔
      let written := s.put (.temporary name) (.sound bytes)
      let renamed := written.rename (.temporary name) (.record name)
      C written ∧ C renamed ∧ Q (.ok ()) renamed := by
  have hlookup : s.lookup (.temporary name) = none := by rw [h.lookup_eq, htemp, Option.map_none]
  simp [publishFile, storing, readFile, require, if_pos hlength, wp_run, wp_readEntry h hsmall,
    hlookup, reject, StoredFile.sound]

theorem publishFile_wp (hlength : bytes.length ≤ maximum)
    (hsmall : ∀ b ∈ v.files (.record name), b.length ≤ maximum)
    (htemp : v.files (.temporary name) = none) (hwritten : R (v.put (.temporary name) bytes))
    (hrenamed : R (v.put (.record name) bytes))
    (hQ : ∀ t, t.Shows (v.put (.record name) bytes) → Q (.ok ()) t) :
    (publishFile name bytes maximum).wp (On R) Q s := by
  rw [wp_publishFile h hlength hsmall htemp]
  exact ⟨⟨_, h.put, hwritten⟩, ⟨_, h.publish htemp, hrenamed⟩, hQ _ (h.publish htemp)⟩

end

theorem wp_inspectEntries (j : WindowsAuthorityJournal) (h : s.Shows v) {known : List EntryName}
    (hlength : known.length ≤ maxEntries) (hknown : ∀ name ∈ known, name.recognized)
    (hfiles : ∀ name, v.files name ≠ none → name ∈ known) {Q} :
    j.inspectEntries.wp C Q s ↔ Q (.ok (j.enumerate s.files.keys)) s := by
  have hperm := j.enumerate_perm s.files.keys
  have hsubset : s.files.keys ⊆ known := fun name hname ↦ hfiles name (h.mem_keys.mp hname)
  have hcount : (j.enumerate s.files.keys).length ≤ maxEntries := by
    rw [hperm.length_eq]
    exact (List.subperm_of_subset s.files.nodupKeys hsubset).length_le.trans hlength
  have hsound : ∀ name ∈ j.enumerate s.files.keys, name.recognized ∧
      ∀ file ∈ s.files.lookup name, file.kind = .file := by
    intro name hname
    refine ⟨hknown name (hsubset (hperm.mem_iff.mp hname)), fun file hfile ↦ ?_⟩
    have hlookup := h.lookup_eq name
    rw [lookup, hfile] at hlookup
    obtain ⟨b, -, rfl⟩ := Option.map_eq_some_iff.mp hlookup.symm
    rfl
  simp only [inspectEntries, storing, wp_run, require, if_pos hcount, if_pos hsound]

theorem mem_enumerate (j : WindowsAuthorityJournal) (h : s.Shows v) {name} :
    name ∈ j.enumerate s.files.keys ↔ v.files name ≠ none :=
  (j.enumerate_perm _).mem_iff.trans h.mem_keys

theorem text_ne_nil (anchor : JournalAnchor) : anchor.text ≠ [] := render_obj_ne_nil _

theorem wp_readRegistry (h : s.Shows v) {Q} :
    readRegistry.wp C Q s ↔ Q (.ok (v.anchor.map JournalAnchor.text)) s := by
  have hbounds : ∀ b ∈ v.anchor.map JournalAnchor.text,
      b ≠ [] ∧ b.length ≤ Limits.maxAnchorBytes := by
    intro b hb
    obtain ⟨a, -, rfl⟩ := Option.map_eq_some_iff.mp hb
    exact ⟨text_ne_nil a, a.length_text_le⟩
  simp only [readRegistry, wp_run, h.registry_eq, require, if_pos hbounds]

theorem wp_loadAnchor (j : WindowsAuthorityJournal) (h : s.Shows v) {Q} :
    j.loadAnchor.wp C Q s ↔ Q (.ok v.anchor) s := by
  have hdecode : j.decodeAnchor (v.anchor.map JournalAnchor.text) = .ok v.anchor := by
    cases ha : v.anchor with
    | none => rfl
    | some a =>
      have hvalid := h.valid a ha
      rw [Option.map_some, decodeAnchor, JournalAnchor.decode_eq_ok.mpr ⟨rfl, hvalid⟩]
      rfl
  simp [loadAnchor, validating, wp_run, wp_readRegistry h, hdecode]

theorem replaceAnchor_wp (h : s.Shows v) {anchor}
    (hvalid : anchor.validate = .ok ()) (hR : R (v.setAnchor anchor))
    (hQ : ∀ t, t.Shows (v.setAnchor anchor) → Q (.ok ()) t) :
    (replaceAnchor v.anchor anchor).wp (On R) Q s := by
  have hencode : encodeAnchor v.anchor = .ok (v.anchor.map JournalAnchor.text) := by
    cases ha : v.anchor with
    | none => rfl
    | some a =>
      rw [encodeAnchor, JournalAnchor.encode_eq (h.valid a ha)]
      rfl
  have hbounds : anchor.text ≠ [] ∧ anchor.text.length ≤ Limits.maxAnchorBytes :=
    ⟨text_ne_nil anchor, anchor.length_text_le⟩
  simp only [replaceAnchor, validating, compareExchange, hencode, JournalAnchor.encode_eq hvalid,
    wp_run, require, if_pos hbounds, wp_readRegistry h, if_true, wp_step]
  exact ⟨⟨_, h.setRecord hvalid, hR⟩, hQ _ (h.setRecord hvalid)⟩

end WindowsAuthorityJournal

end CfwRs.WindowsAuthority
