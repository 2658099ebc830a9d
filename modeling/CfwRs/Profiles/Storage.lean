import CfwRs.Lib.Directory
import CfwRs.Lib.Durable
import CfwRs.Profiles.Selection

namespace CfwRs.Profiles

open Lib Lib.Checked

/-- What a file holds: the canonical text of a record, or something else of some length. -/
inductive Content (V : Type)
  | envelope (envelope : ProfileEnvelope V)
  | selection (selection : ProfileSelection)
  | intent (intent : SelectedProfileReplaceIntent)
  | other (length : ℕ)
deriving DecidableEq

/-- A directory entry; `isPrivate` says that it is a regular file of its owner alone. -/
structure StoredFile (V : Type) where
  content : Content V
  isPrivate : Bool
deriving DecidableEq

abbrev Files (V : Type) := Directory EntryName (StoredFile V)

/-- The profile directory, with its temporaries apart from all other entries, and how many calls of
the file system were made. -/
structure Disk (V : Type) where
  files : Files V
  temporaries : Directory String (StoredFile V)
  calls : ℕ

/-- A profile repository on a machine that decides which calls of the file system fail, which
names temporaries get and what the clock shows. -/
structure ProfileRepository (V P : Type) extends ProfileFormat V P where
  fails : ℕ → Bool
  temporaryId : ℕ → String
  now : ℕ → UInt64
  display : ProfileError → String

abbrev RepositoryCode (V α : Type) := Durable (Disk V) ProfileError α

variable {V P α : Type}

namespace ProfileFormat

variable (F : ProfileFormat V P)

def contentLength : Content V → ℕ
  | .envelope envelope => F.envelopeLength envelope
  | .selection selection => selection.text.length
  | .intent intent => intent.text.length
  | .other length => length

def length (file : StoredFile V) : ℕ := F.contentLength file.content

def decodeEntry (id : String) (file : StoredFile V) : Except ProfileError (StoredEntry P) := do
  require (file.isPrivate = true) (.unsafeProfileFile id)
  reject (Limits.maxEnvelopeBytes < F.length file) (.storedProfileTooLarge (F.length file))
  match file.content with
  | .envelope envelope => F.decodeEnvelope id envelope
  | _ => .error .invalidEnvelopeJson

def decodeSelection (file : StoredFile V) : Except ProfileError ProfileSelection := do
  require (file.isPrivate = true) .unsafeSelectionFile
  reject (Limits.maxSelectionBytes < F.length file) (.selectionTooLarge (F.length file))
  match file.content with
  | .selection selection => do
    selection.validate
    return selection
  | _ => .error (.invalidSelectionJson "not a selection")

def decodeIntent (file : StoredFile V) : Except ProfileError SelectedProfileReplaceIntent := do
  require (file.isPrivate = true) .unsafeSelectedReplaceFile
  reject (Limits.maxSelectedReplaceBytes < F.length file)
    (.selectedReplaceTooLarge (F.length file))
  match file.content with
  | .intent intent => do
    intent.validate
    return intent
  | _ => .error (.invalidSelectedReplace "not an intent")

end ProfileFormat

abbrev View (V : Type) := EntryName → Option (StoredFile V)

def viewOf (files : Files V) : View V := fun name ↦ files.lookup name

def Disk.view (d : Disk V) : View V := viewOf d.files

def View.openFile (view : View V) (name : EntryName) : Except ProfileError (StoredFile V) :=
  unwrap (view name) .notFound

def Disk.next (d : Disk V) : Disk V := { d with calls := d.calls + 1 }

namespace ProfileRepository

variable (R : ProfileRepository V P)

/-- One call of the file system, or several of which only one has an effect: it fails without an
effect, or does what `f` says. -/
def perform (f : Disk V → Except ProfileError (α × Disk V)) : RepositoryCode V α := do
  let answer ← Durable.exchange fun d ↦
    match if R.fails d.calls then .error .io else f d with
    | .ok (a, changed) => ({ changed with calls := d.calls + 1 }, .ok a)
    | .error e => (d.next, .error e)
  Durable.attempt answer

def call (f : Disk V → Except ProfileError (Disk V)) : RepositoryCode V Unit :=
  R.perform fun d ↦ return ((), ← f d)

def inspect (q : Disk V → Except ProfileError α) : RepositoryCode V α :=
  R.perform fun d ↦ return (← q d, d)

def checkEntryCount (d : Disk V) : Except ProfileError Unit :=
  reject (Limits.maxRepositoryEntries + 2 + Limits.maxAbandonedTemporaries <
    d.files.keys.length + d.temporaries.keys.length) .tooManyEntries

def entryExists (name : EntryName) : RepositoryCode V Bool :=
  R.inspect fun d ↦ return (d.view name).isSome

def unlink (name : EntryName) : RepositoryCode V Unit :=
  R.call fun d ↦ do
    let _ ← d.view.openFile name
    return { d with files := d.files.erase name }

variable (id : String)

def unlinkTemporary : RepositoryCode V Unit :=
  R.call fun d ↦ do
    let _ ← unwrap (d.temporaries.lookup id) .notFound
    return { d with temporaries := d.temporaries.erase id }

def syncCommitted (entry : EntryName) : RepositoryCode V Unit :=
  (R.call pure).handle fun _ ↦ .error (.commitUncertain entry)

def unlinkCommitted (name : EntryName) : RepositoryCode V Unit := do
  R.unlink name
  R.syncCommitted name

def createExclusive : RepositoryCode V Unit :=
  R.call fun d ↦ do
    reject ((d.temporaries.lookup id).isSome = true) .io
    return { d with temporaries := d.temporaries.insert id ⟨.other 0, true⟩ }

def writeTemporary (content : Content V) : RepositoryCode V Unit :=
  R.call fun d ↦ return { d with temporaries := d.temporaries.insert id ⟨content, true⟩ }

variable (destination : EntryName)

/-- Gives a temporary the name `destination`; unless it may `replace`, that name must be free. -/
def rename (replace : Bool) : RepositoryCode V Unit :=
  R.call fun d ↦ do
    reject (replace = false ∧ (d.view destination).isSome = true)
      (.entryAlreadyExists destination)
    let file ← unwrap (d.temporaries.lookup id) .notFound
    return { d with
      files := d.files.insert destination file
      temporaries := d.temporaries.erase id }

variable (content : Content V)

/-- Sets the mode of a temporary, writes it and gives it its name. -/
def publish (replace : Bool) : RepositoryCode V Unit := do
  R.call pure
  R.writeTemporary id content
  R.rename id destination replace

def errorAfterCleanup (operation : ProfileError) : Except ProfileError Unit → ProfileError
  | .ok () => operation
  | .error .notFound => operation
  | .error cleanup => .atomicCleanup (R.display operation) (R.display cleanup)

def writeAtomic (replace : Bool) : RepositoryCode V Unit := do
  let temporary ← Durable.read fun d ↦ R.temporaryId d.calls
  R.createExclusive temporary
  match ← (R.publish temporary destination content replace).catching with
  | .ok () => R.syncCommitted destination
  | .error operation => do
    let cleanup ← (R.unlinkTemporary temporary).catching
    Durable.attempt (.error (R.errorAfterCleanup operation cleanup))

def writeNewAtomic : RepositoryCode V Unit := do
  let present ← R.entryExists destination
  Durable.attempt (reject (present = true) (.entryAlreadyExists destination))
  R.writeAtomic destination content false

def writeReplaceAtomic : RepositoryCode V Unit :=
  R.writeAtomic destination content true

def temporaryName : EntryName := .other ("." ++ id ++ ".tmp")

def checkTemporaries (temporaries : Directory String (StoredFile V)) :
    List String → Except ProfileError Unit
  | [] => .ok ()
  | id :: ids => do
    let file ← unwrap (temporaries.lookup id) .notFound
    require (file.isPrivate = true) (.unexpectedEntry (temporaryName id))
    checkTemporaries temporaries ids

def unlinkTemporaries : List String → RepositoryCode V Unit
  | [] => pure ()
  | id :: ids => do
    R.unlinkTemporary id
    unlinkTemporaries ids

def recoverOwnedTemporaries : RepositoryCode V ℕ := do
  let ids ← R.inspect fun d ↦ do
    checkEntryCount d
    checkTemporaries d.temporaries d.temporaries.keys
    return d.temporaries.keys
  R.unlinkTemporaries ids
  if ids.isEmpty then return 0
  else do
    R.syncCommitted (.other "abandoned profile temporary recovery")
    return ids.length

section Rules

open Durable

def Faulty : Prop := ∃ k, R.fails k = true

variable {R} {C : Disk V → Prop} {s : Disk V}
variable {Q : Except ProfileError α → Disk V → Prop}

theorem wp_perform {f} (hC : C s.next)
    (herror : ∀ e, R.Faulty ∧ e = .io ∨ f s = .error e → Q (.error e) s.next)
    (hok : ∀ a d, f s = .ok (a, d) → C { d with calls := s.calls + 1 } ∧
      Q (.ok a) { d with calls := s.calls + 1 }) : (R.perform f).wp C Q s := by
  simp only [perform, wp_run, wp_exchange]
  cases hfails : R.fails s.calls with
  | true => exact ⟨hC, herror _ (.inl ⟨⟨_, hfails⟩, rfl⟩)⟩
  | false =>
    cases hf : f s with
    | error e => exact ⟨hC, herror e (.inr hf)⟩
    | ok r => exact hok r.1 r.2 hf

theorem wp_call {f Q} (hC : C s.next)
    (herror : ∀ e, R.Faulty ∧ e = .io ∨ f s = .error e → Q (.error e) s.next)
    (hok : ∀ d, f s = .ok d → C { d with calls := s.calls + 1 } ∧
      Q (.ok ()) { d with calls := s.calls + 1 }) : (R.call f).wp C Q s := by
  refine wp_perform hC (fun e he ↦ herror e (he.imp_right fun he ↦ ?_)) fun _ d hd ↦ hok d ?_
  · rcases bind_eq_error.mp he with he | ⟨d, _, hd⟩
    · exact he
    · cases hd
  · obtain ⟨d', hd', h⟩ := bind_eq_ok.mp hd
    rw [hd', (Prod.mk.inj (Except.ok.inj h)).2]

theorem wp_call_bind {f k}
    (hC : C s.next) (herror : ∀ e, R.Faulty ∧ e = .io ∨ f s = .error e → Q (.error e) s.next)
    (hok : ∀ d, f s = .ok d → C { d with calls := s.calls + 1 } ∧
      (k ()).wp C Q { d with calls := s.calls + 1 }) : (R.call f >>= k).wp C Q s :=
  wp_bind.mpr (wp_call hC herror hok)

variable {q : Disk V → Except ProfileError α}

theorem wp_inspect (hC : C s.next) (herror : ∀ e, R.Faulty ∧ e = .io ∨ q s = .error e → Q (.error e) s.next)
    (hok : ∀ a, q s = .ok a → Q (.ok a) s.next) : (R.inspect q).wp C Q s := by
  refine wp_perform hC (fun e he ↦ herror e (he.imp_right fun he ↦ ?_)) fun a d hd ↦ ?_
  · rcases bind_eq_error.mp he with he | ⟨a, _, ha⟩
    · exact he
    · cases ha
  · obtain ⟨a', ha, h⟩ := bind_eq_ok.mp hd
    obtain ⟨rfl, rfl⟩ := Prod.mk.inj (Except.ok.inj h)
    exact ⟨hC, hok a' ha⟩

theorem wp_inspect_of_eq {a} (hq : q s = .ok a) (hC : C s.next)
    (herror : R.Faulty → ∀ e, Q (.error e) s.next) (hok : Q (.ok a) s.next) :
    (R.inspect q).wp C Q s := by
  refine wp_inspect hC (fun e he ↦ herror (he.resolve_right fun h ↦ ?_).1 e) fun a' ha' ↦ ?_
  · cases hq.symm.trans h
  · cases hq.symm.trans ha'
    exact hok

theorem wp_inspect_bind {f} {Q : Except ProfileError β → Disk V → Prop} (hC : C s.next)
    (herror : ∀ e, R.Faulty ∧ e = .io ∨ q s = .error e → Q (.error e) s.next)
    (hok : ∀ a, q s = .ok a → (f a).wp C Q s.next) : (R.inspect q >>= f).wp C Q s :=
  wp_bind.mpr (wp_inspect hC herror hok)

theorem wp_inspect_of_eq_bind {a} {f}
    {Q : Except ProfileError β → Disk V → Prop} (hq : q s = .ok a) (hC : C s.next)
    (herror : R.Faulty → ∀ e, Q (.error e) s.next) (hok : (f a).wp C Q s.next) :
    (R.inspect q >>= f).wp C Q s :=
  wp_bind.mpr (wp_inspect_of_eq hq hC herror hok)

theorem wp_syncCommitted {entry Q}
    (hC : C s.next) (herror : ∀ e, R.Faulty → Q (.error e) s.next) (hok : Q (.ok ()) s.next) :
    (R.syncCommitted entry).wp C Q s := by
  refine wp_handle.mpr (wp_call hC (fun e he ↦ herror _ (he.resolve_right nofun).1) fun d hd ↦ ?_)
  rw [← Except.ok.inj hd]
  exact ⟨hC, hok⟩

end Rules

end ProfileRepository

/-- At most `n` temporaries, all of them left by this repository. -/
structure Tidy (n : ℕ) (temporaries : Directory String (StoredFile V)) : Prop where
  isPrivate {id : String} {file : StoredFile V} : temporaries.lookup id = some file →
    file.isPrivate = true
  length_le : temporaries.keys.length ≤ n

namespace Tidy

variable {n m : ℕ} {t : Directory String (StoredFile V)} {id : String} {file : StoredFile V}

theorem mono (h : Tidy n t) (hnm : n ≤ m) : Tidy m t := ⟨h.isPrivate, h.length_le.trans hnm⟩

theorem erase (h : Tidy n t) : Tidy n (t.erase id) := by
  refine ⟨fun {id' file'} hfile ↦ ?_, ?_⟩
  · rw [Directory.lookup_erase] at hfile
    split at hfile
    · cases hfile
    · exact h.isPrivate hfile
  · rw [AList.keys_erase]
    exact List.length_erase_le.trans h.length_le

theorem erase_of_lookup (h : Tidy (n + 1) t) (hid : t.lookup id = some file) :
    Tidy n (t.erase id) := by
  refine ⟨h.erase.isPrivate, ?_⟩
  have hmem : id ∈ t.keys := Directory.mem_keys.mpr ⟨file, hid⟩
  have hlength := h.length_le
  rw [AList.keys_erase, List.length_erase_of_mem hmem]
  omega

theorem insert (h : Tidy n t) (hfile : file.isPrivate = true) : Tidy (n + 1) (t.insert id file) := by
  refine ⟨fun {id' file'} hlookup ↦ ?_, ?_⟩
  · rw [Directory.lookup_insert] at hlookup
    split at hlookup
    · rw [← Option.some.inj hlookup]
      exact hfile
    · exact h.isPrivate hlookup
  · rw [AList.keys_insert]
    exact Nat.succ_le_succ (List.length_erase_le.trans h.length_le)

theorem insert_of_lookup (h : Tidy n t) (hid : (t.lookup id).isSome = true)
    (hfile : file.isPrivate = true) : Tidy n (t.insert id file) := by
  refine ⟨(h.insert hfile).isPrivate, ?_⟩
  obtain ⟨old, hold⟩ := Option.isSome_iff_exists.mp hid
  have hmem : id ∈ t.keys := Directory.mem_keys.mpr ⟨old, hold⟩
  rw [AList.keys_insert, List.length_cons, List.length_erase_add_one hmem]
  exact h.length_le

theorem lookup_eq_none (h : Tidy 0 t) : t.lookup id = none := by
  cases hid : t.lookup id with
  | none => rfl
  | some file =>
    have hmem : id ∈ t.keys := Directory.mem_keys.mpr ⟨file, hid⟩
    exact absurd (List.length_pos_of_mem hmem) (Nat.not_lt.mpr h.length_le)

end Tidy

namespace ProfileRepository

open Durable

variable {R : ProfileRepository V P} {s : Disk V} {n : ℕ} {destination : EntryName}
  {content : Content V} {replace : Bool} {id : String}

/-- What is on the disk while `content` is written: the directory of before or after. -/
def Writing (s : Disk V) (n : ℕ) (destination : EntryName) (content : Content V) (d : Disk V) :
    Prop :=
  (d.files = s.files ∨ d.files = s.files.insert destination ⟨content, true⟩) ∧
    Tidy (n + 1) d.temporaries

theorem publish_ends (htidy : Tidy (n + 1) s.temporaries)
    (hid : (s.temporaries.lookup id).isSome = true) :
    (R.publish id destination content replace).wp (Writing s n destination content)
      (ends (fun d ↦ d.files = s.files ∧ Tidy (n + 1) d.temporaries ∧ (replace = true → R.Faulty))
        fun _ d ↦ d.files = s.files.insert destination ⟨content, true⟩ ∧ Tidy n d.temporaries ∧
          (replace = false → s.view destination = none)) s := by
  have hwriting {d : Disk V} (hfiles : d.files = s.files) (ht : Tidy (n + 1) d.temporaries) :
      Writing s n destination content d := ⟨.inl hfiles, ht⟩
  refine wp_call_bind (hwriting rfl htidy) (fun e he ↦ ⟨rfl, htidy, fun _ ↦ (he.resolve_right nofun).1⟩)
    fun d hd ↦ ?_
  cases Except.ok.inj hd
  have hwritten : Tidy (n + 1) (s.temporaries.insert id ⟨content, true⟩) :=
    htidy.insert_of_lookup hid rfl
  refine ⟨hwriting rfl htidy, wp_call_bind (hwriting rfl htidy)
    (fun e he ↦ ⟨rfl, htidy, fun _ ↦ (he.resolve_right nofun).1⟩) fun d hd ↦ ?_⟩
  cases Except.ok.inj hd
  refine ⟨hwriting rfl hwritten, wp_call (hwriting rfl hwritten)
    (fun e he ↦ ⟨rfl, hwritten, fun hreplace ↦ ?_⟩) fun d' hd' ↦ ?_⟩
  · refine (he.resolve_right fun he ↦ ?_).1
    subst hreplace
    simp [unwrap, reject, bind, Except.bind, pure, Except.pure] at he
  · simp only [ok_iff, exists_const, AList.lookup_insert, Option.some.injEq, exists_eq_left'] at hd'
    obtain ⟨hfree, rfl⟩ := hd'
    have htidy' := hwritten.erase_of_lookup (AList.lookup_insert _)
    refine ⟨⟨.inr rfl, htidy'.mono n.le_succ⟩, rfl, htidy', fun hreplace ↦ ?_⟩
    exact Option.not_isSome_iff_eq_none.mp fun hsome ↦ hfree ⟨hreplace, hsome⟩

/-- A write leaves the file or not, and perhaps its temporary. With no temporary in the way it only
fails with a call. -/
theorem writeAtomic_ends (htidy : Tidy n s.temporaries) :
    (R.writeAtomic destination content replace).wp (Writing s n destination content)
      (ends (fun d ↦ Writing s n destination content d ∧ (n = 0 → replace = true → R.Faulty))
        fun _ d ↦ d.files = s.files.insert destination ⟨content, true⟩ ∧ Tidy n d.temporaries ∧
          (replace = false → s.view destination = none)) s := by
  have hstart : Writing s n destination content s := ⟨.inl rfl, htidy.mono n.le_succ⟩
  refine wp_bind.mpr (wp_read.mpr (after_ok.mpr ?_))
  refine wp_call_bind hstart (fun e he ↦ ⟨hstart, fun hn _ ↦ ?_⟩) fun d hd ↦ ?_
  · subst hn
    refine (he.resolve_right fun he ↦ ?_).1
    simp [htidy.lookup_eq_none, reject, bind, Except.bind, pure, Except.pure] at he
  simp only [ok_iff, exists_const] at hd
  obtain ⟨-, rfl⟩ := hd
  have hcreated : Tidy (n + 1) (s.temporaries.insert (R.temporaryId s.calls) ⟨.other 0, true⟩) :=
    htidy.insert rfl
  refine ⟨⟨.inl rfl, hcreated⟩, wp_bind.mpr (wp_catching.mpr (wp_mono
    (publish_ends hcreated (by simp)) (fun _ h ↦ h) fun r d' hr ↦ ?_))⟩
  cases r with
  | ok _ =>
    obtain ⟨hfiles', htidy', hfree⟩ := hr
    have hdone : Writing s n destination content d' := ⟨.inr hfiles', htidy'.mono n.le_succ⟩
    exact wp_syncCommitted hdone (fun e he ↦ ⟨hdone, fun _ _ ↦ he⟩) ⟨hfiles', htidy', hfree⟩
  | error operation =>
    obtain ⟨hfiles', htidy', hfault⟩ := hr
    -- whether or not the cleanup fails
    have hcleanup : (R.unlinkTemporary (R.temporaryId s.calls)).wp
        (Writing s n destination content) (fun _ ↦ Writing s n destination content) d' := by
      refine wp_call ⟨.inl hfiles', htidy'⟩ (fun e _ ↦ ⟨.inl hfiles', htidy'⟩) fun d'' hd'' ↦ ?_
      simp only [ok_iff] at hd''
      obtain ⟨_, _, rfl⟩ := hd''
      exact ⟨⟨.inl hfiles', htidy'.erase⟩, .inl hfiles', htidy'.erase⟩
    refine wp_catching_bind hcleanup fun r d'' hr ↦ ?_
    exact after_ok.mpr (wp_attempt.mpr ⟨hr, fun _ ↦ hfault⟩)

theorem writeNewAtomic_ends (htidy : Tidy n s.temporaries) :
    (R.writeNewAtomic destination content).wp (fun d ↦ Writing s n destination content d ∧
        (d.files = s.files ∨ s.view destination = none))
      (ends (fun d ↦ Writing s n destination content d ∧
          (d.files = s.files ∨ s.view destination = none))
        fun _ d ↦ d.files = s.files.insert destination ⟨content, true⟩ ∧ Tidy n d.temporaries ∧
          s.view destination = none) s := by
  have hstart : Writing s n destination content s.next ∧
      (s.next.files = s.files ∨ s.view destination = none) :=
    ⟨⟨.inl rfl, htidy.mono n.le_succ⟩, .inl rfl⟩
  refine wp_inspect_of_eq_bind rfl hstart (fun _ _ ↦ hstart) ?_
  refine wp_attempt_bind (fun _ _ ↦ hstart) fun _ hfree ↦ ?_
  have hnone : s.view destination = none := Option.not_isSome_iff_eq_none.mp (reject_eq_ok.mp hfree)
  refine wp_mono (writeAtomic_ends htidy) (fun _ h ↦ ⟨h, .inr hnone⟩) fun r d hr ↦ ?_
  cases r with
  | ok _ => exact ⟨hr.1, hr.2.1, hnone⟩
  | error e => exact ⟨hr.1, .inr hnone⟩

def Cleaning (s : Disk V) (n : ℕ) (d : Disk V) : Prop := d.files = s.files ∧ Tidy n d.temporaries

variable {ids : List String}

theorem checkTemporaries_eq_ok (htidy : Tidy n s.temporaries)
    (hids : ∀ id ∈ ids, id ∈ s.temporaries.keys) : checkTemporaries s.temporaries ids = .ok () := by
  induction ids with
  | nil => rfl
  | cons id ids ih =>
    obtain ⟨file, hfile⟩ := Directory.mem_keys.mp (hids id (List.mem_cons_self ..))
    refine bind_eq_ok.mpr ⟨file, unwrap_eq_ok.mpr hfile, bind_eq_ok.mpr ⟨⟨⟩, ?_, ?_⟩⟩
    · exact require_pos (htidy.isPrivate hfile)
    · exact ih fun id hid ↦ hids id (List.mem_cons_of_mem _ hid)

theorem unlinkTemporaries_ends {d} (hd : Cleaning s n d) (hids : d.temporaries.keys = ids) :
    (R.unlinkTemporaries ids).wp (Cleaning s n)
      (ends (fun d ↦ Cleaning s n d ∧ R.Faulty) fun _ d ↦ Cleaning s 0 d) d := by
  induction ids generalizing d with
  | nil =>
    refine wp_pure.mpr ⟨hd.1, hd.2.isPrivate, ?_⟩
    rw [hids, List.length_nil]
  | cons id ids ih =>
    obtain ⟨file, hfile⟩ :=
      Directory.mem_keys.mp (hids ▸ List.mem_cons_self .. : id ∈ d.temporaries.keys)
    refine wp_call_bind hd (fun e he ↦ ⟨hd, ?_⟩) fun d' hd' ↦ ?_
    · refine (he.resolve_right fun he ↦ ?_).1
      simp [hfile, unwrap, bind, Except.bind, pure, Except.pure] at he
    · simp only [ok_iff] at hd'
      obtain ⟨_, _, rfl⟩ := hd'
      have herase : (d.temporaries.erase id).keys = ids := by
        rw [AList.keys_erase, hids, List.erase_cons_head]
      exact ⟨⟨hd.1, hd.2.erase⟩, ih ⟨hd.1, hd.2.erase⟩ herase⟩

/-- The removal of the temporaries can be interrupted anywhere. If the directory can be listed it
only fails with a call. -/
theorem recoverOwnedTemporaries_ends (htidy : Tidy n s.temporaries) :
    R.recoverOwnedTemporaries.wp (Cleaning s n)
      (ends (fun d ↦ Cleaning s n d ∧ (checkEntryCount s = .ok () → R.Faulty))
        fun _ d ↦ Cleaning s 0 d) s := by
  have hstart : Cleaning s n s.next := ⟨rfl, htidy⟩
  have hcheck := checkTemporaries_eq_ok htidy fun _ h ↦ h
  refine wp_inspect_bind hstart (fun e he ↦ ⟨hstart, fun hcount ↦ ?_⟩) fun ids hids ↦ ?_
  · refine (he.resolve_right fun he ↦ ?_).1
    simp [hcount, hcheck, bind, Except.bind, pure, Except.pure] at he
  simp only [ok_iff] at hids
  obtain ⟨_, _, _, _, rfl⟩ := hids
  refine wp_bind_of (unlinkTemporaries_ends hstart rfl) (fun _ _ h ↦ ⟨h.1, fun _ ↦ h.2⟩)
    fun _ d hd ↦ ?_
  have hclean : Cleaning s n d := ⟨hd.1, hd.2.mono n.zero_le⟩
  split
  · exact wp_pure.mpr hd
  · refine wp_bind_ends (wp_syncCommitted (Q := ends (fun d ↦ Cleaning s n d ∧
        (checkEntryCount s = .ok () → R.Faulty)) fun _ d ↦ Cleaning s 0 d) hclean
      (fun e he ↦ ⟨hclean, fun _ ↦ he⟩) hd) fun _ d hd ↦ wp_pure.mpr hd

def Unlinking (s : Disk V) (name : EntryName) (d : Disk V) : Prop :=
  (d.files = s.files ∨ d.files = s.files.erase name) ∧ d.temporaries = s.temporaries

theorem unlinkCommitted_ends {name} : (R.unlinkCommitted name).wp (Unlinking s name)
      (ends (fun d ↦ Unlinking s name d ∧ ((s.view name).isSome = true → R.Faulty))
        fun _ d ↦ d.files = s.files.erase name ∧ d.temporaries = s.temporaries) s := by
  have hstart : Unlinking s name s.next := ⟨.inl rfl, rfl⟩
  refine wp_call_bind hstart (fun e he ↦ ⟨hstart, fun hname ↦ ?_⟩) fun d hd ↦ ?_
  · obtain ⟨file, hfile⟩ := Option.isSome_iff_exists.mp hname
    refine (he.resolve_right fun he ↦ ?_).1
    simp [View.openFile, hfile, unwrap, bind, Except.bind, pure, Except.pure] at he
  · simp only [ok_iff] at hd
    obtain ⟨_, _, rfl⟩ := hd
    have hdone : Unlinking s name ⟨s.files.erase name, s.temporaries, s.calls + 1⟩ := ⟨.inr rfl, rfl⟩
    exact ⟨hdone, wp_syncCommitted hdone (fun e he ↦ ⟨hdone, fun _ ↦ he⟩) ⟨rfl, rfl⟩⟩

end ProfileRepository

end CfwRs.Profiles
