import CfwRs.Profiles.Repository

namespace CfwRs.Profiles

open Lib Lib.Checked SingBox Durable Limits

variable {V P : Type}

namespace ProfileFormat

variable {F : ProfileFormat V P} {id : String} {file : StoredFile V} {entry : StoredEntry P}
  {selection : ProfileSelection} {intent : SelectedProfileReplaceIntent}

theorem decodeEntry_eq_ok : F.decodeEntry id file = .ok entry ↔
    F.length file ≤ maxEnvelopeBytes ∧ ∃ envelope, file = ⟨.envelope envelope, true⟩ ∧
      F.decodeEnvelope id envelope = .ok entry := by
  rcases file with ⟨content, isPrivate⟩
  simp only [decodeEntry, ok_iff, exists_const, Nat.not_lt]
  cases content with
  | envelope envelope =>
    constructor
    · rintro ⟨rfl, hlength, hentry⟩
      exact ⟨hlength, envelope, rfl, hentry⟩
    · rintro ⟨hlength, _, h, hentry⟩
      cases h
      exact ⟨rfl, hlength, hentry⟩
  | _ => simp

theorem decodeSelection_eq_ok : F.decodeSelection file = .ok selection ↔
    file = ⟨.selection selection, true⟩ ∧ selection.validate = .ok () := by
  rcases file with ⟨content, isPrivate⟩
  simp only [decodeSelection, ok_iff, exists_const]
  cases content with
  | selection s =>
    constructor
    · rintro ⟨rfl, -, h⟩
      obtain ⟨_, hvalid, h⟩ := bind_eq_ok.mp h
      cases Except.ok.inj h
      exact ⟨rfl, hvalid⟩
    · rintro ⟨h, hvalid⟩
      cases h
      refine ⟨rfl, ?_, bind_eq_ok.mpr ⟨(), hvalid, rfl⟩⟩
      have hlength : F.length (⟨.selection selection, true⟩ : StoredFile V) = 156 :=
        ProfileSelection.length_text hvalid
      rw [hlength]
      decide
  | _ => simp

theorem decodeIntent_eq_ok : F.decodeIntent file = .ok intent ↔
    file = ⟨.intent intent, true⟩ ∧ intent.text.length ≤ maxSelectedReplaceBytes ∧
      intent.validate = .ok () := by
  rcases file with ⟨content, isPrivate⟩
  simp only [decodeIntent, ok_iff, exists_const, Nat.not_lt]
  cases content with
  | intent i =>
    constructor
    · rintro ⟨rfl, hlength, h⟩
      obtain ⟨_, hvalid, h⟩ := bind_eq_ok.mp h
      cases Except.ok.inj h
      exact ⟨rfl, hlength, hvalid⟩
    · rintro ⟨h, hlength, hvalid⟩
      cases h
      exact ⟨rfl, hlength, bind_eq_ok.mpr ⟨(), hvalid, rfl⟩⟩
  | _ => simp

theorem of_decodeEntry (h : F.decodeEntry id file = .ok entry) :
    entry.id = id ∧ isCanonicalUuid id = true ∧ isLowercaseSha256 entry.digest = true := by
  obtain ⟨-, envelope, rfl, hentry⟩ := decodeEntry_eq_ok.mp h
  obtain ⟨-, hid, rfl, -, -, hdocument⟩ := decodeEnvelope_eq_ok.mp hentry
  exact ⟨id_of_decodeDocument hdocument, hid, (digest_of_decodeDocument hdocument).2⟩

variable {name : String} {profile : P} {sourceUrl : Option String} {stored : StoredProfile P}
  {timestamp : UInt64}

theorem of_decodeEntry_valid (h : F.decodeEntry id file = .ok (.valid stored)) :
    normalizeName stored.record.name = .ok stored.record.name ∧
      stored.record.digest = F.digest stored.profile := by
  obtain ⟨-, envelope, rfl, hentry⟩ := decodeEntry_eq_ok.mp h
  obtain ⟨-, -, -, hname, -, hdocument⟩ := decodeEnvelope_eq_ok.mp hentry
  obtain ⟨hstored, hdigest⟩ := of_decodeDocument_valid hdocument
  rw [hstored]
  exact ⟨hname, hdigest⟩

theorem encode_of_decodeEntry
    (h : F.decodeEntry id ⟨.envelope (F.envelope id name profile sourceUrl timestamp), true⟩ =
      .ok (.valid stored)) :
    F.encodeWithTimestamp id stored.record.name stored.profile stored.sourceUrl
      stored.record.createdEpochSecs = .ok (F.envelope id name profile sourceUrl timestamp) := by
  obtain ⟨hlength, _, heq, hentry⟩ := decodeEntry_eq_ok.mp h
  cases heq
  obtain ⟨-, -, -, -, hurl, hdocument⟩ := decodeEnvelope_eq_ok.mp hentry
  exact encode_of_decodeDocument hurl hlength hdocument

theorem exists_decodeEntry {envelope} (hid : isCanonicalUuid id = true)
    (hname : normalizeName name = .ok name)
    (h : F.encodeWithTimestamp id name profile sourceUrl timestamp = .ok envelope) :
    ∃ entry, F.decodeEntry id ⟨.envelope envelope, true⟩ = .ok entry ∧
      Reads F envelope profile entry := by
  obtain ⟨entry, hentry, hreads⟩ := exists_reads hid hname h
  have hlength := (encodeWithTimestamp_eq_ok.mp h).2.1
  exact ⟨entry, decodeEntry_eq_ok.mpr ⟨hlength, envelope, rfl, hentry⟩, hreads⟩

theorem loadProfile_eq_ok {view length} :
    F.loadProfile view id = .ok (length, stored) ↔ ∃ file, view (.profile id) = some file ∧
      F.length file = length ∧ F.decodeEntry id file = .ok (.valid stored) := by
  simp only [loadProfile, View.openFile, bind_eq_ok, unwrap_eq_ok]
  constructor
  · rintro ⟨file, hfile, entry, hentry, stored', hload, h⟩
    cases Except.ok.inj h
    cases entry with
    | valid stored =>
      cases hload
      exact ⟨file, hfile, rfl, hentry⟩
    | invalid e => cases hload
  · rintro ⟨file, hfile, rfl, hentry⟩
    exact ⟨file, hfile, _, hentry, stored, rfl, rfl⟩

variable (F)

def profileBytes : EntryName → StoredFile V → ℕ
  | .profile _, file => F.length file
  | _, _ => 0

def selectionBytes : EntryName → StoredFile V → ℕ
  | .selection, file => F.length file
  | _, _ => 0

def bindingsIn : EntryName → StoredFile V → ℕ
  | .profile id, file =>
    match F.decodeEntry id file with
    | .ok entry => F.bindings entry
    | .error _ => 0
  | _, _ => 0

end ProfileFormat

def isProfile : EntryName → StoredFile V → ℕ
  | .profile _, _ => 1
  | _, _ => 0

open Directory

/-- The invariant of a repository that has recovered: profiles that can be listed, within the
limits, and a selection, if any, of one of them. -/
structure Sound (F : ProfileFormat V P) (files : Files V) : Prop where
  name {name : EntryName} : name ∈ files.keys → name = .selection ∨ ∃ id, name = .profile id
  entry {id : String} {file : StoredFile V} : files.lookup (.profile id) = some file →
    ∃ entry, F.decodeEntry id file = .ok entry
  selection {file : StoredFile V} : files.lookup .selection = some file →
    ∃ selection, F.decodeSelection file = .ok selection ∧
      ∃ file entry, files.lookup (.profile selection.profileId) = some file ∧
        F.decodeEntry selection.profileId file = .ok entry ∧
        entry.digest = selection.profileDigest
  entries_le : total isProfile files ≤ maxRepositoryEntries
  bytes_le : total F.profileBytes files + total F.selectionBytes files ≤ maxRepositoryBytes
  bindings_le : total F.bindingsIn files ≤ maxRepositoryCredentialReferences

namespace ProfileFormat

variable {F : ProfileFormat V P} {files : Files V} {id : String} {file : StoredFile V}
  {entry : StoredEntry P} {profiles : RepositoryProfiles}

def Holds (F : ProfileFormat V P) (files : Files V) (id : String) (entry : StoredEntry P) : Prop :=
  ∃ file, files.lookup (.profile id) = some file ∧ F.decodeEntry id file = .ok entry

theorem Holds.unique {other} (h : Holds F files id entry)
    (h' : Holds F files id other) : entry = other := by
  obtain ⟨file, hfile, hentry⟩ := h
  obtain ⟨file', hfile', hentry'⟩ := h'
  cases hfile.symm.trans hfile'
  exact Except.ok.inj (hentry.symm.trans hentry')

/-- The profiles that were read are the entries `ids` and those of `before`. -/
structure Lists (F : ProfileFormat V P) (files : Files V) (before : RepositoryProfiles)
    (ids : List String) (profiles : RepositoryProfiles) : Prop where
  record (r : ProfileRecord) : r ∈ profiles.records ↔ r ∈ before.records ∨
    ∃ id ∈ ids, ∃ stored, Holds F files id (.valid stored) ∧ stored.record = r
  invalid (e : InvalidEntry) : e ∈ profiles.invalid ↔ e ∈ before.invalid ∨
    ∃ id ∈ ids, Holds F files id (.invalid e)
  entries : profiles.records.length + profiles.invalid.length =
    before.records.length + before.invalid.length + ids.length
  storedBytes : profiles.storedBytes = before.storedBytes +
    (ids.map fun id ↦ weight F.profileBytes files (.profile id)).sum
  count : profiles.credentialBindingCount = before.credentialBindingCount +
    (ids.map fun id ↦ weight F.bindingsIn files (.profile id)).sum
  catalog : credentialBindingCount profiles.credentialCatalog =
    credentialBindingCount before.credentialCatalog +
      (ids.map fun id ↦ weight F.bindingsIn files (.profile id)).sum

theorem lists_nil : Lists F files profiles [] profiles := by
  constructor <;> simp

variable {ids : List String}

theorem Lists.trans {first second} (h : Lists F files profiles [id] first)
    (h' : Lists F files first ids second) : Lists F files profiles (id :: ids) second where
  record r := by
    rw [h'.record, h.record, or_assoc]
    simp
  invalid e := by
    rw [h'.invalid, h.invalid, or_assoc]
    simp
  entries := by
    rw [h'.entries, h.entries]
    simp only [List.length_cons, List.length_nil]
    omega
  storedBytes := by
    rw [h'.storedBytes, h.storedBytes]
    simp [Nat.add_assoc]
  count := by
    rw [h'.count, h.count]
    simp [Nat.add_assoc]
  catalog := by
    rw [h'.catalog, h.catalog]
    simp [Nat.add_assoc]

theorem exists_readEntry (h : Holds F files id entry)
    (hbytes : profiles.storedBytes + weight F.profileBytes files (.profile id) ≤ maxRepositoryBytes)
    (hcount : profiles.credentialBindingCount + weight F.bindingsIn files (.profile id) ≤
      maxRepositoryCredentialReferences) :
    ∃ out, F.readEntry (viewOf files) profiles id = .ok out ∧ Lists F files profiles [id] out := by
  obtain ⟨file, hfile, hentry⟩ := h
  have hunique {other : StoredEntry P} : Holds F files id other ↔ entry = other :=
    ⟨fun h ↦ Holds.unique ⟨file, hfile, hentry⟩ h, fun h ↦ h ▸ ⟨file, hfile, hentry⟩⟩
  have hbytesIn : weight F.profileBytes files (.profile id) = F.length file := weight_of_lookup hfile
  have hbindingsIn : weight F.bindingsIn files (.profile id) = F.bindings entry := by
    rw [weight_of_lookup hfile, bindingsIn, hentry]
  rw [hbytesIn] at hbytes
  rw [hbindingsIn] at hcount
  obtain ⟨hid, hcanonical, hdigest⟩ := of_decodeEntry hentry
  cases entry with
  | invalid e =>
    refine ⟨_, bind_eq_ok.mpr ⟨file, unwrap_eq_ok.mpr hfile, bind_eq_ok.mpr ⟨⟨⟩, reject_neg ?_,
      bind_eq_ok.mpr ⟨_, hentry, rfl⟩⟩⟩, ?_⟩
    · exact Nat.not_lt.mpr hbytes
    · constructor <;> simp [hunique, hbytesIn, hbindingsIn, bindings, Nat.add_assoc, eq_comm]
  | valid stored =>
    have hid : stored.record.id = id := hid
    have haudience : (CredentialAudience.new stored.record.id stored.record.digest).mapError
        (fun _ ↦ ProfileError.invalidCredentialAudience stored.record.id) =
        .ok ⟨stored.record.id, stored.record.digest, by rw [hid]; exact hcanonical, hdigest⟩ := by
      rw [CredentialAudience.new, dif_pos ⟨by rw [hid]; exact hcanonical, hdigest⟩]
      rfl
    refine ⟨_, bind_eq_ok.mpr ⟨file, unwrap_eq_ok.mpr hfile, bind_eq_ok.mpr ⟨⟨⟩, reject_neg ?_,
      bind_eq_ok.mpr ⟨_, hentry, bind_eq_ok.mpr ⟨⟨⟩, reject_neg ?_, bind_eq_ok.mpr ⟨_, haudience,
        rfl⟩⟩⟩⟩⟩, ?_⟩
    · exact Nat.not_lt.mpr hbytes
    · rw [List.length_insertionSort]
      exact Nat.not_lt.mpr hcount
    · constructor <;> simp [hunique, hbytesIn, hbindingsIn, bindings, Nat.add_assoc, Nat.add_comm,
        credentialBindingCount, eq_comm]

theorem exists_foldlM_readEntry (profiles : RepositoryProfiles)
    (hids : ∀ id ∈ ids, ∃ entry, Holds F files id entry) (hbytes : profiles.storedBytes +
      (ids.map fun id ↦ weight F.profileBytes files (.profile id)).sum ≤ maxRepositoryBytes)
    (hcount : profiles.credentialBindingCount +
      (ids.map fun id ↦ weight F.bindingsIn files (.profile id)).sum ≤
        maxRepositoryCredentialReferences) :
    ∃ out, ids.foldlM (F.readEntry (viewOf files)) profiles = .ok out ∧
      Lists F files profiles ids out := by
  induction ids generalizing profiles with
  | nil => exact ⟨profiles, rfl, lists_nil⟩
  | cons id ids ih =>
    rw [List.map_cons, List.sum_cons, ← Nat.add_assoc] at hbytes hcount
    obtain ⟨entry, hentry⟩ := hids id (List.mem_cons_self ..)
    obtain ⟨first, hfirst, hlists⟩ := exists_readEntry hentry
      ((Nat.le_add_right ..).trans hbytes) ((Nat.le_add_right ..).trans hcount)
    obtain ⟨second, hsecond, hlists'⟩ := ih first
      (fun id hid ↦ hids id (List.mem_cons_of_mem _ hid))
      (by simpa [hlists.storedBytes] using hbytes) (by simpa [hlists.count] using hcount)
    refine ⟨second, ?_, hlists.trans hlists'⟩
    rw [List.foldlM_cons, hfirst]
    exact hsecond

theorem exists_profileIds {names} (h : ∀ name ∈ names, name = .selection ∨
      ∃ id, name = .profile id ∧ isCanonicalUuid id = true) :
    ∃ ids, profileIds names = .ok ids ∧ (∀ id, id ∈ ids ↔ .profile id ∈ names) ∧
      ∀ g : EntryName → ℕ, g .selection = 0 →
        (ids.map fun id ↦ g (.profile id)).sum = (names.map g).sum := by
  induction names with
  | nil => exact ⟨[], rfl, by simp, by simp⟩
  | cons name names ih =>
    obtain ⟨ids, hids, hmem, hsum⟩ := ih fun name hname ↦ h name (List.mem_cons_of_mem _ hname)
    rcases h name (List.mem_cons_self ..) with rfl | ⟨id, rfl, hid⟩
    · refine ⟨ids, hids, by simpa using hmem, fun g hg ↦ ?_⟩
      rw [List.map_cons, List.sum_cons, hg, Nat.zero_add, hsum g hg]
    · refine ⟨id :: ids, ?_, by simp [hmem], fun g hg ↦ ?_⟩
      · exact bind_eq_ok.mpr ⟨(), require_pos hid, bind_eq_ok.mpr ⟨ids, hids, rfl⟩⟩
      · rw [List.map_cons, List.sum_cons, List.map_cons, List.sum_cons, hsum g hg]

end ProfileFormat

namespace Sound

open ProfileFormat

variable {F : ProfileFormat V P} {files files' : Files V} {d : Disk V} {id : String}
  {entry : StoredEntry P}

theorem holds (h : Sound F files) (hid : .profile id ∈ files.keys) :
    ∃ entry, Holds F files id entry := by
  obtain ⟨file, hfile⟩ := mem_keys.mp hid
  obtain ⟨entry, hentry⟩ := h.entry hfile
  exact ⟨entry, file, hfile, hentry⟩

theorem congr (h : Sound F files) (hview : viewOf files = viewOf files') : Sound F files' := by
  have hlookup (name : EntryName) : files.lookup name = files'.lookup name := congrFun hview name
  refine ⟨fun {name} hname ↦ h.name ?_, fun {id file} hfile ↦ h.entry ?_,
    fun {file} hfile ↦ ?_, ?_, ?_, ?_⟩
  · rw [mem_keys] at hname ⊢
    rwa [hlookup]
  · rwa [hlookup]
  · obtain ⟨selection, hselection, hnamed⟩ := h.selection ((hlookup _).trans hfile)
    rw [hlookup] at hnamed
    exact ⟨selection, hselection, hnamed⟩
  · rw [← total_congr hlookup]
    exact h.entries_le
  · rw [← total_congr hlookup, ← total_congr hlookup]
    exact h.bytes_le
  · rw [← total_congr hlookup]
    exact h.bindings_le

theorem length_keys_le (h : Sound F files) : files.keys.length ≤ maxRepositoryEntries + 1 := by
  have hsplit : files.keys.length ≤ total isProfile files +
      total (fun name _ ↦ if name = .selection then 1 else 0) files := by
    rw [← total_one, ← total_add, total_eq_sum_weight, total_eq_sum_weight]
    refine Nat.le_of_eq (congrArg List.sum (List.map_congr_left fun name hname ↦ ?_))
    rcases h.name hname with rfl | ⟨id, rfl⟩ <;> rfl
  have hone : total (fun name (_ : StoredFile V) ↦ if name = EntryName.selection then 1 else 0)
      files ≤ 1 := by
    rw [total_eq_weight fun _ _ hname ↦ if_neg hname, weight]
    cases files.lookup EntryName.selection <;> simp
  have hentries := h.entries_le
  omega

end Sound

namespace ProfileFormat

variable {F : ProfileFormat V P} {d : Disk V} {id : String} {entry : StoredEntry P}

/-- What a listing of a sound directory says about it. -/
structure Listing (F : ProfileFormat V P) (files : Files V) (records : List ProfileRecord)
    (invalids : List InvalidEntry) (catalog : List ProfileCredentialCatalogEntry) : Prop where
  record (r : ProfileRecord) : r ∈ records ↔
    ∃ stored, Holds F files r.id (.valid stored) ∧ stored.record = r
  invalid (e : InvalidEntry) : e ∈ invalids ↔ Holds F files e.record.id (.invalid e)
  entries : records.length + invalids.length = total isProfile files
  bindings : credentialBindingCount catalog = total F.bindingsIn files

variable {files : Files V}

theorem id_of_holds (h : Holds F files id entry) : entry.id = id := by
  obtain ⟨file, -, hentry⟩ := h
  exact (of_decodeEntry hentry).1

theorem credentialBindingCount_perm {a b} (h : a.Perm b) :
    credentialBindingCount a = credentialBindingCount b := (h.map _).sum_eq

theorem exists_readProfiles (h : Sound F d.files) (ht : Tidy 0 d.temporaries) :
    ∃ profiles, F.readProfiles d = .ok profiles ∧
      Listing F d.files profiles.records profiles.invalid profiles.credentialCatalog ∧
      profiles.storedBytes = total F.profileBytes d.files := by
  have hkeys : ∀ name ∈ d.files.keys, name = .selection ∨
      ∃ id, name = .profile id ∧ isCanonicalUuid id = true := by
    intro name hname
    refine (h.name hname).imp_right ?_
    rintro ⟨id, rfl⟩
    obtain ⟨_, file, _, hentry⟩ := h.holds hname
    exact ⟨id, rfl, (of_decodeEntry hentry).2.1⟩
  obtain ⟨ids, hids, hmem, hsum⟩ := exists_profileIds hkeys
  have htotal (w : EntryName → StoredFile V → ℕ) (hw : ∀ file, w .selection file = 0) :
      ((ids.insertionSort (· ≤ ·)).map fun id ↦ weight w d.files (.profile id)).sum =
        total w d.files := by
    rw [((ids.perm_insertionSort (· ≤ ·)).map _).sum_eq, total_eq_sum_weight]
    refine hsum (weight w d.files) ?_
    rw [weight]
    cases d.files.lookup EntryName.selection with
    | none => rfl
    | some file => exact hw file
  have hholds (id : String) (hid : id ∈ ids.insertionSort (· ≤ ·)) :
      ∃ entry, Holds F d.files id entry := by
    rw [List.mem_insertionSort] at hid
    exact h.holds ((hmem id).mp hid)
  have hbytes := h.bytes_le
  obtain ⟨out, hout, hlists⟩ := exists_foldlM_readEntry ⟨[], [], 0, 0, []⟩ hholds
    (by rw [htotal _ fun _ ↦ rfl, Nat.zero_add]; omega)
    (by rw [htotal _ fun _ ↦ rfl, Nat.zero_add]; exact h.bindings_le)
  have hcount : ProfileRepository.checkEntryCount d = .ok () := by
    refine reject_neg (Nat.not_lt.mpr ?_)
    have hlength := h.length_keys_le
    have hlength' := ht.length_le
    omega
  have hnone : checkNoTemporary d = .ok () := by
    rw [checkNoTemporary, List.eq_nil_of_length_eq_zero (Nat.le_zero.mp ht.length_le)]
  -- an entry is read under its own name
  have hlisted {id : String} {entry : StoredEntry P} (hentry : Holds F d.files id entry) :
      id ∈ ids.insertionSort (· ≤ ·) := by
    obtain ⟨file, hfile, -⟩ := hentry
    rw [List.mem_insertionSort, hmem]
    exact mem_keys.mpr ⟨file, hfile⟩
  refine ⟨_, bind_eq_ok.mpr ⟨(), hcount, bind_eq_ok.mpr ⟨(), hnone, bind_eq_ok.mpr ⟨ids, hids,
    bind_eq_ok.mpr ⟨out, hout, rfl⟩⟩⟩⟩, ⟨fun r ↦ ?_, fun e ↦ ?_, ?_, ?_⟩, ?_⟩
  · rw [List.mem_insertionSort, hlists.record]
    constructor
    · rintro (h | ⟨id, -, stored, hstored, rfl⟩)
      · cases h
      · have hid : stored.record.id = id := id_of_holds hstored
        exact ⟨stored, hid.symm ▸ hstored, rfl⟩
    · rintro ⟨stored, hstored, hr⟩
      exact .inr ⟨r.id, hlisted hstored, stored, hstored, hr⟩
  · rw [List.mem_insertionSort, hlists.invalid]
    constructor
    · rintro (h | ⟨id, -, he⟩)
      · cases h
      · have hid : e.record.id = id := id_of_holds he
        exact hid.symm ▸ he
    · intro he
      exact .inr ⟨e.record.id, hlisted he, he⟩
  · have hprofiles : (ids.insertionSort (· ≤ ·)).length = total isProfile d.files := by
      rw [← htotal isProfile fun _ ↦ rfl]
      have hone : ∀ id ∈ ids.insertionSort (· ≤ ·), weight isProfile d.files (.profile id) = 1 := by
        intro id hid
        obtain ⟨_, file, hfile, -⟩ := hholds id hid
        exact weight_of_lookup hfile
      rw [List.map_congr_left hone]
      simp
    rw [List.length_insertionSort, List.length_insertionSort, hlists.entries, hprofiles]
    exact Nat.zero_add _
  · rw [credentialBindingCount_perm (List.perm_insertionSort ..), hlists.catalog,
      htotal _ fun _ ↦ rfl]
    exact Nat.zero_add _
  · rw [hlists.storedBytes, htotal _ fun _ ↦ rfl]
    exact Nat.zero_add _

theorem listedDigest_of_holds {profiles}
    (hlisting : Listing F files profiles.records profiles.invalid profiles.credentialCatalog)
    (h : Holds F files id entry) : listedDigest profiles id = some entry.digest := by
  cases entry with
  | valid stored =>
    have hid : stored.record.id = id := id_of_holds h
    have hmem : stored.record ∈ profiles.records :=
      (hlisting.record _).mpr ⟨stored, hid.symm ▸ h, rfl⟩
    cases hfind : profiles.records.find? (·.id = id) with
    | none =>
      have hne := List.find?_eq_none.mp hfind _ hmem
      exact absurd hid (by simpa using hne)
    | some r =>
      obtain ⟨other, hother, rfl⟩ := (hlisting.record r).mp (List.mem_of_find?_eq_some hfind)
      have hrid : other.record.id = id := by simpa using List.find?_some hfind
      rw [hrid] at hother
      cases h.unique hother
      rw [listedDigest, hfind]
      rfl
  | invalid e =>
    have hid : e.record.id = id := id_of_holds h
    have hmem : e ∈ profiles.invalid := (hlisting.invalid e).mpr (hid.symm ▸ h)
    have hnone : profiles.records.find? (·.id = id) = none := by
      rw [List.find?_eq_none]
      intro r hr
      obtain ⟨other, hother, rfl⟩ := (hlisting.record r).mp hr
      intro hrid
      rw [of_decide_eq_true hrid] at hother
      cases h.unique hother
    cases hfind : profiles.invalid.find? (·.record.id = id) with
    | none =>
      have hne := List.find?_eq_none.mp hfind _ hmem
      exact absurd hid (by simpa using hne)
    | some other =>
      have hother := (hlisting.invalid other).mp (List.mem_of_find?_eq_some hfind)
      have hrid : other.record.id = id := by simpa using List.find?_some hfind
      rw [hrid] at hother
      cases h.unique hother
      rw [listedDigest, hnone, findInvalid, hfind]
      rfl

/-- What a snapshot of a sound directory says about it. -/
structure Shows (F : ProfileFormat V P) (files : Files V) (snapshot : RepositorySnapshot) : Prop where
  listing : Listing F files snapshot.records snapshot.invalid snapshot.credentialCatalog
  storedBytes : snapshot.storedBytes = total F.profileBytes files + total F.selectionBytes files
  selection : files.lookup .selection =
    snapshot.selection.map fun selection ↦ ⟨.selection selection, true⟩

theorem total_selectionBytes :
    total F.selectionBytes files = weight F.selectionBytes files .selection := by
  refine total_eq_weight fun name _ hname ↦ ?_
  cases name with
  | selection => exact absurd rfl hname
  | _ => rfl

theorem exists_readAll (h : Sound F d.files) (ht : Tidy 0 d.temporaries) :
    ∃ snapshot, F.readAll d = .ok snapshot ∧ Shows F d.files snapshot := by
  obtain ⟨profiles, hprofiles, hlisting, hbytes⟩ := exists_readProfiles h ht
  have hview : d.view .selection = d.files.lookup .selection := rfl
  cases hselection : d.files.lookup .selection with
  | none =>
    refine ⟨⟨profiles.records, profiles.invalid, profiles.storedBytes, none,
      profiles.credentialCatalog⟩, bind_eq_ok.mpr ⟨profiles, hprofiles, ?_⟩, hlisting, ?_,
      hselection⟩
    · rw [hview, hselection]
      rfl
    · rw [total_selectionBytes, weight, hselection]
      exact hbytes
  | some file =>
    obtain ⟨selection, hdecode, file', entry, hfile', hentry, hdigest⟩ := h.selection hselection
    have htotal : profiles.storedBytes + F.length file =
        total F.profileBytes d.files + total F.selectionBytes d.files := by
      rw [hbytes, total_selectionBytes, weight_of_lookup hselection]
      rfl
    refine ⟨⟨profiles.records, profiles.invalid, profiles.storedBytes + F.length file,
      some selection, profiles.credentialCatalog⟩, bind_eq_ok.mpr ⟨profiles, hprofiles, ?_⟩,
      hlisting, htotal, ?_⟩
    · rw [hview, hselection]
      refine bind_eq_ok.mpr ⟨⟨⟩, reject_neg ?_, bind_eq_ok.mpr ⟨selection, hdecode,
        bind_eq_ok.mpr ⟨(), bind_eq_ok.mpr ⟨entry.digest, unwrap_eq_ok.mpr ?_, reject_neg ?_⟩,
        rfl⟩⟩⟩
      · rw [htotal]
        exact Nat.not_lt.mpr h.bytes_le
      · exact listedDigest_of_holds hlisting ⟨file', hfile', hentry⟩
      · exact not_not.mpr hdigest
    · rw [hselection, (decodeSelection_eq_ok.mp hdecode).1]
      rfl

end ProfileFormat

namespace Sound

open ProfileFormat

variable {F : ProfileFormat V P} {files : Files V} {id : String} {file : StoredFile V}
  {entry : StoredEntry P} {selection : ProfileSelection}

theorem holds_selected (h : Sound F files)
    (hfile : files.lookup .selection = some ⟨.selection selection, true⟩) :
    selection.validate = .ok () ∧ ∃ entry, Holds F files selection.profileId entry ∧
      entry.digest = selection.profileDigest := by
  obtain ⟨s, hs, file, entry, hlookup, hentry, hdigest⟩ := h.selection hfile
  obtain ⟨heq, hvalid⟩ := decodeSelection_eq_ok.mp hs
  cases heq
  exact ⟨hvalid, entry, ⟨file, hlookup, hentry⟩, hdigest⟩

theorem exists_selection (h : Sound F files) (hfile : files.lookup .selection = some file) :
    ∃ selection, file = ⟨.selection selection, true⟩ := by
  obtain ⟨s, hs, -⟩ := h.selection hfile
  exact ⟨s, (decodeSelection_eq_ok.mp hs).1⟩

theorem empty : Sound F ∅ where
  name h := by cases h
  entry h := by cases h
  selection h := by cases h
  entries_le := Nat.zero_le _
  bytes_le := Nat.zero_le _
  bindings_le := Nat.zero_le _

theorem insertProfile (h : Sound F files) (hentry : F.decodeEntry id file = .ok entry)
    (hselected : ∀ selection, files.lookup .selection = some ⟨.selection selection, true⟩ →
      selection.profileId = id → selection.profileDigest = entry.digest)
    (hentries : 1 + total isProfile (files.erase (.profile id)) ≤ maxRepositoryEntries)
    (hbytes : F.length file + total F.profileBytes (files.erase (.profile id)) +
      total F.selectionBytes files ≤ maxRepositoryBytes)
    (hbindings : F.bindings entry + total F.bindingsIn (files.erase (.profile id)) ≤
      maxRepositoryCredentialReferences) : Sound F (files.insert (.profile id) file) := by
  have hlookup {name : EntryName} : (files.insert (.profile id) file).lookup name =
      if name = .profile id then some file else files.lookup name := lookup_insert
  have hselection : (files.insert (.profile id) file).lookup .selection =
      files.lookup .selection := hlookup.trans (if_neg nofun)
  refine ⟨fun {name} hname ↦ ?_, fun {id' file'} hfile' ↦ ?_, fun {file'} hfile' ↦ ?_, ?_, ?_, ?_⟩
  · rw [mem_keys, hlookup] at hname
    split at hname
    · next heq => exact .inr ⟨id, heq⟩
    · exact h.name (mem_keys.mpr hname)
  · rw [hlookup] at hfile'
    split at hfile'
    · next hid =>
      cases hid
      cases hfile'
      exact ⟨entry, hentry⟩
    · exact h.entry hfile'
  · rw [hselection] at hfile'
    obtain ⟨s, rfl⟩ := h.exists_selection hfile'
    obtain ⟨hvalid, entry', ⟨file', hfile'', hentry'⟩, hdigest⟩ := h.holds_selected hfile'
    refine ⟨s, decodeSelection_eq_ok.mpr ⟨rfl, hvalid⟩, ?_⟩
    by_cases hid : s.profileId = id
    · refine ⟨file, entry, ?_, hid ▸ hentry, (hselected s hfile' hid).symm⟩
      rw [hlookup, if_pos (congrArg _ hid)]
    · refine ⟨file', entry', ?_, hentry', hdigest⟩
      rw [hlookup, if_neg fun h ↦ hid (EntryName.profile.inj h)]
      exact hfile''
  · exact hentries
  · have hsame : total F.selectionBytes (files.insert (.profile id) file) =
        total F.selectionBytes files := by
      rw [total_selectionBytes, total_selectionBytes, weight, weight, hselection]
    rw [hsame]
    exact hbytes
  · rw [total_insert, bindingsIn, hentry]
    exact hbindings

theorem insertSelection (h : Sound F files) (hvalid : selection.validate = .ok ())
    (hentry : Holds F files selection.profileId entry)
    (hdigest : entry.digest = selection.profileDigest)
    (hbytes : total F.profileBytes files + selection.text.length ≤ maxRepositoryBytes) :
    Sound F (files.insert .selection ⟨.selection selection, true⟩) := by
  have hlookup {id : String} : (files.insert .selection ⟨.selection selection, true⟩).lookup
      (.profile id) = files.lookup (.profile id) := lookup_insert.trans (if_neg nofun)
  have hprofiles {w : EntryName → StoredFile V → ℕ} (hw : ∀ file, w .selection file = 0) :
      total w (files.insert .selection ⟨.selection selection, true⟩) = total w files := by
    rw [total_insert, hw, Nat.zero_add]
    cases hold : files.lookup .selection with
    | none => exact total_erase_of_lookup hold
    | some old => rw [total_eq_add_erase hold, hw, Nat.zero_add]
  refine ⟨fun {name} hname ↦ ?_, fun {id file} hfile ↦ ?_, fun {file} hfile ↦ ?_, ?_, ?_, ?_⟩
  · rw [mem_keys, lookup_insert] at hname
    split at hname
    · next heq => exact .inl heq
    · exact h.name (mem_keys.mpr hname)
  · rw [hlookup] at hfile
    exact h.entry hfile
  · cases (AList.lookup_insert _).symm.trans hfile
    obtain ⟨file, hfile, hentry⟩ := hentry
    exact ⟨selection, decodeSelection_eq_ok.mpr ⟨rfl, hvalid⟩, file, entry, hlookup.trans hfile,
      hentry, hdigest⟩
  · rw [hprofiles fun _ ↦ rfl]
    exact h.entries_le
  · rw [hprofiles fun _ ↦ rfl, total_selectionBytes]
    exact hbytes
  · rw [hprofiles fun _ ↦ rfl]
    exact h.bindings_le

theorem erase {name} (h : Sound F files)
    (hname : name = .selection ∨ ∀ selection, name = .profile selection.profileId →
      files.lookup .selection ≠ some ⟨.selection selection, true⟩) :
    Sound F (files.erase name) := by
  have hlookup {other : EntryName} {file : StoredFile V}
      (hfile : (files.erase name).lookup other = some file) :
      other ≠ name ∧ files.lookup other = some file := by
    rw [lookup_erase] at hfile
    split at hfile
    · cases hfile
    · next hne => exact ⟨hne, hfile⟩
  refine ⟨fun {other} hother ↦ ?_, fun {id file} hfile ↦ h.entry (hlookup hfile).2,
    fun {file} hfile ↦ ?_, total_erase_le.trans h.entries_le, ?_,
    total_erase_le.trans h.bindings_le⟩
  · obtain ⟨file, hfile⟩ := mem_keys.mp hother
    exact h.name (mem_keys.mpr ⟨file, (hlookup hfile).2⟩)
  · obtain ⟨hne, hfile⟩ := hlookup hfile
    obtain ⟨s, rfl⟩ := h.exists_selection hfile
    obtain ⟨hvalid, entry, ⟨file, hentry⟩, hdigest⟩ := h.holds_selected hfile
    refine ⟨s, decodeSelection_eq_ok.mpr ⟨rfl, hvalid⟩, file, entry, ?_, hentry.2, hdigest⟩
    rw [lookup_erase, if_neg]
    · exact hentry.1
    · intro hprofile
      rcases hname with hname | hname
      · exact hne hname.symm
      · exact hname s hprofile.symm hfile
  · have hprofiles : total F.profileBytes (files.erase name) ≤ total F.profileBytes files :=
      total_erase_le
    have hselections : total F.selectionBytes (files.erase name) ≤ total F.selectionBytes files :=
      total_erase_le
    have hbytes := h.bytes_le
    omega

end Sound

end CfwRs.Profiles
