import CfwRs.Lib.Checked

namespace CfwRs.WindowsTunnel

open Lib.Checked

def mask (bits : ℕ) : ℕ := if 128 ≤ bits then 2 ^ 128 - 1 else (1 <<< bits) - 1

/-- A prefix as an integer in an address space of `width` bits. -/
structure Range where
  value : ℕ
  length : ℕ
deriving DecidableEq

namespace Range

def new (value length width : ℕ) : Except String Range := do
  reject (width < length ∨ width < 128 ∧ value >>> width ≠ 0)
    "tunnel route prefix is outside its address family"
  reject (0 < width - length ∧ value &&& mask (width - length) ≠ 0)
    "tunnel route prefix has host bits set"
  pure ⟨value, length⟩

def defaultRoute : Range := ⟨0, 0⟩

def contains (r other : Range) (width : ℕ) : Bool :=
  r.length ≤ other.length &&
    (r.length = 0 || r.value >>> (width - r.length) = other.value >>> (width - r.length))

def overlaps (r other : Range) (width : ℕ) : Bool :=
  r.contains other width || other.contains r width

def halves (r : Range) (width : ℕ) : Range × Range :=
  let length := r.length + 1
  (⟨r.value, length⟩, ⟨r.value ||| 1 <<< (width - length), length⟩)

end Range

/-- `room` is what the width exceeds the length of `base` by. To split a base without room would take
a longer prefix than there is, and the shift of `halves` would overflow. -/
def subtractInto (excluded : List Range) (width : ℕ) (room : ℕ) (base : Range) :
    Option (List Range) :=
  if excluded.any (·.contains base width) then some []
  else if !excluded.any (·.overlaps base width) then some [base]
  else match room with
    | 0 => none
    | room + 1 => do
      let lower ← subtractInto excluded width room (base.halves width).1
      let upper ← subtractInto excluded width room (base.halves width).2
      some (lower ++ upper)

def subtract (base : Range) (excluded : List Range) (width : ℕ) : Option (List Range) :=
  subtractInto excluded width (width - base.length) base

structure FamilyPlan where
  address : ℕ
  prefixLength : ℕ
  dnsPeer : ℕ
  routes : List Range
deriving DecidableEq

structure TunnelNetworkOptions where
  ipv6Enabled : Bool
  bypassPrivateNetworks : Bool
  directIpv4Hosts : List (BitVec 32)
  mtu : UInt16

structure TunnelNetworkPlan where
  mtu : UInt16
  ipv4 : FamilyPlan
  ipv6 : Option FamilyPlan
deriving DecidableEq

def privateIpv4 : List (ℕ × ℕ) :=
  [(0x0a000000, 8), (0xac100000, 12), (0xc0a80000, 16), (0xa9fe0000, 16), (0xe0000000, 4),
    (0xffffffff, 32)]

def privateIpv6 : List (ℕ × ℕ) := [(0xfc <<< 120, 7), (0xfe80 <<< 112, 10), (0xff <<< 120, 8)]

namespace TunnelNetworkOptions

/-- The ranges that the options exclude, by address and length. -/
def excludedIpv4 (options : TunnelNetworkOptions) : List (ℕ × ℕ) :=
  (if options.bypassPrivateNetworks then privateIpv4 else []) ++
    options.directIpv4Hosts.map fun host ↦ (host.toNat, 32)

def excludedIpv6 (options : TunnelNetworkOptions) : List (ℕ × ℕ) :=
  if options.bypassPrivateNetworks then privateIpv6 else []

end TunnelNetworkOptions

def familyPlan (address prefixLength dnsPeer : ℕ) (prefixes : List (ℕ × ℕ)) (width : ℕ) :
    Except String FamilyPlan := do
  let excluded ← prefixes.mapM fun p ↦ Range.new p.1 p.2 width
  let routes ← unwrap (subtract .defaultRoute excluded width) "attempt to subtract with overflow"
  pure ⟨address, prefixLength, dnsPeer, routes.map fun r ↦ ⟨r.value % 2 ^ width, r.length⟩⟩

/-- The resolver is reached through the adapter without a route. -/
def onLink (family : FamilyPlan) (width : ℕ) : Bool :=
  let host := family.address &&& mask (width - family.prefixLength)
  family.prefixLength < width &&
    match Range.new (family.address ^^^ host) family.prefixLength width with
    | .ok network => network.contains ⟨family.dnsPeer, width⟩ width
    | .error _ => false

def consistent (family : FamilyPlan) (width : ℕ) : Bool :=
  onLink family width && family.address ≠ family.dnsPeer && family.routes ≠ []

namespace TunnelNetworkPlan

def validate (plan : TunnelNetworkPlan) : Except String Unit := do
  require (consistent plan.ipv4 32) "tunnel IPv4 address plan is inconsistent"
  require (∀ family ∈ plan.ipv6, consistent family 128) "tunnel IPv6 address plan is inconsistent"

def ipv6Plan (options : TunnelNetworkOptions) : Except String (Option FamilyPlan) :=
  if options.ipv6Enabled then do
    let family ← familyPlan (0x20010002000000640000000000000001) 126
      (0x20010002000000640000000000000002) options.excludedIpv6 128
    pure (some family)
  else pure none

def new (options : TunnelNetworkOptions) : Except String TunnelNetworkPlan := do
  require (1280 ≤ options.mtu ∧ options.mtu ≤ 1500)
    ("tunnel MTU " ++ toString options.mtu ++ " is outside the handed-over range")
  let ipv4 ← familyPlan 0xc6124001 30 0xc6124002 options.excludedIpv4 32
  let ipv6 ← ipv6Plan options
  validate ⟨options.mtu, ipv4, ipv6⟩
  pure ⟨options.mtu, ipv4, ipv6⟩

end TunnelNetworkPlan

namespace Range

def size (width : ℕ) (r : Range) : ℕ := 2 ^ (width - r.length)

/-- The addresses of a prefix. -/
def Covers (width : ℕ) (r : Range) (address : ℕ) : Prop :=
  r.value ≤ address ∧ address < r.value + r.size width

structure Valid (width : ℕ) (r : Range) : Prop where
  length_le : r.length ≤ width
  value_lt : r.value < 2 ^ width
  no_host_bits : r.size width ∣ r.value

/-- The prefixes cover what `Target` says, in order and in the fewest pieces. -/
structure Exact (width : ℕ) (Target : ℕ → Prop) (out : List Range) : Prop where
  valid : ∀ r ∈ out, r.Valid width
  ascending : out.Pairwise fun r s ↦ r.value + r.size width ≤ s.value
  covers : ∀ a, (∃ r ∈ out, r.Covers width a) ↔ Target a
  maximal : ∀ p : Range, p.Valid width → (∀ a, p.Covers width a → Target a) →
    ∃ r ∈ out, ∀ a, p.Covers width a → r.Covers width a

variable {w a : ℕ} {r s base : Range} {excluded : List Range}

theorem size_pos : 0 < r.size w := Nat.two_pow_pos _

theorem covers_value : r.Covers w r.value := ⟨le_rfl, Nat.lt_add_of_pos_right size_pos⟩

theorem size_dvd (h : r.length ≤ s.length) : s.size w ∣ r.size w :=
  Nat.pow_dvd_pow 2 (by omega)

theorem add_le_of_dvd {d x y : ℕ} (hx : d ∣ x) (hy : d ∣ y) (h : x < y) : x + d ≤ y := by
  obtain ⟨i, rfl⟩ := hx
  obtain ⟨j, rfl⟩ := hy
  calc d * i + d = d * (i + 1) := by ring
    _ ≤ d * j := Nat.mul_le_mul_left d (Nat.lt_of_mul_lt_mul_left h)

theorem contains_iff (hr : r.Valid w) (hs : s.Valid w) :
    r.contains s w ↔ r.length ≤ s.length ∧ r.Covers w s.value := by
  obtain ⟨i, hi⟩ := hr.no_host_bits
  have hshift : r.value / r.size w = s.value / r.size w ↔ r.Covers w s.value := by
    rw [hi, Nat.mul_div_cancel_left _ size_pos, eq_comm, Nat.div_eq_iff size_pos, Covers,
      Nat.mul_comm i]
    have := size_pos (r := r) (w := w)
    omega
  have hdefault (h : r.length = 0) : r.Covers w s.value := by
    have hsize : r.size w = 2 ^ w := by rw [size, h, Nat.sub_zero]
    have hzero : r.value = 0 := Nat.eq_zero_of_dvd_of_lt (hsize ▸ hr.no_host_bits) hr.value_lt
    rw [Covers, hzero, hsize, Nat.zero_add]
    exact ⟨Nat.zero_le _, hs.value_lt⟩
  simp only [contains, Bool.and_eq_true, decide_eq_true_eq, Bool.or_eq_true,
    Nat.shiftRight_eq_div_pow, ← size.eq_1, hshift]
  exact and_congr_right fun _ ↦ ⟨fun h ↦ h.elim hdefault id, .inr⟩

/-- Two prefixes with a common address lie in each other. -/
theorem covers_of_common (hr : r.Valid w) (hs : s.Valid w) (h : r.length ≤ s.length)
    (hra : r.Covers w a) (hsa : s.Covers w a) : r.Covers w s.value := by
  refine ⟨?_, lt_of_le_of_lt hsa.1 hra.2⟩
  by_contra hlt
  have := add_le_of_dvd hs.no_host_bits ((size_dvd h).trans hr.no_host_bits) (not_le.mp hlt)
  have := hra.1
  have := hsa.2
  omega

theorem covers_of_contains (hr : r.Valid w) (hs : s.Valid w) (h : r.contains s w)
    (hsa : s.Covers w a) : r.Covers w a := by
  obtain ⟨hle, hvalue⟩ := (contains_iff hr hs).mp h
  have := add_le_of_dvd hs.no_host_bits
    ((Nat.dvd_add_right ((size_dvd hle).trans hr.no_host_bits)).mpr (size_dvd hle)) hvalue.2
  exact ⟨hvalue.1.trans hsa.1, hsa.2.trans_le this⟩

theorem overlaps_iff (hr : r.Valid w) (hs : s.Valid w) :
    r.overlaps s w ↔ ∃ a, r.Covers w a ∧ s.Covers w a := by
  rw [overlaps, Bool.or_eq_true]
  constructor
  · rintro (h | h)
    · exact ⟨s.value, covers_of_contains hr hs h covers_value, covers_value⟩
    · exact ⟨r.value, covers_value, covers_of_contains hs hr h covers_value⟩
  · rintro ⟨a, hra, hsa⟩
    rcases Nat.le_total r.length s.length with h | h
    · exact .inl ((contains_iff hr hs).mpr ⟨h, covers_of_common hr hs h hra hsa⟩)
    · exact .inr ((contains_iff hs hr).mpr ⟨h, covers_of_common hs hr h hsa hra⟩)

section Halves

variable (hbase : base.Valid w) (hroom : base.length < w)
include hbase hroom

theorem halves_eq : ∃ k, base.size w = 2 * 2 ^ k ∧
    (base.halves w).1.size w = 2 ^ k ∧ (base.halves w).2.size w = 2 ^ k ∧
    (base.halves w).1.value = base.value ∧ (base.halves w).2.value = base.value + 2 ^ k := by
  obtain ⟨k, hk⟩ : ∃ k, w - base.length = k + 1 := ⟨w - base.length - 1, by omega⟩
  have hlength : w - (base.length + 1) = k := by omega
  refine ⟨k, by rw [size, hk, pow_succ, Nat.mul_comm], ?_, ?_, rfl, ?_⟩
  · rw [size, halves, hlength]
  · rw [size, halves, hlength]
  · obtain ⟨i, hi⟩ := hbase.no_host_bits
    rw [size, hk] at hi
    rw [halves, hlength, Nat.one_shiftLeft, hi]
    exact (Nat.two_pow_add_eq_or_of_lt (Nat.pow_lt_pow_succ (by decide)) i).symm

theorem halves_valid : (base.halves w).1.Valid w ∧ (base.halves w).2.Valid w := by
  obtain ⟨k, hsize, hlower, hupper, hvalue, hvalue'⟩ := halves_eq hbase hroom
  have hdvd : 2 ^ k ∣ base.value := (Dvd.intro_left 2 hsize.symm).trans hbase.no_host_bits
  have hend : base.value + base.size w ≤ 2 ^ w :=
    add_le_of_dvd hbase.no_host_bits (Nat.pow_dvd_pow 2 (by omega)) hbase.value_lt
  refine ⟨⟨hroom, hvalue ▸ hbase.value_lt, ?_⟩, ⟨hroom, ?_, ?_⟩⟩
  · rwa [hlower, hvalue]
  · omega
  · rw [hupper, hvalue']
    exact (Nat.dvd_add_right hdvd).mpr (Nat.dvd_refl _)

/-- What the halves give together is exact for the whole, unless nothing had to be split. -/
theorem Exact.append {Target : ℕ → Prop} {lower upper}
    (hlower : Exact w (fun a ↦ (base.halves w).1.Covers w a ∧ Target a) lower)
    (hupper : Exact w (fun a ↦ (base.halves w).2.Covers w a ∧ Target a) upper)
    (hsplit : ∃ a, base.Covers w a ∧ ¬Target a) :
    Exact w (fun a ↦ base.Covers w a ∧ Target a) (lower ++ upper) := by
  obtain ⟨k, hsize, hl, hu, hvl, hvu⟩ := halves_eq hbase hroom
  have hcovers (a : ℕ) : base.Covers w a ↔
      (base.halves w).1.Covers w a ∨ (base.halves w).2.Covers w a := by
    simp only [Covers, hl, hu]
    omega
  refine ⟨?_, ?_, fun a ↦ ?_, fun p hp hin ↦ ?_⟩
  · exact fun r hr ↦ (List.mem_append.mp hr).elim (hlower.valid r) (hupper.valid r)
  · refine List.pairwise_append.mpr ⟨hlower.ascending, hupper.ascending, fun r hr s hs ↦ ?_⟩
    have hpos := size_pos (r := r) (w := w)
    have hlast := ((hlower.covers (r.value + r.size w - 1)).mp ⟨r, hr, by unfold Covers; omega⟩).1.2
    have hfirst := ((hupper.covers s.value).mp ⟨s, hs, covers_value⟩).1.1
    omega
  · rw [hcovers, or_and_right, ← hlower.covers, ← hupper.covers]
    simp only [List.mem_append, or_and_right, exists_or]
  · have hbounds (a : ℕ) (ha : p.Covers w a) := (hin a ha).1
    have hpos := size_pos (r := p) (w := w)
    have hfirst := hbounds p.value covers_value
    have hlast := hbounds (p.value + p.size w - 1) (by unfold Covers; omega)
    by_cases hbelow : p.value + p.size w ≤ base.value + 2 ^ k
    · obtain ⟨r, hr, hsub⟩ := hlower.maximal p hp fun a ha ↦ ⟨⟨by
        rw [hvl]; exact (hbounds a ha).1, by rw [hl]; exact ha.2.trans_le hbelow⟩, (hin a ha).2⟩
      exact ⟨r, List.mem_append_left _ hr, hsub⟩
    by_cases habove : base.value + 2 ^ k ≤ p.value
    · obtain ⟨r, hr, hsub⟩ := hupper.maximal p hp fun a ha ↦ ⟨⟨hvu ▸ habove.trans ha.1, by
        rw [hu]; have := (hbounds a ha).2; omega⟩, (hin a ha).2⟩
      exact ⟨r, List.mem_append_right _ hr, hsub⟩
    -- A prefix across the middle is as long as the whole, which is not to be covered.
    exfalso
    rcases Nat.lt_or_ge base.length p.length with hlong | hshort
    · have hdvd : p.size w ∣ 2 ^ k := hl ▸ size_dvd hlong
      have hmid := (Nat.dvd_add_right ((hdvd.trans (Dvd.intro_left 2 hsize.symm)).trans
        hbase.no_host_bits)).mpr hdvd
      exact hbelow (add_le_of_dvd hp.no_host_bits hmid (not_le.mp habove))
    · obtain ⟨a, ha, hnot⟩ := hsplit
      have hle := Nat.le_of_dvd hpos (size_dvd hshort)
      refine hnot (hin a ?_).2
      unfold Covers at *
      omega

end Halves

theorem subtractInto_exact (hexcluded : ∀ e ∈ excluded, e.Valid w) (room : ℕ) {base}
    (hbase : base.Valid w) (hroom : base.length + room = w) :
    ∃ out, subtractInto excluded w room base = some out ∧
      Exact w (fun a ↦ base.Covers w a ∧ ∀ e ∈ excluded, ¬e.Covers w a) out := by
  unfold subtractInto
  split
  · next hcontains =>
    obtain ⟨e, he, hcontains⟩ := List.any_eq_true.mp hcontains
    have hempty (a : ℕ) : ¬(base.Covers w a ∧ ∀ e ∈ excluded, ¬e.Covers w a) :=
      fun ⟨ha, hnone⟩ ↦ hnone e he (covers_of_contains (hexcluded e he) hbase hcontains ha)
    exact ⟨[], rfl, nofun, .nil, fun a ↦ by simpa using hempty a,
      fun p _ hp ↦ absurd (hp _ covers_value) (hempty _)⟩
  next hcontains =>
  split
  · have hapart (a : ℕ) (ha : base.Covers w a) : ∀ e ∈ excluded, ¬e.Covers w a := by
      intro e he hea
      have := (overlaps_iff (hexcluded e he) hbase).mpr ⟨a, hea, ha⟩
      simp_all
    exact ⟨[base], rfl, by simpa using hbase, List.pairwise_singleton _ _, fun a ↦ by
      simpa using hapart a, fun p _ hp ↦ ⟨base, List.mem_singleton_self _, fun a ha ↦ (hp a ha).1⟩⟩
  next hsome =>
  simp only [Bool.not_eq_true, Bool.not_eq_false', List.any_eq_true] at hsome
  obtain ⟨e, he, hoverlap⟩ := hsome
  obtain ⟨a, hea, hba⟩ := (overlaps_iff (hexcluded e he) hbase).mp hoverlap
  match room, hroom with
  | 0, hroom =>
    -- A single address is overlapped only by what contains it.
    have hle : e.length ≤ base.length := (hexcluded e he).length_le.trans hroom.ge
    exact absurd (List.any_eq_true.mpr ⟨e, he, (contains_iff (hexcluded e he) hbase).mpr
      ⟨hle, covers_of_common (hexcluded e he) hbase hle hea hba⟩⟩) hcontains
  | room + 1, hroom =>
    obtain ⟨hvl, hvu⟩ := halves_valid hbase (by omega)
    obtain ⟨lower, hl, hlower⟩ := subtractInto_exact hexcluded room hvl (by simp only [halves]; omega)
    obtain ⟨upper, hu, hupper⟩ := subtractInto_exact hexcluded room hvu (by simp only [halves]; omega)
    refine ⟨lower ++ upper, by simp [hl, hu], ?_⟩
    exact .append hbase (by omega) hlower hupper ⟨a, hba, fun hnone ↦ hnone e he hea⟩

/-- No other prefixes for the same addresses are fewer. -/
theorem Exact.minimal {Target out} (h : Exact w Target out)
    {others : List Range} (hvalid : ∀ p ∈ others, p.Valid w)
    (hcovers : ∀ a, (∃ p ∈ others, p.Covers w a) ↔ Target a) : out.length ≤ others.length := by
  have hapart : out.Pairwise fun r s ↦ ∀ a, r.Covers w a → ¬s.Covers w a :=
    h.ascending.imp fun hrs a hr hs ↦ by
      unfold Covers at hr hs
      omega
  have hsame {r s : Range} (hr : r ∈ out) (hs : s ∈ out) {a : ℕ} (hra : r.Covers w a)
      (hsa : s.Covers w a) : r = s := by
    have : Std.Symm fun r s : Range ↦ ∀ a, r.Covers w a → ¬s.Covers w a :=
      ⟨fun _ _ hrs a hs hr ↦ hrs a hr hs⟩
    by_contra hne
    exact hapart.forall hr hs hne a hra hsa
  have hinside (r : Range) (hr : r ∈ out) :
      ∃ p ∈ others, ∀ a, p.Covers w a → r.Covers w a := by
    obtain ⟨p, hp, hpr⟩ := (hcovers r.value).mpr ((h.covers _).mp ⟨r, hr, covers_value⟩)
    obtain ⟨s, hs, hsub⟩ := h.maximal p (hvalid p hp) fun a ha ↦ (hcovers a).mp ⟨p, hp, ha⟩
    exact ⟨p, hp, hsame hr hs covers_value (hsub _ hpr) ▸ hsub⟩
  choose! f hf hsub using hinside
  have hnodup : out.Nodup := by
    refine hapart.imp fun hrs heq ↦ hrs _ covers_value ?_
    exact heq ▸ covers_value
  have hmap : (out.map f).Nodup := hnodup.map_on fun r hr s hs heq ↦
    hsame hr hs (hsub r hr _ covers_value) (heq ▸ hsub s hs _ covers_value)
  rw [← List.length_map f]
  refine (hmap.subperm fun p hp ↦ ?_).length_le
  obtain ⟨r, hr, rfl⟩ := List.mem_map.mp hp
  exact hf r hr

theorem new_valid {value length} (hw : w ≤ 128) (hvalue : value < 2 ^ 128)
    (h : Range.new value length w = .ok r) : r = ⟨value, length⟩ ∧ r.Valid w := by
  simp only [Range.new, ok_iff, not_or, not_and, not_lt, not_not] at h
  obtain ⟨_, ⟨hle, hfamily⟩, _, hhost, rfl⟩ := h
  refine ⟨rfl, hle, ?_, ?_⟩
  · rcases Nat.lt_or_ge w 128 with hlt | hge
    · have := hfamily hlt
      rwa [Nat.shiftRight_eq_div_pow, Nat.div_eq_zero_iff_lt (Nat.two_pow_pos w)] at this
    · exact (Nat.le_antisymm hw hge).symm ▸ hvalue
  · rcases Nat.eq_zero_or_pos (w - length) with hzero | hpos
    · simp [size, hzero]
    · have hmask : mask (w - length) = 2 ^ (w - length) - 1 := by
        unfold mask
        split
        · next hbits => rw [show w - length = 128 by omega]
        · rw [Nat.one_shiftLeft]
      have := hhost hpos
      rw [hmask, Nat.and_two_pow_sub_one_eq_mod] at this
      exact Nat.dvd_of_mod_eq_zero this

end Range

/-- An address is in one of the prefixes, given by value and length. -/
def Listed (width : ℕ) (prefixes : List (ℕ × ℕ)) (a : ℕ) : Prop :=
  ∃ p ∈ prefixes, Range.Covers width ⟨p.1, p.2⟩ a

theorem ranges_of_mapM {w} (hw : w ≤ 128) {prefixes : List (ℕ × ℕ)} {ranges : List Range}
    (hvalue : ∀ p ∈ prefixes, p.1 < 2 ^ 128)
    (h : (prefixes.mapM fun p ↦ Range.new p.1 p.2 w) = .ok ranges) :
    ranges = prefixes.map (fun p ↦ ⟨p.1, p.2⟩) ∧ ∀ r ∈ ranges, r.Valid w := by
  induction prefixes generalizing ranges with
  | nil =>
    cases h
    simp
  | cons p prefixes ih =>
    simp only [List.mapM_cons, ok_iff] at h
    obtain ⟨r, hr, rest, hrest, rfl⟩ := h
    rw [List.forall_mem_cons] at hvalue
    obtain ⟨hranges, hvalid⟩ := ih hvalue.2 hrest
    obtain ⟨heq, hr⟩ := Range.new_valid hw hvalue.1 hr
    exact ⟨by rw [List.map_cons, hranges, heq], List.forall_mem_cons.mpr ⟨hr, hvalid⟩⟩

theorem routed_iff {w} (hw : w ≤ 128) {address prefixLength dnsPeer : ℕ}
    {prefixes} {family} (hvalue : ∀ p ∈ prefixes, p.1 < 2 ^ 128)
    (h : familyPlan address prefixLength dnsPeer prefixes w = .ok family) (a : ℕ) (ha : a < 2 ^ w) :
    (∃ r ∈ family.routes, r.Covers w a) ↔ ¬Listed w prefixes a := by
  simp only [familyPlan, ok_iff] at h
  obtain ⟨excluded, hexcluded, routes, hroutes, rfl⟩ := h
  obtain ⟨rfl, hvalid⟩ := ranges_of_mapM hw hvalue hexcluded
  obtain ⟨out, hout, hexact⟩ := Range.subtractInto_exact hvalid w
    (show Range.defaultRoute.Valid w from ⟨Nat.zero_le _, Nat.two_pow_pos w, Nat.dvd_zero _⟩)
    (Nat.zero_add w)
  cases hroutes.symm.trans hout
  have hsame : routes.map (fun r ↦ (⟨r.value % 2 ^ w, r.length⟩ : Range)) = routes := by
    conv_rhs => rw [← List.map_id routes]
    exact List.map_congr_left fun r hr ↦ by
      rw [Nat.mod_eq_of_lt (hexact.valid r hr).value_lt, id]
  have hall : Range.defaultRoute.Covers w a :=
    ⟨Nat.zero_le _, by simpa [Range.defaultRoute, Range.size] using ha⟩
  rw [hsame, hexact.covers]
  simp only [hall, true_and, Listed, not_exists, not_and, List.forall_mem_map]

namespace TunnelNetworkOptions

variable (options : TunnelNetworkOptions)

theorem excludedIpv4_lt : ∀ p ∈ options.excludedIpv4, p.1 < 2 ^ 128 := by
  have hprivate : ∀ p ∈ privateIpv4, p.1 < 2 ^ 128 := by decide
  intro p hp
  rcases List.mem_append.mp hp with hp | hp
  · split at hp
    · exact hprivate p hp
    · cases hp
  · obtain ⟨host, -, rfl⟩ := List.mem_map.mp hp
    exact host.isLt.trans (by decide)

theorem excludedIpv6_lt : ∀ p ∈ options.excludedIpv6, p.1 < 2 ^ 128 := by
  unfold excludedIpv6
  split <;> decide

end TunnelNetworkOptions

def plainOptions : TunnelNetworkOptions := ⟨false, false, [], 1400⟩

end CfwRs.WindowsTunnel
