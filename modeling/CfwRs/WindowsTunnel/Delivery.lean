import CfwRs.Lib.Reassembly
import CfwRs.WindowsTunnel.Policy

namespace CfwRs.WindowsTunnel

open Lib Lib.Checked

/-- What the host reads of one packet: its addresses, its identification, its protocol, the offset
of a fragment, and the data after the headers. -/
structure Received (Address : Type) where
  source : Address
  destination : Address
  identification : Bytes
  protocol : UInt8
  fragment : Option ℕ
  data : Bytes

def receiveIpv4 (packet : Bytes) : Option (Received Ipv4Addr) :=
  if byteAt packet 0 >>> 4 = 4 then
    match octets 4 (slice packet 12 16), octets 4 (slice packet 16 20) with
    | .ok source, .ok destination => some {
        source, destination
        identification := slice packet 4 6
        protocol := byteAt packet 9
        fragment :=
          if wordAt packet 6 &&& 0x1fff = 0 ∧ wordAt packet 6 &&& 0x2000 = 0 then none
          else some ((wordAt packet 6 &&& 0x1fff).toNat * 8)
        data := packet.drop (ipv4HeaderLength packet) }
    | _, _ => none
  else none

def receiveIpv6 (packet : Bytes) : Option (Received Ipv6Addr) :=
  if byteAt packet 0 >>> 4 = 6 then
    match octets 16 (slice packet 8 24), octets 16 (slice packet 24 40) with
    | .ok source, .ok destination =>
      if byteAt packet 6 = ipv6Fragment then
        if 48 ≤ packet.length then some {
          source, destination
          identification := slice packet 44 48
          protocol := byteAt packet 40
          fragment := some ((wordAt packet 42 >>> 3).toNat * 8)
          data := packet.drop 48 }
        else none
      else some {
        source, destination
        identification := []
        protocol := byteAt packet 6
        fragment := none
        data := packet.drop 40 }
    | _, _ => none
  else none

structure Datagram (Address : Type) where
  source : Address
  destination : Address
  protocol : UInt8
  payload : Bytes
  fragmented : Bool

def Received.piece {Address : Type} (r : Received Address) : Piece := ⟨r.fragment.getD 0, r.data⟩

/-- The datagrams that a host can make of what it received: the unfragmented packets, and what
fragments with equal addresses and identifications reassemble to. For IPv4 the protocols must be
equal too; for IPv6 the first fragment has the protocol. -/
inductive Delivers {Address : Type} (equalProtocols : Bool) (received : List (Received Address)) :
    Datagram Address → Prop
  | whole {r} (hr : r ∈ received) (hwhole : r.fragment = none) :
    Delivers equalProtocols received ⟨r.source, r.destination, r.protocol, r.data, false⟩
  | reassembled {fragments : List (Received Address)} {first : Received Address} {payload : Bytes}
    (hreceived : ∀ r ∈ fragments, r ∈ received) (hfragments : ∀ r ∈ fragments, r.fragment.isSome)
    (hfirst : first ∈ fragments) (hoffset : first.fragment = some 0)
    (hequal : ∀ r ∈ fragments, r.source = first.source ∧ r.destination = first.destination ∧
      r.identification = first.identification ∧
      (equalProtocols = true → r.protocol = first.protocol))
    (hpayload : Reassembles (fragments.map Received.piece) payload) :
    Delivers equalProtocols received
      ⟨first.source, first.destination, first.protocol, payload, true⟩

section Family

variable {Address : Type} [DecidableEq Address] {own : Option Address} {remote : Address → Bool}
  {transports errors : List UInt8} {icmp echoReply : UInt8} {quotesOwn : Bool}
  {quotedSource : Bytes → ℕ → Option Address} {header : Header Address} {r : Received Address}

/-- A header tells what the host reads of the packet. -/
structure Describes (quotedSource : Bytes → ℕ → Option Address) (header : Header Address)
    (r : Received Address) : Prop where
  source : r.source = header.source
  destination : r.destination = header.destination
  transport : ∀ protocol ∈ header.transport, r.protocol = protocol
  whole : r.fragment = none → header.message = .whole r.data[0]?
  first : r.fragment = some 0 → header.message = .first r.data[0]?
  quoted : r.fragment = none → header.quoted = quotedSource r.data 8

/-- What a single packet satisfies when it is not refused. -/
structure Admissible (own : Option Address) (remote : Address → Bool) (transports : List UInt8)
    (icmp echoReply : UInt8) (errors : List UInt8) (quotedSource : Bytes → ℕ → Option Address)
    (r : Received Address) : Prop where
  destination : own = some r.destination
  source : own ≠ some r.source
  remote : remote r.source = true
  transport : r.protocol ∈ transports
  whole : r.protocol = icmp → r.fragment = none → r.data[0]? = some echoReply ∨
    (∃ kind ∈ errors, r.data[0]? = some kind) ∧ ∃ address, own = some address ∧
      quotedSource r.data 8 = some address
  first : r.protocol = icmp → r.fragment = some 0 → r.data[0]? = some echoReply

theorem icmpAdmitted_whole {kind}
    (h : icmpAdmitted (.whole kind) echoReply errors quotesOwn = true) :
    kind = some echoReply ∨ (∃ k ∈ errors, kind = some k) ∧ quotesOwn = true := by
  cases kind with
  | none => cases h
  | some k =>
    simp only [icmpAdmitted, Bool.or_eq_true, decide_eq_true_eq, Bool.and_eq_true] at h
    rcases h with rfl | ⟨hk, hquotes⟩
    · exact .inl rfl
    · exact .inr ⟨⟨k, hk, rfl⟩, hquotes⟩

theorem icmpAdmitted_first {kind}
    (h : icmpAdmitted (.first kind) echoReply errors quotesOwn = true) : kind = some echoReply := by
  cases kind with
  | none => cases h
  | some k =>
    simp only [icmpAdmitted, decide_eq_true_eq] at h
    rw [h]

theorem admissible_of_refusal_none (hdescribes : Describes quotedSource header r)
    (hquotes : quotesOwn = true → ∃ address, own = some address ∧ header.quoted = some address)
    (h : refusal own remote transports icmp echoReply errors quotesOwn header = none) :
    Admissible own remote transports icmp echoReply errors quotedSource r := by
  unfold refusal at h
  split at h
  · cases h
  next hdestination =>
  split at h
  · cases h
  next hsource =>
  split at h
  · cases h
  next hprotocol =>
  simp only [not_not] at hdestination
  simp only [not_or, Bool.not_eq_false, not_forall, not_not, not_and] at hsource hprotocol
  obtain ⟨⟨protocol, htransport, hmem⟩, hicmp⟩ := hprotocol
  have hsame : r.protocol = protocol := hdescribes.transport protocol htransport
  have hadmitted : r.protocol = icmp →
      icmpAdmitted header.message echoReply errors quotesOwn = true := by
    intro heq
    exact hicmp (heq ▸ hsame ▸ htransport)
  refine ⟨?_, ?_, ?_, hsame ▸ hmem, fun heq hwhole ↦ ?_, fun heq hfirst ↦ ?_⟩
  · rw [hdescribes.destination, hdestination]
  · rw [hdescribes.source]
    exact hsource.2
  · rw [hdescribes.source]
    exact hsource.1
  · have hkind := hadmitted heq
    rw [hdescribes.whole hwhole] at hkind
    rcases icmpAdmitted_whole hkind with hecho | ⟨herror, hown⟩
    · exact .inl hecho
    · obtain ⟨address, haddress, hquoted⟩ := hquotes hown
      exact .inr ⟨herror, address, haddress, hdescribes.quoted hwhole ▸ hquoted⟩
  · have hkind := hadmitted heq
    rw [hdescribes.first hfirst] at hkind
    exact icmpAdmitted_first hkind

structure Permitted (own : Option Address) (excluded : Address → Bool) (icmp echoReply : UInt8)
    (errors : List UInt8) (quotedSource : Bytes → ℕ → Option Address) (d : Datagram Address) :
    Prop where
  destination : own = some d.destination
  source : own ≠ some d.source
  notExcluded : excluded d.source = false
  protocol : d.protocol = 6 ∨ d.protocol = 17 ∨ d.protocol = icmp ∧
    (d.payload[0]? = some echoReply ∨
      d.fragmented = false ∧ (∃ kind ∈ errors, d.payload[0]? = some kind) ∧
        ∃ address, own = some address ∧ quotedSource d.payload 8 = some address)

omit [DecidableEq Address] in
theorem payload_zero {fragments : List (Received Address)} {first : Received Address}
    {payload : Bytes} (hfirst : first ∈ fragments) (hoffset : first.fragment = some 0)
    (hpayload : Reassembles (fragments.map Received.piece) payload) {kind : UInt8}
    (hkind : first.data[0]? = some kind) : payload[0]? = some kind := by
  have hpiece : first.piece = ⟨0, first.data⟩ := by rw [Received.piece, hoffset, Option.getD_some]
  have hcovers : first.piece.Covers 0 := by
    rw [hpiece]
    exact ⟨Nat.le_refl _, by simpa using (List.getElem?_eq_some_iff.mp hkind).1⟩
  rw [hpayload.getElem?_eq (List.mem_map_of_mem hfirst) hcovers, hpiece]
  exact hkind

omit [DecidableEq Address] in
theorem Delivers.permitted {equalProtocols : Bool} {received}
    {excluded} (htransports : ∀ p ∈ transports, p = 6 ∨ p = 17 ∨ p = icmp)
    (hexcluded : ∀ address, remote address = true → excluded address = false)
    (hadmissible : ∀ r ∈ received,
      Admissible own remote transports icmp echoReply errors quotedSource r)
    {d} (hd : Delivers equalProtocols received d) :
    Permitted own excluded icmp echoReply errors quotedSource d := by
  cases hd with
  | @whole r hr hwhole =>
    have ha := hadmissible r hr
    refine ⟨ha.destination, ha.source, hexcluded _ ha.remote, ?_⟩
    rcases htransports _ ha.transport with h | h | h
    · exact .inl h
    · exact .inr (.inl h)
    · refine .inr (.inr ⟨h, ?_⟩)
      rcases ha.whole h hwhole with hecho | ⟨herror, hquoted⟩
      · exact .inl hecho
      · exact .inr ⟨rfl, herror, hquoted⟩
  | @reassembled fragments first payload hreceived _ hfirst hoffset _ hpayload =>
    have ha := hadmissible first (hreceived first hfirst)
    refine ⟨ha.destination, ha.source, hexcluded _ ha.remote, ?_⟩
    rcases htransports _ ha.transport with h | h | h
    · exact .inl h
    · exact .inr (.inl h)
    · exact .inr (.inr ⟨h, .inl (payload_zero hfirst hoffset hpayload (ha.first h hoffset))⟩)

end Family

section Ipv4

def Ipv4Addr.excluded (address : Ipv4Addr) : Bool :=
  address.isLoopback || address.isLinkLocal || address.isMulticast || address.isBroadcast ||
    address.isUnspecified

theorem not_excluded_of_remoteIpv4 {address} (h : remoteIpv4 address = true) :
    address.excluded = false := by
  simp only [remoteIpv4, Bool.not_eq_true', Bool.or_eq_false_iff, decide_eq_false_iff_not] at h
  obtain ⟨⟨⟨⟨hzero, hloopback⟩, hlink⟩, hmulticast⟩, hbroadcast⟩ := h
  have hunspecified : address.isUnspecified = false := by
    rw [Ipv4Addr.isUnspecified, decide_eq_false_iff_not]
    rintro rfl
    exact hzero rfl
  simp [Ipv4Addr.excluded, hloopback, hlink, hmulticast, hbroadcast, hunspecified]

theorem slice_drop (packet : Bytes) (n start length : ℕ) :
    slice packet (n + start) (n + start + length) = slice (packet.drop n) start (start + length) := by
  simp [slice]

theorem quotedIpv4Source_drop (packet : Bytes) (n : ℕ) :
    quotedIpv4Source packet (n + 8) = quotedIpv4Source (packet.drop n) 8 := by
  unfold quotedIpv4Source
  rw [slice_drop]

theorem eq_zero_of_offset {w : UInt16} (h : some (w.toNat * 8) = some 0) : w = 0 := by
  have hzero : w.toNat = (0 : UInt16).toNat := by
    have := Option.some.inj h
    rw [UInt16.toNat_zero]
    omega
  exact UInt16.toNat_inj.mp hzero

theorem describes_ipv4 {packet header r}
    (hvalid : validateIpv4 packet = .ok header) (hr : receiveIpv4 packet = some r) :
    Describes quotedIpv4Source header r := by
  simp only [validateIpv4, ok_iff] at hvalid
  obtain ⟨-, -, source, hsource, destination, hdestination, rfl⟩ := hvalid
  rw [receiveIpv4, hsource, hdestination] at hr
  split at hr
  · cases hr
    refine ⟨rfl, rfl, fun protocol hprotocol ↦ ?_, fun hwhole ↦ ?_, fun hfirst ↦ ?_, fun _ ↦ ?_⟩
    · split at hprotocol
      · exact Option.mem_some_iff.mp hprotocol
      · cases hprotocol
    · split at hwhole
      · next hflags => simp [ipv4Message, hflags]
      · cases hwhole
    · split at hfirst
      · cases hfirst
      · next hflags =>
        have hoffset := eq_zero_of_offset hfirst
        have hmore : ¬(wordAt packet 6 &&& 0x2000 = 0) := fun h ↦ hflags ⟨hoffset, h⟩
        simp [ipv4Message, hoffset, hmore]
    · exact quotedIpv4Source_drop packet _
  · cases hr

end Ipv4

section Ipv6

def Ipv6Addr.excluded (address : Ipv6Addr) : Bool :=
  address.isLoopback || address.isUnicastLinkLocal || address.isMulticast ||
    address.isUnspecified || address.isIpv4Mapped

theorem not_excluded_of_remoteIpv6 {address} (h : remoteIpv6 address = true) :
    address.excluded = false := by
  simp only [remoteIpv6, Bool.not_eq_true', Bool.or_eq_false_iff] at h
  obtain ⟨⟨hipv4, hlink⟩, hmulticast⟩ := h
  have hloopback : address.isLoopback = false := by
    rw [Ipv6Addr.isLoopback, decide_eq_false_iff_not]
    intro hbytes
    simp [Ipv6Addr.hasIpv4, Ipv6Addr.octet, byteAt, hbytes] at hipv4
  have hunspecified : address.isUnspecified = false := by
    rw [Ipv6Addr.isUnspecified, decide_eq_false_iff_not]
    rintro rfl
    exact absurd hipv4 (by decide)
  have hmapped : address.isIpv4Mapped = false := by
    rw [Ipv6Addr.isIpv4Mapped, decide_eq_false_iff_not]
    intro hbytes
    have htake : address.bytes.take 10 = List.replicate 10 0 := by
      have := congrArg (List.take 10) hbytes
      rwa [List.take_take] at this
    have hten : address.bytes[10]? = some 255 := by
      have := congrArg (·[10]?) hbytes
      rwa [List.getElem?_take_of_lt (by decide)] at this
    have heleven : address.bytes[11]? = some 255 := by
      have := congrArg (·[11]?) hbytes
      rwa [List.getElem?_take_of_lt (by decide)] at this
    simp [Ipv6Addr.hasIpv4, Ipv6Addr.octet, byteAt, htake, hten, heleven] at hipv4
  simp [Ipv6Addr.excluded, hloopback, hlink, hmulticast, hunspecified, hmapped]

theorem quotedIpv6Source_drop (packet : Bytes) (n : ℕ) :
    quotedIpv6Source packet (n + 8) = quotedIpv6Source (packet.drop n) 8 := by
  unfold quotedIpv6Source
  rw [slice_drop]

theorem describes_ipv6 {packet header r}
    (hvalid : validateIpv6 packet = .ok header) (hr : receiveIpv6 packet = some r) :
    Describes quotedIpv6Source header r := by
  simp only [validateIpv6, ok_iff] at hvalid
  obtain ⟨-, -, source, hsource, destination, hdestination, rfl⟩ := hvalid
  rw [receiveIpv6, hsource, hdestination] at hr
  split at hr
  · simp only at hr
    split at hr
    · next hnext =>
      split at hr
      · next hlength =>
        cases hr
        have htransport : ipv6Transport packet = (some (byteAt packet 40),
            if wordAt packet 42 >>> 3 ≠ 0 then .continuation else .first packet[48]?, 48) := by
          rw [ipv6Transport, if_pos hnext, if_pos hlength]
        simp only [htransport]
        refine ⟨rfl, rfl, fun protocol hprotocol ↦ ?_, fun hwhole ↦ ?_, fun hfirst ↦ ?_, fun _ ↦ ?_⟩
        · exact Option.mem_some_iff.mp hprotocol
        · cases hwhole
        · simp [eq_zero_of_offset hfirst]
        · exact quotedIpv6Source_drop packet _
      · cases hr
    · next hnext =>
      cases hr
      have htransport : ipv6Transport packet =
          (some (byteAt packet 6), .whole packet[40]?, 40) := by
        rw [ipv6Transport, if_neg hnext]
      simp only [htransport]
      refine ⟨rfl, rfl, fun protocol hprotocol ↦ ?_, fun hwhole ↦ ?_, fun hfirst ↦ ?_, fun _ ↦ ?_⟩
      · exact Option.mem_some_iff.mp hprotocol
      · simp
      · cases hfirst
      · exact quotedIpv6Source_drop packet _
  · cases hr

end Ipv6

theorem validate_cases {packet mtu header} (h : validate packet mtu = .ok header) :
    (byteAt packet 0 >>> 4 = 4 ∧ ∃ v4, validateIpv4 packet = .ok v4 ∧ header = .v4 v4) ∨
      (byteAt packet 0 >>> 4 = 6 ∧ ∃ v6, validateIpv6 packet = .ok v6 ∧ header = .v6 v6) := by
  simp only [validate, bind_eq_ok] at h
  obtain ⟨-, -, -, -, h⟩ := h
  split at h
  · next hversion =>
    simp only [ok_iff] at h
    obtain ⟨v4, hv4, rfl⟩ := h
    exact .inl ⟨hversion.1, v4, hv4, rfl⟩
  · split at h
    · next hversion =>
      simp only [ok_iff] at h
      obtain ⟨v6, hv6, rfl⟩ := h
      exact .inr ⟨hversion.1, v6, hv6, rfl⟩
    · cases h

namespace DeliveryPolicy

variable (policy : DeliveryPolicy)

def PermittedIpv4 (d : Datagram Ipv4Addr) : Prop :=
  Permitted (some policy.ipv4) Ipv4Addr.excluded icmpv4 icmpv4EchoReply icmpv4Errors
    quotedIpv4Source d

def PermittedIpv6 (d : Datagram Ipv6Addr) : Prop :=
  Permitted policy.ipv6 Ipv6Addr.excluded icmpv6 icmpv6EchoReply icmpv6Errors quotedIpv6Source d

def Passes (mtu : UInt16) (packet : Bytes) : Prop :=
  ∃ header, validate packet mtu = .ok header ∧ policy.admits header = .ok ()

variable {policy} {mtu : UInt16} {packet : Bytes}

theorem Passes.ipv4 (h : policy.Passes mtu packet) {r}
    (hr : receiveIpv4 packet = some r) : Admissible (some policy.ipv4) remoteIpv4 ipv4Transports
      icmpv4 icmpv4EchoReply icmpv4Errors quotedIpv4Source r := by
  obtain ⟨header, hvalid, hadmits⟩ := h
  have hversion : byteAt packet 0 >>> 4 = 4 := by
    by_contra hne
    rw [receiveIpv4, if_neg hne] at hr
    cases hr
  rcases validate_cases hvalid with ⟨-, v4, hv4, rfl⟩ | ⟨hother, -⟩
  · simp only [admits] at hadmits
    split at hadmits
    · next hnone =>
      refine admissible_of_refusal_none (describes_ipv4 hv4 hr) (fun hquotes ↦ ?_) hnone
      exact ⟨policy.ipv4, rfl, of_decide_eq_true hquotes⟩
    · cases hadmits
  · rw [hversion] at hother
    exact absurd hother (by decide)

theorem Passes.ipv6 (h : policy.Passes mtu packet) {r}
    (hr : receiveIpv6 packet = some r) : Admissible policy.ipv6 remoteIpv6 ipv6Transports
      icmpv6 icmpv6EchoReply icmpv6Errors quotedIpv6Source r := by
  obtain ⟨header, hvalid, hadmits⟩ := h
  have hversion : byteAt packet 0 >>> 4 = 6 := by
    by_contra hne
    rw [receiveIpv6, if_neg hne] at hr
    cases hr
  rcases validate_cases hvalid with ⟨hother, -⟩ | ⟨-, v6, hv6, rfl⟩
  · rw [hversion] at hother
    exact absurd hother (by decide)
  · simp only [admits] at hadmits
    split at hadmits
    · next hnone =>
      refine admissible_of_refusal_none (describes_ipv6 hv6 hr) (fun hquotes ↦ ?_) hnone
      simp only [Bool.and_eq_true, decide_eq_true_eq] at hquotes
      obtain ⟨address, haddress⟩ := Option.isSome_iff_exists.mp hquotes.1
      exact ⟨address, hquotes.2 ▸ haddress, haddress⟩
    · cases hadmits

/-- Whatever the host can make of packets that pass, whole or from fragments, is addressed to the
adapter, comes from an address that a remote peer can have, and is TCP, UDP, an echo reply, or an
unfragmented error report about a packet of the adapter. -/
theorem delivered_permitted (policy : DeliveryPolicy) (mtu : UInt16) (packets : List Bytes)
    (hpasses : ∀ packet ∈ packets, policy.Passes mtu packet) :
    (∀ d, Delivers true (packets.filterMap receiveIpv4) d → policy.PermittedIpv4 d) ∧
      ∀ d, Delivers false (packets.filterMap receiveIpv6) d → policy.PermittedIpv6 d := by
  have htransports4 : ∀ p ∈ ipv4Transports, p = 6 ∨ p = 17 ∨ p = icmpv4 := by
    simp [ipv4Transports]
  have htransports6 : ∀ p ∈ ipv6Transports, p = 6 ∨ p = 17 ∨ p = icmpv6 := by
    simp [ipv6Transports]
  constructor
  · intro d hd
    refine hd.permitted htransports4 (fun _ ↦ not_excluded_of_remoteIpv4) fun r hr ↦ ?_
    obtain ⟨packet, hpacket, hreceive⟩ := List.mem_filterMap.mp hr
    exact (hpasses packet hpacket).ipv4 hreceive
  · intro d hd
    refine hd.permitted htransports6 (fun _ ↦ not_excluded_of_remoteIpv6) fun r hr ↦ ?_
    obtain ⟨packet, hpacket, hreceive⟩ := List.mem_filterMap.mp hr
    exact (hpasses packet hpacket).ipv6 hreceive

end DeliveryPolicy

section Sample

def sampleFragment (flags offset : UInt8) (data : Bytes) : Bytes :=
  [0x45, 0, 0, 20 + data.length.toUInt8, 0, 9, flags, offset, 64, 1, 0, 0, 203, 0, 113, 7,
    198, 18, 64, 1] ++ data

def samplePackets : List Bytes :=
  [sampleFragment 0x20 0 [0, 0, 1, 2, 3, 4, 5, 6], sampleFragment 0 1 [7, 8]]

def sampleReceived (offset : ℕ) (data : Bytes) : Received Ipv4Addr :=
  ⟨samplePeer, sampleAddress, [0, 9], 1, some offset, data⟩

theorem receive_samplePackets : samplePackets.filterMap receiveIpv4 =
    [sampleReceived 0 [0, 0, 1, 2, 3, 4, 5, 6], sampleReceived 8 [7, 8]] := rfl

theorem sample_reassembles : Reassembles
    ([sampleReceived 0 [0, 0, 1, 2, 3, 4, 5, 6], sampleReceived 8 [7, 8]].map Received.piece)
    [0, 0, 1, 2, 3, 4, 5, 6, 7, 8] where
  apart := by decide
  within := by decide
  covered := by decide

theorem sample_reply_permitted :
    ∃ d, Delivers true (samplePackets.filterMap receiveIpv4) d ∧ d.payload.length = 10 ∧
      samplePolicy.PermittedIpv4 d := by
  have hpasses : ∀ packet ∈ samplePackets, samplePolicy.Passes 1500 packet := by
    simp only [samplePackets, List.forall_mem_cons, List.not_mem_nil, false_imp_iff, implies_true,
      and_true]
    exact ⟨⟨_, rfl, rfl⟩, ⟨_, rfl, rfl⟩⟩
  have hdelivers : Delivers true (samplePackets.filterMap receiveIpv4) ⟨⟨[203, 0, 113, 7], rfl⟩,
      ⟨[198, 18, 64, 1], rfl⟩, 1, [0, 0, 1, 2, 3, 4, 5, 6, 7, 8], true⟩ := by
    rw [receive_samplePackets]
    exact .reassembled (fun _ h ↦ h) (by decide) List.mem_cons_self rfl
      (by simp [sampleReceived]) sample_reassembles
  exact ⟨_, hdelivers, rfl,
    (DeliveryPolicy.delivered_permitted samplePolicy 1500 samplePackets hpasses).1 _ hdelivers⟩

end Sample

end CfwRs.WindowsTunnel
