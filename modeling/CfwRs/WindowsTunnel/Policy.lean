import CfwRs.WindowsTunnel.Packet

namespace CfwRs.WindowsTunnel

open Lib Lib.Checked

def icmpv4 : UInt8 := 1

def icmpv6 : UInt8 := 58

def ipv4Transports : List UInt8 := [icmpv4, 6, 17]

def ipv6Transports : List UInt8 := [6, 17, icmpv6]

def icmpv4EchoReply : UInt8 := 0

def icmpv4Errors : List UInt8 := [3, 11, 12]

def icmpv6EchoReply : UInt8 := 129

def icmpv6Errors : List UInt8 := [1, 2, 3, 4]

namespace Ipv4Addr

variable (address : Ipv4Addr)

def octet (i : ℕ) : UInt8 := byteAt address.bytes i

def isLoopback : Bool := octet address 0 = 127

def isLinkLocal : Bool := octet address 0 = 169 && octet address 1 = 254

def isMulticast : Bool := 224 ≤ octet address 0 && octet address 0 ≤ 239

def isBroadcast : Bool := address = .fill 4 255

def isUnspecified : Bool := address = .fill 4 0

end Ipv4Addr

namespace Ipv6Addr

variable (address : Ipv6Addr)

def octet (i : ℕ) : UInt8 := byteAt address.bytes i

def hasIpv4 : Bool :=
  address.bytes.take 10 = List.replicate 10 0 &&
    ((octet address 10 = 0 && octet address 11 = 0) ||
      (octet address 10 = 255 && octet address 11 = 255))

def isUnicastLinkLocal : Bool :=
  wordAt address.bytes 0 &&& 0xffc0 = 0xfe80

def isMulticast : Bool := octet address 0 = 255

def isLoopback : Bool := address.bytes = List.replicate 15 0 ++ [1]

def isUnspecified : Bool := address = .fill 16 0

def isIpv4Mapped : Bool :=
  address.bytes.take 12 = List.replicate 10 0 ++ [255, 255]

end Ipv6Addr

/-- A unicast address outside this network, loopback, link-local, multicast and limited
broadcast. -/
def remoteIpv4 (address : Ipv4Addr) : Bool :=
  !(address.octet 0 = 0 || address.isLoopback || address.isLinkLocal || address.isMulticast ||
    address.isBroadcast)

/-- A unicast address outside link-local and multicast that holds no IPv4 address. -/
def remoteIpv6 (address : Ipv6Addr) : Bool :=
  !(address.hasIpv4 || address.isUnicastLinkLocal || address.isMulticast)

/-- The addresses of the adapter, which a remote peer could hold. -/
structure DeliveryPolicy where
  ipv4 : Ipv4Addr
  ipv6 : Option Ipv6Addr
  remote : remoteIpv4 ipv4 = true ∧ ∀ address ∈ ipv6, remoteIpv6 address = true

def DeliveryPolicy.new (display4 : Ipv4Addr → String) (display6 : Ipv6Addr → String)
    (ipv4 : Ipv4Addr) (ipv6 : Option Ipv6Addr) : Except TunnelError DeliveryPolicy :=
  if h4 : remoteIpv4 ipv4 = true then
    match ipv6 with
    | none => .ok ⟨ipv4, none, h4, nofun⟩
    | some address =>
      if h6 : remoteIpv6 address = true then
        .ok ⟨ipv4, some address, h4, fun _ h ↦ Option.mem_some_iff.mp h ▸ h6⟩
      else .error (.message (display6 address ++ " cannot be the adapter's own IPv6 address"))
  else .error (.message (display4 ipv4 ++ " cannot be the adapter's own IPv4 address"))

inductive RefusalReason
  | destination
  | source
  | protocol
deriving DecidableEq

inductive IpAddr
  | v4 (address : Ipv4Addr)
  | v6 (address : Ipv6Addr)
deriving DecidableEq

structure Refusal where
  reason : RefusalReason
  source : IpAddr
  destination : IpAddr
deriving DecidableEq

/-- What is admitted of an ICMP message. A later fragment has no type to check. -/
def icmpAdmitted (message : Message) (echoReply : UInt8) (errors : List UInt8)
    (quotesOwn : Bool) : Bool :=
  match message with
  | .whole (some kind) => kind = echoReply || (kind ∈ errors && quotesOwn)
  | .first (some kind) => kind = echoReply
  | .continuation => true
  | .whole none | .first none => false

def refusal {Address : Type} [DecidableEq Address] (own : Option Address)
    (remote : Address → Bool) (transports : List UInt8) (icmp echoReply : UInt8)
    (errors : List UInt8) (quotesOwn : Bool) (header : Header Address) : Option RefusalReason :=
  if own ≠ some header.destination then some .destination
  else if remote header.source = false ∨ own = some header.source then some .source
  else if (∀ protocol ∈ header.transport, protocol ∉ transports) ∨
      (header.transport = some icmp ∧
        icmpAdmitted header.message echoReply errors quotesOwn = false) then some .protocol
  else none

namespace DeliveryPolicy

variable (policy : DeliveryPolicy)

def refusalIpv4 (header : Header Ipv4Addr) : Option RefusalReason :=
  refusal (some policy.ipv4) remoteIpv4 ipv4Transports icmpv4 icmpv4EchoReply icmpv4Errors
    (header.quoted = some policy.ipv4) header

def refusalIpv6 (header : Header Ipv6Addr) : Option RefusalReason :=
  refusal policy.ipv6 remoteIpv6 ipv6Transports icmpv6 icmpv6EchoReply icmpv6Errors
    (header.quoted.isSome && header.quoted = policy.ipv6) header

def admits : IpHeader → Except Refusal Unit
  | .v4 header =>
    match policy.refusalIpv4 header with
    | none => .ok ()
    | some reason => .error ⟨reason, .v4 header.source, .v4 header.destination⟩
  | .v6 header =>
    match policy.refusalIpv6 header with
    | none => .ok ()
    | some reason => .error ⟨reason, .v6 header.source, .v6 header.destination⟩

end DeliveryPolicy

section Sample

def sampleAddress : Ipv4Addr := ⟨[198, 18, 64, 1], rfl⟩

def samplePeer : Ipv4Addr := ⟨[203, 0, 113, 7], rfl⟩

def samplePolicy : DeliveryPolicy := ⟨sampleAddress, none, by decide, nofun⟩

end Sample

end CfwRs.WindowsTunnel
