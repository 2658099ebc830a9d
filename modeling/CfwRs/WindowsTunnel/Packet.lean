import CfwRs.Lib.Bytes
import CfwRs.Lib.Checked

namespace CfwRs.WindowsTunnel

open Lib Lib.Checked

abbrev Ipv4Addr := FixedBytes 4

abbrev Ipv6Addr := FixedBytes 16

inductive TunnelError
  | message (text : String)
  | packet
deriving DecidableEq

/-- Which part of its transport message a packet carries. The first byte of the message is absent
when the packet ends before it. -/
inductive Message
  | whole (kind : Option UInt8)
  | first (kind : Option UInt8)
  | continuation
deriving DecidableEq

/-- The facts of one packet at fixed places, for the addresses of one family. -/
structure Header (Address : Type) where
  source : Address
  destination : Address
  transport : Option UInt8
  message : Message
  quoted : Option Address
deriving DecidableEq

inductive IpHeader
  | v4 (header : Header Ipv4Addr)
  | v6 (header : Header Ipv6Addr)
deriving DecidableEq

def ipv6Fragment : UInt8 := 44

variable (packet : Bytes)

def byteAt (i : ℕ) : UInt8 := packet.getD i 0

def wordAt (i : ℕ) : UInt16 :=
  (byteAt packet i).toUInt16 <<< 8 ||| (byteAt packet (i + 1)).toUInt16

def octets (n : ℕ) (bytes : Bytes) : Except TunnelError (FixedBytes n) :=
  if h : bytes.length = n then .ok ⟨bytes, h⟩ else .error .packet

def slice (start stop : ℕ) : Bytes := (packet.drop start).take (stop - start)

def validateMtu (mtu : UInt16) : Except TunnelError Unit :=
  require (1280 ≤ mtu ∧ mtu ≤ 9000) (.message "MTU is outside 1280..=9000")

def quotedIpv4Source (start : ℕ) : Option Ipv4Addr :=
  let quoted := slice packet start (start + 20)
  if quoted.length = 20 ∧ byteAt quoted 0 >>> 4 = 4 then (octets 4 (slice quoted 12 16)).toOption
  else none

def quotedIpv6Source (start : ℕ) : Option Ipv6Addr :=
  let quoted := slice packet start (start + 40)
  if quoted.length = 40 ∧ byteAt quoted 0 >>> 4 = 6 then (octets 16 (slice quoted 8 24)).toOption
  else none

def ipv4HeaderLength : ℕ := (byteAt packet 0 &&& 0x0f).toNat * 4

def ipv4Message : Message :=
  -- reserved, DF and MF bits, then a 13-bit offset
  let fragment := wordAt packet 6
  let firstByte := packet[ipv4HeaderLength packet]?
  if fragment &&& 0x1fff ≠ 0 then .continuation
  else if fragment &&& 0x2000 ≠ 0 then .first firstByte
  else .whole firstByte

def validateIpv4 : Except TunnelError (Header Ipv4Addr) := do
  let header := ipv4HeaderLength packet
  reject (header < 20 ∨ packet.length < header ∨ (wordAt packet 2).toNat ≠ packet.length) .packet
  let source ← octets 4 (slice packet 12 16)
  let destination ← octets 4 (slice packet 16 20)
  return {
    source
    destination
    -- with options there is no transport to report
    transport := if header = 20 then some (byteAt packet 9) else none
    message := ipv4Message packet
    quoted := quotedIpv4Source packet (header + 8) }

/-- The transport, the part of its message, and where the message begins. Every fragment header
makes the packet a fragment, also with offset 0. -/
def ipv6Transport : Option UInt8 × Message × ℕ :=
  if byteAt packet 6 = ipv6Fragment then
    if 48 ≤ packet.length then
      (some (byteAt packet 40),
        if wordAt packet 42 >>> 3 ≠ 0 then .continuation else .first packet[48]?, 48)
    else (none, .first none, 48)
  else (some (byteAt packet 6), .whole packet[40]?, 40)

def validateIpv6 : Except TunnelError (Header Ipv6Addr) := do
  reject ((wordAt packet 4).toNat + 40 ≠ packet.length) .packet
  let source ← octets 16 (slice packet 8 24)
  let destination ← octets 16 (slice packet 24 40)
  let (transport, message, start) := ipv6Transport packet
  return { source, destination, transport, message,
           quoted := quotedIpv6Source packet (start + 8) }

def validate (mtu : UInt16) : Except TunnelError IpHeader := do
  validateMtu mtu
  reject (packet.length = 0 ∨ mtu.toNat < packet.length) .packet
  if byteAt packet 0 >>> 4 = 4 ∧ 20 ≤ packet.length then
    let header ← validateIpv4 packet
    return .v4 header
  else if byteAt packet 0 >>> 4 = 6 ∧ 40 ≤ packet.length then
    let header ← validateIpv6 packet
    return .v6 header
  else .error .packet

end CfwRs.WindowsTunnel
