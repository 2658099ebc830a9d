import CfwRs.Lib.Checked
import CfwRs.Lib.Text

namespace CfwRs.SingBox

open Lib Lib.Checked

namespace Capacity

def maxProxyNodes : ℕ := 1024

def maxProfileBytes : ℕ := 2 * 1024 * 1024

def maxCredentialSlots : ℕ := 2 * maxProxyNodes

def maxCredentialVaultBindings : ℕ := 8192

end Capacity

structure CredentialAudience where
  profileId : String
  profileDigest : String
  canonical : isCanonicalUuid profileId = true ∧ isLowercaseSha256 profileDigest = true
deriving DecidableEq

inductive InvalidCredentialAudience
  | mk

def CredentialAudience.new (profileId profileDigest : String) :
    Except InvalidCredentialAudience CredentialAudience :=
  if h : isCanonicalUuid profileId = true ∧ isLowercaseSha256 profileDigest = true then
    .ok ⟨profileId, profileDigest, h⟩
  else .error .mk

inductive CredentialKind
  | wireGuardPrivateKey | wireGuardPreSharedKey | socks5Username | socks5Password
  | httpProxyUsername | httpProxyPassword | shadowsocksPassword | vmessUuid | vlessUuid
  | trojanPassword | hysteria2Password | hysteria2ObfsPassword | anyTlsPassword | tuicUuid
  | tuicPassword | tailscaleAuthKey
deriving DecidableEq, Repr

/-- A reference to a credential that is stored outside of the profile files. -/
structure CredentialRef where
  id : String
  kind : CredentialKind
  canonical : isCanonicalUuid id = true
deriving DecidableEq

theorem CredentialRef.eq_of_id_kind {r r' : CredentialRef} (hid : r.id = r'.id)
    (hkind : r.kind = r'.kind) : r = r' := by
  cases r
  cases r'
  cases hid
  cases hkind
  rfl

/-- The permission of one profile to use one credential. -/
structure CredentialBinding where
  audience : CredentialAudience
  reference : CredentialRef
deriving DecidableEq

inductive CredentialTarget
  | wireGuardPrivateKey | wireGuardPreSharedKey | socks5Username | socks5Password
  | httpProxyUsername | httpProxyPassword | shadowsocksPassword | vmessUuid | vlessUuid
  | trojanPassword | hysteria2Password | hysteria2ObfsPassword | anyTlsPassword | tuicUuid
  | tuicPassword | tailscaleAuthKey
deriving DecidableEq, Repr

namespace CredentialTarget

end CredentialTarget

inductive CredentialSlotError
  | kindMismatch | outboundIndexOutOfRange | pointerMismatch | tooManySlots | duplicatePointer
  | conflictingReferenceKind | nonEmptyPlaceholder
deriving DecidableEq, Repr

/-- An instruction to put a credential into a projected configuration. The JSON pointer is kept as
its steps. -/
structure CredentialSlot where
  reference : CredentialRef
  target : CredentialTarget
  outboundIndex : ℕ
  jsonPointer : List String
deriving DecidableEq

namespace CredentialSlot

end CredentialSlot

end CfwRs.SingBox
