import CfwRs.Lib.JsonValue
import CfwRs.SingBox.Credentials

namespace CfwRs.SingBox

open Lib Lib.Checked

inductive ConfigError
  | tooLarge (actual maximum : ℕ)
  | projectedTooLarge (actual maximum : ℕ)
  | invalidJson (reason : String)
  | rootMustBeObject
  | unsupportedTopLevelKey (key : String)
  | forbiddenKey (path key : String)
  | remoteResource (path : String)
  | credentialRequiresKeychain (path key : String)
  | credentialKindMismatch (path : String) (expected actual : CredentialKind)
  | conflictingCredentialReference (id : String)
  | invalidCredentialSlot (error : CredentialSlotError)
  | invalidCredentialAudience (error : InvalidCredentialAudience)
  | unsupportedPolicyShape (path reason : String)
  | tooComplex (maximum : ℕ)
  | invalidMixedPort
  | invalidControllerPort (port : UInt16)
  | invalidTunnelMtu (mtu : UInt16)
  | invalidBootstrapDnsServers (reason : String)
  | invalidAuthenticatedDnsServers (reason : String)
  | invalidReleaseDnsEvidenceMode
  | invalidReleasePacketEvidenceMode

inductive IpAddr
  | v4 (address : BitVec 32)
  | v6 (address : BitVec 128)
deriving DecidableEq

structure AuthenticatedDnsServer where
  address : IpAddr
  serverName : String
deriving DecidableEq

inductive EngineLogLevel
  | trace | debug | info | warn | error | fatal | silent
deriving DecidableEq

structure LanProxySettings where
  listen : BitVec 32
  port : UInt16
  allowedSourceCidrs : List String
deriving DecidableEq

structure EngineSettings where
  mixedPort : UInt16
  controllerPort : UInt16
  enableIpv6 : Bool
  ipv6DnsEnabled : Option Bool
  bypassPrivateNetworks : Bool
  tunnelMtu : UInt16
  logLevel : EngineLogLevel
  lanProxy : Option LanProxySettings
  bootstrapDnsServers : IpAddr × IpAddr
  authenticatedDnsServers : AuthenticatedDnsServer × AuthenticatedDnsServer
  mainlandChinaDirect : Bool
  dnsLeakProtection : Bool
deriving DecidableEq

def defaultMixedPort : UInt16 := 7890

def defaultClashApiPort : UInt16 := 9090

def minClashApiPort : UInt16 := 1024

def ipv4 (a b c d : UInt8) : IpAddr :=
  .v4 (a.toBitVec ++ b.toBitVec ++ c.toBitVec ++ d.toBitVec)

instance : Inhabited EngineSettings where
  default := {
    mixedPort := defaultMixedPort
    controllerPort := defaultClashApiPort
    enableIpv6 := true
    ipv6DnsEnabled := none
    bypassPrivateNetworks := true
    tunnelMtu := 1500
    logLevel := .info
    lanProxy := none
    bootstrapDnsServers := (ipv4 223 6 6 6, ipv4 119 29 29 29)
    authenticatedDnsServers :=
      (⟨ipv4 223 5 5 5, "dns.alidns.com"⟩, ⟨ipv4 1 1 1 1, "cloudflare-dns.com"⟩)
    mainlandChinaDirect := false
    dnsLeakProtection := false }

/-- The loopback controller of a process: its port and the secret of this run. -/
structure ClashApiEndpoint where
  port : UInt16
  secret : String
deriving DecidableEq

def ClashApiEndpoint.resolve (processSecret : String) (port mixedPort : UInt16) :
    Except ConfigError ClashApiEndpoint := do
  reject (port < minClashApiPort ∨ port = mixedPort) (.invalidControllerPort port)
  return ⟨port, processSecret⟩

def EngineSettings.clashApiEndpoint (processSecret : String) (settings : EngineSettings) :
    Except ConfigError ClashApiEndpoint :=
  ClashApiEndpoint.resolve processSecret settings.controllerPort settings.mixedPort

inductive ProjectionMode
  | localProxy | systemProxy | tunnel | tunnelSystemProxy
deriving DecidableEq, Repr

def ProjectionMode.hasTunnel : ProjectionMode → Bool
  | tunnel | tunnelSystemProxy => true
  | _ => false

inductive TunnelStack
  | system | gvisor
deriving DecidableEq, Repr

/-- The direct host routes: none, or the one reviewed transport endpoint. -/
structure DirectIpv4HostRoutes where
  releaseTransport : Bool
deriving DecidableEq

/-- A projected configuration. Its text is the canonical rendering of `json`. -/
structure ProjectedConfig where
  mode : ProjectionMode
  credentialAudience : CredentialAudience
  json : JsonValue
  credentialSlots : List CredentialSlot
  clashApi : ClashApiEndpoint
  configurationDigest : String
  directIpv4Hosts : DirectIpv4HostRoutes
  digest : String

end CfwRs.SingBox
