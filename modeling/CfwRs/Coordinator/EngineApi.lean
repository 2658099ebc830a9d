import CfwRs.Lib.Word
import CfwRs.SingBox.Settings

namespace CfwRs.Coordinator

open Lib Lib.Checked SingBox

inductive EngineMode
  | off | localProxy | systemProxy | tunnel | tunnelSystemProxy
deriving DecidableEq, Repr

def EngineMode.tunnelEnabled : EngineMode → Bool
  | tunnel | tunnelSystemProxy => true
  | _ => false

inductive EngineOwner
  | proxyAgent | packetTunnelSystemExtension | windowsUserAgent | windowsTunnelService
deriving DecidableEq, Repr

def EngineOwner.supportsMode : EngineOwner → EngineMode → Bool
  | proxyAgent, .localProxy | proxyAgent, .systemProxy => true
  | windowsUserAgent, .localProxy | windowsUserAgent, .systemProxy => true
  | packetTunnelSystemExtension, .tunnel | packetTunnelSystemExtension, .tunnelSystemProxy => true
  | windowsTunnelService, .tunnel | windowsTunnelService, .tunnelSystemProxy => true
  | _, _ => false

structure TunnelMtuError where
  mtu : UInt16
  minimum : UInt16
  maximum : UInt16

structure TunnelMtuLimits where
  minimum : UInt16
  maximum : UInt16

namespace TunnelMtuLimits

def authorityV1 : TunnelMtuLimits := ⟨1280, 1500⟩

def validate (limits : TunnelMtuLimits) (mtu : UInt16) : Except TunnelMtuError Unit :=
  require (limits.minimum ≤ mtu ∧ mtu ≤ limits.maximum) ⟨mtu, limits.minimum, limits.maximum⟩

end TunnelMtuLimits

inductive EngineRuntimePlatform
  | macOs | windows
deriving DecidableEq, Repr

namespace EngineRuntimePlatform

def tunnelMtuLimits : EngineRuntimePlatform → TunnelMtuLimits
  | macOs => .authorityV1
  | windows => ⟨1280, 9000⟩

def tunnelStack : EngineRuntimePlatform → TunnelStack
  | macOs => .system
  | windows => .gvisor

def proxyOwner : EngineRuntimePlatform → EngineOwner
  | macOs => .proxyAgent
  | windows => .windowsUserAgent

def tunnelOwner : EngineRuntimePlatform → EngineOwner
  | macOs => .packetTunnelSystemExtension
  | windows => .windowsTunnelService

def tunnelAuthorizationAwaitsConsent : EngineRuntimePlatform → Bool
  | macOs => true
  | windows => false

end EngineRuntimePlatform

structure EngineSessionIdentity where
  installationId : String
  configEpoch : UInt64
deriving DecidableEq

structure EngineCommandContext where
  installationId : String
  configEpoch : UInt64
  generation : UInt64
deriving DecidableEq

def EngineCommandContext.new (session : EngineSessionIdentity) (generation : UInt64) :
    EngineCommandContext := ⟨session.installationId, session.configEpoch, generation⟩

structure RuntimeIdentity where
  owner : EngineOwner
  context : EngineCommandContext
  configDigest : String
  ready : Bool
deriving DecidableEq

inductive NativeEngineStatus
  | off
  | localProxy (runtime : RuntimeIdentity)
  | systemProxy (runtime : RuntimeIdentity)
  | tunnel (runtime : RuntimeIdentity)
deriving DecidableEq

inductive EngineState
  | off
  | localProxyStarting (generation : UInt64)
  | proxyStarting (generation : UInt64)
  | proxyActive (runtime : RuntimeIdentity)
  | localProxyActive (runtime : RuntimeIdentity)
  | localProxyStopping (generation : UInt64)
  | proxyStopping (generation : UInt64)
  | tunnelInstalling (generation : UInt64)
  | awaitingApproval (generation : UInt64)
  | tunnelStarting (generation : UInt64)
  | tunnelActive (runtime : RuntimeIdentity)
  | tunnelSystemProxyActive (runtime : RuntimeIdentity)
  | tunnelStopping (generation : UInt64)
  | failed (generation : UInt64) (target : EngineMode) (error : String) (recheckPending : Bool)
deriving DecidableEq

namespace EngineState

def activeMode : EngineState → EngineMode
  | localProxyActive _ => .localProxy
  | proxyActive _ => .systemProxy
  | tunnelActive _ => .tunnel
  | tunnelSystemProxyActive _ => .tunnelSystemProxy
  | _ => .off

def runtime? : EngineState → Option RuntimeIdentity
  | localProxyActive runtime | proxyActive runtime | tunnelActive runtime
  | tunnelSystemProxyActive runtime => some runtime
  | _ => none

def isFailed : EngineState → Bool
  | failed .. => true
  | _ => false

end EngineState

structure EngineSnapshot where
  desiredMode : EngineMode
  state : EngineState
  generation : UInt64
  configDigest : Option String
deriving DecidableEq

inductive BackendErrorKind
  | busy | resourceExhausted | journalCapacityExhausted | permissionDenied | approvalDenied
  | configurationRejected | systemExtensionValidationFailed | systemProxyConfigurationFailed
  | systemProxyRuntimeFailed | engineStartTimedOut | systemProxyPreferencesFailed
  | systemProxyJournalFailed | systemProxyAuthorityFailed | existingSystemProxy
  | credentialsUnavailable | credentialConflict | credentialVaultMissing | credentialVaultCorrupt
  | credentialMigrationRequired | credentialGcConflict | proxyAgentApprovalRequired
  | globalAuthorityUnavailable | globalAuthorityRegistrationRequired
  | globalAuthorityApprovalRequired | globalAuthorityIdentityRejected
  | globalAuthorityProtocolMismatch | globalAuthorityRecovering | globalAuthorityTimeout
  | globalAuthorityInterrupted | globalLeaseConflict | replayRejected | staleOperation
  | ticketExpired | ticketAlreadyRedeemed | ticketInvalid | compensationConflict | cleanupUnproven
  | quarantined | invalidMessage | secretBoundsExceeded | secretLifecycleViolation
  | journalCorrupt | ownerUnresponsive | identityRejected | timeout | unavailable
  | mixedEndpointInUse | controllerEndpointInUse | internal
deriving DecidableEq, Repr

inductive RetryDirective
  | never | idempotentReadOnly | registrationStatusChange | compatibleSoftwareUpdate
  | freshSnapshotAfterOff | freshContext | freshGenerationAfterOff | explicitReconciliation
  | maintenanceRequired
deriving DecidableEq, Repr

namespace BackendErrorKind

def retryDirective : BackendErrorKind → RetryDirective
  | resourceExhausted | ownerUnresponsive | globalAuthorityTimeout | globalAuthorityInterrupted
  | timeout | unavailable => .idempotentReadOnly
  | journalCapacityExhausted => .maintenanceRequired
  | credentialMigrationRequired => .never
  | proxyAgentApprovalRequired | globalAuthorityUnavailable | globalAuthorityRegistrationRequired
  | globalAuthorityApprovalRequired => .registrationStatusChange
  | globalAuthorityProtocolMismatch => .compatibleSoftwareUpdate
  | busy | globalLeaseConflict => .freshSnapshotAfterOff
  | replayRejected | staleOperation => .freshContext
  | ticketExpired | ticketAlreadyRedeemed => .freshGenerationAfterOff
  | globalAuthorityRecovering | secretLifecycleViolation | compensationConflict | cleanupUnproven
  | quarantined | journalCorrupt => .explicitReconciliation
  | permissionDenied | approvalDenied | configurationRejected | systemExtensionValidationFailed
  | systemProxyConfigurationFailed | systemProxyRuntimeFailed | engineStartTimedOut
  | systemProxyPreferencesFailed | systemProxyJournalFailed | systemProxyAuthorityFailed
  | existingSystemProxy | credentialsUnavailable | credentialConflict | credentialVaultMissing
  | credentialVaultCorrupt | credentialGcConflict | globalAuthorityIdentityRejected
  | ticketInvalid | invalidMessage | secretBoundsExceeded | mixedEndpointInUse
  | controllerEndpointInUse | identityRejected | internal => .never

def allowsReadOnlyRecheck (kind : BackendErrorKind) : Bool :=
  kind.retryDirective = .idempotentReadOnly || kind = .busy

end BackendErrorKind

structure BackendError where
  kind : BackendErrorKind
  message : String
deriving DecidableEq

structure TunnelNetworkOptions where
  ipv6Enabled : Bool
  bypassPrivateNetworks : Bool
  directIpv4Hosts : DirectIpv4HostRoutes
  mtu : UInt16
  systemProxyPort : Option UInt16

inductive TunnelInstallOutcome
  | ready | awaitingApproval
deriving DecidableEq, Repr

/-- The request that starts, checks or authorizes one runtime. -/
structure EngineStartRequest where
  context : EngineCommandContext
  mode : ProjectionMode
  credentialAudience : CredentialAudience
  configJson : JsonValue
  configContentDigest : String
  configDigest : String
  credentialSlots : List CredentialSlot
  tunnelOptions : Option TunnelNetworkOptions

inductive EngineOperation
  | queryStatus | checkConfiguration | startLocalProxy | stopLocalProxy | startSystemProxy
  | stopSystemProxy | installTunnel | cancelTunnelInstall | authorizeTunnelConfiguration
  | startTunnel | stopTunnel
deriving DecidableEq, Repr

def EngineOperation.name : EngineOperation → String
  | queryStatus => "query_status"
  | checkConfiguration => "check_configuration"
  | startLocalProxy => "start_local_proxy"
  | stopLocalProxy => "stop_local_proxy"
  | startSystemProxy => "start_system_proxy"
  | stopSystemProxy => "stop_system_proxy"
  | installTunnel => "install_tunnel"
  | cancelTunnelInstall => "cancel_tunnel_install"
  | authorizeTunnelConfiguration => "authorize_tunnel_configuration"
  | startTunnel => "start_tunnel"
  | stopTunnel => "stop_tunnel"

inductive CutoverPreflightRequestError
  | activeTargetRequired | projectionModeMismatch | invalidContext | credentialReferenceMismatch
  | credentialAudienceMismatch
deriving DecidableEq, Repr

structure CutoverPreflightRequest where
  target : EngineMode
  systemProxyRequest : EngineStartRequest
  tunnelRequest : EngineStartRequest

inductive RecoveredRuntimeMismatch
  | owner (mode : EngineMode) (expected actual : EngineOwner)
  | installation
  | invalidInstallation
  | epoch
  | invalidEpoch
  | generation (expected actual : UInt64)
  | invalidGeneration
  | digest
  | notReady

inductive EngineCoordinatorError
  | profilePreparation (reason : String)
  | profileCommit (reason : String)
  | profileChangeRolledBack (source : EngineCoordinatorError)
  | profileChangeRollbackFailed (source rollback : EngineCoordinatorError)
  | profileChangeRecoveryRequired (source : EngineCoordinatorError)
  | invalidConfiguration (error : ConfigError)
  | invalidTunnelMtu (error : TunnelMtuError)
  | proxySelectionInitialization (reason : String)
  | cutoverRequiresOff
  | cutoverRequiresRemoteOutbound
  | invalidCutoverPreparation (error : CutoverPreflightRequestError)
  | backend (operation : EngineOperation) (source : BackendError)
  | runtimeIdentityMismatch (expectedOwner : EngineOwner) (expectedContext : EngineCommandContext)
      (expectedDigest : String) (actual : RuntimeIdentity)
  | activeRuntimeStatusMismatch (expectedMode : EngineMode) (actual : NativeEngineStatus)
  | globalOffUnproven (observed : NativeEngineStatus)
  | recoveredRuntimeMismatch (mismatch : RecoveredRuntimeMismatch) (actual : RuntimeIdentity)
  | startAndCleanupFailed (startOperation : EngineOperation) (startError : BackendError)
      (cleanupOperation : EngineOperation) (cleanupError : BackendError)
  | startAndOffProofFailed (startOperation : EngineOperation) (startError : BackendError)
      (proofError : EngineCoordinatorError)
  | startEndpointConflictAfterOff (operation : EngineOperation) (conflict : BackendErrorKind)
  | startTicketExpiredAfterOff
  | validationAndCleanupFailed (validationError : EngineCoordinatorError)
      (cleanupOperation : EngineOperation) (cleanupError : BackendError)
  | validationAndOffProofFailed (validationError proofError : EngineCoordinatorError)
  | generationExhausted
  | journal (reason : String)
  | journalGenerationMismatch (expected actual : UInt64)
  | snapshotPreconditionChanged
  | releaseEvidenceRestoreUnproven

end CfwRs.Coordinator
