import CfwRs.AppleNetwork.GenerationIssue
import CfwRs.Coordinator.ProfileCommit
import CfwRs.Coordinator.Recheck
import CfwRs.Coordinator.StartupRetry
import CfwRs.GlobalAuthority.JournalOverflow
import CfwRs.GlobalAuthority.Persist
import CfwRs.MacProxy.Restore
import CfwRs.MacVault.Overfilled
import CfwRs.NativeBridge.Truthful
import CfwRs.Profiles.FailedImport
import CfwRs.ProxySession.Truthful
import CfwRs.SingBox.ConnectionDns
import CfwRs.SingBox.DomainText
import CfwRs.SingBox.Probe
import CfwRs.SingBox.Routing
import CfwRs.Updater.Outcome
import CfwRs.WindowsAuthority.JournalCapacity
import CfwRs.WindowsAuthority.JournalTamper
import CfwRs.WindowsLifecycle.Collection
import CfwRs.WindowsTunnel.Delivery
import CfwRs.WindowsTunnel.Plan
import CfwRs.WindowsTunnel.Retirement
