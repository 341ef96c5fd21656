import PamMvp.AccessCommand
import PamMvp.AccountRegistry
import PamMvp.AdapterSchemas
import PamMvp.AppendContract
import PamMvp.AppendNeutrality
import PamMvp.ApplicationStartup
import PamMvp.AuditDatabase
import PamMvp.AuditEncoding
import PamMvp.AuditOpening
import PamMvp.AuditVerification
import PamMvp.ChainHead
import PamMvp.ConcurrentAccounts
import PamMvp.ConcurrentAppends
import PamMvp.ConcurrentVerification
import PamMvp.ConfigurationDatabase
import PamMvp.ConfigurationRows
import PamMvp.CreatedTables
import PamMvp.CredentialVault
import PamMvp.DeploymentLifetime
import PamMvp.EndingPrograms
import PamMvp.EnforcedUniqueness
import PamMvp.HashChains
import PamMvp.HostKeyPins
import PamMvp.JsonText
import PamMvp.LabProvisioning
import PamMvp.OwnerOnlyFiles
import PamMvp.PolicyCorruption
import PamMvp.PolicyStore
import PamMvp.PoolComposition
import PamMvp.PreservingPrograms
import PamMvp.ProvisionedAccess
import PamMvp.ProvisionedRecords
import PamMvp.ProvisioningSafety
import PamMvp.RecordedChains
import PamMvp.RecordedEvents
import PamMvp.RefusalAudit
import PamMvp.RelayFidelity
import PamMvp.RelayOutputLoss
import PamMvp.RequestRuns
import PamMvp.ResourceRelease
import PamMvp.ReturningPrograms
import PamMvp.RowCodecs
import PamMvp.RuntimeFiles
import PamMvp.ServedAccess
import PamMvp.SessionRuns
import PamMvp.Sha256
import PamMvp.SharedPrograms
import PamMvp.SignedBytes
import PamMvp.SqliteValues
import PamMvp.StartupSafety
import PamMvp.TamperEvidence
import PamMvp.TerminalRestoration
import PamMvp.TimestampTexts
import PamMvp.UserAuthentication
import PamMvp.VerificationTool
import PamMvp.WiredAccess
