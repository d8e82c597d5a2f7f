import AtlasOS.Lib.Dict
import AtlasOS.Lib.Sqlite
import AtlasOS.Lib.Json
import AtlasOS.Lib.Runtime
import AtlasOS.Lib.Effect
import AtlasOS.Lib.Path
import AtlasOS.Worker.Contracts
import AtlasOS.Worker.Ledger
import AtlasOS.Worker.LedgerInvariant
import AtlasOS.Worker.LedgerHistory
import AtlasOS.Agent.Enums
import AtlasOS.Agent.Models
import AtlasOS.Agent.Records
import AtlasOS.Agent.Codec.Reader
import AtlasOS.Agent.Aggregate
import AtlasOS.Agent.Codec.Planning
import AtlasOS.Agent.Codec.Workflow
import AtlasOS.Agent.Codec.Session
import AtlasOS.Agent.Codec.Approval
import AtlasOS.Agent.Codec.Payload
import AtlasOS.Agent.RoundTrip
import AtlasOS.Agent.Persistence
import AtlasOS.Agent.Atomicity
import AtlasOS.Agent.Conditional
import AtlasOS.Agent.Recovery
import AtlasOS.Core.Dispatch.Models
import AtlasOS.Core.Dispatch.Runtime
import AtlasOS.Core.Dispatch.Ledger
import AtlasOS.Core.Dispatch.LedgerInvariant
import AtlasOS.Core.Dispatch.LedgerMethods
import AtlasOS.Core.Dispatch.LedgerHistory
import AtlasOS.Core.Dispatch.Service
import AtlasOS.Core.Dispatch.ServiceRuns
import AtlasOS.Core.Dispatch.Lifecycle
import AtlasOS.Agent.Operational
import AtlasOS.Agent.OperationalRuns
import AtlasOS.Agent.Reconciliation
import AtlasOS.Operational.Finality
import AtlasOS.Lib.Crash
import AtlasOS.Lib.FileSystem
import AtlasOS.Restore.Journal
import AtlasOS.Restore.Places
import AtlasOS.Restore.Rollback
import AtlasOS.Backup.LedgerAgreement
import AtlasOS.Lib.Rows
import AtlasOS.ProviderIntents.Models
import AtlasOS.ProviderIntents.Store
import AtlasOS.ProviderIntents.Methods
import AtlasOS.ProviderIntents.Series
import AtlasOS.ProviderIntents.StoreInvariant
import AtlasOS.ProviderIntents.Edits
import AtlasOS.ProviderIntents.MethodEdits
import AtlasOS.ProviderIntents.CoordinateEdits
import AtlasOS.ProviderIntents.StoreRuns
import AtlasOS.ProviderIntents.Resolver
import AtlasOS.ProviderIntents.Resolution
import AtlasOS.ProviderIntents.Migration
import AtlasOS.Lib.Calendar
import AtlasOS.Lib.CanonicalJson
import AtlasOS.Acknowledgement.Contract
import AtlasOS.Acknowledgement.Receipt
import AtlasOS.Acknowledgement.Store
import AtlasOS.Acknowledgement.Receipt
import AtlasOS.Acknowledgement.Store
import AtlasOS.Acknowledgement.StoreInvariant
import AtlasOS.Acknowledgement.StoreRuns
import AtlasOS.Acknowledgement.Runtime
import AtlasOS.Lib.JsonText
import AtlasOS.Worker.Codec
import AtlasOS.Connections.Service
import AtlasOS.Connections.Runs
import AtlasOS.Candidates.Models
import AtlasOS.Candidates.Classification
import AtlasOS.Candidates.Projection
import AtlasOS.Candidates.Collection
import AtlasOS.Candidates.Construction
import AtlasOS.Candidates.PerFinding
import AtlasOS.Agent.PlanningService
import AtlasOS.Agent.ApprovalStores
import AtlasOS.Worker.Runner
import AtlasOS.Worker.RunnerResults
import AtlasOS.Core.Dispatch.QemuVerification
import AtlasOS.Discovery.Compatibility
import AtlasOS.Discovery.Verdicts
import AtlasOS.Discovery.Soundness
import AtlasOS.Restore.Exactness
import AtlasOS.Discovery.DynamicEvaluation
import AtlasOS.Discovery.DynamicCache
import AtlasOS.Discovery.DynamicRefresh
import AtlasOS.Discovery.RefreshReports
import AtlasOS.Backup.Retention
import AtlasOS.Lib.OrderedDict
import AtlasOS.OperatorAuth.RateLimit
import AtlasOS.OperatorAuth.SlidingWindow
import AtlasOS.InstallationPlan.OciReference
import AtlasOS.InstallationPlan.OciCanonical
import AtlasOS.Candidates.OperatorIntents
import AtlasOS.Candidates.Identifiers
import AtlasOS.Lib.Register
import AtlasOS.OperatorAuth.Sessions
import AtlasOS.OperatorAuth.SessionRuns
import AtlasOS.InstallationPlan.Evidence
import AtlasOS.InstallationPlan.EvidenceKinds
import AtlasOS.Lib.Recent
import AtlasOS.Lib.Timestamp
import AtlasOS.Actions.History
import AtlasOS.Actions.HistoryRuns
import AtlasOS.Actions.HistoryPages
import AtlasOS.Lib.Search
import AtlasOS.Worker.Client
import AtlasOS.Worker.ClientFraming
import AtlasOS.Lib.Utf8
import AtlasOS.Repository.Porcelain
import AtlasOS.Repository.StatusReaders
import AtlasOS.Repository.StatusAgreement
import AtlasOS.Agent.ApprovalEngine
import AtlasOS.Agent.ApprovalNormalization
import AtlasOS.Patches.Status
import AtlasOS.Patches.StatusExact
import AtlasOS.Restore.Recovery
import AtlasOS.Restore.Advance
import AtlasOS.Restore.Staging
import AtlasOS.Restore.Execution
