import Quantbot.Core.Arith
import Quantbot.Core.ChunkedReads
import Quantbot.Core.Decimal
import Quantbot.Core.DecimalCents
import Quantbot.Core.DecimalGrid
import Quantbot.Core.DecimalOrder
import Quantbot.Core.DecimalSteps
import Quantbot.Core.DecimalSums
import Quantbot.Core.Failures
import Quantbot.Core.IsoText
import Quantbot.Core.LTS
import Quantbot.Core.Ordered
import Quantbot.Core.Reads
import Quantbot.Core.RollingWindow
import Quantbot.Core.Session
import Quantbot.Core.StoredTime
import Quantbot.Core.Sums
import Quantbot.Core.Table
import Quantbot.Core.Txn
import Quantbot.Core.VersionChain
import Quantbot.Core.Windows
import Quantbot.L1Domain.Lifecycle
import Quantbot.L1Domain.MarketData
import Quantbot.L1Domain.Models
import Quantbot.L1Domain.StrategyConfig
import Quantbot.L2Storage.EncodedDecimals
import Quantbot.L2Storage.EncodedTimes
import Quantbot.L2Storage.Evolution
import Quantbot.L2Storage.Repository
import Quantbot.L2Storage.Schema
import Quantbot.L2Storage.SearchRuns
import Quantbot.L3Execution.Accounting
import Quantbot.L3Execution.Acknowledgement
import Quantbot.L3Execution.Confluence
import Quantbot.L3Execution.Coordinator
import Quantbot.L3Execution.DurableEvents
import Quantbot.L3Execution.ExitClaims
import Quantbot.L3Execution.OrderEvents
import Quantbot.L3Execution.Reconciliation
import Quantbot.L3Execution.Recovery
import Quantbot.L3Execution.SingleSender
import Quantbot.L3Research.Burden
import Quantbot.L3Research.CampaignGrading
import Quantbot.L3Research.Campaigns
import Quantbot.L3Research.CapitalCapacity
import Quantbot.L3Research.Consumption
import Quantbot.L3Research.Experiment
import Quantbot.L3Research.ForwardDays
import Quantbot.L3Research.Handoff
import Quantbot.L3Research.Identification
import Quantbot.L3Research.Memory
import Quantbot.L3Research.MemoryRuns
import Quantbot.L3Research.Outcomes
import Quantbot.L3Research.PointInTime
import Quantbot.L3Research.PowerGate
import Quantbot.L3Research.Preregistered
import Quantbot.L3Research.Promotion
import Quantbot.L3Research.PromotionFates
import Quantbot.L3Research.PromotionRuns
import Quantbot.L3Research.Protected
import Quantbot.L3Research.RefutedClaims
import Quantbot.L3Research.Registry
import Quantbot.L3Research.ResearchBudget
import Quantbot.L3Research.Runs
import Quantbot.L3Research.Windows
import Quantbot.L3Risk.Approvals
import Quantbot.L3Risk.Dependence
import Quantbot.L3Risk.Drawdown
import Quantbot.L3Risk.PolicyHistory
import Quantbot.L3Risk.PolicyVersions
import Quantbot.L3Risk.Portfolio
import Quantbot.L3Risk.SizeEntry
import Quantbot.L3Risk.Sizing
import Quantbot.L3Risk.SizingLaws
import Quantbot.L3Strategy.AdaptiveMomentum
import Quantbot.L3Strategy.Indicators
import Quantbot.L3Strategy.MonthlyTranches
import Quantbot.L3Strategy.RosterGovernance
import Quantbot.L3Strategy.Sessions
import Quantbot.L3Strategy.Tranches
import Quantbot.L4Learner.Intraday
import Quantbot.L4Learner.IntradayCausality
import Quantbot.L4Learner.Records
import Quantbot.L4Learner.Repository
import Quantbot.L4Learner.RepositoryLedger
import Quantbot.L4Learner.RepositoryReads
import Quantbot.L4Learner.RepositoryRuns
import Quantbot.L4Learner.RepositorySaves
import Quantbot.L4PaperCore.Adoption
import Quantbot.L4PaperCore.Authority
import Quantbot.L4PaperCore.AuthorityRuns
import Quantbot.L4PaperCore.Batch
import Quantbot.L4PaperCore.BatchPrefix
import Quantbot.L4PaperCore.CapitalCapture
import Quantbot.L4PaperCore.CapitalFloor
import Quantbot.L4PaperCore.CapitalFlows
import Quantbot.L4PaperCore.CapitalRuns
import Quantbot.L4PaperCore.CapitalWindows
import Quantbot.L4PaperCore.Certification
import Quantbot.L4PaperCore.ClosedOrders
import Quantbot.L4PaperCore.ClosedRuns
import Quantbot.L4PaperCore.CohortSelection
import Quantbot.L4PaperCore.ContinuousCapital
import Quantbot.L4PaperCore.Contracts
import Quantbot.L4PaperCore.CostChains
import Quantbot.L4PaperCore.CryptoCustody
import Quantbot.L4PaperCore.Economics
import Quantbot.L4PaperCore.EntryLease
import Quantbot.L4PaperCore.EntryPolicy
import Quantbot.L4PaperCore.EntrySizing
import Quantbot.L4PaperCore.EpisodeSelection
import Quantbot.L4PaperCore.ExitGuard
import Quantbot.L4PaperCore.FeeAllocation
import Quantbot.L4PaperCore.FeeCharges
import Quantbot.L4PaperCore.FeeEvidence
import Quantbot.L4PaperCore.FeeIdentity
import Quantbot.L4PaperCore.FeePages
import Quantbot.L4PaperCore.FeeRuns
import Quantbot.L4PaperCore.FeeVerifier
import Quantbot.L4PaperCore.Funds
import Quantbot.L4PaperCore.Guardian
import Quantbot.L4PaperCore.GuardianPointer
import Quantbot.L4PaperCore.Harmless
import Quantbot.L4PaperCore.Health
import Quantbot.L4PaperCore.HealthProjection
import Quantbot.L4PaperCore.HealthRuns
import Quantbot.L4PaperCore.ImportAtomicity
import Quantbot.L4PaperCore.ImportFacts
import Quantbot.L4PaperCore.Learning
import Quantbot.L4PaperCore.LearningRuns
import Quantbot.L4PaperCore.LearningSelect
import Quantbot.L4PaperCore.Ledger
import Quantbot.L4PaperCore.Operation
import Quantbot.L4PaperCore.OrderLifecycle
import Quantbot.L4PaperCore.Outcomes
import Quantbot.L4PaperCore.Oversold
import Quantbot.L4PaperCore.OversoldRuns
import Quantbot.L4PaperCore.Procedure
import Quantbot.L4PaperCore.Processing
import Quantbot.L4PaperCore.ProtectionDeadline
import Quantbot.L4PaperCore.Queue
import Quantbot.L4PaperCore.RequestBudget
import Quantbot.L4PaperCore.RequestWindows
import Quantbot.L4PaperCore.Resolve
import Quantbot.L4PaperCore.RetryDeadlines
import Quantbot.L4PaperCore.Revisions
import Quantbot.L4PaperCore.RoundTripFigures
import Quantbot.L4PaperCore.RoundTripRuns
import Quantbot.L4PaperCore.Runtime
import Quantbot.L4PaperCore.Schema
import Quantbot.L4PaperCore.SendGuard
import Quantbot.L4PaperCore.SessionCapital
import Quantbot.L4PaperCore.SessionOrders
import Quantbot.L4PaperCore.SessionResidual
import Quantbot.L4PaperCore.SessionRounding
import Quantbot.L4PaperCore.SessionRows
import Quantbot.L4PaperCore.Settlement
import Quantbot.L4PaperCore.TimeEvidence
import Quantbot.L4PaperCore.Unsent
import Quantbot.L4PaperCore.UnsentMany
import Quantbot.L4PaperCore.UnsentRuns
import Quantbot.L4PaperCore.WalkForward
import Quantbot.L4PaperCore.Work
import Quantbot.L5Operations.AlertDeliveries
import Quantbot.L5Operations.AlertDispatch
import Quantbot.L5Operations.AlertRuns
import Quantbot.L5Operations.KillSwitch
import Quantbot.L5Operations.Performance
