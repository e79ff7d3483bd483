import OverSync.Verification.CrossChain
import OverSync.Verification.E2eSim.Faithful
import OverSync.Verification.RelaySubmissionTracker.Inclusion
import OverSync.Verification.RelaySubmissionTracker.Pruning
import OverSync.Verification.RelaySubmissionTracker.LiveRestore
import OverSync.Verification.RelaySubmissionTracker.Decisions
import OverSync.Verification.RelaySubmissionTracker.Refusals
import OverSync.Verification.RecoveryService.Recognition
import OverSync.Verification.RelayRoutes.Payouts
import OverSync.Verification.RefundWatchdog.Networks
import OverSync.Verification.QuoterService.Payout
import OverSync.Verification.QuotePricing.Value
import OverSync.Verification.PartialFills.Overfill
import OverSync.Verification.PartialFills.MerkleProofs
import OverSync.Verification.EventHistory.Queries
import OverSync.Verification.StellarIncoming.Skips
import OverSync.Verification.EthIncoming.Skips
import OverSync.Verification.ContractEventPoller.Delivery
import OverSync.Verification.Planner.FillPlans
import OverSync.Verification.Planner.SubmitGate
import OverSync.Verification.Coordinator.Announcements
import OverSync.Verification.Coordinator.StatusWrites
import OverSync.Verification.Coordinator.LegRouting
import OverSync.Verification.Coordinator.CrashSafety
import OverSync.Verification.Coordinator.CatchUp
import OverSync.Verification.Coordinator.Polling
import OverSync.Verification.Coordinator.FinalStatus
import OverSync.Verification.Coordinator.Agreement
import OverSync.Verification.Coordinator.Pagination
import OverSync.Verification.Coordinator.Snapshots
import OverSync.Verification.Coordinator.Postgres
import OverSync.Verification.Coordinator.PublicResponses
import OverSync.Verification.Coordinator.QuoteTerms
import OverSync.Verification.Registries.Lockstep
import OverSync.Verification.EscrowFactory.Indexes
import OverSync.Verification.EscrowFactory.Slashes
import OverSync.Verification.MainnetHTLC.Backing
import OverSync.Verification.HTLCEscrow.RegistryGate
import OverSync.Verification.HTLCEscrow.ClaimEvent
import OverSync.Verification.SorobanHtlc.Admin
import OverSync.Verification.SdkAmounts.Decimals
import OverSync.Verification.SdkAmounts.Conversion
import OverSync.Verification.AmountForms.Agreement
import OverSync.Verification.RelayerUtils.Amounts
import OverSync.Verification.Secrets.HashInputs
import OverSync.Verification.RelaySubmissionTracker.Keys
import OverSync.Verification.Coordinator.SorobanEvents
import OverSync.Verification.AdaptivePoll.Discipline
import OverSync.Verification.OrderFreshness.RefundHints
import OverSync.Verification.ClaimableBalance.Gate
import OverSync.Verification.HTLCEscrow.Liveness
import OverSync.Verification.SorobanHtlc.Liveness
import OverSync.Verification.Swap
import OverSync.Verification.RelaySubmissionTracker.StoreFile
import OverSync.Verification.SdkOrders.StoredOrders
import OverSync.Verification.RefundTimeline
import OverSync.Verification.ResolverRegistry.Logs
import OverSync.Verification.SorobanRegistry.Logs
import OverSync.Verification.MainnetHTLC.Lifecycle
import OverSync.Verification.Coordinator.RateLimits
