import Axe.CanonicalPayloads
import Axe.ConfigCache
import Axe.ContractDeployment
import Axe.DecimalAmounts
import Axe.EventLogs
import Axe.EvmResume
import Axe.EvmSendOnce
import Axe.ExactOutputCalibration
import Axe.ExpressReimbursement
import Axe.GasCoins
import Axe.HardenedBudgets
import Axe.HardenedDurability
import Axe.HardenedGateway
import Axe.HardenedReconciliation
import Axe.JournalAtomicity
import Axe.LogWindows
import Axe.McpOutcome
import Axe.ProposalRecovery
import Axe.QuoteContainment
import Axe.RateLimitRetry
import Axe.RoundTripSpending
import Axe.RunAnswers
import Axe.RunMinting
import Axe.SampleReservoir
import Axe.SecondLegDiscovery
import Axe.SenderNonces
import Axe.SolanaSendOnce
import Axe.StressScheduler
import Axe.SubmissionClaims
import Axe.TokenDistribution
import Axe.VerifierSets
