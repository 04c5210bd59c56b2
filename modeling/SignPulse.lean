import SignPulse.Backend.ExecutionLoop
import SignPulse.Flow.WorkflowAgreement
import SignPulse.Flow.MermaidAdapter
import SignPulse.Flow.NodeBudget
import SignPulse.Flow.DeliveryGaps
import SignPulse.Flow.RunBounds
import SignPulse.Flow.ControlledStop
import SignPulse.Flow.Confirmation
import SignPulse.Flow.Replay
import SignPulse.Flow.ContextRoundTrip
import SignPulse.Signer.CircuitBreaker
import SignPulse.Backend.ActiveLogs
import SignPulse.Backend.RunMarks
import SignPulse.Backend.RunOutcomes
import SignPulse.Backend.TaskChains
import SignPulse.Backend.WildcardDeletes
import SignPulse.Backend.EditOutcomes
import SignPulse.Backend.SentReceipts
import SignPulse.Backend.FloodBackoff
import SignPulse.Backend.ProbeCooldown
import SignPulse.Backend.SyncJobs
import SignPulse.Backend.StorageIdentities
import SignPulse.Backend.IndexThreads
import SignPulse.Backend.RangeWindows
import SignPulse.Backend.RateWindows
import SignPulse.Backend.ClientIdentity
import SignPulse.Backend.JobOutcomes
import SignPulse.Backend.JobRetention
import SignPulse.Backend.LogOrder
import SignPulse.Backend.HeldAccounts
import SignPulse.Backend.BackupCrypto
import SignPulse.Backend.LockOrder
import SignPulse.Backend.AlignedHistory
import SignPulse.Backend.StreamTickets
import SignPulse.Backend.ImportCleanup
import SignPulse.Signer.PreparedRuns
import SignPulse.Semantic.CallBudgets
import SignPulse.Semantic.QueryOutcomes
import SignPulse.Plugin.StoreProcesses
import SignPulse.Plugin.SharedCounter
import SignPulse.Plugin.ClientLedger
import SignPulse.Plugin.WorkerCalls
import SignPulse.Plugin.IpcLines
import SignPulse.Keyword.SeenMessages
import SignPulse.Signer.ConfigVersions
import SignPulse.Signer.SemanticRouting
import SignPulse.Semantic.DecisionPolicy
import SignPulse.Semantic.Buttons
import SignPulse.Backend.RelatedCopies
import SignPulse.Flow.BranchJoins
import SignPulse.Flow.FailureStreaks
import SignPulse.Flow.RetryBounds
import SignPulse.Flow.Redaction
import SignPulse.Flow.WaitBudget
import SignPulse.Flow.Templates
import SignPulse.Flow.BooleanValues
import SignPulse.Backend.ArchiveExtraction
import SignPulse.Backend.ConcurrentImports
import SignPulse.Flow.SplitParts
import SignPulse.Plugin.LikeKeys
import SignPulse.Signer.CooldownTexts
import SignPulse.Backend.PushNotices
import SignPulse.Signer.ArithmeticSolver
import SignPulse.Signer.AiFailover
