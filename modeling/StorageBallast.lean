import StorageBallast.Daemon.DeletionRights
import StorageBallast.Scanner.ContainmentCoverage
import StorageBallast.Scanner.SourceFloorSpellings
import StorageBallast.Scanner.IdentityChecks
import StorageBallast.Cli.InteractiveFloor
import StorageBallast.Daemon.PriorityRoutes
import StorageBallast.Cli.PlanAgreement
import StorageBallast.Daemon.CanaryGate
import StorageBallast.Daemon.CanaryBudget
import StorageBallast.Monitor.GuardRecovery
import StorageBallast.Daemon.LastMemoryEvent
import StorageBallast.Daemon.MemorySubscription
import StorageBallast.Daemon.MonitorLoop
import StorageBallast.Daemon.PressureAlerts
import StorageBallast.Daemon.CursorSoundness
import StorageBallast.Daemon.EventSoundness
import StorageBallast.Daemon.BallastCalm
import StorageBallast.Ballast.SharedPool
import StorageBallast.Daemon.ForcedScans
import StorageBallast.Daemon.ExecutorBreaker
import StorageBallast.Daemon.ScanBackoff
import StorageBallast.Scanner.WatchBudget
import StorageBallast.Scanner.WatchCoverage
import StorageBallast.Scanner.GoverningRules
import StorageBallast.Daemon.BackoffMemory
import StorageBallast.Monitor.PressureHysteresis
import StorageBallast.Daemon.ReserveReleases
import StorageBallast.Ballast.Provisioning
import StorageBallast.Daemon.RepeatDeletions
import StorageBallast.Scanner.MarkerProtection
import StorageBallast.Scanner.TruncationTargets
import StorageBallast.Cli.TuningSafety
import StorageBallast.Daemon.ReloadAgreement
import StorageBallast.Daemon.SpecialEpisodes
import StorageBallast.Scanner.BatchAccounts
import StorageBallast.Ballast.GraduatedRelease
import StorageBallast.Daemon.PredictiveScores
import StorageBallast.Monitor.PredictiveSeverity
import StorageBallast.Daemon.PredictiveWarnings
import StorageBallast.Daemon.DispatchAccounts
import StorageBallast.Daemon.DeleteSoundness
import StorageBallast.Scanner.BatchRanking
import StorageBallast.Monitor.PlanDeterminism
import StorageBallast.Daemon.PressureMonotonicity
import StorageBallast.Scanner.OpenAncestors
import StorageBallast.Scanner.OpenPathCache
import StorageBallast.Monitor.EstimatorConfidence
import StorageBallast.Core.PathResolution
import StorageBallast.Scanner.ProtectionClosure
import StorageBallast.Scanner.GlobMeaning
import StorageBallast.Platform.SegmentGlobs
import StorageBallast.Scanner.WatchExactness
import StorageBallast.Scanner.BudgetedDiffs
import StorageBallast.Cli.ReleaseTags
import StorageBallast.Logger.LogRotation
import StorageBallast.Cli.BackupStore
import StorageBallast.Cli.Bootstrap
import StorageBallast.Cli.ShellProfiles
import StorageBallast.Cli.ByteCounts
import StorageBallast.Cli.WritebackAssessment
import StorageBallast.Cli.SysctlSnippets
import StorageBallast.Tui.SelectedRows
import StorageBallast.Tui.TimelineFollow
import StorageBallast.Core.AcceptedNumbers
import StorageBallast.Daemon.FloorStrictness
import StorageBallast.Daemon.PredictionOutcomes
import StorageBallast.Daemon.SystemdUnits
import StorageBallast.Cli.Uninstall
import StorageBallast.Cli.ConfigSet
