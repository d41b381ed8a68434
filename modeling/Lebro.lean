import Lebro.WorkflowFanOutJoin
import Lebro.WorkflowRaces
import Lebro.StoreTransactions
import Lebro.SchedulerIsolation
import Lebro.AgentThreads
import Lebro.VideoLifecycle
import Lebro.WorkingMemoryAdapters
import Lebro.ScheduleOverlaps
import Lebro.RoutedCalls
import Lebro.StreamAdapters
import Lebro.DelegatedRuns
import Lebro.NetworkRecords
import Lebro.RunJournal
import Lebro.EventSequences
import Lebro.HttpClientStreams
import Lebro.ChannelDuplicates
import Lebro.WorkflowPaths
import Lebro.WorkflowAttempts
import Lebro.WorkflowLoops
import Lebro.CronSearch
import Lebro.AttemptCosts
import Lebro.ThreadHistories
import Lebro.TextAttachments
import Lebro.CompactionRounds
import Lebro.TaskCancels
import Lebro.SpanExport
import Lebro.GeminiStreams
import Lebro.DecisionRetries
import Lebro.SchemaIssues
import Lebro.ExperimentRuns
