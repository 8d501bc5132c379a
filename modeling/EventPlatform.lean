import EventPlatform.CallRoom.LateAssignment
import EventPlatform.Presence.Safety
import EventPlatform.Leadership.Fencing
import EventPlatform.Orchestrator.Acceptance
import EventPlatform.Matching.Feasibility
import EventPlatform.Operator.PauseResume
import EventPlatform.Orchestrator.Lifecycle
import EventPlatform.Orchestrator.Freeze
import EventPlatform.Operator.TimelineShape
import EventPlatform.Presence.Exclusive
import EventPlatform.Orchestrator.Delivery
import EventPlatform.Orchestrator.Order
import EventPlatform.Orchestrator.Instances
import EventPlatform.Presence.Reconnect
import EventPlatform.Presence.Signalling
import EventPlatform.Presence.Sessions
import EventPlatform.Presence.Status
import EventPlatform.CallRoom.State
import EventPlatform.Orchestrator.Snapshot
import EventPlatform.Protocol.RoundTrip
import EventPlatform.Presence.Recording
import EventPlatform.Operator.Interleaved
import EventPlatform.Operator.Recalculate
import EventPlatform.Media.PairIsolation
import EventPlatform.Negotiation.Agreement
import EventPlatform.Browser.EndFinal
import EventPlatform.Browser.LeaveFinal
import EventPlatform.Operator.TransitionLog
import EventPlatform.Registration.Atomic
import EventPlatform.Scheduling.PairTrigger
import EventPlatform.Operator.AllOrNothing
import EventPlatform.Media.Escalation
import EventPlatform.Media.Transparent
import EventPlatform.CallRoom.Mirror
import EventPlatform.Operator.JoinTokens
import EventPlatform.Registration.UniqueTags
import EventPlatform.Registration.OnePerEmail
import EventPlatform.Scheduling.Partition
import EventPlatform.Operator.ResumeExact
import EventPlatform.Matching.Byes
import EventPlatform.Matching.Threshold
import EventPlatform.Matching.LocalOptimum
import EventPlatform.Matching.Invariance
import EventPlatform.Clock.ErrorBound
import EventPlatform.CallRoom.Timers
import EventPlatform.Clock.Batch
import EventPlatform.Leadership.Agreement
import EventPlatform.Matching.PlainGreedy
import EventPlatform.Presence.RateLimit
import EventPlatform.Scheduling.Repersist
import EventPlatform.Operator.RecalculateAudit
import EventPlatform.Browser.Reconnect
import EventPlatform.Browser.IceRecovery
import EventPlatform.Operator.PhaseOrder
import EventPlatform.Matching.Report
import EventPlatform.Operator.ScheduleWriters
import EventPlatform.Health.LoggingFilters
import EventPlatform.Operator.ParticipantExport
import EventPlatform.Presence.OneSession
import EventPlatform.Orchestrator.Seats
import EventPlatform.Registration.Verification
import EventPlatform.Presence.Heartbeat
import EventPlatform.Registration.TagRule
import EventPlatform.Orchestrator.Preconnect
import EventPlatform.Presence.ConnectionReports
