import PatrolFleet.Scheduler.Exclusivity
import PatrolFleet.Scheduler.Conservation
import PatrolFleet.Scheduler.StaleReadings
import PatrolFleet.Scheduler.Cancellation
import PatrolFleet.Scheduler.Progress
import PatrolFleet.Scheduler.Order
import PatrolFleet.Scheduler.Retries
import PatrolFleet.Scheduler.Snapshot
import PatrolFleet.Fleet.Audit
import PatrolFleet.Fleet.Grace
import PatrolFleet.Patrol.OneGoal
import PatrolFleet.Patrol.Stopping
import PatrolFleet.Patrol.Start
import PatrolFleet.Coordination.AtMostOnce
import PatrolFleet.Coordination.Monopoly
import PatrolFleet.Coordination.Admission
import PatrolFleet.Safety.EmergencyStop
import PatrolFleet.Safety.AutoEstop
import PatrolFleet.Supervisor.Commands
import PatrolFleet.Supervisor.Tallies
import PatrolFleet.Supervisor.Recovery
import PatrolFleet.Supervisor.Messages
import PatrolFleet.Supervisor.Independence
import PatrolFleet.Execution.Success
import PatrolFleet.Execution.Goals
import PatrolFleet.Execution.Evidence
import PatrolFleet.Mapping.PoseJump
import PatrolFleet.Mapping.Alarms
import PatrolFleet.Heartbeat.Labels
import PatrolFleet.MergeMap.Coverage
import PatrolFleet.MergeMap.Updates
import PatrolFleet.MergeMap.OfflineRuns
import PatrolFleet.MergeMap.Agreement
import PatrolFleet.Fleet.Rows
import PatrolFleet.Restart.Identifiers
import PatrolFleet.Patrol.Accounting
import PatrolFleet.Fleet.Answers
import PatrolFleet.Localization.Interlock
import PatrolFleet.Fleet.Incidents
import PatrolFleet.Gate.Holding
import PatrolFleet.Inspection.Starvation
import PatrolFleet.Scheduler.Reservations
import PatrolFleet.Supervisor.Pacing
