import PatrolFleet.Fleet.Node

/-!
The callbacks of the fleet manager as steps, and what `handle_assign_mission`
does with a START.
-/

set_option autoImplicit false

namespace PatrolFleet.Fleet

inductive Event where
  | systemReady (data : Bool)
  | heartbeat (configuredRobotId : String) (message : RobotHeartbeat) (now : Time)
  | publishFleetState (now : Time)
  | dispatchPatrol (serviceIsReady : Bool) (now : Time)
  | stopPatrol (serviceIsReady : Bool)
  | startResponse (robotId missionId missionType : String) (answer : RobotAnswer)
  | stopResponse (robotId missionId : String) (answer : RobotAnswer)
  | estopAll
  | estopReleaseAll
  | reportIncident (request : ReportIncident.Request) (serviceIsReady : Bool) (now : Time)
  | queueResponse (incidentId : String) (response : QueueMission.Response)

/-- Every callback but `handle_assign_mission`. -/
def State.step (cfg : Config) (s : State) : Event → State
  | .systemReady data => systemReadyCallback data s
  | .heartbeat configuredRobotId message now => heartbeatCallback configuredRobotId message now s
  | .publishFleetState now => publishFleetState cfg now s
  | .dispatchPatrol serviceIsReady now => (handleDispatchPatrol cfg serviceIsReady now s).2
  | .stopPatrol serviceIsReady => (handleStopPatrol cfg serviceIsReady s).2
  | .startResponse robotId missionId missionType answer =>
    startResponseCallback robotId missionId missionType answer s
  | .stopResponse robotId missionId answer => stopResponseCallback robotId missionId answer s
  | .estopAll => (handleEstopAll cfg s).2
  | .estopReleaseAll => (handleEstopReleaseAll cfg s).2
  | .reportIncident request serviceIsReady now =>
    (handleReportIncident cfg request serviceIsReady now s).2
  | .queueResponse incidentId response => queueResponseCallback incidentId response s

theorem init_eq {cfg : Config} {missionStore : MissionStore} {s : State}
    (h : State.init cfg missionStore = .ok s) :
    s = ⟨cfg.robotIds.foldl addRecord ∅, missionStore, 0, false, []⟩ := by
  unfold State.init at h
  split at h <;> cases h
  rfl

theorem init_sent {cfg : Config} {missionStore : MissionStore} {s : State}
    (h : State.init cfg missionStore = .ok s) : s.sent = [] := by
  cases init_eq h
  rfl

@[simp] theorem sent_recordMissionEvent (event : MissionEvent) (s : State) :
    (recordMissionEvent event s).sent = s.sent := by
  unfold recordMissionEvent
  split <;> rfl

/-! ### A robot at a tick of `publish_fleet_state` -/

section

variable (cfg : Config) (now : Time) (record : RobotRecord)

def RobotRecord.isOnline : Bool :=
  record.receivedHeartbeat && decide (now - record.lastHeartbeat ≤ cfg.heartbeatTimeout)

/-- The record with the start of the dropout that the robot is in. -/
def RobotRecord.timed : RobotRecord :=
  if record.isOnline cfg now then { record with offlineSince := 0, autoEstopped := false }
  else if record.offlineSince ≤ 0 then { record with offlineSince := now }
  else record

def RobotRecord.estopDue : Bool :=
  !record.isOnline cfg now && decide (cfg.autoEstopAfterOffline > 0) &&
    decide (now - (record.timed cfg now).offlineSince ≥ cfg.autoEstopAfterOffline) &&
    !(record.timed cfg now).autoEstopped

def RobotRecord.observed : RobotRecord :=
  if record.estopDue cfg now then { record.timed cfg now with autoEstopped := true }
  else record.timed cfg now

def RobotRecord.report : FleetRobotState where
  robotId := record.robotId
  online := record.isOnline cfg now
  confirmedOffline := !record.isOnline cfg now &&
    decide (now - (record.timed cfg now).offlineSince ≥ cfg.offlineGrace)
  state := record.state
  batteryPercentage := record.batteryPercentage
  localizationOk := record.localizationOk
  currentMission := record.currentMission
  lastHeartbeat := record.lastHeartbeat

end

theorem publishRobot_none {cfg : Config} {now : Time} {acc : State × List FleetRobotState}
    {robotId : String} (h : acc.1.records.lookup robotId = none) :
    publishRobot cfg now acc robotId = acc := by
  unfold publishRobot
  simp only [h]

theorem publishRobot_some {cfg : Config} {now : Time} {acc : State × List FleetRobotState}
    {robotId : String} {record : RobotRecord} (h : acc.1.records.lookup robotId = some record) :
    publishRobot cfg now acc robotId =
      (let s := { acc.1 with records := acc.1.records.insert robotId (record.observed cfg now) }
        if record.estopDue cfg now then publishEstop cfg robotId true s else s,
      acc.2 ++ [record.report cfg now]) := by
  unfold publishRobot
  simp only [h]
  cases honline : record.isOnline cfg now with
  | true =>
    have hon : (record.receivedHeartbeat &&
        decide (now - record.lastHeartbeat ≤ cfg.heartbeatTimeout)) = true := honline
    simp only [RobotRecord.observed, RobotRecord.estopDue, RobotRecord.timed, RobotRecord.report,
      honline, hon, Bool.not_true, Bool.false_and, Bool.false_eq_true, if_false, if_true]
  | false =>
    have hoff : (record.receivedHeartbeat &&
        decide (now - record.lastHeartbeat ≤ cfg.heartbeatTimeout)) = false := honline
    have htimed : record.timed cfg now =
        if record.offlineSince ≤ 0 then { record with offlineSince := now } else record := by
      simp [RobotRecord.timed, honline]
    simp only [RobotRecord.observed, RobotRecord.estopDue, RobotRecord.report, honline, hoff,
      htimed, Bool.false_eq_true, if_false, Bool.not_false, Bool.true_and]
    split
    · split <;> rfl
    · split <;> rfl

/-- The request that `call_patrol_start_service` makes of a START. -/
def startRequest (request : AssignMission.Request) : StartMission.Request where
  missionType := (missionTypeToEnum request.missionType).getD StartMission.missionPatrol
  targetPose := request.targetPose
  hasTarget := request.hasTarget

/-- The checks that a START has to pass. -/
structure Assignable (cfg : Config) (request : AssignMission.Request) (serviceIsReady : Bool)
    (now : Time) (s : State) : Prop where
  robot : robotExists request.robotId s = true
  supported : isSupportedMissionType request.missionType = true
  systemReady : s.systemReady = true
  online : isRobotOnline cfg request.robotId now s = true
  target : missionTypeRequiresTarget request.missionType = true → request.hasTarget = true
  client : hasClient cfg request.robotId = true
  service : serviceIsReady = true

section

variable {cfg : Config} {request : AssignMission.Request} {serviceIsReady : Bool} {now : Time}
  {s : State}

theorem assignMission_accepts (hc : request.command = AssignMission.commandStart)
    (h : Assignable cfg request serviceIsReady now s) :
    (handleAssignMission cfg request serviceIsReady now s).1.success = true ∧
    (handleAssignMission cfg request serviceIsReady now s).2.sent =
      .start request.robotId request.missionId request.missionType (startRequest request) ::
        s.sent := by
  have htarget : (missionTypeRequiresTarget request.missionType && !request.hasTarget) = false := by
    cases hr : missionTypeRequiresTarget request.missionType with
    | false => rfl
    | true => simp [h.target hr]
  unfold handleAssignMission
  simp [h.robot, h.supported, hc, h.systemReady, h.online, htarget, h.client, h.service,
    callPatrolStartService, State.send, startRequest]

theorem assignMission_refuses (hc : request.command = AssignMission.commandStart)
    (h : ¬ Assignable cfg request serviceIsReady now s) :
    (handleAssignMission cfg request serviceIsReady now s).1.success = false ∧
    (handleAssignMission cfg request serviceIsReady now s).2.sent = s.sent := by
  unfold handleAssignMission
  split
  · exact ⟨rfl, rfl⟩
  rename_i hrobot
  split
  · exact ⟨rfl, rfl⟩
  rename_i hsupported
  split
  · exact ⟨rfl, rfl⟩
  split
  · exact ⟨rfl, sent_recordMissionEvent _ s⟩
  rename_i hready
  split
  · exact ⟨rfl, sent_recordMissionEvent _ s⟩
  rename_i honline
  split
  · exact ⟨rfl, sent_recordMissionEvent _ s⟩
  rename_i htarget
  split
  · exact ⟨rfl, sent_recordMissionEvent _ s⟩
  rename_i hclient
  split
  · exact ⟨rfl, sent_recordMissionEvent _ s⟩
  rename_i hservice
  simp only [Bool.not_eq_true', Bool.not_eq_false, Bool.and_eq_true, not_and] at *
  exact absurd ⟨hrobot, hsupported, hready, honline, htarget, hclient, hservice⟩ h

theorem assignMission_success_iff (hc : request.command = AssignMission.commandStart) :
    (handleAssignMission cfg request serviceIsReady now s).1.success = true ↔
      Assignable cfg request serviceIsReady now s := by
  constructor
  · intro hs
    by_contra hn
    simp [(assignMission_refuses hc hn).1] at hs
  · exact fun h => (assignMission_accepts hc h).1

end

end PatrolFleet.Fleet
