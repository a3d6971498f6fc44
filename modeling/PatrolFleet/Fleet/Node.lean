import PatrolFleet.Interfaces
import PatrolFleet.Lib.UnorderedMap

/-!
The node `fleet_manager`: its records of the robots, its services and the audit
trail. What it publishes and sends to its service clients is listed in `sent`.
-/

set_option autoImplicit false

namespace PatrolFleet.Fleet

structure Config where
  robotIds : List String := ["robot1", "robot2"]
  heartbeatTimeout : Time := seconds 3
  offlineGrace : Time := seconds 20
  autoEstopAfterOffline : Time := 0
  patrolRobot : String := "robot1"
  incidentAutoDispatchMinSeverity : Int := RobotIncident.severityHigh.toNat
  incidentAutoDispatchPriority : Int := 100

structure RobotRecord where
  robotId : String
  receivedHeartbeat : Bool := false
  state : UInt8 := RobotHeartbeat.stateUnknown
  batteryPercentage : Rat := 0
  currentMission : String := ""
  localizationOk : Bool := true
  lastHeartbeat : Time := 0
  offlineSince : Time := 0
  autoEstopped : Bool := false
  deriving DecidableEq

/-- A row of the table `mission_events`. -/
structure MissionEvent where
  missionId : String
  robotId : String
  missionType : String
  command : String
  status : String
  detail : String
  deriving DecidableEq

/-- A row of the table `incidents`. -/
structure IncidentRow where
  incidentId : String
  robotId : String
  severity : UInt8
  category : String
  description : String
  deriving DecidableEq

/-- The database of the node, with the rows in the order of their insertion. -/
structure MissionStore where
  isOpen : Bool := true
  missionEvents : List MissionEvent := []
  incidents : List IncidentRow := []

inductive Sent where
  | start (robotId missionId missionType : String) (request : StartMission.Request)
  | stop (robotId missionId : String)
  | estop (robotId : String) (active : Bool)
  | fleetState (message : FleetState)
  | incident (message : RobotIncident)
  | queueMission (incidentId : String) (request : QueueMission.Request)
  deriving DecidableEq

structure State where
  records : UnorderedMap String RobotRecord
  missionStore : MissionStore
  incidentCounter : Nat
  systemReady : Bool
  /-- The latest first. -/
  sent : List Sent

def missionTypeToEnum (missionType : String) : Option UInt8 :=
  if missionType = "patrol" then some StartMission.missionPatrol
  else if missionType = "go_to" then some StartMission.missionGoTo
  else if missionType = "return_home" then some StartMission.missionReturnHome
  else if missionType = "charge" then some StartMission.missionCharge
  else if missionType = "inspect" then some StartMission.missionInspect
  else none

def missionTypeRequiresTarget (missionType : String) : Bool :=
  missionType = "go_to" || missionType = "inspect"

/-- `unordered_map::emplace`: an entry that is there stays. -/
def addRecord (records : UnorderedMap String RobotRecord) (robotId : String) :
    UnorderedMap String RobotRecord :=
  if robotId ∈ records then records else records.insert robotId { robotId }

/-- The constructor, which throws when no client was made for `patrol_robot`. The
database may have rows of an earlier process: its tables are only made where they are
missing. -/
def State.init (cfg : Config) (missionStore : MissionStore) : Except String State :=
  if cfg.patrolRobot ∈ cfg.robotIds then
    .ok {
      records := cfg.robotIds.foldl addRecord ∅
      missionStore
      incidentCounter := 0
      systemReady := false
      sent := [] }
  else .error ("Invalid patrol_robot parameter: " ++ cfg.patrolRobot)

def State.send (s : State) (message : Sent) : State := { s with sent := message :: s.sent }

def recordMissionEvent (event : MissionEvent) (s : State) : State :=
  if !s.missionStore.isOpen then s
  else { s with missionStore := { s.missionStore with
    missionEvents := s.missionStore.missionEvents ++ [event] } }

def recordIncident (incident : IncidentRow) (s : State) : State :=
  if !s.missionStore.isOpen then s
  else { s with missionStore := { s.missionStore with
    incidents := s.missionStore.incidents ++ [incident] } }

def systemReadyCallback (data : Bool) (s : State) : State := { s with systemReady := data }

def heartbeatCallback (configuredRobotId : String) (message : RobotHeartbeat) (now : Time)
    (s : State) : State :=
  match s.records.lookup configuredRobotId with
  | none => s
  | some record => { s with records := s.records.insert configuredRobotId { record with
      receivedHeartbeat := true
      state := message.state
      batteryPercentage := message.batteryPercentage
      currentMission := message.currentMission
      localizationOk := message.localizationOk
      lastHeartbeat := now } }

def isRobotOnline (cfg : Config) (robotId : String) (now : Time) (s : State) : Bool :=
  match s.records.lookup robotId with
  | none => false
  | some record =>
    record.receivedHeartbeat && decide (now - record.lastHeartbeat ≤ cfg.heartbeatTimeout)

def robotExists (robotId : String) (s : State) : Bool := decide (robotId ∈ s.records)

/-- A service client or publisher was created for each of `robot_ids_`. -/
def hasClient (cfg : Config) (robotId : String) : Bool := cfg.robotIds.contains robotId

/-! ### Commands to the robots -/

def callPatrolStartService (robotId missionId missionType : String) (targetPose : PoseStamped)
    (hasTarget : Bool) (s : State) : State :=
  s.send (.start robotId missionId missionType {
    missionType := (missionTypeToEnum missionType).getD StartMission.missionPatrol
    targetPose
    hasTarget })

def callPatrolStopService (robotId missionId : String) (s : State) : State :=
  s.send (.stop robotId missionId)

/-- What the future of a request to a robot holds when its callback runs. -/
inductive RobotAnswer where
  | response (success : Bool) (message : String)
  | exception (what : String)
  deriving DecidableEq

def RobotAnswer.status : RobotAnswer → String
  | .response true _ => "ACCEPTED_BY_ROBOT"
  | .response false _ => "REJECTED_BY_ROBOT"
  | .exception _ => "FAILED"

def RobotAnswer.detail : RobotAnswer → String
  | .response _ message => message
  | .exception what => what

def startResponseCallback (robotId missionId missionType : String) (answer : RobotAnswer)
    (s : State) : State :=
  recordMissionEvent ⟨missionId, robotId, missionType, "START", answer.status, answer.detail⟩ s

def stopResponseCallback (robotId missionId : String) (answer : RobotAnswer) (s : State) :
    State :=
  recordMissionEvent ⟨missionId, robotId, "", "STOP", answer.status, answer.detail⟩ s

def handleDispatchPatrol (cfg : Config) (serviceIsReady : Bool) (now : Time) (s : State) :
    Trigger.Response × State :=
  if !s.systemReady then (⟨false, "System is not ready for patrol dispatch"⟩, s)
  else if !isRobotOnline cfg cfg.patrolRobot now s then
    (⟨false, "Robot '" ++ cfg.patrolRobot ++ "' is offline"⟩, s)
  else if !serviceIsReady then
    (⟨false, "Patrol start service is unavailable for " ++ cfg.patrolRobot⟩, s)
  else
    (⟨true, "Patrol request accepted and forwarded to " ++ cfg.patrolRobot⟩,
      callPatrolStartService cfg.patrolRobot "manual-dispatch" "patrol" {} false s)

def handleStopPatrol (cfg : Config) (serviceIsReady : Bool) (s : State) :
    Trigger.Response × State :=
  if !serviceIsReady then
    (⟨false, "Patrol stop service is unavailable for " ++ cfg.patrolRobot⟩, s)
  else
    (⟨true, "Patrol cancellation request accepted and forwarded to " ++ cfg.patrolRobot⟩,
      callPatrolStopService cfg.patrolRobot "manual-dispatch" s)

def rejectAssignMission (request : AssignMission.Request) (message : String) (s : State) :
    AssignMission.Response × State :=
  (⟨false, message⟩, recordMissionEvent ⟨request.missionId, request.robotId,
    request.missionType, "START", "REJECTED_BY_FLEET", message⟩ s)

/-- `serviceIsReady` is what the start or stop client of the robot answers. -/
def handleAssignMission (cfg : Config) (request : AssignMission.Request)
    (serviceIsReady : Bool) (now : Time) (s : State) : AssignMission.Response × State :=
  if !robotExists request.robotId s then
    (⟨false, "Unknown robot_id: " ++ request.robotId⟩, s)
  else if !isSupportedMissionType request.missionType then
    (⟨false, "Unsupported mission_type: " ++ request.missionType⟩, s)
  else if request.command ≠ AssignMission.commandStart ∧
      request.command ≠ AssignMission.commandStop then
    (⟨false, "Unsupported mission command"⟩, s)
  else if request.command = AssignMission.commandStart then
    if !s.systemReady then
      rejectAssignMission request "System is not ready for mission dispatch" s
    else if !isRobotOnline cfg request.robotId now s then
      rejectAssignMission request ("Robot '" ++ request.robotId ++ "' is offline") s
    else if missionTypeRequiresTarget request.missionType && !request.hasTarget then
      rejectAssignMission request
        ("mission_type '" ++ request.missionType ++ "' requires a target_pose") s
    else if !hasClient cfg request.robotId then
      rejectAssignMission request ("No patrol start client for " ++ request.robotId) s
    else if !serviceIsReady then
      rejectAssignMission request
        ("Patrol start service unavailable for " ++ request.robotId) s
    else
      let s := callPatrolStartService request.robotId request.missionId request.missionType
        request.targetPose request.hasTarget s
      (⟨true, "Mission request accepted and forwarded to " ++ request.robotId ++
          "; execution status is available on /fleet/state"⟩,
        recordMissionEvent ⟨request.missionId, request.robotId, request.missionType, "START",
          "DISPATCHED", "forwarded to robot by fleet manager"⟩ s)
  else if !hasClient cfg request.robotId then
    (⟨false, "No patrol stop client for " ++ request.robotId⟩, s)
  else if !serviceIsReady then
    (⟨false, "Patrol stop service unavailable for " ++ request.robotId⟩, s)
  else
    (⟨true, "Mission cancellation request accepted and forwarded to " ++ request.robotId ++
        "; final status is available on /fleet/state"⟩,
      callPatrolStopService request.robotId request.missionId s)

/-! ### The state of the fleet -/

def publishEstop (cfg : Config) (robotId : String) (active : Bool) (s : State) : State :=
  if hasClient cfg robotId then s.send (.estop robotId active) else s

/-- One turn of the loop of `publish_fleet_state`. -/
def publishRobot (cfg : Config) (now : Time) (acc : State × List FleetRobotState)
    (robotId : String) : State × List FleetRobotState :=
  let (s, robots) := acc
  match s.records.lookup robotId with
  | none => acc
  | some record =>
    let online := record.receivedHeartbeat &&
      decide (now - record.lastHeartbeat ≤ cfg.heartbeatTimeout)
    let record :=
      if online then { record with offlineSince := 0, autoEstopped := false }
      else if record.offlineSince ≤ 0 then { record with offlineSince := now }
      else record
    let offline : Time := if online then 0 else now - record.offlineSince
    let estop := !online && decide (cfg.autoEstopAfterOffline > 0) &&
      decide (offline ≥ cfg.autoEstopAfterOffline) && !record.autoEstopped
    let record := if estop then { record with autoEstopped := true } else record
    let s := { s with records := s.records.insert robotId record }
    let s := if estop then publishEstop cfg robotId true s else s
    (s, robots ++ [{
      robotId := record.robotId
      online
      confirmedOffline := !online && decide (offline ≥ cfg.offlineGrace)
      state := record.state
      batteryPercentage := record.batteryPercentage
      localizationOk := record.localizationOk
      currentMission := record.currentMission
      lastHeartbeat := record.lastHeartbeat }])

def publishFleetState (cfg : Config) (now : Time) (s : State) : State :=
  let (s, robots) := cfg.robotIds.foldl (publishRobot cfg now) (s, [])
  s.send (.fleetState ⟨now, robots⟩)

def handleEstopAll (cfg : Config) (s : State) : Trigger.Response × State :=
  (⟨true, "E-stop engaged for all robots"⟩,
    cfg.robotIds.foldl (fun s robotId => publishEstop cfg robotId true s) s)

/-- One turn of the loop of `handle_estop_release_all`. -/
def releaseEstop (cfg : Config) (s : State) (robotId : String) : State :=
  let s := publishEstop cfg robotId false s
  match s.records.lookup robotId with
  | none => s
  | some record =>
    { s with records := s.records.insert robotId { record with autoEstopped := false } }

def handleEstopReleaseAll (cfg : Config) (s : State) : Trigger.Response × State :=
  (⟨true, "E-stop released for all robots"⟩, cfg.robotIds.foldl (releaseEstop cfg) s)

/-! ### Incidents -/

def generateIncidentId (s : State) : String × State :=
  ("incident-" ++ toString (s.incidentCounter + 1),
    { s with incidentCounter := s.incidentCounter + 1 })

/-- The request that `dispatch_incident_inspection` builds. -/
def inspectionRequest (cfg : Config) : QueueMission.Request where
  missionType := "inspect"
  priority := cfg.incidentAutoDispatchPriority
  targetPose := {}
  hasTarget := false

def dispatchIncidentInspection (cfg : Config) (incidentId : String) (serviceIsReady : Bool)
    (s : State) : State :=
  if !serviceIsReady then s else s.send (.queueMission incidentId (inspectionRequest cfg))

/-- The response callback of the request that `dispatch_incident_inspection` sends.
An exception and a refusal are only logged. -/
def queueResponseCallback (incidentId : String) (response : QueueMission.Response) (s : State) :
    State :=
  if response.accepted then
    recordMissionEvent ⟨response.missionId, "", "inspect", "QUEUE", "AUTO_QUEUED_FROM_INCIDENT",
      incidentId⟩ s
  else s

def handleReportIncident (cfg : Config) (request : ReportIncident.Request)
    (serviceIsReady : Bool) (now : Time) (s : State) : ReportIncident.Response × State :=
  if !robotExists request.robotId s then
    (⟨false, "", "Unknown robot_id: " ++ request.robotId⟩, s)
  else
    let (incidentId, s) := generateIncidentId s
    let s := recordIncident ⟨incidentId, request.robotId, request.severity, request.category,
      request.description⟩ s
    let s := s.send (.incident ⟨incidentId, request.robotId, now, request.severity,
      request.category, request.description⟩)
    let s :=
      if (request.severity.toNat : Int) ≥ cfg.incidentAutoDispatchMinSeverity then
        dispatchIncidentInspection cfg incidentId serviceIsReady s
      else s
    (⟨true, incidentId, "Incident '" ++ incidentId ++ "' recorded"⟩, s)

end PatrolFleet.Fleet
