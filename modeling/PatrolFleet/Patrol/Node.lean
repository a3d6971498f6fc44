import PatrolFleet.Interfaces

/-!
The node `patrol_manager` of one robot. It turns a start request into a goal of
Nav2's `FollowWaypoints` action and follows that goal. What it publishes and
sends is listed in `sent`.
-/

set_option autoImplicit false

namespace PatrolFleet.Patrol

/-- The parameters of the node. The lists are flattened as [x, y, yaw, ...]. -/
structure Config where
  robotNamespace : String := "robot1"
  frameId : String := robotNamespace ++ "/map"
  numberOfLoops : Int := 0
  goalIndex : Int := 0
  autostart : Bool := true
  waypoints : List Rat :=
    [1 / 2, 0, 0,
      1 / 2, 1 / 2, 157079632679 / 100000000000,
      0, 1 / 2, 314159265359 / 100000000000,
      0, 0, -157079632679 / 100000000000]
  homePose : List Rat := [0, 0, 0]
  chargeDockPose : List Rat := [0, 0, 0]

/-- The functions `std::sin` and `std::cos` on doubles. -/
structure Libm where
  sin : Rat → Rat
  cos : Rat → Rat

namespace FollowWaypoints

structure Goal where
  poses : List PoseStamped
  numberOfLoops : Nat
  goalIndex : Nat
  deriving DecidableEq

inductive ResultCode where
  | unknown | succeeded | canceled | aborted
  deriving DecidableEq

/-- `missedWaypoints` is `none` when no result came with the code. -/
structure WrappedResult where
  code : ResultCode
  missedWaypoints : Option (List Nat)
  deriving DecidableEq

end FollowWaypoints

/-- Goals are named by the order in which they are sent. -/
inductive Sent where
  | status (data : String)
  | missionType (data : String)
  | goal (id : Nat) (goal : FollowWaypoints.Goal)
  | cancelGoal (id : Nat)
  deriving DecidableEq

structure State where
  patrolActive : Bool
  activeGoalHandle : Option Nat
  goalCount : Nat
  /-- The latest first. -/
  sent : List Sent

def State.send (s : State) (message : Sent) : State := { s with sent := message :: s.sent }

def publishStatus (status : String) (s : State) : State := s.send (.status status)

def State.init : State :=
  publishStatus "idle" ⟨false, none, 0, []⟩

/-! ### Poses -/

def poseFromXyzYaw (cfg : Config) (libm : Libm) (now : Time) (x y yaw : Rat) : PoseStamped where
  stamp := now
  frameId := cfg.frameId
  position := ⟨x, y, 0⟩
  orientation := ⟨0, 0, libm.sin (yaw * (1 / 2)), libm.cos (yaw * (1 / 2))⟩

def finalizeTargetPose (cfg : Config) (now : Time) (requested : PoseStamped) : PoseStamped :=
  { requested with
    stamp := now
    frameId := if requested.frameId.isEmpty then cfg.frameId else requested.frameId }

/-- The loop of `build_waypoints`. -/
def waypointPoses (cfg : Config) (libm : Libm) (now : Time) : List Rat → List PoseStamped
  | x :: y :: yaw :: values =>
    poseFromXyzYaw cfg libm now x y yaw :: waypointPoses cfg libm now values
  | _ => []

def buildWaypoints (cfg : Config) (libm : Libm) (now : Time) :
    Except String (List PoseStamped) :=
  if cfg.waypoints.isEmpty then .error "The waypoint list is empty"
  else if cfg.waypoints.length % 3 ≠ 0 then
    .error "Waypoints must be flattened as [x, y, yaw, ...]"
  else .ok (waypointPoses cfg libm now cfg.waypoints)

/-! ### Starting a mission -/

def missionTypeToString (missionType : UInt8) : String :=
  if missionType = StartMission.missionPatrol then "patrol"
  else if missionType = StartMission.missionGoTo then "go_to"
  else if missionType = StartMission.missionReturnHome then "return_home"
  else if missionType = StartMission.missionCharge then "charge"
  else if missionType = StartMission.missionInspect then "inspect"
  else "unknown"

/-- The case `MISSION_PATROL` of `execute_mission`. -/
def patrolGoal (cfg : Config) (libm : Libm) (now : Time) :
    Except String FollowWaypoints.Goal :=
  match buildWaypoints cfg libm now with
  | .error what => .error what
  | .ok poses =>
    if cfg.numberOfLoops < 0 ∨ cfg.goalIndex < 0 then
      .error "number_of_loops and goal_index cannot be negative"
    else if cfg.goalIndex.toNat ≥ poses.length then .error "goal_index exceeds waypoint count"
    else .ok ⟨poses, cfg.numberOfLoops.toNat % UInt32.size, cfg.goalIndex.toNat % UInt32.size⟩

/-- The cases `MISSION_RETURN_HOME` and `MISSION_CHARGE`, by the pose they are
configured with and the text of their error. -/
def placeGoal (cfg : Config) (libm : Libm) (now : Time) (values : List Rat) (error : String)
    (targetPose : PoseStamped) (hasTarget : Bool) : Except String FollowWaypoints.Goal :=
  if hasTarget then .ok ⟨[finalizeTargetPose cfg now targetPose], 0, 0⟩
  else match values with
    | [x, y, yaw] => .ok ⟨[poseFromXyzYaw cfg libm now x y yaw], 0, 0⟩
    | _ => .error error

/-- The switch of `execute_mission`. -/
def missionGoal (cfg : Config) (libm : Libm) (missionType : UInt8) (targetPose : PoseStamped)
    (hasTarget : Bool) (now : Time) : Except String FollowWaypoints.Goal :=
  if missionType = StartMission.missionPatrol then patrolGoal cfg libm now
  else if missionType = StartMission.missionGoTo ∨ missionType = StartMission.missionInspect then
    if !hasTarget then .error "this mission_type requires a target_pose"
    else .ok ⟨[finalizeTargetPose cfg now targetPose], 0, 0⟩
  else if missionType = StartMission.missionReturnHome then
    placeGoal cfg libm now cfg.homePose "no target_pose given and no valid configured home_pose"
      targetPose hasTarget
  else if missionType = StartMission.missionCharge then
    placeGoal cfg libm now cfg.chargeDockPose
      "no target_pose given and no valid configured charge_dock_pose" targetPose hasTarget
  else .error "unsupported mission_type"

/-- `serverAvailable` is what `wait_for_action_server` returns. -/
def sendGoal (goal : FollowWaypoints.Goal) (serverAvailable : Bool) (s : State) : State :=
  let s := publishStatus "waiting_for_nav2" s
  if !serverAvailable then publishStatus "error" s
  else
    let s := publishStatus "sending_goal" s
    { s.send (.goal s.goalCount goal) with goalCount := s.goalCount + 1 }

/-- The error text, or the state after a return of true. -/
def executeMission (cfg : Config) (libm : Libm) (missionType : UInt8)
    (targetPose : PoseStamped) (hasTarget serverAvailable : Bool) (now : Time) (s : State) :
    Except String State :=
  if s.patrolActive then .error "Patrol mission is already active"
  else match missionGoal cfg libm missionType targetPose hasTarget now with
    | .error what => .error what
    | .ok goal =>
      .ok (sendGoal goal serverAvailable (s.send (.missionType (missionTypeToString missionType))))

def handleStart (cfg : Config) (libm : Libm) (request : StartMission.Request)
    (serverAvailable : Bool) (now : Time) (s : State) : StartMission.Response × State :=
  match executeMission cfg libm request.missionType request.targetPose request.hasTarget
      serverAvailable now s with
  | .ok s => (⟨true, "Mission accepted; " ++
      "execution status will be published on the patrol status topic"⟩, s)
  | .error what => (⟨false, what⟩, s)

/-- The callback of the one-shot autostart timer. -/
def startPatrol (cfg : Config) (libm : Libm) (serverAvailable : Bool) (now : Time) (s : State) :
    State :=
  match executeMission cfg libm StartMission.missionPatrol {} false serverAvailable now s with
  | .ok s => s
  | .error _ => s

def handleStop (s : State) : Trigger.Response × State :=
  match s.patrolActive, s.activeGoalHandle with
  | true, some id =>
    (⟨true, "Patrol cancellation request accepted; " ++
        "final status will be published on the patrol status topic"⟩,
      (publishStatus "canceling" s).send (.cancelGoal id))
  | _, _ => (⟨false, "No active patrol mission"⟩, s)

/-! ### The goal -/

/-- The handle is `none` when the server has rejected the goal. -/
def goalResponseCallback (goalHandle : Option Nat) (s : State) : State :=
  match goalHandle with
  | none => publishStatus "rejected" { s with patrolActive := false }
  | some id =>
    publishStatus "active" { s with activeGoalHandle := some id, patrolActive := true }

/-- The terminal status that a result is published as. -/
def terminalStatus (result : FollowWaypoints.WrappedResult) : String :=
  match result.code with
  | .succeeded =>
    match result.missedWaypoints with
    | some (_ :: _) => "aborted"
    | _ => "completed"
  | .aborted => "aborted"
  | .canceled => "canceled"
  | .unknown => "error"

def resultCallback (result : FollowWaypoints.WrappedResult) (s : State) : State :=
  publishStatus (terminalStatus result) { s with patrolActive := false, activeGoalHandle := none }

end PatrolFleet.Patrol
