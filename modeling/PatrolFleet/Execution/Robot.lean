import PatrolFleet.Heartbeat.Node
import PatrolFleet.Patrol.OneGoal

/-!
One robot: its patrol manager, its heartbeat node and the topics between them.
The fields from `accepted` on, and what a message has seen, are a history: no
callback reads them.
-/

set_option autoImplicit false

namespace PatrolFleet.Execution

/-- The missions that a patrol manager has accepted are numbered from one; run zero
is the time before. -/
structure Run where
  number : Nat
  missionId : Option String
  deriving DecidableEq

/-- A status that was published. -/
structure Report where
  run : Run
  status : String
  deriving DecidableEq

/-- A message, and the statuses on which it rests, the latest first. -/
structure Stamped (α : Type) where
  value : α
  seen : List Report

/-- Of more messages than a topic is to keep, the oldest may be lost. -/
def overrun {α : Type} (depth : Nat) (queue : List α) : Option (List α) :=
  if depth < queue.length then some queue.tail else none

structure Robot where
  patrol : Patrol.World
  heartbeat : Heartbeat.State
  /-- On the way to the heartbeat node, oldest first. -/
  statuses : List (Stamped String)
  missionTypes : List String
  /-- On the way to the fleet manager. -/
  heartbeats : List (Stamped RobotHeartbeat)
  /-- What the heartbeat node has seen. -/
  seen : List Report
  /-- The latest first; a mission of the autostart timer has no id. -/
  accepted : List (Option String)
  /-- The run that a goal was sent in. -/
  owner : Nat → Run
  /-- The latest first. -/
  log : List Report

namespace Robot

def current (robot : Robot) : Run := ⟨robot.accepted.length, robot.accepted.head?.join⟩

def init (cfg : Patrol.Config) (libm : Patrol.Libm) (hcfg : Heartbeat.Config) : Robot where
  patrol := (Patrol.machine cfg libm).init
  heartbeat := Heartbeat.State.init hcfg
  statuses := [⟨"idle", [⟨⟨0, none⟩, "idle"⟩]⟩]
  missionTypes := []
  heartbeats := []
  seen := []
  accepted := []
  owner := fun _ => ⟨0, none⟩
  log := [⟨⟨0, none⟩, "idle"⟩]

/-- What the patrol manager publishes goes to the heartbeat node. -/
def publish (run : Run) (m : Patrol.Sent) (robot : Robot) : Robot :=
  match m with
  | .status data => { robot with
      log := ⟨run, data⟩ :: robot.log
      statuses := robot.statuses ++ [⟨data, ⟨run, data⟩ :: robot.log⟩] }
  | .missionType data => { robot with missionTypes := robot.missionTypes ++ [data] }
  | _ => robot

/-- The robot after a callback of its patrol manager in the given run. -/
def after (run : Run) (patrol : Patrol.World) (robot : Robot) : Robot :=
  (patrol.node.sent.take (patrol.node.sent.length - robot.patrol.node.sent.length)).foldr
    (publish run) { robot with patrol }

/-- The run that an event is about. -/
def runOf (robot : Robot) : Patrol.Event → Run
  | .goalResponse id _ => robot.owner id
  | .result id _ => robot.owner id
  | .stop => (robot.patrol.node.activeGoalHandle.map robot.owner).getD robot.current
  | .start .. => robot.current
  | .autostart .. => robot.current

/-- A new run begins, and the goal that is sent next is of that run. -/
def begin (missionId : Option String) (robot : Robot) : Robot :=
  { robot with
    accepted := missionId :: robot.accepted
    owner := Function.update robot.owner robot.patrol.node.goalCount
      ⟨robot.accepted.length + 1, missionId⟩ }

end Robot

/-- A call of `execute_mission`. -/
structure Attempt where
  missionType : UInt8
  targetPose : PoseStamped
  hasTarget : Bool
  serverAvailable : Bool
  now : Time

def Attempt.execute (cfg : Patrol.Config) (libm : Patrol.Libm) (attempt : Attempt)
    (node : Patrol.State) : Except String Patrol.State :=
  Patrol.executeMission cfg libm attempt.missionType attempt.targetPose attempt.hasTarget
    attempt.serverAvailable attempt.now node

/-- The call that a callback makes. -/
def attemptOf : Patrol.Event → Option Attempt
  | .start request serverAvailable now =>
    some ⟨request.missionType, request.targetPose, request.hasTarget, serverAvailable, now⟩
  | .autostart serverAvailable now =>
    some ⟨StartMission.missionPatrol, {}, false, serverAvailable, now⟩
  | _ => none

/-- Whether the callback starts a mission. -/
def accepts (cfg : Patrol.Config) (libm : Patrol.Libm) (node : Patrol.State)
    (e : Patrol.Event) : Bool :=
  match attemptOf e with
  | none => false
  | some attempt => (attempt.execute cfg libm node).isOk

namespace Robot

def step (cfg : Patrol.Config) (libm : Patrol.Libm) (missionId : Option String)
    (e : Patrol.Event) (robot : Robot) : Option Robot :=
  (robot.patrol.step cfg libm e).map fun patrol =>
    if accepts cfg libm robot.patrol.node e then
      (robot.begin missionId).after (robot.begin missionId).current patrol
    else robot.after (robot.runOf e) patrol

/-! ### The heartbeat node -/

def receiveStatus (robot : Robot) : Option Robot :=
  match robot.statuses with
  | [] => none
  | m :: queue => some { robot with
      heartbeat := Heartbeat.patrolStatusCallback m.value robot.heartbeat
      statuses := queue
      seen := m.seen }

def receiveMissionType (robot : Robot) : Option Robot :=
  match robot.missionTypes with
  | [] => none
  | data :: queue => some { robot with
      heartbeat := Heartbeat.missionTypeCallback data robot.heartbeat
      missionTypes := queue }

def receiveLocalizationOk (data : Bool) (robot : Robot) : Robot :=
  { robot with heartbeat := Heartbeat.localizationOkCallback data robot.heartbeat }

def sendHeartbeat (cfg : Heartbeat.Config) (now : Time) (robot : Robot) : Robot :=
  { robot with
    heartbeats := robot.heartbeats ++
      [⟨Heartbeat.publishHeartbeat cfg now robot.heartbeat, robot.seen⟩] }

/-! ### Messages that are lost -/

def loseStatus (robot : Robot) : Option Robot :=
  (overrun 1 robot.statuses).map fun statuses => { robot with statuses }

def loseMissionType (robot : Robot) : Option Robot :=
  (overrun 1 robot.missionTypes).map fun missionTypes => { robot with missionTypes }

def loseHeartbeat (robot : Robot) : Option Robot :=
  (overrun 10 robot.heartbeats).map fun heartbeats => { robot with heartbeats }

end Robot

end PatrolFleet.Execution
