import PatrolFleet.Interfaces
import PatrolFleet.Lib.UnorderedMap

/-!
The node `system_readiness_supervisor`. A callback is one function on the state;
`now` is what the node's clock returns during it. The requests that a client has
sent and that have no response yet are part of the state.
-/

set_option autoImplicit false

namespace PatrolFleet.Supervisor

/-- The parameters of the node, with the defaults it declares. -/
structure Config where
  robotIds : List String := ["robot1", "robot2"]
  startupRetryPeriod : Time := seconds 5
  resetRetryPeriod : Time := seconds 5
  pollTimeout : Time := seconds 5
  deriving DecidableEq

inductive RobotPhase where
  | waitingForInputs
  | idle
  | polling
  | startupPending
  | resetPending
  deriving DecidableEq

structure RobotSupervisor where
  phase : RobotPhase := .waitingForInputs
  mapReceived : Bool := false
  tfAvailable : Bool := false
  lifecycleServiceAvailable : Bool := false
  confirmedActive : Bool := false
  lastStartupAttempt : Time := 0
  lastResetAttempt : Time := 0
  pollStartedAt : Time := 0
  pollGeneration : Nat := 0
  deriving DecidableEq

def nav2NodeNames : List String :=
  ["controller_server", "smoother_server", "planner_server", "behavior_server", "bt_navigator",
    "waypoint_follower"]

/-- The fields of an `OccupancyGrid` that `map_callback` reads. -/
structure MapInfo where
  width : Nat
  height : Nat
  resolution : Rat
  deriving DecidableEq

namespace LifecycleState

def primaryStateUnconfigured : UInt8 := 1
def primaryStateActive : UInt8 := 3

end LifecycleState

/-- The state id of a `GetState` response; `none` if the future holds an exception. -/
abbrev GetState := Option UInt8

inductive ManageCommand where
  | startup
  | reset
  deriving DecidableEq

/-- What the six callbacks of one poll share. -/
structure Tally where
  remaining : Nat := nav2NodeNames.length
  allActive : Bool := true
  allUnconfigured : Bool := true
  queryFailed : Bool := false
  deriving DecidableEq

/-- A poll: the nodes that have not answered, and the tally. `outcomes` is the
history of the answers that were counted. -/
structure Poll where
  waiting : List String := nav2NodeNames
  tally : Tally := {}
  outcomes : List (String × GetState) := []
  deriving DecidableEq

/-- How an attempt to poll a robot ended. -/
inductive Conclusion where
  | completed (outcomes : List (String × GetState))
  | abandoned
  | refused
  deriving DecidableEq

structure State where
  robots : UnorderedMap String RobotSupervisor
  hasPublishedReady : Bool := false
  lastPublishedReady : Bool := false
  polls : UnorderedMap (String × Nat) Poll := ∅
  /-- The `ManageLifecycleNodes` requests without a response. -/
  commands : List (String × ManageCommand) := []
  /-- The messages on `/system/ready`, newest first. -/
  ready : List Bool := []
  /-- The history of the polls that ended, newest first. No callback reads it. -/
  concluded : List (String × Conclusion) := []

/-- What `check_readiness` finds of a robot: the transform from its base to its
odometry frame, its lifecycle manager and the `get_state` services that are ready. -/
structure Observation where
  canTransform : Bool
  manageReady : Bool
  stateReady : List String
  deriving DecidableEq

namespace State

def findRobot (robotId : String) (s : State) : Option RobotSupervisor := s.robots.lookup robotId

def setRobot (robotId : String) (robot : RobotSupervisor) (s : State) : State :=
  { s with robots := s.robots.insert robotId robot }

def conclude (robotId : String) (conclusion : Conclusion) (s : State) : State :=
  { s with concluded := (robotId, conclusion) :: s.concluded }

end State

/-- The constructor has created the clients of the configured robots. -/
def hasClients (cfg : Config) (robotId : String) : Bool := cfg.robotIds.contains robotId

def publishReady (ready : Bool) (s : State) : State :=
  if s.hasPublishedReady && s.lastPublishedReady == ready then s
  else { s with hasPublishedReady := true, lastPublishedReady := ready, ready := ready :: s.ready }

def emplace (robots : UnorderedMap String RobotSupervisor) (robotId : String) :
    UnorderedMap String RobotSupervisor :=
  if robotId ∈ robots then robots else robots.insert robotId {}

def State.init (cfg : Config) : State :=
  publishReady false { robots := cfg.robotIds.foldl emplace ∅ }

def MapInfo.valid (info : MapInfo) : Bool :=
  decide (0 < info.width) && decide (0 < info.height) && decide (0 < info.resolution)

def mapCallback (robotId : String) (message : MapInfo) (s : State) : State :=
  match s.findRobot robotId with
  | none => s
  | some robot => s.setRobot robotId { robot with mapReceived := message.valid }

def updateInputReadiness (cfg : Config) (robotId : String) (o : Observation)
    (robot : RobotSupervisor) : RobotSupervisor :=
  { robot with
    tfAvailable := o.canTransform
    lifecycleServiceAvailable := hasClients cfg robotId && o.manageReady }

def RobotSupervisor.inputsReady (robot : RobotSupervisor) : Bool :=
  robot.mapReceived && robot.tfAvailable && robot.lifecycleServiceAvailable

/-! ### Polls -/

def statesReady (o : Observation) : Bool := nav2NodeNames.all fun name => o.stateReady.contains name

def startPoll (robotId : String) (robot : RobotSupervisor) (now : Time) (s : State) : State :=
  let generation := robot.pollGeneration + 1
  let robot := { robot with
    phase := .polling
    pollStartedAt := now
    pollGeneration := generation }
  { s.setRobot robotId robot with polls := s.polls.insert (robotId, generation) {} }

def pollLifecycleStates (cfg : Config) (robotId : String) (o : Observation) (now : Time)
    (s : State) : State :=
  match s.findRobot robotId with
  | none => s
  | some robot =>
    if !hasClients cfg robotId then s
    else if !statesReady o then s.conclude robotId .refused
    else startPoll robotId robot now s

/-! ### Commands

`request_nav2_startup` and `request_nav2_reset` differ in the phase they enter and
in the attempt they remember. -/

namespace ManageCommand

def retryPeriod (cfg : Config) : ManageCommand → Time
  | startup => cfg.startupRetryPeriod
  | reset => cfg.resetRetryPeriod

def lastAttempt (robot : RobotSupervisor) : ManageCommand → Time
  | startup => robot.lastStartupAttempt
  | reset => robot.lastResetAttempt

/-- The time since the last attempt; before the first one, the whole period. -/
def elapsed (cfg : Config) (now : Time) (robot : RobotSupervisor) (command : ManageCommand) :
    Time :=
  if command.lastAttempt robot > 0 then now - command.lastAttempt robot
  else command.retryPeriod cfg

def attempt (now : Time) (robot : RobotSupervisor) : ManageCommand → RobotSupervisor
  | startup => { robot with phase := .startupPending, lastStartupAttempt := now }
  | reset => { robot with phase := .resetPending, lastResetAttempt := now }

end ManageCommand

def requestNav2 (command : ManageCommand) (cfg : Config) (robotId : String) (manageReady : Bool)
    (now : Time) (s : State) : State :=
  match s.findRobot robotId with
  | none => s
  | some robot =>
    if command.elapsed cfg now robot < command.retryPeriod cfg then
      s.setRobot robotId { robot with phase := .idle }
    else if !(hasClients cfg robotId && manageReady) then
      s.setRobot robotId { robot with phase := .idle }
    else
      { s.setRobot robotId (command.attempt now robot) with
        commands := (robotId, command) :: s.commands }

def requestNav2Startup : Config → String → Bool → Time → State → State := requestNav2 .startup

def requestNav2Reset : Config → String → Bool → Time → State → State := requestNav2 .reset

/-- The callback of either command; its response is only logged. -/
def commandResponseCallback (robotId : String) (s : State) : State :=
  match s.findRobot robotId with
  | none => s
  | some robot => s.setRobot robotId { robot with phase := .idle }

def finishPoll (cfg : Config) (robotId : String) (allActive allUnconfigured queryFailed : Bool)
    (manageReady : Bool) (now : Time) (s : State) : State :=
  match s.findRobot robotId with
  | none => s
  | some robot =>
    if queryFailed then
      s.setRobot robotId { robot with confirmedActive := false, phase := .idle }
    else if allActive then
      s.setRobot robotId { robot with confirmedActive := true, phase := .idle }
    else
      let s := s.setRobot robotId { robot with confirmedActive := false }
      if allUnconfigured then requestNav2Startup cfg robotId manageReady now s
      else requestNav2Reset cfg robotId manageReady now s

def Tally.count (future : GetState) (tally : Tally) : Tally :=
  match future with
  | some stateId => { tally with
      remaining := tally.remaining - 1
      allActive := tally.allActive && stateId == LifecycleState.primaryStateActive
      allUnconfigured :=
        tally.allUnconfigured && stateId == LifecycleState.primaryStateUnconfigured }
  | none => ⟨tally.remaining - 1, false, false, true⟩

def Poll.count (nodeName : String) (future : GetState) (poll : Poll) : Poll :=
  { poll with
    tally := poll.tally.count future
    outcomes := (nodeName, future) :: poll.outcomes }

/-- The response of one node to the poll of the given generation. -/
def handleGetStateResponse (cfg : Config) (robotId nodeName : String) (future : GetState)
    (poll : Poll) (generation : Nat) (manageReady : Bool) (now : Time) (s : State) :
    Poll × State :=
  match s.findRobot robotId with
  | none => (poll, s)
  | some robot =>
    if robot.pollGeneration ≠ generation then (poll, s)
    else
      let poll := poll.count nodeName future
      if poll.tally.remaining ≠ 0 then (poll, s)
      else
        (poll, finishPoll cfg robotId poll.tally.allActive poll.tally.allUnconfigured
          poll.tally.queryFailed manageReady now (s.conclude robotId (.completed poll.outcomes)))

/-! ### The tick -/

def pollTimedOut (cfg : Config) (now : Time) (robot : RobotSupervisor) : Bool :=
  robot.phase == .polling && decide (cfg.pollTimeout < now - robot.pollStartedAt)

/-- The watchdog of `check_readiness`. -/
def abandonPoll (cfg : Config) (robotId : String) (now : Time) (robot : RobotSupervisor)
    (s : State) : RobotSupervisor × State :=
  if pollTimedOut cfg now robot then
    ({ robot with pollGeneration := robot.pollGeneration + 1, phase := .idle },
      s.conclude robotId .abandoned)
  else (robot, s)

/-- The body of the loop of `check_readiness`: whether the robot lets `all_ready`
stand, and the next state. -/
def checkRobot (cfg : Config) (now : Time) (robotId : String) (o : Observation) (s : State) :
    Bool × State :=
  match s.findRobot robotId with
  | none => (false, s)
  | some robot =>
    let robot := updateInputReadiness cfg robotId o robot
    if !robot.inputsReady then
      (false, s.setRobot robotId { robot with phase := .waitingForInputs })
    else
      let (robot, s) := abandonPoll cfg robotId now robot s
      let robot :=
        if robot.phase = .waitingForInputs then { robot with phase := .idle } else robot
      let s := s.setRobot robotId robot
      if robot.phase = .idle then (robot.confirmedActive, pollLifecycleStates cfg robotId o now s)
      else (robot.confirmedActive, s)

def checkRobots (cfg : Config) (now : Time) : List (String × Observation) → State → Bool × State
  | [], s => (true, s)
  | (robotId, o) :: visits, s =>
    let (robotReady, s) := checkRobot cfg now robotId o s
    let (allReady, s) := checkRobots cfg now visits s
    (robotReady && allReady, s)

def checkReadiness (cfg : Config) (now : Time) (visits : List (String × Observation)) (s : State) :
    State :=
  if now ≤ 0 then publishReady false s
  else
    let (allReady, s) := checkRobots cfg now visits s
    publishReady allReady s

end PatrolFleet.Supervisor
