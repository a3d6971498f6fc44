import PatrolFleet.Coordination.System
import PatrolFleet.Execution.Robot
import PatrolFleet.Fleet.Effects

/-!
The scheduler, the fleet manager and the robots, with the requests to the patrol
managers and the topics that report back.
-/

set_option autoImplicit false

namespace PatrolFleet.Execution

open Scheduler (ActiveMission)

structure Config where
  scheduler : Scheduler.Config := {}
  fleet : Fleet.Config := {}
  patrol : String → Patrol.Config := fun robotId => { robotNamespace := robotId }
  heartbeat : String → Heartbeat.Config := fun robotId => { robotId }
  libm : Patrol.Libm

/-- A fleet state, and the statuses of each robot on which it rests. -/
structure Snapshot where
  message : FleetState
  seen : String → List Report

structure World where
  coordination : Coordination.World
  /-- The requests that no patrol manager has handled. -/
  commands : List Fleet.Sent
  robots : String → Robot
  /-- On the way to the scheduler, oldest first. -/
  fleetStates : List Snapshot
  /-- What the fleet manager has seen of each robot. -/
  fleetSeen : String → List Report
  /-- What the scheduler has seen of each robot. -/
  observed : String → List Report

inductive Event where
  | coordination (e : Coordination.Event)
  | fleetState (now : Time) (visit : List (Sigma fun _ : String => ActiveMission))
  | heartbeat (robotId : String) (now : Time)
  | start (robotId missionId missionType : String) (request : StartMission.Request)
      (serverAvailable : Bool) (now : Time)
  | stop (robotId missionId : String)
  | patrol (robotId : String) (e : Patrol.Event)
  | status (robotId : String)
  | missionType (robotId : String)
  | localizationOk (robotId : String) (data : Bool)
  | publishHeartbeat (robotId : String) (now : Time)
  | statusLost (robotId : String)
  | missionTypeLost (robotId : String)
  | heartbeatLost (robotId : String)
  | fleetStateLost

/-- The callbacks whose message comes from a subscription. -/
def fromSubscription : Coordination.Event → Bool
  | .scheduler (.fleetState ..) => true
  | .fleet (.heartbeat ..) => true
  | _ => false

/-- The callbacks of a patrol manager that answer a request. -/
def fromRequest : Patrol.Event → Bool
  | .start .. => true
  | .stop => true
  | _ => false

namespace World

/-- A message of the fleet manager goes to whom it is for. -/
def route (m : Fleet.Sent) (w : World) : World :=
  match m with
  | .start .. => { w with commands := m :: w.commands }
  | .stop .. => { w with commands := m :: w.commands }
  | .fleetState message => { w with
      fleetStates := w.fleetStates ++ [⟨message, w.fleetSeen⟩] }
  | _ => w

def setRobot (robotId : String) (robot : Robot) (w : World) : World :=
  { w with robots := Function.update w.robots robotId robot }

/-- The scheduler and the fleet manager after a step of theirs. -/
def advance (c : Coordination.World) (w : World) : World :=
  (Fleet.sentSince w.coordination.fleet c.fleet).foldr route { w with coordination := c }

def step (cfg : Config) (w : World) : Event → Option World
  | .coordination e =>
    if fromSubscription e then none
    else (w.coordination.step cfg.scheduler cfg.fleet e).map w.advance
  | .fleetState now visit =>
    match w.fleetStates with
    | [] => none
    | snapshot :: queue =>
      (w.coordination.step cfg.scheduler cfg.fleet
        (.scheduler (.fleetState snapshot.message now visit))).map fun coordination =>
          { w with coordination, fleetStates := queue, observed := snapshot.seen }
  | .heartbeat robotId now =>
    match (w.robots robotId).heartbeats with
    | [] => none
    | m :: queue =>
      if robotId ∈ cfg.fleet.robotIds then
        (w.coordination.step cfg.scheduler cfg.fleet
          (.fleet (.heartbeat robotId m.value now))).map fun coordination =>
            { w.setRobot robotId { w.robots robotId with heartbeats := queue } with
              coordination
              fleetSeen := Function.update w.fleetSeen robotId m.seen }
      else none
  | .start robotId missionId missionType request serverAvailable now =>
    if .start robotId missionId missionType request ∈ w.commands then
      ((w.robots robotId).step (cfg.patrol robotId) cfg.libm (some missionId)
        (.start request serverAvailable now)).map fun robot =>
          { w.setRobot robotId robot with
            commands := w.commands.erase (.start robotId missionId missionType request) }
    else none
  | .stop robotId missionId =>
    if .stop robotId missionId ∈ w.commands then
      ((w.robots robotId).step (cfg.patrol robotId) cfg.libm none .stop).map fun robot =>
        { w.setRobot robotId robot with commands := w.commands.erase (.stop robotId missionId) }
    else none
  | .patrol robotId e =>
    if fromRequest e then none
    else ((w.robots robotId).step (cfg.patrol robotId) cfg.libm none e).map (w.setRobot robotId)
  | .status robotId => (w.robots robotId).receiveStatus.map (w.setRobot robotId)
  | .missionType robotId => (w.robots robotId).receiveMissionType.map (w.setRobot robotId)
  | .localizationOk robotId data =>
    some (w.setRobot robotId ((w.robots robotId).receiveLocalizationOk data))
  | .publishHeartbeat robotId now =>
    some (w.setRobot robotId ((w.robots robotId).sendHeartbeat (cfg.heartbeat robotId) now))
  | .statusLost robotId => (w.robots robotId).loseStatus.map (w.setRobot robotId)
  | .missionTypeLost robotId => (w.robots robotId).loseMissionType.map (w.setRobot robotId)
  | .heartbeatLost robotId => (w.robots robotId).loseHeartbeat.map (w.setRobot robotId)
  | .fleetStateLost => (overrun 10 w.fleetStates).map fun fleetStates => { w with fleetStates }

end World

def machine (cfg : Config) (startedAt : Time) (fleet : Fleet.State) : Machine World Event where
  init :=
    { coordination := (Coordination.machine cfg.scheduler cfg.fleet startedAt fleet).init
      commands := []
      robots := fun robotId => Robot.init (cfg.patrol robotId) cfg.libm (cfg.heartbeat robotId)
      fleetStates := []
      fleetSeen := fun _ => []
      observed := fun _ => [] }
  step := World.step cfg

end PatrolFleet.Execution
