import PatrolFleet.Execution.Robot
import PatrolFleet.Fleet.Dropout
import PatrolFleet.Lib.Relay
import PatrolFleet.Mapping.PoseJump
import PatrolFleet.Scheduler.Readings

/-!
The verdicts of `pose_jump_watchdog` on one robot, on their way to the scheduler:
through the robot's heartbeat node and the fleet manager. What the other robots
send, and every other callback of the nodes, is free.
-/

set_option autoImplicit false

namespace PatrolFleet.Localization

open Execution (overrun)
open Scheduler (ActiveMission)

structure Config (K : Type) [One K] where
  robotId : String := "robot1"
  watchdog : Mapping.Config K := {}
  heartbeat : Heartbeat.Config := { robotId }
  fleet : Fleet.Config := {}
  scheduler : Scheduler.Config := {}

/-- A message or the state of a node with the verdicts that it goes back to. These are a
history: no callback reads them. -/
abbrev Resting : Type → Type := Relay.Resting Bool

structure World (K : Type) where
  watchdog : Mapping.State K
  /-- On the way to the heartbeat node, oldest first. -/
  alarms : List (Resting Bool)
  heartbeat : Resting Heartbeat.State
  /-- On the way to the fleet manager. -/
  heartbeats : List (Resting RobotHeartbeat)
  fleet : Resting Fleet.State
  /-- On the way to the scheduler. -/
  fleetStates : List (Resting FleetState)
  scheduler : Resting Scheduler.World

inductive Event (K : Type) where
  | check (tick : Mapping.Tick K)
  | localizationOk
  | patrolStatus (status : String)
  | missionType (data : String)
  | publishHeartbeat (now : Time)
  | heartbeat (now : Time)
  | fleet (e : Fleet.Callback)
  | fleetState (now : Time) (visit : List (Sigma fun _ : String => ActiveMission))
  | scheduler (e : Scheduler.Event)
  | alarmLost
  | heartbeatLost
  | fleetStateLost

/-- A heartbeat of the robot. -/
def isHeartbeatOf (robotId : String) : Fleet.Callback → Bool
  | .other (.heartbeat id _ _) => id = robotId
  | _ => false

/-- The fleet states that were published between two states of the fleet manager. -/
def published (s t : Fleet.State) : List FleetState :=
  t.ticks.take (t.ticks.length - s.ticks.length)

namespace World

variable {K : Type} [Field K] [LinearOrder K]

def step (cfg : Config K) (w : World K) : Event K → Option (World K)
  | .check tick =>
    let watchdog := Mapping.check cfg.watchdog w.watchdog tick
    let messages := watchdog.published.take
      (watchdog.published.length - w.watchdog.published.length)
    some { w with
      watchdog
      alarms := w.alarms ++ Relay.announce w.watchdog.published messages }
  | .localizationOk =>
    match w.alarms with
    | [] => none
    | m :: queue => some { w with
        alarms := queue
        heartbeat :=
          ⟨Heartbeat.localizationOkCallback m.value w.heartbeat.value, m.readings⟩ }
  | .patrolStatus status => some { w with heartbeat := { w.heartbeat with
      value := Heartbeat.patrolStatusCallback status w.heartbeat.value } }
  | .missionType data => some { w with heartbeat := { w.heartbeat with
      value := Heartbeat.missionTypeCallback data w.heartbeat.value } }
  | .publishHeartbeat now => some { w with heartbeats := w.heartbeats ++
      [⟨Heartbeat.publishHeartbeat cfg.heartbeat now w.heartbeat.value, w.heartbeat.readings⟩] }
  | .heartbeat now =>
    match w.heartbeats with
    | [] => none
    | m :: queue => some { w with
        heartbeats := queue
        fleet := ⟨Fleet.heartbeatCallback cfg.robotId m.value now w.fleet.value, m.readings⟩ }
  | .fleet e =>
    if isHeartbeatOf cfg.robotId e then none
    else
      let fleet := w.fleet.value.call cfg.fleet e
      some { w with
        fleet := { w.fleet with value := fleet }
        fleetStates := w.fleetStates ++
          (published w.fleet.value fleet).reverse.map (⟨·, w.fleet.readings⟩) }
  | .fleetState now visit =>
    match w.fleetStates with
    | [] => none
    | m :: queue =>
      (w.scheduler.value.step cfg.scheduler (.fleetState m.value now visit)).map fun scheduler =>
        { w with fleetStates := queue, scheduler := ⟨scheduler, m.readings⟩ }
  | .scheduler e =>
    if e.hearsFleetState.isSome then none
    else (w.scheduler.value.step cfg.scheduler e).map fun scheduler =>
      { w with scheduler := { w.scheduler with value := scheduler } }
  | .alarmLost => (overrun 1 w.alarms).map fun alarms => { w with alarms }
  | .heartbeatLost => (overrun 10 w.heartbeats).map fun heartbeats => { w with heartbeats }
  | .fleetStateLost => (overrun 10 w.fleetStates).map fun fleetStates => { w with fleetStates }

end World

/-- The watchdog publishes its first verdict when it starts. -/
def machine {K : Type} [Field K] [LinearOrder K] (cfg : Config K) (startedAt : Time)
    (fleet : Fleet.State) : Machine (World K) (Event K) where
  init :=
    { watchdog := Mapping.State.init
      alarms := [⟨true, [true]⟩]
      heartbeat := ⟨Heartbeat.State.init cfg.heartbeat, []⟩
      heartbeats := []
      fleet := ⟨fleet, []⟩
      fleetStates := []
      scheduler := ⟨⟨Scheduler.State.init startedAt, []⟩, []⟩ }
  step := World.step cfg

/-- In the state `w` the scheduler sends the mission `d` on the event `e`. -/
def World.Dispatches {K : Type} [One K] (cfg : Config K) (w : World K) (e : Event K)
    (d : Scheduler.Dispatch) : Prop :=
  ∃ now serviceIsReady, e = .scheduler (.processQueue now serviceIsReady) ∧
    (Scheduler.processQueue cfg.scheduler now serviceIsReady w.scheduler.value.node).2 = some d

/-- The fleet state that the scheduler goes by has the robot's localization as not ok. -/
def World.Alarmed {K : Type} [One K] (cfg : Config K) (w : World K) : Prop :=
  ∃ robot ∈ w.scheduler.value.node.latestFleetState.robots,
    robot.robotId = cfg.robotId ∧ robot.localizationOk = false

/-- At the tick the watchdog ends an alarm, the hold time after the last jump. -/
def World.Releases {K : Type} [One K] (cfg : Config K) (w : World K) (tick : Mapping.Tick K) :
    Prop :=
  w.watchdog.localizationOk = false ∧
    ∃ jumpAt, w.watchdog.lastJumpAt = some jumpAt ∧ cfg.watchdog.hold ≤ tick.now - jumpAt

end PatrolFleet.Localization
