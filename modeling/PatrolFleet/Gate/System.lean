import Mathlib.Logic.Function.Basic
import PatrolFleet.Coordination.System
import PatrolFleet.Execution.Robot
import PatrolFleet.Lib.Relay
import PatrolFleet.Scheduler.Readings
import PatrolFleet.Supervisor.Messages

/-!
The supervisor, the scheduler and the fleet manager, with the messages of
`/system/ready` on their way to the latter two. The topic keeps one message for each
subscriber; a subscriber that is slow misses the older ones.
-/

set_option autoImplicit false

namespace PatrolFleet.Gate

open Execution (overrun)

structure Config where
  supervisor : Supervisor.Config := {}
  scheduler : Scheduler.Config := {}
  fleet : Fleet.Config := {}

inductive Subscriber where
  | scheduler
  | fleetManager
  deriving DecidableEq

/-- The messages for one node, oldest first, and those that the one it heard last goes
back to, newest first. The latter is a history: no callback reads it. -/
structure Subscription where
  queue : List (Relay.Resting Bool Bool)
  heard : List Bool

structure World where
  supervisor : Supervisor.State
  coordination : Coordination.World
  subscription : Subscriber → Subscription

inductive Event where
  | supervisor (e : Supervisor.Event)
  | systemReady (node : Subscriber)
  | lost (node : Subscriber)
  | coordination (e : Coordination.Event)

/-- The event in which the node processes a message of `/system/ready`. -/
def Subscriber.hears (data : Bool) : Subscriber → Coordination.Event
  | .scheduler => .scheduler (.systemReady data)
  | .fleetManager => .fleet (.systemReady data)

def isSystemReady : Coordination.Event → Bool
  | .scheduler e => e.hearsReady.isSome
  | .fleet (.systemReady _) => true
  | _ => false

namespace World

def step (cfg : Config) (w : World) : Event → Option World
  | .supervisor e =>
    (w.supervisor.step cfg.supervisor e).map fun supervisor =>
      let fresh := supervisor.ready.take (supervisor.ready.length - w.supervisor.ready.length)
      { w with
        supervisor
        subscription := fun node => { w.subscription node with
          queue := (w.subscription node).queue ++ Relay.announce w.supervisor.ready fresh } }
  | .systemReady node =>
    match (w.subscription node).queue with
    | [] => none
    | m :: queue =>
      (w.coordination.step cfg.scheduler cfg.fleet (node.hears m.value)).map fun coordination =>
        { w with
          coordination
          subscription := Function.update w.subscription node ⟨queue, m.readings⟩ }
  | .lost node =>
    (overrun 1 (w.subscription node).queue).map fun queue =>
      { w with subscription :=
          Function.update w.subscription node { w.subscription node with queue } }
  | .coordination e =>
    if isSystemReady e then none
    else (w.coordination.step cfg.scheduler cfg.fleet e).map fun coordination =>
      { w with coordination }

end World

/-- The member `system_ready_` of the node. -/
def systemReady (c : Coordination.World) : Subscriber → Bool
  | .scheduler => c.scheduler.node.systemReady
  | .fleetManager => c.fleet.systemReady

/-- What the node does only when the system is ready, done in a step from `c` to `c'`:
the scheduler sends a request, the fleet manager a START. -/
def Sends (c c' : Coordination.World) : Subscriber → Prop
  | .scheduler => ∃ d, c'.scheduler.calls = d :: c.scheduler.calls
  | .fleetManager => ∃ robotId missionId missionType request,
      c'.fleet.sent = .start robotId missionId missionType request :: c.fleet.sent

/-- The first message is the one that the supervisor publishes when it starts. -/
def machine (cfg : Config) (startedAt : Time) (fleet : Fleet.State) : Machine World Event where
  init :=
    { supervisor := Supervisor.State.init cfg.supervisor
      coordination := (Coordination.machine cfg.scheduler cfg.fleet startedAt fleet).init
      subscription := fun _ => ⟨[⟨false, [false]⟩], []⟩ }
  step := World.step cfg

end PatrolFleet.Gate
