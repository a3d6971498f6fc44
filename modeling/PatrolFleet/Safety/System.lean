import PatrolFleet.Lib.Machine
import PatrolFleet.Safety.Node
import Mathlib.Logic.Function.Basic

/-!
The velocity topics of the robots: which topic each Nav2 node of
`robot_navigation.launch.py` publishes its commands on, and the gates of
`safety_bringup.launch.py` between them and the bases.
-/

set_option autoImplicit false

namespace PatrolFleet.Safety

/-- A `Node` action of a launch file, without what does not concern its topics. -/
structure LaunchNode where
  package : String
  executable : String
  name : String
  remappings : List (String × String) := []
  deriving DecidableEq

/-- A fully qualified topic, `/<ns>/<name>`. -/
structure Topic where
  ns : String
  name : String
  deriving DecidableEq

/-- The topic a node started under the namespace `ns` means by a relative name:
the first remapping of that name applies. -/
def LaunchNode.resolve (node : LaunchNode) (ns topic : String) : Topic :=
  ⟨ns, (node.remappings.lookup topic).getD topic⟩

def controllerServer : LaunchNode where
  package := "nav2_controller"
  executable := "controller_server"
  name := "controller_server"
  remappings := [("cmd_vel", "cmd_vel_nav")]

def behaviorServer : LaunchNode where
  package := "nav2_behaviors"
  executable := "behavior_server"
  name := "behavior_server"

def navigationNodes : List LaunchNode :=
  [controllerServer,
    { package := "nav2_smoother", executable := "smoother_server", name := "smoother_server" },
    { package := "nav2_planner", executable := "planner_server", name := "planner_server" },
    behaviorServer,
    { package := "nav2_bt_navigator", executable := "bt_navigator", name := "bt_navigator" },
    { package := "nav2_waypoint_follower", executable := "waypoint_follower",
      name := "waypoint_follower" },
    { package := "nav2_lifecycle_manager", executable := "lifecycle_manager",
      name := "lifecycle_manager_navigation" }]

/-- The packages of Nav2 whose node publishes a `Twist` on the relative topic
`cmd_vel`. -/
def drivingPackages : List String := ["nav2_controller", "nav2_behaviors"]

def LaunchNode.drives (node : LaunchNode) : Bool :=
  navigationNodes.contains node && drivingPackages.contains node.package

def safetyGate : LaunchNode where
  package := "safety"
  executable := "safety_gate_node"
  name := "safety_gate"

def robotIds : List String := ["robot1", "robot2", "robot3"]

/-- The topic the `DiffDrive` plugin of a robot listens to. -/
def baseTopic (robotName : String) : Topic := ⟨robotName, "cmd_vel"⟩

/-- A `KEEP_LAST` queue of a subscription, oldest message first. -/
def keepLast {α : Type} (depth : Nat) (queue : List α) (message : α) : List α :=
  (queue ++ [message]).drop (queue.length + 1 - depth)

/-- The gates with what waits in their subscriptions. `heard` is the history of
the `estop` messages each gate has processed, newest first. -/
structure World where
  gate : String → State := fun _ => {}
  cmdVelNav : Topic → List Twist := fun _ => []
  estop : String → List Bool := fun _ => []
  heard : String → List Bool := fun _ => []

inductive Event
  | command (node : LaunchNode) (ns : String) (message : Twist)
  | sendEstop (ns : String) (engage : Bool)
  | navCmdVel (ns : String)
  | estop (ns : String)
  deriving DecidableEq

namespace World

/-- After the gate has processed `estop = true`, before it processes a later
`estop = false`. -/
def Engaged (w : World) (ns : String) : Prop := (w.heard ns).head? = some true

/-- What the event publishes, and on which topic. -/
def publishes (w : World) : Event → List (Topic × Twist)
  | .command node ns message => [(node.resolve ns "cmd_vel", message)]
  | .sendEstop _ _ => []
  | .navCmdVel ns =>
    match w.cmdVelNav (safetyGate.resolve ns "cmd_vel_nav") with
    | [] => []
    | message :: _ =>
      (navCmdVelCallback message (w.gate ns)).map (safetyGate.resolve ns "cmd_vel", ·)
  | .estop ns =>
    match w.estop ns with
    | [] => []
    | engage :: _ => (estopCallback engage (w.gate ns)).1.map (safetyGate.resolve ns "cmd_vel", ·)

def step (w : World) (launched : List String) : Event → Option World
  | .command node ns message =>
    if node.drives then
      let topic := node.resolve ns "cmd_vel"
      some { w with
        cmdVelNav := Function.update w.cmdVelNav topic (keepLast 10 (w.cmdVelNav topic) message) }
    else none
  | .sendEstop ns engage =>
    some { w with estop := Function.update w.estop ns (keepLast 1 (w.estop ns) engage) }
  | .navCmdVel ns =>
    let topic := safetyGate.resolve ns "cmd_vel_nav"
    match w.cmdVelNav topic with
    | [] => none
    | _ :: queue =>
      if ns ∈ launched then
        some { w with cmdVelNav := Function.update w.cmdVelNav topic queue }
      else none
  | .estop ns =>
    match w.estop ns with
    | [] => none
    | engage :: queue =>
      if ns ∈ launched then
        some { w with
          gate := Function.update w.gate ns (estopCallback engage (w.gate ns)).2
          estop := Function.update w.estop ns queue
          heard := Function.update w.heard ns (engage :: w.heard ns) }
      else none

end World

def machine (launched : List String) : Machine World Event where
  init := {}
  step w e := w.step launched e

end PatrolFleet.Safety
