import Mathlib.Data.Rat.Defs

/-!
The messages and services of the `interfaces` package, and the standard types
they carry. Times are the nanoseconds of an `rclcpp::Time`.
-/

set_option autoImplicit false

namespace PatrolFleet

abbrev Time := Int

def seconds (n : Int) : Time := n * 1000000000

structure Point where
  x : Rat := 0
  y : Rat := 0
  z : Rat := 0
  deriving DecidableEq

structure Quaternion where
  x : Rat := 0
  y : Rat := 0
  z : Rat := 0
  w : Rat := 1
  deriving DecidableEq

structure PoseStamped where
  stamp : Time := 0
  frameId : String := ""
  position : Point := {}
  orientation : Quaternion := {}
  deriving DecidableEq

namespace RobotHeartbeat

def stateUnknown : UInt8 := 0
def stateIdle : UInt8 := 1
def stateMapping : UInt8 := 2
def stateNavigating : UInt8 := 3
def statePatrolling : UInt8 := 4
def stateCharging : UInt8 := 5
def stateError : UInt8 := 6

end RobotHeartbeat

structure RobotHeartbeat where
  robotId : String
  stamp : Time
  state : UInt8
  batteryPercentage : Rat
  currentMission : String
  localizationOk : Bool
  deriving DecidableEq

namespace RobotIncident

def severityLow : UInt8 := 0
def severityMedium : UInt8 := 1
def severityHigh : UInt8 := 2
def severityCritical : UInt8 := 3

end RobotIncident

structure RobotIncident where
  incidentId : String
  robotId : String
  stamp : Time
  severity : UInt8
  category : String
  description : String
  deriving DecidableEq

structure FleetRobotState where
  robotId : String
  online : Bool
  confirmedOffline : Bool
  state : UInt8
  batteryPercentage : Rat
  localizationOk : Bool
  currentMission : String
  lastHeartbeat : Time
  deriving DecidableEq

structure FleetState where
  stamp : Time
  robots : List FleetRobotState
  deriving DecidableEq

structure MissionQueueState where
  stamp : Time
  pendingCount : Nat
  missionIds : List String
  missionTypes : List String
  priorities : List Int
  deriving DecidableEq

namespace AssignMission

def commandStart : UInt8 := 1
def commandStop : UInt8 := 2

structure Request where
  robotId : String
  missionType : String
  command : UInt8
  missionId : String
  targetPose : PoseStamped
  hasTarget : Bool
  deriving DecidableEq

structure Response where
  success : Bool
  message : String
  deriving DecidableEq

end AssignMission

namespace QueueMission

structure Request where
  missionType : String
  priority : Int
  targetPose : PoseStamped
  hasTarget : Bool
  deriving DecidableEq

structure Response where
  accepted : Bool
  missionId : String
  message : String
  deriving DecidableEq

end QueueMission

namespace CancelMission

structure Response where
  success : Bool
  message : String
  deriving DecidableEq

end CancelMission

namespace Trigger

structure Response where
  success : Bool
  message : String
  deriving DecidableEq

end Trigger

namespace ReportIncident

structure Request where
  robotId : String
  severity : UInt8
  category : String
  description : String
  deriving DecidableEq

structure Response where
  accepted : Bool
  incidentId : String
  message : String
  deriving DecidableEq

end ReportIncident

namespace StartMission

def missionPatrol : UInt8 := 1
def missionGoTo : UInt8 := 2
def missionReturnHome : UInt8 := 3
def missionCharge : UInt8 := 4
def missionInspect : UInt8 := 5

structure Request where
  missionType : UInt8
  targetPose : PoseStamped
  hasTarget : Bool
  deriving DecidableEq

structure Response where
  success : Bool
  message : String
  deriving DecidableEq

end StartMission

/-- The list `kSupportedMissionTypes`, which the scheduler and the fleet manager
each define with the same five entries. -/
def supportedMissionTypes : List String :=
  ["patrol", "go_to", "return_home", "charge", "inspect"]

def isSupportedMissionType (missionType : String) : Bool :=
  supportedMissionTypes.contains missionType

end PatrolFleet
