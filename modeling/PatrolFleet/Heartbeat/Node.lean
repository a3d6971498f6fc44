import PatrolFleet.Interfaces
import Mathlib.Algebra.Order.Ring.Unbundled.Rat

/-!
The node `robot_heartbeat` of one robot: it turns the status of the patrol manager
into the state that its heartbeats report.
-/

set_option autoImplicit false

namespace PatrolFleet.Heartbeat

structure Config where
  robotId : String := "robot1"
  batteryPercentage : Rat := 100
  defaultState : Int := RobotHeartbeat.stateIdle.toNat
  defaultMission : String := ""

structure State where
  state : UInt8
  currentMission : String
  lastReportedMissionType : String
  localizationOk : Bool
  deriving DecidableEq

/-- `std::clamp` between `STATE_UNKNOWN` and `STATE_ERROR`. -/
def clampState (state : Int) : UInt8 :=
  if state < RobotHeartbeat.stateUnknown.toNat then RobotHeartbeat.stateUnknown
  else if RobotHeartbeat.stateError.toNat < state then RobotHeartbeat.stateError
  else UInt8.ofNat state.toNat

def State.init (cfg : Config) : State where
  state := clampState cfg.defaultState
  currentMission := cfg.defaultMission
  lastReportedMissionType := ""
  localizationOk := true

/-- The state for a patrol status, if the status is a known one. -/
def statusState (status : String) : Option UInt8 :=
  if status = "waiting_for_nav2" ∨ status = "sending_goal" ∨ status = "active" ∨
      status = "canceling" then
    some RobotHeartbeat.statePatrolling
  else if status = "idle" ∨ status = "completed" ∨ status = "canceled" then
    some RobotHeartbeat.stateIdle
  else if status = "aborted" ∨ status = "rejected" ∨ status = "error" then
    some RobotHeartbeat.stateError
  else none

def State.missionName (s : State) : String :=
  if s.lastReportedMissionType.isEmpty then "patrol" else s.lastReportedMissionType

/-- An unknown status is only logged. -/
def patrolStatusCallback (status : String) (s : State) : State :=
  match statusState status with
  | none => s
  | some state => { s with
      state
      currentMission := if state = RobotHeartbeat.stateIdle then "" else s.missionName }

def missionTypeCallback (data : String) (s : State) : State :=
  { s with lastReportedMissionType := data }

def localizationOkCallback (data : Bool) (s : State) : State := { s with localizationOk := data }

/-- The exponent of a float from 0 to 100. -/
def floatExponent (x : Rat) : Int :=
  if 1 ≤ x then x.floor.toNat.log2 else max (-1 - (x⁻¹.ceil.toNat - 1).log2) (-126)

/-- `static_cast<float>`: the nearest multiple of the last place, the even one of two. -/
def toFloat (x : Rat) : Rat :=
  let ulp : Rat := 2 ^ (floatExponent x - 23)
  let below := (x / ulp).floor
  let rest := x / ulp - below
  if rest < 1 / 2 ∨ rest = 1 / 2 ∧ 2 ∣ below then below * ulp else (below + 1) * ulp

example : toFloat (1 / 10) = 13421773 / 134217728 := by decide +kernel

def publishHeartbeat (cfg : Config) (now : Time) (s : State) : RobotHeartbeat where
  robotId := cfg.robotId
  stamp := now
  state := s.state
  batteryPercentage := toFloat (max 0 (min cfg.batteryPercentage 100))
  currentMission := s.currentMission
  localizationOk := s.localizationOk

theorem patrolStatusCallback_state {status : String} {state : UInt8}
    (h : statusState status = some state) (s : State) :
    (patrolStatusCallback status s).state = state := by
  unfold patrolStatusCallback
  rw [h]

end PatrolFleet.Heartbeat
