import PatrolFleet.Lib.Machine
import PatrolFleet.Patrol.Node

/-!
The patrol manager with the goals it has sent. The action server answers each
goal once, and gives each accepted goal one result; in which order is free.
-/

set_option autoImplicit false

namespace PatrolFleet.Patrol

inductive GoalPhase where
  | awaiting
  | accepted
  deriving DecidableEq

structure World where
  node : State
  /-- The goals that are neither rejected nor have a result. -/
  goals : List (Nat × GoalPhase)
  timerPending : Bool

inductive Event where
  | start (request : StartMission.Request) (serverAvailable : Bool) (now : Time)
  | autostart (serverAvailable : Bool) (now : Time)
  | stop
  | goalResponse (id : Nat) (accepted : Bool)
  | result (id : Nat) (result : FollowWaypoints.WrappedResult)

/-- The world after a callback that may have sent a goal. -/
def World.after (w : World) (node : State) : World :=
  { w with
    node
    goals := if w.node.goalCount < node.goalCount then (w.node.goalCount, .awaiting) :: w.goals
      else w.goals }

def World.step (cfg : Config) (libm : Libm) (w : World) : Event → Option World
  | .start request serverAvailable now =>
    some (w.after (handleStart cfg libm request serverAvailable now w.node).2)
  | .autostart serverAvailable now =>
    if w.timerPending then
      some { w.after (startPatrol cfg libm serverAvailable now w.node) with timerPending := false }
    else none
  | .stop => some { w with node := (handleStop w.node).2 }
  | .goalResponse id accepted =>
    if (id, .awaiting) ∈ w.goals then
      if accepted then
        some { w with
          node := goalResponseCallback (some id) w.node
          goals := (id, .accepted) :: w.goals.erase (id, .awaiting) }
      else
        some { w with
          node := goalResponseCallback none w.node
          goals := w.goals.erase (id, .awaiting) }
    else none
  | .result id result =>
    if (id, .accepted) ∈ w.goals then
      some { w with
        node := resultCallback result w.node
        goals := w.goals.erase (id, .accepted) }
    else none

def machine (cfg : Config) (libm : Libm) : Machine World Event where
  init := ⟨State.init, [], cfg.autostart⟩
  step := World.step cfg libm

/-- The steps, by the callback that runs. -/
inductive StepCase (cfg : Config) (libm : Libm) (w : World) : Event → World → Prop where
  | start (request : StartMission.Request) (serverAvailable : Bool) (now : Time) :
      StepCase cfg libm w (.start request serverAvailable now)
        (w.after (handleStart cfg libm request serverAvailable now w.node).2)
  | autostart (serverAvailable : Bool) (now : Time) : w.timerPending = true →
      StepCase cfg libm w (.autostart serverAvailable now)
        { w.after (startPatrol cfg libm serverAvailable now w.node) with timerPending := false }
  | stop : StepCase cfg libm w .stop { w with node := (handleStop w.node).2 }
  | accepted {id : Nat} : (id, .awaiting) ∈ w.goals →
      StepCase cfg libm w (.goalResponse id true)
        { w with
          node := goalResponseCallback (some id) w.node
          goals := (id, .accepted) :: w.goals.erase (id, .awaiting) }
  | rejected {id : Nat} : (id, .awaiting) ∈ w.goals →
      StepCase cfg libm w (.goalResponse id false)
        { w with
          node := goalResponseCallback none w.node
          goals := w.goals.erase (id, .awaiting) }
  | result {id : Nat} (result : FollowWaypoints.WrappedResult) : (id, .accepted) ∈ w.goals →
      StepCase cfg libm w (.result id result)
        { w with
          node := resultCallback result w.node
          goals := w.goals.erase (id, .accepted) }

theorem step_cases {cfg : Config} {libm : Libm} {w v : World} {e : Event}
    (h : w.step cfg libm e = some v) : StepCase cfg libm w e v := by
  cases e with
  | start request serverAvailable now =>
    cases h
    exact .start request serverAvailable now
  | autostart serverAvailable now =>
    simp only [World.step] at h
    split at h
    · rename_i hpending
      cases h
      exact .autostart serverAvailable now hpending
    · cases h
  | stop =>
    cases h
    exact .stop
  | goalResponse id accepted =>
    simp only [World.step] at h
    split at h
    · rename_i hm
      cases accepted with
      | true =>
        cases h
        exact .accepted hm
      | false =>
        cases h
        exact .rejected hm
    · cases h
  | result id result =>
    simp only [World.step] at h
    split at h
    · rename_i hm
      cases h
      exact .result result hm
    · cases h

/-! ### What a start does -/

/-- The checks of `execute_mission` that depend on the mission. -/
def Config.admits (cfg : Config) (missionType : UInt8) (hasTarget : Bool) : Bool :=
  if missionType = StartMission.missionPatrol then
    decide (cfg.waypoints ≠ [] ∧ cfg.waypoints.length % 3 = 0 ∧ 0 ≤ cfg.numberOfLoops ∧
      0 ≤ cfg.goalIndex ∧ cfg.goalIndex < cfg.waypoints.length / 3)
  else if missionType = StartMission.missionGoTo ∨ missionType = StartMission.missionInspect then
    hasTarget
  else if missionType = StartMission.missionReturnHome then
    hasTarget || decide (cfg.homePose.length = 3)
  else if missionType = StartMission.missionCharge then
    hasTarget || decide (cfg.chargeDockPose.length = 3)
  else false

section

variable {cfg : Config} {libm : Libm} {now : Time}

theorem waypointPoses_length (values : List Rat) :
    (waypointPoses cfg libm now values).length = values.length / 3 := by
  induction values using waypointPoses.induct with
  | case1 x y yaw values ih =>
    simp [waypointPoses, ih]
    omega
  | case2 values h =>
    cases values with
    | nil => simp [waypointPoses]
    | cons x values =>
      cases values with
      | nil => simp [waypointPoses]
      | cons y values =>
        cases values with
        | nil => simp [waypointPoses]
        | cons yaw values => exact absurd rfl (h x y yaw values)

theorem patrolGoal_ok_iff : (∃ goal, patrolGoal cfg libm now = .ok goal) ↔
    cfg.waypoints ≠ [] ∧ cfg.waypoints.length % 3 = 0 ∧ 0 ≤ cfg.numberOfLoops ∧
      0 ≤ cfg.goalIndex ∧ cfg.goalIndex < cfg.waypoints.length / 3 := by
  unfold patrolGoal buildWaypoints
  by_cases hempty : cfg.waypoints = []
  · simp [hempty]
  by_cases hthree : cfg.waypoints.length % 3 = 0
  · simp only [List.isEmpty_iff, hempty, hthree, if_false, ne_eq, not_true_eq_false,
      not_false_eq_true, true_and, waypointPoses_length]
    split
    · simp
      omega
    · split
      · simp
        omega
      · simp
        omega
  · simp [hempty, hthree]

theorem placeGoal_ok_iff {values : List Rat} {error : String} {targetPose : PoseStamped}
    {hasTarget : Bool} :
    (∃ goal, placeGoal cfg libm now values error targetPose hasTarget = .ok goal) ↔
      (hasTarget || decide (values.length = 3)) = true := by
  unfold placeGoal
  cases hasTarget with
  | true => simp
  | false =>
    simp only [Bool.false_eq_true, if_false, Bool.false_or, decide_eq_true_eq]
    constructor
    · rintro ⟨goal, h⟩
      split at h
      · rfl
      · cases h
    · intro h
      obtain ⟨x, y, yaw, rfl⟩ := List.length_eq_three.mp h
      exact ⟨_, rfl⟩

theorem missionGoal_ok_iff {missionType : UInt8} {targetPose : PoseStamped} {hasTarget : Bool} :
    (∃ goal, missionGoal cfg libm missionType targetPose hasTarget now = .ok goal) ↔
      cfg.admits missionType hasTarget = true := by
  unfold missionGoal Config.admits
  split
  · rw [patrolGoal_ok_iff, decide_eq_true_eq]
  split
  · cases hasTarget <;> simp
  split
  · exact placeGoal_ok_iff
  split
  · exact placeGoal_ok_iff
  · simp

theorem executeMission_ok_iff {missionType : UInt8} {targetPose : PoseStamped}
    {hasTarget serverAvailable : Bool} {s : State} :
    (∃ t, executeMission cfg libm missionType targetPose hasTarget serverAvailable now s = .ok t) ↔
      s.patrolActive = false ∧ cfg.admits missionType hasTarget = true := by
  have hgoal : (∃ goal, missionGoal cfg libm missionType targetPose hasTarget now = .ok goal) ↔
      cfg.admits missionType hasTarget = true := missionGoal_ok_iff
  rw [← hgoal]
  unfold executeMission
  cases s.patrolActive with
  | true => simp
  | false =>
    simp only [Bool.false_eq_true, if_false, true_and]
    cases missionGoal cfg libm missionType targetPose hasTarget now <;> simp

end

end PatrolFleet.Patrol
