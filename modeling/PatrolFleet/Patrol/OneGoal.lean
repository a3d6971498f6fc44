import PatrolFleet.Patrol.System

/-!
One goal at a time: exactly as long as no mission is started while the server
has not answered an earlier goal.
-/

set_option autoImplicit false

namespace PatrolFleet.Patrol

structure World.OneGoal (w : World) : Prop where
  single : w.goals.length ≤ 1
  active : w.node.patrolActive = true ↔ ∃ id, (id, .accepted) ∈ w.goals
  handle : ∀ id, (id, .accepted) ∈ w.goals → w.node.activeGoalHandle = some id

/-- The event asks for an admissible mission while the action server is there. -/
def StartsMission (cfg : Config) : Event → Prop
  | .start request serverAvailable _ =>
    serverAvailable = true ∧ cfg.admits request.missionType request.hasTarget = true
  | .autostart serverAvailable _ =>
    serverAvailable = true ∧ cfg.admits StartMission.missionPatrol false = true
  | _ => False

section

variable {cfg : Config} {libm : Libm}

/-- What a callback that may start a mission does to what is said of the goals: it
sends one goal, or none. -/
structure Started (s t : State) (sends : Prop) : Prop where
  patrolActive : t.patrolActive = s.patrolActive
  activeGoalHandle : t.activeGoalHandle = s.activeGoalHandle
  sent : sends → t.goalCount = s.goalCount + 1
  unsent : ¬ sends → t.goalCount = s.goalCount

theorem sendGoal_started (goal : FollowWaypoints.Goal) (serverAvailable : Bool) (s : State) :
    Started s (sendGoal goal serverAvailable s) (serverAvailable = true) := by
  cases serverAvailable <;> exact ⟨rfl, rfl, by simp [sendGoal, publishStatus, State.send],
    by simp [sendGoal, publishStatus, State.send]⟩

theorem executeMission_started {missionType : UInt8} {targetPose : PoseStamped}
    {hasTarget serverAvailable : Bool} {now : Time} {s t : State}
    (h : executeMission cfg libm missionType targetPose hasTarget serverAvailable now s = .ok t) :
    Started s t (serverAvailable = true) := by
  unfold executeMission at h
  split at h
  · cases h
  split at h
  · cases h
  · cases h
    have hs := sendGoal_started ‹_› serverAvailable
      (s.send (.missionType (missionTypeToString missionType)))
    exact ⟨hs.patrolActive, hs.activeGoalHandle, hs.sent, hs.unsent⟩

theorem attempt_started (missionType : UInt8) (targetPose : PoseStamped)
    (hasTarget serverAvailable : Bool) (now : Time) (s : State) :
    Started s
      (match executeMission cfg libm missionType targetPose hasTarget serverAvailable now s with
        | .ok t => t
        | .error _ => s)
      (s.patrolActive = false ∧ serverAvailable = true ∧
        cfg.admits missionType hasTarget = true) := by
  cases h : executeMission cfg libm missionType targetPose hasTarget serverAvailable now s with
  | ok t =>
    have hok := executeMission_ok_iff.mp ⟨t, h⟩
    have ht := executeMission_started h
    exact ⟨ht.patrolActive, ht.activeGoalHandle, fun hs => ht.sent hs.2.1,
      fun hs => ht.unsent fun ha => hs ⟨hok.1, ha, hok.2⟩⟩
  | error what =>
    refine ⟨rfl, rfl, fun hs => ?_, fun _ => rfl⟩
    have hok : ∃ t, executeMission cfg libm missionType targetPose hasTarget serverAvailable now s =
        .ok t := executeMission_ok_iff.mpr ⟨hs.1, hs.2.2⟩
    simp [h] at hok

theorem handleStart_started (request : StartMission.Request) (serverAvailable : Bool)
    (now : Time) (s : State) :
    Started s (handleStart cfg libm request serverAvailable now s).2
      (s.patrolActive = false ∧ serverAvailable = true ∧
        cfg.admits request.missionType request.hasTarget = true) := by
  have hsame : (handleStart cfg libm request serverAvailable now s).2 =
      match executeMission cfg libm request.missionType request.targetPose request.hasTarget
          serverAvailable now s with
        | .ok t => t
        | .error _ => s := by
    unfold handleStart
    cases executeMission cfg libm request.missionType request.targetPose request.hasTarget
      serverAvailable now s <;> rfl
  rw [hsame]
  exact attempt_started ..

theorem handleStop_goal (s : State) : (handleStop s).2.patrolActive = s.patrolActive ∧
    (handleStop s).2.activeGoalHandle = s.activeGoalHandle := by
  unfold handleStop
  split <;> simp [publishStatus, State.send]

end

section

variable {w : World}

theorem goals_eq {goals : List (Nat × GoalPhase)} (h : goals.length ≤ 1) {goal : Nat × GoalPhase}
    (hm : goal ∈ goals) : goals = [goal] := by
  cases goals with
  | nil => simp at hm
  | cons g goals =>
    cases goals with
    | nil => simpa [eq_comm] using hm
    | cons g' goals => simp at h

theorem World.OneGoal.idle (h : w.OneGoal) (ha : w.node.patrolActive = false)
    (hfree : ∀ id, (id, .awaiting) ∉ w.goals) : w.goals = [] := by
  apply List.eq_nil_iff_forall_not_mem.mpr
  rintro ⟨id, phase⟩ hm
  cases phase with
  | awaiting => exact hfree id hm
  | accepted => simp [h.active.mpr ⟨id, hm⟩] at ha

/-- A start keeps one goal if it finds none awaiting its answer. -/
theorem World.OneGoal.after (h : w.OneGoal) {node : State} {sends : Prop}
    (hs : Started w.node node sends) (hidle : sends → w.goals = []) : (w.after node).OneGoal := by
  by_cases hsends : sends
  · have hnil := hidle hsends
    have hcount := hs.sent hsends
    have hactive : w.node.patrolActive ≠ true := by simp [h.active, hnil]
    constructor <;> simp [World.after, hcount, hnil, hs.patrolActive, hactive]
  · have hcount := hs.unsent hsends
    constructor
    · simpa [World.after, hcount] using h.single
    · simpa [World.after, hcount, hs.patrolActive] using h.active
    · simpa [World.after, hcount, hs.activeGoalHandle] using h.handle

theorem World.OneGoal.goalResponse (h : w.OneGoal) {id : Nat} (hm : (id, .awaiting) ∈ w.goals) :
    World.OneGoal ⟨goalResponseCallback (some id) w.node,
        (id, .accepted) :: w.goals.erase (id, .awaiting), w.timerPending⟩ ∧
      World.OneGoal ⟨goalResponseCallback none w.node, w.goals.erase (id, .awaiting),
        w.timerPending⟩ := by
  have hone := goals_eq h.single hm
  constructor <;> constructor <;>
    simp [hone, goalResponseCallback, publishStatus, State.send]

theorem World.OneGoal.result (h : w.OneGoal) {id : Nat} (hm : (id, .accepted) ∈ w.goals)
    (result : FollowWaypoints.WrappedResult) :
    World.OneGoal ⟨resultCallback result w.node, w.goals.erase (id, .accepted),
      w.timerPending⟩ := by
  have hone := goals_eq h.single hm
  constructor <;> simp [hone, resultCallback, publishStatus, State.send]

theorem World.OneGoal.stop (h : w.OneGoal) :
    World.OneGoal { w with node := (handleStop w.node).2 } := by
  obtain ⟨hactive, hhandle⟩ := handleStop_goal w.node
  constructor
  · exact h.single
  · simpa [hactive] using h.active
  · simpa [hhandle] using h.handle

end

theorem oneGoal_step {cfg : Config} {libm : Libm} {w v : World} {e : Event} (h : w.OneGoal)
    (hfree : StartsMission cfg e → ∀ id, (id, .awaiting) ∉ w.goals)
    (hstep : w.step cfg libm e = some v) : v.OneGoal := by
  cases step_cases hstep with
  | start request serverAvailable now =>
    exact h.after (handleStart_started request serverAvailable now w.node)
      fun hs => h.idle hs.1 (hfree hs.2)
  | autostart serverAvailable now =>
    have hafter : (w.after (startPatrol cfg libm serverAvailable now w.node)).OneGoal :=
      h.after (attempt_started _ _ _ serverAvailable now w.node)
        fun hs => h.idle hs.1 (hfree hs.2)
    exact ⟨hafter.single, hafter.active, hafter.handle⟩
  | stop => exact h.stop
  | accepted hm => exact (h.goalResponse hm).1
  | rejected hm => exact (h.goalResponse hm).2
  | result result hm => exact h.result hm result

theorem second_goal {cfg : Config} {libm : Libm} {w v : World} {e : Event} (h : w.OneGoal)
    (hs : StartsMission cfg e) {id : Nat} (hm : (id, .awaiting) ∈ w.goals)
    (hstep : w.step cfg libm e = some v) : v.goals.length = 2 := by
  have hone := goals_eq h.single hm
  have hidle : w.node.patrolActive = false := by
    have hnone : ¬ ∃ id, (id, .accepted) ∈ w.goals := by simp [hone]
    exact Bool.eq_false_iff.mpr fun ha => hnone (h.active.mp ha)
  cases step_cases hstep with
  | start request serverAvailable now =>
    have hsent : (handleStart cfg libm request serverAvailable now w.node).2.goalCount =
        w.node.goalCount + 1 :=
      (handleStart_started request serverAvailable now w.node).sent ⟨hidle, hs⟩
    simp [World.after, hsent, hone]
  | autostart serverAvailable now =>
    have hsent : (startPatrol cfg libm serverAvailable now w.node).goalCount =
        w.node.goalCount + 1 :=
      (attempt_started _ _ _ serverAvailable now w.node).sent ⟨hidle, hs⟩
    simp [World.after, hsent, hone]
  | stop => exact hs.elim
  | accepted => exact hs.elim
  | rejected => exact hs.elim
  | result => exact hs.elim

theorem oneGoal_init (cfg : Config) (libm : Libm) : (machine cfg libm).init.OneGoal := by
  constructor <;> simp [machine, State.init, publishStatus, State.send]

theorem one_goal_iff (cfg : Config) (libm : Libm) (es : List Event) :
    (∀ w, (machine cfg libm).Visits es w → w.OneGoal) ↔
    ∀ w e v, (machine cfg libm).Takes es w e v → StartsMission cfg e →
      ∀ id, (id, .awaiting) ∉ w.goals := by
  constructor
  · intro h w e v htake hs id hm
    have htwo := second_goal (h w htake.visits) hs hm htake.step_eq
    have hsingle := (h v htake.visits_next).single
    omega
  · intro hfree w hw
    refine Machine.visits_invariant (oneGoal_init cfg libm) ?_ hfree hw
    exact fun u e v hu hC hstep => oneGoal_step hu hC hstep

/-- Two missions are started before the server has answered the first goal. -/
def twoStarts : List Event :=
  [.start ⟨StartMission.missionGoTo, {}, true⟩ true (seconds 1),
    .start ⟨StartMission.missionGoTo, {}, true⟩ true (seconds 2)]

theorem two_goals : ¬ ∀ libm w, (machine {} libm).Reachable w → w.OneGoal := by
  intro h
  have hsingle : 2 ≤ 1 := (h ⟨fun _ => 0, fun _ => 1⟩ _ ⟨twoStarts, rfl⟩).single
  omega

end PatrolFleet.Patrol
