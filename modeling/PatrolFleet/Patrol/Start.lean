import PatrolFleet.Patrol.System

/-!
The start of a mission is all or nothing: `execute_mission` either rejects the
request and leaves the node as it was, or goes on to a goal that Nav2 can follow.
-/

set_option autoImplicit false

namespace PatrolFleet.Patrol

/-- `execute_mission` with its effects in their order. An exit with an error keeps
what was done before it. -/
def executeMissionEffects (cfg : Config) (libm : Libm) (missionType : UInt8)
    (targetPose : PoseStamped) (hasTarget serverAvailable : Bool) (now : Time) :
    ExceptT String (StateM State) Unit := do
  if (← get).patrolActive then
    throw "Patrol mission is already active"
  let goal ← ExceptT.mk (pure (missionGoal cfg libm missionType targetPose hasTarget now))
  modify fun s => s.send (.missionType (missionTypeToString missionType))
  modify fun s => sendGoal goal serverAvailable s

/-- The result of a start with the state it leaves. -/
def startOutcome (cfg : Config) (libm : Libm) (missionType : UInt8)
    (targetPose : PoseStamped) (hasTarget serverAvailable : Bool) (now : Time) (s : State) :
    Except String Unit × State :=
  (executeMissionEffects cfg libm missionType targetPose hasTarget serverAvailable now).run.run s

section

variable {cfg : Config} {libm : Libm} {missionType : UInt8} {targetPose : PoseStamped}
  {hasTarget serverAvailable : Bool} {now : Time} {s : State}

/-- Every rejection comes before the first effect. -/
theorem startOutcome_eq :
    startOutcome cfg libm missionType targetPose hasTarget serverAvailable now s =
      match executeMission cfg libm missionType targetPose hasTarget serverAvailable now s with
      | .error what => (.error what, s)
      | .ok t => (.ok (), t) := by
  unfold startOutcome executeMissionEffects executeMission
  obtain ⟨patrolActive, activeGoalHandle, goalCount, sent⟩ := s
  cases patrolActive with
  | true => rfl
  | false =>
    cases hgoal : missionGoal cfg libm missionType targetPose hasTarget now with
    | error what => rfl
    | ok goal => rfl

end

/-! ### The goal of a mission -/

/-- The poses are the [x, y, yaw] triples of the list, in its order. -/
structure AreTriples (cfg : Config) (libm : Libm) (now : Time) (values : List Rat)
    (poses : List PoseStamped) : Prop where
  length : 3 * poses.length = values.length
  triple : ∀ i x y yaw, values[3 * i]? = some x → values[3 * i + 1]? = some y →
    values[3 * i + 2]? = some yaw → poses[i]? = some (poseFromXyzYaw cfg libm now x y yaw)

/-- The only pose is the one that the list configures. -/
def IsPlace (cfg : Config) (libm : Libm) (now : Time) (values : List Rat)
    (poses : List PoseStamped) : Prop :=
  ∃ x y yaw, values = [x, y, yaw] ∧ poses = [poseFromXyzYaw cfg libm now x y yaw]

/-- A goal that Nav2 can follow, with the poses that the mission asks for. -/
structure Followable (cfg : Config) (libm : Libm) (missionType : UInt8)
    (targetPose : PoseStamped) (hasTarget : Bool) (now : Time) (goal : FollowWaypoints.Goal) :
    Prop where
  nonempty : goal.poses ≠ []
  index_lt : goal.goalIndex < goal.poses.length
  patrol : missionType = StartMission.missionPatrol →
    AreTriples cfg libm now cfg.waypoints goal.poses
  target : missionType ≠ StartMission.missionPatrol → hasTarget = true →
    goal.poses = [finalizeTargetPose cfg now targetPose]
  place : missionType ≠ StartMission.missionPatrol → hasTarget = false →
    missionType = StartMission.missionReturnHome ∧
      IsPlace cfg libm now cfg.homePose goal.poses ∨
    missionType = StartMission.missionCharge ∧
      IsPlace cfg libm now cfg.chargeDockPose goal.poses

section

variable {cfg : Config} {libm : Libm} {missionType : UInt8} {targetPose : PoseStamped}
  {hasTarget serverAvailable : Bool} {now : Time} {s : State} {goal : FollowWaypoints.Goal}

theorem waypointPoses_triple (values : List Rat) : ∀ i x y yaw, values[3 * i]? = some x →
    values[3 * i + 1]? = some y → values[3 * i + 2]? = some yaw →
    (waypointPoses cfg libm now values)[i]? = some (poseFromXyzYaw cfg libm now x y yaw) := by
  induction values using waypointPoses.induct with
  | case1 x y yaw values ih =>
    intro i x' y' yaw' hx hy hyaw
    cases i with
    | zero =>
      simp at hx hy hyaw
      simp [waypointPoses, hx, hy, hyaw]
    | succ i =>
      simp only [waypointPoses, List.getElem?_cons_succ]
      exact ih i x' y' yaw' hx hy hyaw
  | case2 values h =>
    intro i x y yaw hx hy hyaw
    exfalso
    cases values with
    | nil => simp at hx
    | cons x values =>
      cases values with
      | nil => simp at hy
      | cons y values =>
        cases values with
        | nil => simp at hyaw
        | cons yaw values => exact h x y yaw values rfl

theorem areTriples_waypointPoses {values : List Rat} (h : values.length % 3 = 0) :
    AreTriples cfg libm now values (waypointPoses cfg libm now values) := by
  refine ⟨?_, waypointPoses_triple values⟩
  rw [waypointPoses_length]
  omega

theorem patrolGoal_spec (h : patrolGoal cfg libm now = .ok goal) :
    AreTriples cfg libm now cfg.waypoints goal.poses ∧
      goal.goalIndex = cfg.goalIndex.toNat % UInt32.size ∧ 0 ≤ cfg.goalIndex ∧
      cfg.goalIndex.toNat < goal.poses.length := by
  unfold patrolGoal buildWaypoints at h
  split at h
  · cases h
  rename_i poses hposes
  split at hposes
  · cases hposes
  split at hposes
  · cases hposes
  rename_i hthree
  cases hposes
  split at h
  · cases h
  rename_i hneg
  split at h
  · cases h
  rename_i hrange
  cases h
  exact ⟨areTriples_waypointPoses (not_not.mp hthree), rfl, by omega, not_le.mp hrange⟩

theorem placeGoal_spec {values : List Rat} {error : String}
    (h : placeGoal cfg libm now values error targetPose hasTarget = .ok goal) :
    goal.poses.length = 1 ∧ goal.goalIndex = 0 ∧
      (hasTarget = true → goal.poses = [finalizeTargetPose cfg now targetPose]) ∧
      (hasTarget = false → IsPlace cfg libm now values goal.poses) := by
  unfold placeGoal at h
  split at h
  · rename_i htarget
    cases h
    exact ⟨rfl, rfl, fun _ => rfl, fun hno => by simp [htarget] at hno⟩
  · rename_i htarget
    split at h
    · cases h
      exact ⟨rfl, rfl, fun hyes => absurd hyes htarget, fun _ => ⟨_, _, _, rfl, rfl⟩⟩
    · cases h

theorem missionGoal_followable
    (h : missionGoal cfg libm missionType targetPose hasTarget now = .ok goal) :
    Followable cfg libm missionType targetPose hasTarget now goal := by
  unfold missionGoal at h
  split at h
  · rename_i hpatrol
    obtain ⟨htriples, hindex, _, hrange⟩ := patrolGoal_spec h
    have hle : goal.goalIndex ≤ cfg.goalIndex.toNat := hindex ▸ Nat.mod_le _ _
    have hpos : 0 < goal.poses.length := by omega
    exact ⟨List.length_pos_iff.mp hpos, by omega, fun _ => htriples, absurd hpatrol,
      absurd hpatrol⟩
  rename_i hpatrol
  split at h
  · split at h
    · cases h
    · rename_i htarget
      cases h
      exact ⟨by simp, by simp, fun hp => absurd hp hpatrol, fun _ _ => rfl,
        fun _ hno => by simp [hno] at htarget⟩
  split at h
  · rename_i hhome
    obtain ⟨hone, hindex, htarget, hplace⟩ := placeGoal_spec h
    exact ⟨List.length_pos_iff.mp (by omega), by omega, fun hp => absurd hp hpatrol,
      fun _ => htarget, fun _ hno => .inl ⟨hhome, hplace hno⟩⟩
  split at h
  · rename_i hcharge
    obtain ⟨hone, hindex, htarget, hplace⟩ := placeGoal_spec h
    exact ⟨List.length_pos_iff.mp (by omega), by omega, fun hp => absurd hp hpatrol,
      fun _ => htarget, fun _ hno => .inr ⟨hcharge, hplace hno⟩⟩
  · cases h

/-! ### All or nothing -/

/-- The start is rejected without any effect, or it is accepted and every goal
that it sends has `P`. -/
def AllOrNothing (P : FollowWaypoints.Goal → Prop) (s : State)
    (outcome : Except String Unit × State) : Prop :=
  (∃ what, outcome = (.error what, s)) ∨
    ∃ t messages, outcome = (.ok (), t) ∧ t.sent = messages ++ s.sent ∧
      ∀ id goal, .goal id goal ∈ messages → P goal

theorem sendGoal_sent (goal : FollowWaypoints.Goal) (serverAvailable : Bool) (s : State) :
    ∃ messages, (sendGoal goal serverAvailable s).sent = messages ++ s.sent ∧
      ∀ id goal', .goal id goal' ∈ messages → goal' = goal := by
  unfold sendGoal
  cases serverAvailable with
  | false =>
    refine ⟨[.status "error", .status "waiting_for_nav2"], rfl, ?_⟩
    simp
  | true =>
    refine ⟨[.goal s.goalCount goal, .status "sending_goal", .status "waiting_for_nav2"], rfl, ?_⟩
    simp

theorem executeMission_ok {t : State}
    (h : executeMission cfg libm missionType targetPose hasTarget serverAvailable now s = .ok t) :
    ∃ goal, missionGoal cfg libm missionType targetPose hasTarget now = .ok goal ∧
      t = sendGoal goal serverAvailable
        (s.send (.missionType (missionTypeToString missionType))) := by
  unfold executeMission at h
  split at h
  · cases h
  split at h
  · cases h
  · rename_i goal hgoal
    cases h
    exact ⟨goal, hgoal, rfl⟩

theorem startOutcome_allOrNothing {P : FollowWaypoints.Goal → Prop}
    (hP : ∀ goal, missionGoal cfg libm missionType targetPose hasTarget now = .ok goal → P goal) :
    AllOrNothing P s
      (startOutcome cfg libm missionType targetPose hasTarget serverAvailable now s) := by
  rw [startOutcome_eq]
  cases hresult :
    executeMission cfg libm missionType targetPose hasTarget serverAvailable now s with
  | error what => exact .inl ⟨what, rfl⟩
  | ok t =>
    obtain ⟨goal, hgoal, rfl⟩ := executeMission_ok hresult
    obtain ⟨messages, hsent, hgoals⟩ := sendGoal_sent goal serverAvailable
      (s.send (.missionType (missionTypeToString missionType)))
    refine .inr ⟨_, messages ++ [.missionType (missionTypeToString missionType)], rfl, ?_, ?_⟩
    · rw [hsent, List.append_assoc]
      rfl
    · intro id goal' hm
      have hm' : .goal id goal' ∈ messages := by simpa using hm
      rw [hgoals id goal' hm']
      exact hP goal hgoal

/-- A mission starts whole or not at all. A patrol begins at the configured
`goal_index`, if the 32 bits of the action's field can hold it. -/
theorem mission_start_whole (cfg : Config) (libm : Libm) (missionType : UInt8)
    (targetPose : PoseStamped) (hasTarget serverAvailable : Bool) (now : Time) (s : State) :
    AllOrNothing (fun goal =>
        Followable cfg libm missionType targetPose hasTarget now goal ∧
        (missionType = StartMission.missionPatrol → cfg.goalIndex < UInt32.size →
          (goal.goalIndex : Int) = cfg.goalIndex)) s
      (startOutcome cfg libm missionType targetPose hasTarget serverAvailable now s) := by
  refine startOutcome_allOrNothing fun goal hgoal => ⟨missionGoal_followable hgoal, ?_⟩
  intro hpatrol hfits
  unfold missionGoal at hgoal
  rw [if_pos hpatrol] at hgoal
  obtain ⟨_, hindex, hnonneg, _⟩ := patrolGoal_spec hgoal
  have hsmall : cfg.goalIndex.toNat < UInt32.size := by omega
  rw [hindex, Nat.mod_eq_of_lt hsmall]
  omega

end

/-- A patrol that begins behind the first 2^32 waypoints of its list. -/
def longPatrol : Config where
  goalIndex := 4294967296
  waypoints := List.replicate 12884901891 0

theorem longPatrol_goal (libm : Libm) : ∃ goal,
    missionGoal longPatrol libm StartMission.missionPatrol {} false 0 = .ok goal ∧
      goal.goalIndex = 0 := by
  have hlength : longPatrol.waypoints.length = 12884901891 := List.length_replicate
  have hok : ∃ goal, patrolGoal longPatrol libm 0 = .ok goal := by
    refine patrolGoal_ok_iff.mpr ⟨?_, ?_, by decide, by decide, ?_⟩
    · exact List.length_pos_iff.mp (by omega)
    · omega
    · rw [hlength]
      decide
  obtain ⟨goal, hgoal⟩ := hok
  refine ⟨goal, (if_pos rfl).trans hgoal, ?_⟩
  rw [(patrolGoal_spec hgoal).2.1]
  decide

theorem goal_index_truncated : ¬ ∀ cfg libm missionType targetPose hasTarget serverAvailable now s,
    AllOrNothing (fun goal =>
        Followable cfg libm missionType targetPose hasTarget now goal ∧
        (missionType = StartMission.missionPatrol → (goal.goalIndex : Int) = cfg.goalIndex)) s
      (startOutcome cfg libm missionType targetPose hasTarget serverAvailable now s) := by
  intro h
  obtain ⟨goal, hgoal, hindex⟩ := longPatrol_goal ⟨fun _ => 0, fun _ => 0⟩
  have hstart := h longPatrol ⟨fun _ => 0, fun _ => 0⟩ StartMission.missionPatrol {} false true 0
    State.init
  have hresult : executeMission longPatrol ⟨fun _ => 0, fun _ => 0⟩ StartMission.missionPatrol {}
      false true 0 State.init = .ok (sendGoal goal true (State.init.send
        (.missionType (missionTypeToString StartMission.missionPatrol)))) := by
    unfold executeMission
    rw [hgoal]
    rfl
  rw [startOutcome_eq, hresult] at hstart
  rcases hstart with ⟨what, hrejected⟩ | ⟨t, messages, haccepted, hsent, hall⟩
  · cases hrejected
  · cases haccepted
    have hm : .goal 0 goal ∈ messages ++ State.init.sent := hsent ▸ List.mem_cons_self
    have hnew : .goal 0 goal ∈ messages := by simpa [State.init, publishStatus, State.send] using hm
    have hsame := (hall 0 goal hnew).2 rfl
    rw [hindex] at hsame
    exact absurd hsame (by decide)

end PatrolFleet.Patrol
