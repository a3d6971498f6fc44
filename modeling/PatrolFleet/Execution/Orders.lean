import PatrolFleet.Execution.Readings
import PatrolFleet.Patrol.Start
import PatrolFleet.Scheduler.Tracing

/-!
Where a robot has its missions from: the autostart timer, the operator, or a client of
the scheduler.
-/

set_option autoImplicit false

namespace PatrolFleet.Execution

open Scheduler (Payload)

/-- The patrol of the autostart timer and of `/fleet/dispatch_patrol`. -/
def plainPatrol : StartMission.Request := ⟨StartMission.missionPatrol, {}, false⟩

/-- The mission of that id has that request to the robot. -/
inductive Commissioned (Asked : String → Payload → Prop) (u : Scheduler.World) :
    Option String → StartMission.Request → Prop where
  | timer : Commissioned Asked u none plainPatrol
  | operator : Commissioned Asked u (some "manual-dispatch") plainPatrol
  | client {missionId : String} {payload : Payload} {missionType : UInt8} :
      u.Traces Asked missionId payload →
      Fleet.missionTypeToEnum payload.missionType = some missionType →
      Commissioned Asked u (some missionId) ⟨missionType, payload.targetPose, payload.hasTarget⟩

section

variable {cfg : Config} {Asked : String → Payload → Prop} {u v : Scheduler.World}

theorem Commissioned.step {missionId : Option String} {request : StartMission.Request}
    (h : Commissioned Asked u missionId request) {e : Scheduler.Event}
    (hturn : Scheduler.Turn cfg.scheduler u e v) : Commissioned Asked v missionId request := by
  cases h with
  | timer => exact .timer
  | operator => exact .operator
  | client htraces hkind => exact .client (Scheduler.traces_step htraces hturn) hkind

end

/-! ### What the fleet manager forwards -/

section

variable {fcfg : Fleet.Config} {Asked : String → Payload → Prop} {u : Scheduler.World}
  {s : Fleet.State} {robotId missionId missionType : String} {request : StartMission.Request}

theorem supported_enum {missionType : String} (h : isSupportedMissionType missionType = true) :
    ∃ kind, Fleet.missionTypeToEnum missionType = some kind := by
  simp only [isSupportedMissionType, supportedMissionTypes, List.contains_iff_mem,
    List.mem_cons, List.not_mem_nil, or_false] at h
  rcases h with rfl | rfl | rfl | rfl | rfl <;> exact ⟨_, rfl⟩

theorem commissioned_step {e : Fleet.Event}
    (h : .start robotId missionId missionType request ∈ Fleet.sentSince s (s.step fcfg e)) :
    Commissioned Asked u (some missionId) request := by
  have hsends := (Fleet.effect_call fcfg (.other e) s).sentSince_eq.2 _ h
  cases e with
  | dispatchPatrol serviceIsReady now =>
    simp only [Fleet.State.step, Fleet.handleDispatchPatrol] at h
    repeat' split at h
    · simp [Fleet.sentSince] at h
    · simp [Fleet.sentSince] at h
    · simp [Fleet.sentSince] at h
    · simp only [Fleet.sentSince, Fleet.callPatrolStartService, Fleet.State.send,
        List.length_cons, Nat.add_sub_cancel_left, List.take_succ_cons, List.take_zero,
        List.mem_singleton] at h
      cases h
      exact .operator
  | _ => cases hsends

theorem commissioned_assignMission {d : Scheduler.Dispatch} {serviceIsReady : Bool} {now : Time}
    (hd : u.Traces Asked d.missionId d.payload)
    (h : .start robotId missionId missionType request ∈ Fleet.sentSince s
      (Fleet.handleAssignMission fcfg d.request serviceIsReady now s).2) :
    Commissioned Asked u (some missionId) request := by
  by_cases hassignable : Fleet.Assignable fcfg d.request serviceIsReady now s
  · have hsent := (Fleet.assignMission_accepts rfl hassignable).2
    obtain ⟨kind, hkind⟩ := supported_enum hassignable.supported
    simp only [Fleet.sentSince, hsent, List.length_cons, Nat.add_sub_cancel_left,
      List.take_succ_cons, List.take_zero, List.mem_singleton, Fleet.startRequest, hkind] at h
    cases h
    exact .client hd hkind
  · simp [Fleet.sentSince, (Fleet.assignMission_refuses rfl hassignable).2] at h

end

/-! ### The goals of a robot -/

/-- Each goal that was sent is due to the mission that it was sent for. -/
structure Robot.Owns (Due : Option String → Patrol.FollowWaypoints.Goal → Prop) (robot : Robot) :
    Prop where
  issued : ∀ id goal, .goal id goal ∈ robot.patrol.node.sent → id < robot.patrol.node.goalCount
  due : ∀ id goal, .goal id goal ∈ robot.patrol.node.sent → Due (robot.owner id).missionId goal

section

variable {Due Due' : Option String → Patrol.FollowWaypoints.Goal → Prop} {cfg : Patrol.Config}
  {libm : Patrol.Libm} {missionId : Option String} {e : Patrol.Event} {robot robot' : Robot}

theorem Robot.Owns.mono (h : robot.Owns Due) (hdue : ∀ missionId goal, Due missionId goal →
    Due' missionId goal) : robot.Owns Due' :=
  ⟨h.issued, fun id goal hm => hdue _ _ (h.due id goal hm)⟩

theorem Robot.Owns.congr (h : robot.Owns Due) (hpatrol : robot'.patrol = robot.patrol)
    (howner : robot'.owner = robot.owner) : robot'.Owns Due :=
  ⟨hpatrol ▸ h.issued, hpatrol ▸ howner ▸ h.due⟩

theorem goals_refused {patrol patrol' : Patrol.World}
    (hrefused : accepts cfg libm patrol.node e = false)
    (hstep : patrol.step cfg libm e = some patrol') :
    patrol'.node.goalCount = patrol.node.goalCount ∧
      ∀ id goal, .goal id goal ∈ patrol'.node.sent → .goal id goal ∈ patrol.node.sent := by
  have hattempt : ∀ attempt, attemptOf e = some attempt → patrol'.node = patrol.node := by
    intro attempt he
    rw [(attempt_step he hstep).1, refuses_state he hrefused]
  cases Patrol.step_cases hstep with
  | start | autostart => rw [hattempt _ rfl]; exact ⟨rfl, fun _ _ h => h⟩
  | stop =>
    dsimp only [Patrol.handleStop]
    split
    · exact ⟨rfl, fun id goal h => by simpa [Patrol.publishStatus, Patrol.State.send] using h⟩
    · exact ⟨rfl, fun _ _ h => h⟩
  | accepted | rejected | result =>
    exact ⟨rfl, fun id goal h => by
      simpa [Patrol.goalResponseCallback, Patrol.resultCallback, Patrol.publishStatus,
        Patrol.State.send] using h⟩

theorem goals_accepted {attempt : Attempt} {node t : Patrol.State}
    (hok : attempt.execute cfg libm node = .ok t) {id : Nat}
    {goal : Patrol.FollowWaypoints.Goal} (hm : .goal id goal ∈ t.sent) :
    .goal id goal ∈ node.sent ∨ (id = node.goalCount ∧ id < t.goalCount ∧
      Patrol.missionGoal cfg libm attempt.missionType attempt.targetPose attempt.hasTarget
        attempt.now = .ok goal) := by
  obtain ⟨sent, hsent, rfl⟩ := Patrol.executeMission_ok hok
  unfold Patrol.sendGoal at hm ⊢
  cases hserver : attempt.serverAvailable with
  | false =>
    left
    simpa [hserver, Patrol.publishStatus, Patrol.State.send] using hm
  | true =>
    simp only [hserver, Bool.not_true, Bool.false_eq_true, if_false, Patrol.publishStatus,
      Patrol.State.send, List.mem_cons, Patrol.Sent.goal.injEq, reduceCtorEq, false_or] at hm ⊢
    rcases hm with ⟨rfl, rfl⟩ | hold
    · exact .inr ⟨rfl, Nat.lt_succ_self _, hsent⟩
    · exact .inl hold

theorem owns_step (h : robot.Owns Due) (hstep : robot.step cfg libm missionId e = some robot')
    (hdue : ∀ attempt goal, attemptOf e = some attempt →
      Patrol.missionGoal cfg libm attempt.missionType attempt.targetPose attempt.hasTarget
        attempt.now = .ok goal → Due missionId goal) : robot'.Owns Due := by
  obtain ⟨patrol, hpatrol, rfl⟩ := Option.map_eq_some_iff.mp hstep
  split
  · rename_i haccepts
    obtain ⟨attempt, he⟩ := accepts_attempt haccepts
    have hok := accepts_ok he haccepts
    obtain ⟨hnode, _⟩ := attempt_step he hpatrol
    rw [← hnode] at hok
    obtain ⟨hsame, _, howner, _⟩ := foldr_publish (robot.begin missionId).current
      (patrol.node.sent.take (patrol.node.sent.length - robot.patrol.node.sent.length))
      { robot.begin missionId with patrol }
    have hcount := Patrol.executeMission_started hok
    have hle : robot.patrol.node.goalCount ≤ patrol.node.goalCount := by
      by_cases hserver : attempt.serverAvailable = true
      · exact (hcount.sent hserver).symm ▸ Nat.le_succ _
      · exact (hcount.unsent hserver).ge
    have howns : Robot.Owns Due { robot.begin missionId with patrol } := by
      refine ⟨fun id goal hm => ?_, fun id goal hm => ?_⟩
      · rcases goals_accepted hok hm with hold | ⟨_, hlt, _⟩
        · exact (h.issued id goal hold).trans_le hle
        · exact hlt
      · rcases goals_accepted hok hm with hold | ⟨rfl, _, hgoal⟩
        · have hne : id ≠ robot.patrol.node.goalCount := (h.issued id goal hold).ne
          simp only [Robot.begin, Function.update_of_ne hne]
          exact h.due id goal hold
        · simp only [Robot.begin, Function.update_self]
          exact hdue attempt goal he hgoal
    exact howns.congr hsame howner
  · rename_i hrefused
    obtain ⟨hcount, hgoals⟩ := goals_refused (Bool.not_eq_true _ ▸ hrefused) hpatrol
    obtain ⟨hsame, _, howner, _⟩ := foldr_publish (robot.runOf e)
      (patrol.node.sent.take (patrol.node.sent.length - robot.patrol.node.sent.length))
      { robot with patrol }
    have howns : Robot.Owns Due { robot with patrol } :=
      ⟨fun id goal hm => hcount.symm ▸ h.issued id goal (hgoals id goal hm),
        fun id goal hm => h.due id goal (hgoals id goal hm)⟩
    exact howns.congr hsame howner

end

end PatrolFleet.Execution
