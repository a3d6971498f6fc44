import PatrolFleet.Patrol.Start

/-!
The books of the patrol manager: every mission that it announces is sent to the
action server or given up at once, and what is sent ends in one status or is open.
-/

set_option autoImplicit false

namespace PatrolFleet.Patrol

@[simp] def Sent.isMissionType : Sent → Bool
  | .missionType _ => true
  | _ => false

@[simp] def Sent.isCancelGoal : Sent → Bool
  | .cancelGoal _ => true
  | _ => false

@[simp] def Sent.goalId : Sent → Option Nat
  | .goal id _ => some id
  | _ => none

section

variable (sent : List Sent)

/-- How often the status was published. -/
def statuses (status : String) : Nat := sent.count (.status status)

/-- The missions that were reported to be over. -/
def ended : Nat :=
  statuses sent "completed" + statuses sent "aborted" + statuses sent "canceled" +
    statuses sent "error"

/-- The missions that were announced on the topic `patrol/mission_type`. -/
def announced : Nat := sent.countP Sent.isMissionType

def goalIds : List Nat := sent.filterMap Sent.goalId

def cancels : Nat := sent.countP Sent.isCancelGoal

end

def World.inPhase (w : World) (phase : GoalPhase) : Nat := w.goals.countP (·.2 = phase)

structure World.Balanced (w : World) : Prop where
  announced : announced w.node.sent = statuses w.node.sent "waiting_for_nav2"
  sending : statuses w.node.sent "sending_goal" = w.node.goalCount
  numbered : goalIds w.node.sent = (List.range w.node.goalCount).reverse
  answered : statuses w.node.sent "sending_goal" =
    statuses w.node.sent "active" + statuses w.node.sent "rejected" + w.inPhase .awaiting
  ended : statuses w.node.sent "waiting_for_nav2" =
    statuses w.node.sent "rejected" + ended w.node.sent + w.goals.length
  canceling : statuses w.node.sent "canceling" = cancels w.node.sent

/-! ### What a callback sends -/

/-- An attempt to start a mission sends nothing, gives the mission up, or sends its goal. -/
inductive Attempted (s : State) : State → Prop where
  | refused : Attempted s s
  | unavailable (missionType : String) :
      Attempted s (publishStatus "error" (publishStatus "waiting_for_nav2"
        (s.send (.missionType missionType))))
  | sent (missionType : String) (goal : FollowWaypoints.Goal) :
      Attempted s { ((publishStatus "sending_goal" (publishStatus "waiting_for_nav2"
        (s.send (.missionType missionType)))).send (.goal s.goalCount goal)) with
          goalCount := s.goalCount + 1 }

section

variable {cfg : Config} {libm : Libm} {serverAvailable : Bool} {now : Time} {s t : State}
  {w v : World}

theorem executeMission_attempted {missionType : UInt8} {targetPose : PoseStamped}
    {hasTarget : Bool}
    (h : executeMission cfg libm missionType targetPose hasTarget serverAvailable now s = .ok t) :
    Attempted s t := by
  obtain ⟨goal, _, rfl⟩ := executeMission_ok h
  cases serverAvailable with
  | false => exact .unavailable _
  | true => exact .sent _ goal

theorem handleStart_attempted (request : StartMission.Request) :
    Attempted s (handleStart cfg libm request serverAvailable now s).2 := by
  unfold handleStart
  split
  · exact executeMission_attempted ‹_›
  · exact .refused

theorem startPatrol_attempted :
    Attempted s (startPatrol cfg libm serverAvailable now s) := by
  unfold startPatrol
  split
  · exact executeMission_attempted ‹_›
  · exact .refused

/-! ### Counting -/

variable {message : Sent} {sent : List Sent} {goals : List (Nat × GoalPhase)}

@[simp] theorem statuses_cons {status : String} : statuses (message :: sent) status =
    statuses sent status + if message = .status status then 1 else 0 := by
  simp [statuses, List.count_cons]

@[simp] theorem announced_cons : announced (message :: sent) =
    announced sent + if message.isMissionType then 1 else 0 := by
  simp [announced, List.countP_cons]

@[simp] theorem goalIds_cons :
    goalIds (message :: sent) = message.goalId.toList ++ goalIds sent := by
  unfold goalIds
  rw [List.filterMap_cons]
  cases message.goalId <;> rfl

@[simp] theorem cancels_cons : cancels (message :: sent) =
    cancels sent + if message.isCancelGoal then 1 else 0 := by
  simp [cancels, List.countP_cons]

theorem countP_erase_goal {goal : Nat × GoalPhase} (hm : goal ∈ goals) (phase : GoalPhase) :
    goals.countP (·.2 = phase) =
      (goals.erase goal).countP (·.2 = phase) + if goal.2 = phase then 1 else 0 := by
  rw [(List.perm_cons_erase hm).countP_eq, List.countP_cons]
  simp

theorem length_erase_goal {goal : Nat × GoalPhase} (hm : goal ∈ goals) :
    goals.length = (goals.erase goal).length + 1 := by
  rw [(List.perm_cons_erase hm).length_eq, List.length_cons]

/-! ### The steps -/

theorem World.Balanced.attempted (h : w.Balanced) (hs : Attempted w.node s) :
    (w.after s).Balanced := by
  obtain ⟨hannounced, hsending, hnumbered, hanswered, hended, hcanceling⟩ := h
  unfold World.inPhase at hanswered
  cases hs with
  | refused =>
    unfold World.after
    simp only [Nat.lt_irrefl, if_false]
    exact ⟨hannounced, hsending, hnumbered, hanswered, hended, hcanceling⟩
  | unavailable missionType =>
    unfold World.after publishStatus State.send
    simp only [Nat.lt_irrefl, if_false]
    refine ⟨?_, ?_, ?_, ?_, ?_, ?_⟩
    · simpa using hannounced
    · simpa using hsending
    · simpa using hnumbered
    · simpa [World.inPhase] using hanswered
    · simp [Patrol.ended] at hended ⊢
      omega
    · simpa using hcanceling
  | sent missionType goal =>
    unfold World.after publishStatus State.send
    simp only [Nat.lt_succ_self, if_true]
    refine ⟨?_, ?_, ?_, ?_, ?_, ?_⟩
    · simpa using hannounced
    · simpa using hsending
    · simpa [List.range_succ] using hnumbered
    · simp [World.inPhase] at hanswered ⊢
      omega
    · simp [Patrol.ended] at hended ⊢
      omega
    · simpa using hcanceling

theorem World.Balanced.stop (h : w.Balanced) :
    World.Balanced { w with node := (handleStop w.node).2 } := by
  obtain ⟨hannounced, hsending, hnumbered, hanswered, hended, hcanceling⟩ := h
  unfold handleStop
  split
  · unfold publishStatus State.send
    refine ⟨?_, ?_, ?_, ?_, ?_, ?_⟩
    · simpa using hannounced
    · simpa using hsending
    · simpa using hnumbered
    · simpa [World.inPhase] using hanswered
    · simpa [Patrol.ended] using hended
    · simpa using hcanceling
  · exact ⟨hannounced, hsending, hnumbered, hanswered, hended, hcanceling⟩

theorem World.Balanced.accepted (h : w.Balanced) {id : Nat} (hm : (id, .awaiting) ∈ w.goals) :
    World.Balanced { w with
      node := goalResponseCallback (some id) w.node
      goals := (id, .accepted) :: w.goals.erase (id, .awaiting) } := by
  obtain ⟨hannounced, hsending, hnumbered, hanswered, hended, hcanceling⟩ := h
  have hwaiting := countP_erase_goal hm .awaiting
  have hlength := length_erase_goal hm
  unfold goalResponseCallback publishStatus State.send
  refine ⟨?_, ?_, ?_, ?_, ?_, ?_⟩
  · simpa using hannounced
  · simpa using hsending
  · simpa using hnumbered
  · simp [World.inPhase] at hanswered hwaiting ⊢
    omega
  · simp [Patrol.ended] at hended ⊢
    omega
  · simpa using hcanceling

theorem World.Balanced.rejected (h : w.Balanced) {id : Nat} (hm : (id, .awaiting) ∈ w.goals) :
    World.Balanced { w with
      node := goalResponseCallback none w.node
      goals := w.goals.erase (id, .awaiting) } := by
  obtain ⟨hannounced, hsending, hnumbered, hanswered, hended, hcanceling⟩ := h
  have hwaiting := countP_erase_goal hm .awaiting
  have hlength := length_erase_goal hm
  unfold goalResponseCallback publishStatus State.send
  refine ⟨?_, ?_, ?_, ?_, ?_, ?_⟩
  · simpa using hannounced
  · simpa using hsending
  · simpa using hnumbered
  · simp [World.inPhase] at hanswered hwaiting ⊢
    omega
  · simp [Patrol.ended] at hended ⊢
    omega
  · simpa using hcanceling

theorem ended_terminalStatus (result : FollowWaypoints.WrappedResult) :
    Patrol.ended (.status (terminalStatus result) :: sent) = Patrol.ended sent + 1 ∧
    ∀ status ∈ ["waiting_for_nav2", "sending_goal", "active", "rejected", "canceling"],
      statuses (.status (terminalStatus result) :: sent) status = statuses sent status := by
  have hcases : terminalStatus result = "completed" ∨ terminalStatus result = "aborted" ∨
      terminalStatus result = "canceled" ∨ terminalStatus result = "error" := by
    unfold terminalStatus
    cases result.code with
    | succeeded =>
      dsimp only
      split <;> simp
    | _ => simp
  rcases hcases with heq | heq | heq | heq <;> rw [heq] <;> refine ⟨?_, by simp⟩
  all_goals
    simp [Patrol.ended]
    omega

theorem World.Balanced.result (h : w.Balanced) {id : Nat} (hm : (id, .accepted) ∈ w.goals)
    (result : FollowWaypoints.WrappedResult) :
    World.Balanced { w with
      node := resultCallback result w.node
      goals := w.goals.erase (id, .accepted) } := by
  obtain ⟨hannounced, hsending, hnumbered, hanswered, hended, hcanceling⟩ := h
  have hwaiting := countP_erase_goal hm .awaiting
  have hlength := length_erase_goal hm
  have hover := @ended_terminalStatus w.node.sent result
  unfold resultCallback publishStatus State.send
  refine ⟨?_, ?_, ?_, ?_, ?_, ?_⟩
  · rw [hover.2 _ (by simp)]
    simpa using hannounced
  · rw [hover.2 _ (by simp)]
    exact hsending
  · simpa using hnumbered
  · rw [hover.2 _ (by simp), hover.2 _ (by simp), hover.2 _ (by simp)]
    simp [World.inPhase] at hanswered hwaiting ⊢
    omega
  · rw [hover.2 _ (by simp), hover.2 _ (by simp), hover.1]
    dsimp only
    omega
  · rw [hover.2 _ (by simp)]
    simpa using hcanceling

theorem balanced_step {e : Event} (h : w.Balanced) (hstep : w.step cfg libm e = some v) :
    v.Balanced := by
  cases step_cases hstep with
  | start request serverAvailable now => exact h.attempted (handleStart_attempted request)
  | autostart serverAvailable now hpending =>
    obtain ⟨hannounced, hsending, hnumbered, hanswered, hended, hcanceling⟩ :=
      h.attempted (@startPatrol_attempted cfg libm serverAvailable now w.node)
    exact ⟨hannounced, hsending, hnumbered, hanswered, hended, hcanceling⟩
  | stop => exact h.stop
  | accepted hm => exact h.accepted hm
  | rejected hm => exact h.rejected hm
  | result result hm => exact h.result hm result

end

/-- Every mission that was announced is rejected, over or open, and each goal is sent once
and gets one status for the server's answer, in every reachable state. -/
theorem missions_balanced (cfg : Config) (libm : Libm) {w : World}
    (h : (machine cfg libm).Reachable w) : w.Balanced := by
  refine h.invariant (P := World.Balanced) ?_ fun u e v hu hstep => balanced_step hu hstep
  exact ⟨rfl, rfl, rfl, rfl, rfl, rfl⟩

/-- A second mission is asked for before the server has answered, and it finds no server. -/
def overlappingRun : List Event :=
  [.start ⟨StartMission.missionGoTo, {}, true⟩ true 0,
    .start ⟨StartMission.missionGoTo, {}, true⟩ false 1,
    .goalResponse 0 true, .stop, .result 0 ⟨.canceled, none⟩]

theorem missions_balanced_overlapping : ∃ w,
    (machine {} ⟨fun _ => 0, fun _ => 1⟩).run overlappingRun = some w ∧ w.goals = [] ∧
      w.Balanced :=
  ⟨_, rfl, rfl, missions_balanced {} ⟨fun _ => 0, fun _ => 1⟩ ⟨overlappingRun, rfl⟩⟩

end PatrolFleet.Patrol
