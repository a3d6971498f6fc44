import PatrolFleet.Scheduler.Reconciling

/-!
The message on the latched topic `/scheduler/queue_state` and the queue it
describes. A callback that changes the queue publishes it before it returns.
-/

set_option autoImplicit false

namespace PatrolFleet.Scheduler

variable {cfg : Config}

/-- The message lists exactly the missions of the queue, in queue order. -/
structure Lists (message : MissionQueueState) (queue : List QueuedMission) : Prop where
  missionIds : message.missionIds = queue.map (·.missionId)
  missionTypes : message.missionTypes = queue.map (·.missionType)
  priorities : message.priorities = queue.map (·.priority)
  pendingCount : queue.length < UInt32.size → message.pendingCount = queue.length

def State.Published (s : State) : Prop := Lists s.queueState s.missionQueue

/-- The callback leaves the queue and the topic alone, or ends with the queue on
the topic. -/
inductive Published (s t : State) : Prop where
  | untouched (hqueue : t.missionQueue = s.missionQueue) (htopic : t.queueState = s.queueState)
  | current (h : t.Published)

theorem Published.keeps {s t : State} (h : Published s t) (hs : s.Published) : t.Published := by
  cases h with
  | untouched hqueue htopic =>
    unfold State.Published
    rw [hqueue, htopic]
    exact hs
  | current h => exact h

theorem publishQueueState_published (now : Time) (s : State) :
    (publishQueueState now s).Published where
  missionIds := rfl
  missionTypes := rfl
  priorities := rfl
  pendingCount hlt := Nat.mod_eq_of_lt hlt

/-! ### One callback -/

theorem published_queueMission (request : QueueMission.Request) (now : Time) (s : State) :
    Published s (handleQueueMission request now s).2 := by
  unfold handleQueueMission
  split
  · exact .untouched rfl rfl
  · exact .current (publishQueueState_published now _)

theorem published_cancelMission (missionId : String) (now : Time) (s : State) :
    Published s (handleCancelMission missionId now s).2 := by
  unfold handleCancelMission
  split
  · exact .untouched rfl rfl
  split
  · exact .current (publishQueueState_published now _)
  · exact .untouched rfl rfl

/-- Only a failed mission puts an entry back on the queue, and then the queue is
published. -/
theorem published_reconcile (now : Time) (visit : List Entry) (s : State) :
    Published s (reconcileActiveMissionsLocked cfg now visit s) := by
  refine reconcile_rule (P := fun t _ failed => failed = [] →
    t.missionQueue = s.missionQueue ∧ t.queueState = s.queueState) (fun _ => .untouched rfl rfl)
    (fun _ => ⟨rfl, rfl⟩) (fun _ _ _ ht => ht) (fun _ _ failed e _ hnone => ?_)
    (fun t ht hnone => .untouched (ht hnone).1 (ht hnone).2)
    fun t _ => .current (publishQueueState_published now t)
  exact absurd hnone (List.append_ne_nil_of_right_ne_nil failed (List.cons_ne_nil e []))

theorem published_fleetState (message : FleetState) (now : Time)
    (visit : List (Sigma fun _ : String => ActiveMission)) (s : State) :
    Published s (fleetStateCallback cfg message now visit s) := by
  set updated := updateRobotReservationsLocked cfg now
    { s with latestFleetState := message, receivedFleetState := true }
  have h : Published updated (reconcileActiveMissionsLocked cfg now visit updated) :=
    published_reconcile now visit updated
  cases h with
  | untouched hqueue htopic => exact .untouched hqueue htopic
  | current h => exact .current h

theorem published_processQueue (now : Time) (serviceIsReady : Bool) (s : State) :
    Published s (processQueue cfg now serviceIsReady s).1 := by
  obtain ⟨t, ht, hnone | ⟨mission, robot, _, _, _, _, _, hsent⟩⟩ :=
    processQueue_cases cfg now serviceIsReady s
  · rw [hnone]
    exact .untouched ht.freed.missionQueue ht.freed.queueState
  · rw [hsent]
    exact .untouched ht.freed.missionQueue ht.freed.queueState

theorem published_assignResponse (d : Dispatch) (answer : Answer) (now : Time) (s : State) :
    Published s (assignResponseCallback d answer now s) := by
  unfold assignResponseCallback
  split
  · exact .untouched rfl rfl
  · exact .current (publishQueueState_published now _)

theorem step_published {w w' : World} {e : Event} (h : w.step cfg e = some w') :
    Published w.node w'.node := by
  cases e with
  | systemReady data =>
    cases h
    exact .untouched rfl rfl
  | fleetState message now visit =>
    obtain ⟨_, h⟩ := Option.ite_none_right_eq_some.mp h
    cases h
    exact published_fleetState message now visit w.node
  | queueMission request now =>
    cases h
    exact published_queueMission request now w.node
  | cancelMission missionId now =>
    cases h
    exact published_cancelMission missionId now w.node
  | dispatchPatrol now =>
    cases h
    exact .current (publishQueueState_published now _)
  | recurringPatrol now =>
    obtain ⟨_, h⟩ := Option.ite_none_right_eq_some.mp h
    cases h
    exact .current (publishQueueState_published now _)
  | processQueue now serviceIsReady =>
    cases h
    exact published_processQueue now serviceIsReady w.node
  | assignResponse d answer now =>
    obtain ⟨_, h⟩ := Option.ite_none_right_eq_some.mp h
    cases h
    exact published_assignResponse d answer now w.node

/-! ### Whole runs -/

/-- The latched queue never lags: between two callbacks the last message on
`/scheduler/queue_state` describes the queue as it is. -/
theorem queue_state_current {cfg : Config} {startedAt : Time} {w : World}
    (h : (machine cfg startedAt).Reachable w) : Lists w.node.queueState w.node.missionQueue := by
  refine Machine.Reachable.invariant (P := fun w => w.node.Published) ?_ ?_ h
  · exact publishQueueState_published startedAt _
  · intro s e t hs ht
    exact (step_published ht).keeps hs

/-- A mission that its robot fails returns to the queue behind a more urgent one. -/
def requeuedRun : List Event :=
  let robot (state : UInt8) : FleetRobotState := ⟨"robot1", true, false, state, 90, true, "", 0⟩
  let dispatch : Dispatch := ⟨"mission-1", "patrol", 10, {}, false, 0, "robot1", 1⟩
  let failing : Sigma fun _ : String => ActiveMission :=
    ⟨"robot1", "mission-1", "patrol", 10, {}, false, false, seconds 4, 0⟩
  [.systemReady true,
    .queueMission ⟨"patrol", 10, {}, false⟩ (seconds 1),
    .fleetState ⟨seconds 2, [robot RobotHeartbeat.stateIdle]⟩ (seconds 2) [],
    .processQueue (seconds 3) true,
    .assignResponse dispatch (.response ⟨true, ""⟩) (seconds 4),
    .queueMission ⟨"charge", 20, {}, false⟩ (seconds 5),
    .fleetState ⟨seconds 6, [robot RobotHeartbeat.stateError]⟩ (seconds 6) [failing]]

def requeuedWorld : World := ((machine {} 0).run requeuedRun).get (by decide)

theorem queue_state_current_requeued :
    requeuedWorld.node.queueState.missionIds = ["mission-2", "mission-3"] ∧
    requeuedWorld.node.queueState.pendingCount = 2 := by
  have hreach : (machine {} 0).Reachable requeuedWorld := (machine {} 0).reachable_get _
  have h := queue_state_current hreach
  constructor
  · rw [h.missionIds]
    decide
  · rw [h.pendingCount (by decide)]
    decide

end PatrolFleet.Scheduler
