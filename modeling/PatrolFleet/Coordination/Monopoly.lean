import PatrolFleet.Coordination.System

/-!
A mission that the fleet manager refuses is sent again on every tick, to the
same robot, while other missions wait.
-/

set_option autoImplicit false

namespace PatrolFleet.Coordination

open Scheduler (QueuedMission)

/-- Another mission is queued, or another robot of the latest fleet state is
eligible. -/
def Contended (cfg : Scheduler.Config) (missionId robotId : String) (s : Scheduler.State) :
    Prop :=
  (∃ mission ∈ s.missionQueue, mission.missionId ≠ missionId) ∨
    ∃ robot ∈ s.latestFleetState.robots,
      robot.robotId ≠ robotId ∧ Scheduler.isCandidate cfg s robot = true

/-- Between the two worlds `process_queue` sends only the one mission, to the one
robot, and the fleet manager refuses it that many times, in contention throughout. -/
inductive Monopolised (cfg : Scheduler.Config) (fcfg : Fleet.Config)
    (missionId robotId : String) : Nat → World → World → Prop where
  | start {w : World} : Contended cfg missionId robotId w.scheduler.node →
      Monopolised cfg fcfg missionId robotId 0 w w
  | other {k : Nat} {w u v : World} {e : Event} : Monopolised cfg fcfg missionId robotId k w u →
      u.step cfg fcfg e = some v → v.scheduler.calls = u.scheduler.calls →
      Contended cfg missionId robotId v.scheduler.node →
      Monopolised cfg fcfg missionId robotId k w v
  | rejected {k : Nat} {w u v x y : World} {d : Scheduler.Dispatch}
      {response : AssignMission.Response} (sentAt handledAt answeredAt : Time)
      (serviceIsReady : Bool) : Monopolised cfg fcfg missionId robotId k w u →
      u.step cfg fcfg (.scheduler (.processQueue sentAt true)) = some v →
      v.scheduler.calls = d :: u.scheduler.calls → d.missionId = missionId →
      d.robotId = robotId → Contended cfg missionId robotId v.scheduler.node →
      v.step cfg fcfg (.assignMission d serviceIsReady handledAt) = some x →
      x.step cfg fcfg (.response d response answeredAt) = some y → response.success = false →
      Contended cfg missionId robotId y.scheduler.node →
      Monopolised cfg fcfg missionId robotId (k + 1) w y

/-- A mission without its target is at the head of the queue, another one waits,
and the only robot is free. -/
structure Jammed (cfg : Scheduler.Config) (mission : QueuedMission) (robot : FleetRobotState)
    (s : Scheduler.State) : Prop where
  systemReady : s.systemReady = true
  idle : s.dispatchInProgress = false
  head : s.missionQueue.head? = some mission
  waiting : ∃ other ∈ s.missionQueue, other.missionId ≠ mission.missionId
  received : s.receivedFleetState = true
  robots : s.latestFleetState.robots = [robot]
  candidate : Scheduler.isCandidate cfg s robot = true
  inspection : mission.missionType = "inspect"
  untargeted : mission.hasTarget = false

section

variable {cfg : Scheduler.Config} {fcfg : Fleet.Config} {mission : QueuedMission}
  {robot : FleetRobotState}

theorem Jammed.contended {s : Scheduler.State} (h : Jammed cfg mission robot s) :
    Contended cfg mission.missionId robot.robotId s := Or.inl h.waiting

theorem Jammed.sends {s : Scheduler.State} (h : Jammed cfg mission robot s) (now : Time) :
    Scheduler.processQueue cfg now true s =
      ((Scheduler.sendDispatch mission ⟨robot.robotId, robot.batteryPercentage⟩ now s).1, some
        (Scheduler.sendDispatch mission ⟨robot.robotId, robot.batteryPercentage⟩ now s).2) := by
  have hnext : Scheduler.getNextMission s = some mission := h.head
  have hrobot : Scheduler.selectRobot cfg s =
      some ⟨robot.robotId, robot.batteryPercentage⟩ := by
    simp [Scheduler.selectRobot, h.received, h.robots, h.candidate, Scheduler.maxElement]
  simp [Scheduler.processQueue, h.systemReady, Scheduler.reclaimDispatch, h.idle, hnext, hrobot]

theorem inspection_refused {request : AssignMission.Request}
    (hc : request.command = AssignMission.commandStart) (ht : request.missionType = "inspect")
    (hn : request.hasTarget = false) (serviceIsReady : Bool) (now : Time) (s : Fleet.State) :
    (Fleet.handleAssignMission fcfg request serviceIsReady now s).1.success = false := by
  refine (Fleet.assignMission_refuses hc ?_).1
  intro h
  have htarget := h.target (by simp [Fleet.missionTypeRequiresTarget, ht])
  simp [hn] at htarget

theorem Jammed.refused {s : Scheduler.State} (h : Jammed cfg mission robot s)
    {response : AssignMission.Response} (hno : response.success = false) (sentAt now : Time) :
    let sent := Scheduler.sendDispatch mission ⟨robot.robotId, robot.batteryPercentage⟩ sentAt s
    Jammed cfg mission robot
      (Scheduler.assignResponseCallback sent.2 (.response response) now sent.1) := by
  intro sent
  have hgen : sent.2.generation = sent.1.dispatchGeneration := rfl
  unfold Scheduler.assignResponseCallback
  simp only [hgen, ne_eq, not_true_eq_false, if_false, hno, Bool.false_eq_true]
  dsimp only [Scheduler.publishQueueState, Scheduler.State.record,
    Scheduler.releaseRobotReservation, sent, Scheduler.sendDispatch]
  have hc := h.candidate
  refine ⟨h.systemReady, rfl, h.head, h.waiting, h.received, h.robots, ?_, h.inspection,
    h.untargeted⟩
  unfold Scheduler.isCandidate at hc ⊢
  simp only [Bool.and_eq_true] at hc ⊢
  refine ⟨hc.1, ?_⟩
  simp

theorem Jammed.round {w u : World} {k : Nat}
    (hm : Monopolised cfg fcfg mission.missionId robot.robotId k w u)
    (h : Jammed cfg mission robot u.scheduler.node) :
    ∃ v, Monopolised cfg fcfg mission.missionId robot.robotId (k + 1) w v ∧
      Jammed cfg mission robot v.scheduler.node := by
  set sent := Scheduler.sendDispatch mission ⟨robot.robotId, robot.batteryPercentage⟩ 0
    u.scheduler.node
  set handled := Fleet.handleAssignMission fcfg sent.2.request true 0 u.fleet
  have hno : handled.1.success = false :=
    inspection_refused rfl h.inspection h.untargeted true 0 u.fleet
  have hsent := h.sends 0
  have hjammed : Jammed cfg mission robot
      (Scheduler.assignResponseCallback sent.2 (.response handled.1) 0 sent.1) :=
    h.refused hno 0 0
  obtain ⟨v, hv, hcalls, hrequests, hnode, hfleet⟩ :
      ∃ v, u.step cfg fcfg (.scheduler (.processQueue 0 true)) = some v ∧
        v.scheduler.calls = sent.2 :: u.scheduler.calls ∧ sent.2 ∈ v.requests ∧
        v.scheduler.node = sent.1 ∧ v.fleet = u.fleet := by
    simp [World.step, Scheduler.Event.isAnswer, Scheduler.World.step, hsent, sentSince, sent]
  obtain ⟨x, hx, hresponse, hxs⟩ :
      ∃ x, v.step cfg fcfg (.assignMission sent.2 true 0) = some x ∧
        (sent.2, handled.1) ∈ x.responses ∧ x.scheduler = v.scheduler := by
    simp [World.step, hrequests, hfleet, handled]
  obtain ⟨y, hy, hyn⟩ :
      ∃ y, x.step cfg fcfg (.response sent.2 handled.1 0) = some y ∧
        y.scheduler.node =
          Scheduler.assignResponseCallback sent.2 (.response handled.1) 0 sent.1 := by
    simp [World.step, hresponse, Scheduler.World.step, hxs, hcalls, hnode]
  rw [← hyn] at hjammed
  have hcontended : Contended cfg mission.missionId robot.robotId v.scheduler.node := by
    rw [hnode]
    exact Or.inl h.waiting
  exact ⟨y, .rejected 0 0 0 true hm hv hcalls rfl rfl hcontended hx hy hno hjammed.contended,
    hjammed⟩

theorem Jammed.rounds {w : World} (h : Jammed cfg mission robot w.scheduler.node) (k : Nat) :
    ∃ v, Monopolised cfg fcfg mission.missionId robot.robotId k w v ∧
      Jammed cfg mission robot v.scheduler.node := by
  induction k with
  | zero => exact ⟨w, .start h.contended, h⟩
  | succ k ih =>
    obtain ⟨u, hm, hu⟩ := ih
    exact hu.round hm

end

/-- The only robot is as good as `select_robot` asks for. -/
def freeRobot (cfg : Scheduler.Config) : FleetRobotState :=
  ⟨"robot1", true, false, RobotHeartbeat.stateIdle, cfg.minimumBatteryPercentage, true, "", 0⟩

/-- An inspection, asked for as `dispatch_incident_inspection` does, with a patrol
behind it. -/
def jammingRun (cfg : Scheduler.Config) : List Event :=
  [.scheduler (.systemReady true),
    .scheduler (.queueMission (Fleet.inspectionRequest {}) 0),
    .scheduler (.dispatchPatrol 0),
    .scheduler (.fleetState ⟨0, [freeRobot cfg]⟩ 0 [])]

def jammedNode (cfg : Scheduler.Config) (startedAt : Time) : Scheduler.State :=
  let s := Scheduler.systemReadyCallback true (Scheduler.State.init startedAt)
  let s := (Scheduler.handleQueueMission (Fleet.inspectionRequest {}) 0 s).2
  let s := (Scheduler.handleDispatchPatrol 0 s).2
  Scheduler.fleetStateCallback cfg ⟨0, [freeRobot cfg]⟩ 0 [] s

def jammedWorld (cfg : Scheduler.Config) (startedAt : Time) (fleet : Fleet.State) : World :=
  ⟨⟨jammedNode cfg startedAt, []⟩, fleet, [], [], []⟩

def inspection : QueuedMission := ⟨"mission-1", "inspect", 100, 0, {}, false, 0⟩

theorem jammed_reachable (cfg : Scheduler.Config) (fcfg : Fleet.Config) (startedAt : Time)
    (fleet : Fleet.State) :
    (machine cfg fcfg startedAt fleet).Reachable (jammedWorld cfg startedAt fleet) :=
  ⟨jammingRun cfg, rfl⟩

theorem queue_jammedNode (cfg : Scheduler.Config) (startedAt : Time) :
    (jammedNode cfg startedAt).missionQueue =
      [inspection, ⟨"mission-2", "patrol", 0, 1, {}, false, 0⟩] := by
  have hsame : (jammedNode cfg startedAt).missionQueue = (jammedNode {} 0).missionQueue := rfl
  rw [hsame]
  decide

theorem jammed_jammedNode (cfg : Scheduler.Config) (startedAt : Time) :
    Jammed cfg inspection (freeRobot cfg) (jammedNode cfg startedAt) where
  systemReady := rfl
  idle := rfl
  head := by simp [queue_jammedNode]
  waiting := by simp [queue_jammedNode, inspection]
  received := rfl
  robots := rfl
  candidate := by
    have hnone : (jammedNode cfg startedAt).reservedRobots = ∅ := rfl
    simp [Scheduler.isCandidate, hnone, freeRobot]
  inspection := rfl
  untargeted := rfl

theorem monopoly_lasts (cfg : Scheduler.Config) (fcfg : Fleet.Config) (startedAt : Time)
    (fleet : Fleet.State) (k : Nat) : ∃ w v, (machine cfg fcfg startedAt fleet).Reachable w ∧
      Monopolised cfg fcfg "mission-1" "robot1" k w v := by
  have hjammed : Jammed cfg inspection (freeRobot cfg)
      (jammedWorld cfg startedAt fleet).scheduler.node := jammed_jammedNode cfg startedAt
  obtain ⟨v, hm, _⟩ := hjammed.rounds k
  exact ⟨_, v, jammed_reachable cfg fcfg startedAt fleet, hm⟩

theorem monopoly_unbounded (cfg : Scheduler.Config) (fcfg : Fleet.Config) (startedAt : Time)
    (fleet : Fleet.State) : ¬ ∃ bound : Nat, ∀ missionId robotId k w v,
      (machine cfg fcfg startedAt fleet).Reachable w →
      Monopolised cfg fcfg missionId robotId k w v → k < bound := by
  rintro ⟨bound, h⟩
  obtain ⟨w, v, hw, hm⟩ := monopoly_lasts cfg fcfg startedAt fleet bound
  have hlt := h _ _ bound w v hw hm
  omega

theorem monopoly_unbounded_shipped : ¬ ∃ bound : Nat, ∀ missionId robotId k w v,
    (machine {} {} 0 shippedFleet).Reachable w →
    Monopolised {} {} missionId robotId k w v → k < bound := by
  rintro ⟨bound, h⟩
  obtain ⟨w, v, hw, hm⟩ := monopoly_lasts {} {} 0 shippedFleet bound
  have hlt := h _ _ bound w v hw hm
  omega

end PatrolFleet.Coordination
