import PatrolFleet.Scheduler.Payload
import PatrolFleet.Coordination.System
import PatrolFleet.Patrol.System

/-!
Which of the missions that the queue accepts the fleet manager and the patrol
manager accept as well, when nothing but the mission can be in their way.
-/

set_option autoImplicit false

namespace PatrolFleet.Coordination

open Scheduler (Dispatch)

/-- Nothing about the system, the robot or its services stops a START. -/
structure FleetReady (cfg : Fleet.Config) (robotId : String) (now : Time) (s : Fleet.State) :
    Prop where
  robot : Fleet.robotExists robotId s = true
  systemReady : s.systemReady = true
  online : Fleet.isRobotOnline cfg robotId now s = true
  client : Fleet.hasClient cfg robotId = true

/-- The robot is free, and its waypoints, goal index and poses are configured. -/
structure PatrolReady (cfg : Patrol.Config) (s : Patrol.State) : Prop where
  idle : s.patrolActive = false
  waypoints : cfg.waypoints ≠ []
  triples : cfg.waypoints.length % 3 = 0
  goalIndex : 0 ≤ cfg.goalIndex ∧ cfg.goalIndex < cfg.waypoints.length / 3
  homePose : cfg.homePose.length = 3
  chargeDockPose : cfg.chargeDockPose.length = 3

/-- The fleet manager forwards the START of the dispatch, and the patrol manager
accepts what was forwarded. -/
def Admitted (fcfg : Fleet.Config) (fleet : Fleet.State) (handledAt : Time)
    (pcfg : Patrol.Config) (libm : Patrol.Libm) (patrol : Patrol.State)
    (serverAvailable : Bool) (startedAt : Time) (d : Dispatch) : Prop :=
  ∃ r : StartMission.Request,
    (Fleet.handleAssignMission fcfg d.request true handledAt fleet).1.success = true ∧
    (Fleet.handleAssignMission fcfg d.request true handledAt fleet).2.sent =
      .start d.robotId d.missionId d.missionType r :: fleet.sent ∧
    (Patrol.handleStart pcfg libm r serverAvailable startedAt patrol).1.success = true

theorem handleStart_success_iff {cfg : Patrol.Config} {libm : Patrol.Libm}
    {request : StartMission.Request} {serverAvailable : Bool} {now : Time} {s : Patrol.State} :
    (Patrol.handleStart cfg libm request serverAvailable now s).1.success = true ↔
      s.patrolActive = false ∧ cfg.admits request.missionType request.hasTarget = true := by
  have hok : (∃ t, Patrol.executeMission cfg libm request.missionType request.targetPose
      request.hasTarget serverAvailable now s = .ok t) ↔ _ := Patrol.executeMission_ok_iff
  rw [← hok]
  unfold Patrol.handleStart
  cases Patrol.executeMission cfg libm request.missionType request.targetPose request.hasTarget
    serverAvailable now s <;> simp

/-- What the checks of the three layers come to for the five mission types. -/
theorem admits_supported {cfg : Patrol.Config} {s : Patrol.State} (h : PatrolReady cfg s)
    {missionType : String} (hs : isSupportedMissionType missionType = true) (hasTarget : Bool) :
    (Fleet.missionTypeRequiresTarget missionType = true → hasTarget = true) ∧
      cfg.admits ((Fleet.missionTypeToEnum missionType).getD StartMission.missionPatrol)
        hasTarget = true ↔
    (missionType = "go_to" ∨ missionType = "inspect" → hasTarget = true) ∧
      (missionType = "patrol" → 0 ≤ cfg.numberOfLoops) := by
  have hcases : missionType = "patrol" ∨ missionType = "go_to" ∨ missionType = "return_home" ∨
      missionType = "charge" ∨ missionType = "inspect" := by
    simpa [isSupportedMissionType, supportedMissionTypes] using hs
  rcases hcases with rfl | rfl | rfl | rfl | rfl
  · simp [Fleet.missionTypeRequiresTarget, Fleet.missionTypeToEnum, Patrol.Config.admits,
      h.waypoints, h.triples, h.goalIndex]
  · simp [Fleet.missionTypeRequiresTarget, Fleet.missionTypeToEnum, Patrol.Config.admits,
      StartMission.missionGoTo, StartMission.missionPatrol]
  · simp [Fleet.missionTypeRequiresTarget, Fleet.missionTypeToEnum, Patrol.Config.admits,
      StartMission.missionGoTo, StartMission.missionPatrol, StartMission.missionReturnHome,
      StartMission.missionInspect, h.homePose]
  · simp [Fleet.missionTypeRequiresTarget, Fleet.missionTypeToEnum, Patrol.Config.admits,
      StartMission.missionGoTo, StartMission.missionPatrol, StartMission.missionReturnHome,
      StartMission.missionInspect, StartMission.missionCharge, h.chargeDockPose]
  · simp [Fleet.missionTypeRequiresTarget, Fleet.missionTypeToEnum, Patrol.Config.admits,
      StartMission.missionGoTo, StartMission.missionPatrol, StartMission.missionInspect]

theorem admitted_iff {fcfg : Fleet.Config} {fleet : Fleet.State} {handledAt : Time}
    {pcfg : Patrol.Config} {libm : Patrol.Libm} {patrol : Patrol.State} {serverAvailable : Bool}
    {startedAt : Time} {d : Dispatch} (hfleet : FleetReady fcfg d.robotId handledAt fleet)
    (hpatrol : PatrolReady pcfg patrol)
    (hs : isSupportedMissionType d.missionType = true) :
    Admitted fcfg fleet handledAt pcfg libm patrol serverAvailable startedAt d ↔
      (d.missionType = "go_to" ∨ d.missionType = "inspect" → d.hasTarget = true) ∧
        (d.missionType = "patrol" → 0 ≤ pcfg.numberOfLoops) := by
  rw [← admits_supported hpatrol hs]
  have hassignable : Fleet.Assignable fcfg d.request true handledAt fleet ↔
      (Fleet.missionTypeRequiresTarget d.missionType = true → d.hasTarget = true) :=
    ⟨fun h => h.target, fun ht => ⟨hfleet.robot, hs, hfleet.systemReady, hfleet.online, ht,
      hfleet.client, rfl⟩⟩
  rw [← hassignable]
  constructor
  · rintro ⟨r, hsuccess, hsent, hstart⟩
    have ha := (Fleet.assignMission_success_iff rfl).mp hsuccess
    obtain ⟨_, hforward⟩ := Fleet.assignMission_accepts rfl ha
    rw [hforward] at hsent
    have hr : r = Fleet.startRequest d.request := by
      simpa [Dispatch.request, eq_comm] using hsent
    subst hr
    exact ⟨ha, (handleStart_success_iff.mp hstart).2⟩
  · rintro ⟨ha, hadmits⟩
    obtain ⟨hsuccess, hsent⟩ := Fleet.assignMission_accepts rfl ha
    exact ⟨_, hsuccess, hsent, handleStart_success_iff.mpr ⟨hpatrol.idle, hadmits⟩⟩

theorem queue_admits_iff {cfg : Scheduler.Config} {startedAt : Time} {w u : Scheduler.World}
    (hw : (Scheduler.machine cfg startedAt).Reachable w) {request : QueueMission.Request}
    {queuedAt : Time}
    (hqueue : (Scheduler.handleQueueMission request queuedAt w.node).1.accepted = true)
    {es : List Scheduler.Event}
    (hrun : (Scheduler.machine cfg startedAt).runFrom w (.queueMission request queuedAt :: es) =
      some u)
    {d : Dispatch} (hd : d ∈ u.calls)
    (hid : d.missionId = (Scheduler.handleQueueMission request queuedAt w.node).1.missionId)
    {fcfg : Fleet.Config} {fleet : Fleet.State} {handledAt : Time}
    (hfleet : FleetReady fcfg d.robotId handledAt fleet) {pcfg : Patrol.Config}
    {patrol : Patrol.State} (hpatrol : PatrolReady pcfg patrol) (libm : Patrol.Libm)
    (serverAvailable : Bool) (missionAt : Time) :
    Admitted fcfg fleet handledAt pcfg libm patrol serverAvailable missionAt d ↔
      (request.missionType = "go_to" ∨ request.missionType = "inspect" →
        request.hasTarget = true) ∧
      (request.missionType = "patrol" → 0 ≤ pcfg.numberOfLoops) := by
  have hcarries : u.Carries (Scheduler.handleQueueMission request queuedAt w.node).1.missionId
      request.missionType request.targetPose request.hasTarget := by
    have hstart := Scheduler.carries_of_queueMission (Scheduler.reachable_inv hw) hqueue
    have hrest : (Scheduler.machine cfg startedAt).runFrom
        ⟨(Scheduler.handleQueueMission request queuedAt w.node).2, w.calls⟩ es = some u := hrun
    refine Machine.runFrom_invariant (P := fun u : Scheduler.World =>
      u.Carries _ request.missionType request.targetPose request.hasTarget) ?_ hstart hrest
    intro s e t hs hstep
    have hcase := Scheduler.step_cases (w := s) (e := e) hstep
    exact Scheduler.carries_step hs hcase
  obtain ⟨htype, _, htarget⟩ := hcarries.called d hd hid
  have hsupported := (Scheduler.queueMission_accepted hqueue).1
  rw [admitted_iff hfleet hpatrol (htype ▸ hsupported), htype, htarget]

/-! ### A mission with and a mission without its target -/

def openedWorld : Scheduler.World :=
  ((Scheduler.machine {} 0).run [.systemReady true]).get (by decide)

/-- A mission is queued, robot1 reports itself free, and the mission is sent to it. -/
def sendingRun : List Scheduler.Event :=
  [.fleetState ⟨seconds 2, [⟨"robot1", true, false, RobotHeartbeat.stateIdle, 90, true, "",
      seconds 2⟩]⟩ (seconds 2) [],
    .processQueue (seconds 3) true]

def sentFor (request : QueueMission.Request) : Dispatch :=
  ⟨"mission-1", request.missionType, request.priority, request.targetPose, request.hasTarget, 0,
    "robot1", 1⟩

def readyFleet : Fleet.State :=
  Fleet.heartbeatCallback "robot1"
    ⟨"robot1", seconds 2, RobotHeartbeat.stateIdle, 90, "", true⟩ (seconds 2)
    (Fleet.systemReadyCallback true shippedFleet)

theorem readyFleet_ready : FleetReady {} "robot1" (seconds 3) readyFleet := by
  constructor <;> decide

theorem shippedPatrol_ready : PatrolReady {} Patrol.State.init := by
  constructor <;> decide

def goToRequest : QueueMission.Request := ⟨"go_to", 10, { frameId := "robot1/map" }, true⟩

theorem queue_admits_go_to : Admitted {} readyFleet (seconds 3) {}
    ⟨fun _ => 0, fun _ => 1⟩ Patrol.State.init true (seconds 3) (sentFor goToRequest) :=
  (queue_admits_iff ((Scheduler.machine {} 0).reachable_get _)
    (by decide : (Scheduler.handleQueueMission goToRequest (seconds 1)
      openedWorld.node).1.accepted = true)
    (rfl : (Scheduler.machine {} 0).runFrom openedWorld
      (.queueMission goToRequest (seconds 1) :: sendingRun) = some _)
    (by decide) (by decide) readyFleet_ready shippedPatrol_ready _ _ _).mpr (by decide)

theorem inspection_not_admitted : ¬ ∀ request w u es d fleet patrol libm,
    (Scheduler.machine {} 0).Reachable w →
    (Scheduler.handleQueueMission request (seconds 1) w.node).1.accepted = true →
    (Scheduler.machine {} 0).runFrom w (.queueMission request (seconds 1) :: es) = some u →
    d ∈ u.calls →
    d.missionId = (Scheduler.handleQueueMission request (seconds 1) w.node).1.missionId →
    FleetReady {} d.robotId (seconds 3) fleet → PatrolReady {} patrol →
    Admitted {} fleet (seconds 3) {} libm patrol true (seconds 3) d := by
  intro h
  obtain ⟨r, hsuccess, _⟩ := h (Fleet.inspectionRequest {}) openedWorld _ sendingRun
    (sentFor (Fleet.inspectionRequest {})) readyFleet Patrol.State.init
    ⟨fun _ => 0, fun _ => 1⟩ ((Scheduler.machine {} 0).reachable_get _) (by decide) rfl
    (by decide) (by decide) readyFleet_ready shippedPatrol_ready
  revert hsuccess
  decide

end PatrolFleet.Coordination
