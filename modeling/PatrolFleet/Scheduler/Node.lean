import Mathlib.Data.List.Sort
import Mathlib.Data.Finset.Basic
import PatrolFleet.Interfaces
import PatrolFleet.Lib.UnorderedMap

/-!
The node `mission_scheduler`: its fields and its callbacks. The node runs in a
single-threaded executor, so a callback is one atomic function on the state.
The argument `now` is what the node's clock returns during the callback.
-/

set_option autoImplicit false

namespace PatrolFleet.Scheduler

/-- The parameters of the node, with the defaults it declares. -/
structure Config where
  minimumBatteryPercentage : Rat := 20
  reservationTimeout : Time := seconds 10
  dispatchTimeout : Time := seconds 15
  missionStartTimeout : Time := seconds 15
  maxMissionAttempts : Int := 3
  recurringPatrolPeriod : Time := 0
  recurringPatrolPriority : Int := 50

structure QueuedMission where
  missionId : String
  missionType : String
  priority : Int
  sequence : Nat
  targetPose : PoseStamped
  hasTarget : Bool
  attemptCount : Nat
  deriving DecidableEq

structure CandidateRobot where
  robotId : String
  batteryPercentage : Rat
  deriving DecidableEq

structure ActiveMission where
  missionId : String
  missionType : String
  priority : Int
  targetPose : PoseStamped
  hasTarget : Bool
  robotConfirmedActive : Bool
  dispatchedAt : Time
  attemptCount : Nat
  deriving DecidableEq

/-- What the response callback of an `AssignMission` request has captured. -/
structure Dispatch where
  missionId : String
  missionType : String
  priority : Int
  targetPose : PoseStamped
  hasTarget : Bool
  attemptCount : Nat
  robotId : String
  generation : Nat
  deriving DecidableEq

def Dispatch.request (d : Dispatch) : AssignMission.Request where
  robotId := d.robotId
  missionType := d.missionType
  command := AssignMission.commandStart
  missionId := d.missionId
  targetPose := d.targetPose
  hasTarget := d.hasTarget

/-- What the future holds when the response callback runs. -/
inductive Answer where
  | response (r : AssignMission.Response)
  | exception (what : String)
  deriving DecidableEq

/-- The history of a scheduler. It is written for the statements only: no
callback reads it. -/
inductive Happening where
  | enqueued (missionId : String)
  | requeued (failed fresh : String)
  | cancelled (missionId : String)
  | dispatched (missionId robotId : String) (generation : Nat)
  | reclaimed (generation : Nat)
  | rejected (generation : Nat)
  | raised (generation : Nat)
  | accepted (missionId robotId : String) (generation : Nat)
  | completed (missionId robotId : String)
  | failed (missionId robotId : String)
  | dropped (missionId : String)
  deriving DecidableEq

structure State where
  systemReady : Bool
  latestFleetState : FleetState
  receivedFleetState : Bool
  missionQueue : List QueuedMission
  nextSequence : Nat
  missionCounter : Nat
  activeMissions : UnorderedMap String ActiveMission
  reservedRobots : Finset String
  reservationTimes : UnorderedMap String Time
  dispatchInProgress : Bool
  dispatchStartedAt : Time
  dispatchRobotId : String
  dispatchGeneration : Nat
  /-- The last message on the latched topic `/scheduler/queue_state`. -/
  queueState : MissionQueueState
  history : List Happening

def publishQueueState (now : Time) (s : State) : State :=
  { s with queueState := {
      stamp := now
      pendingCount := s.missionQueue.length % UInt32.size
      missionIds := s.missionQueue.map (·.missionId)
      missionTypes := s.missionQueue.map (·.missionType)
      priorities := s.missionQueue.map (·.priority) } }

/-- The state after the constructor, which publishes the empty queue. -/
def State.init (now : Time) : State :=
  publishQueueState now {
    systemReady := false
    latestFleetState := ⟨0, []⟩
    receivedFleetState := false
    missionQueue := []
    nextSequence := 0
    missionCounter := 0
    activeMissions := ∅
    reservedRobots := ∅
    reservationTimes := ∅
    dispatchInProgress := false
    dispatchStartedAt := 0
    dispatchRobotId := ""
    dispatchGeneration := 0
    queueState := ⟨now, 0, [], [], []⟩
    history := [] }

def State.record (s : State) (h : Happening) : State := { s with history := h :: s.history }

def systemReadyCallback (data : Bool) (s : State) : State := { s with systemReady := data }

/-! ### The queue -/

def missionIdOf (n : Nat) : String := "mission-" ++ toString n

def createMissionId (s : State) : String × State :=
  (missionIdOf (s.missionCounter + 1), { s with missionCounter := s.missionCounter + 1 })

/-- The comparison of `sort_queue_locked`. -/
def comesBefore (left right : QueuedMission) : Bool :=
  if left.priority ≠ right.priority then left.priority > right.priority
  else left.sequence < right.sequence

/-- `std::stable_sort` by `comesBefore`. -/
def sortQueueLocked (queue : List QueuedMission) : List QueuedMission :=
  queue.insertionSort fun left right => ¬ comesBefore right left

def enqueueMission (missionType : String) (priority : Int) (targetPose : PoseStamped)
    (hasTarget : Bool) (attemptCount : Nat) (s : State) : String × State :=
  let (missionId, s) := createMissionId s
  let mission : QueuedMission :=
    { missionId, missionType, priority, sequence := s.nextSequence, targetPose, hasTarget,
      attemptCount }
  (missionId, { s with
    nextSequence := s.nextSequence + 1
    missionQueue := sortQueueLocked (s.missionQueue ++ [mission]) })

def enqueueRecurringPatrol (cfg : Config) (now : Time) (s : State) : State :=
  let (missionId, s) :=
    enqueueMission "patrol" cfg.recurringPatrolPriority {} false 0 s
  publishQueueState now (s.record (.enqueued missionId))

def handleQueueMission (request : QueueMission.Request) (now : Time) (s : State) :
    QueueMission.Response × State :=
  if !isSupportedMissionType request.missionType then
    (⟨false, "", "Unsupported mission type: " ++ request.missionType⟩, s)
  else
    let (missionId, s) := enqueueMission request.missionType request.priority
      request.targetPose request.hasTarget 0 s
    (⟨true, missionId, "Mission '" ++ missionId ++ "' added to the scheduling queue"⟩,
      publishQueueState now (s.record (.enqueued missionId)))

def handleDispatchPatrol (now : Time) (s : State) : Trigger.Response × State :=
  let (missionId, s) := enqueueMission "patrol" 0 {} false 0 s
  (⟨true, "Patrol mission '" ++ missionId ++ "' added to the scheduling queue"⟩,
    publishQueueState now (s.record (.enqueued missionId)))

def handleCancelMission (missionId : String) (now : Time) (s : State) :
    CancelMission.Response × State :=
  if missionId.isEmpty then (⟨false, "mission_id cannot be empty"⟩, s)
  else if s.missionQueue.any (·.missionId = missionId) then
    let s := { s with missionQueue := s.missionQueue.eraseP (·.missionId = missionId) }
    (⟨true, "Pending mission canceled: " ++ missionId⟩,
      publishQueueState now (s.record (.cancelled missionId)))
  else (⟨false, "Pending mission not found: " ++ missionId⟩, s)

def getNextMission (s : State) : Option QueuedMission := s.missionQueue.head?

def removeMission (missionId : String) (s : State) : State :=
  { s with missionQueue := s.missionQueue.filter (·.missionId ≠ missionId) }

/-! ### Robots and their reservations -/

def reserveRobot (robotId : String) (now : Time) (s : State) : State :=
  { s with
    reservedRobots := insert robotId s.reservedRobots
    reservationTimes := s.reservationTimes.insert robotId now }

def releaseRobotReservation (robotId : String) (s : State) : State :=
  { s with
    reservedRobots := s.reservedRobots.erase robotId
    reservationTimes := s.reservationTimes.erase robotId }

/-- One turn of the loop of `update_robot_reservations_locked`. -/
def updateReservation (cfg : Config) (now : Time)
    (acc : Finset String × UnorderedMap String Time) (robot : FleetRobotState) :
    Finset String × UnorderedMap String Time :=
  match acc.2.lookup robot.robotId with
  | none => acc
  | some reservedAt =>
    if robot.state ≠ RobotHeartbeat.stateIdle then
      (acc.1.erase robot.robotId, acc.2.erase robot.robotId)
    else if now - reservedAt > cfg.reservationTimeout then
      (acc.1.erase robot.robotId, acc.2.erase robot.robotId)
    else acc

def updateRobotReservationsLocked (cfg : Config) (now : Time) (s : State) : State :=
  let acc := s.latestFleetState.robots.foldl (updateReservation cfg now)
    (s.reservedRobots, s.reservationTimes)
  { s with reservedRobots := acc.1, reservationTimes := acc.2 }

def isCandidate (cfg : Config) (s : State) (robot : FleetRobotState) : Bool :=
  let available := robot.state = RobotHeartbeat.stateIdle ∨
    robot.state = RobotHeartbeat.stateError
  let batterySufficient := robot.batteryPercentage ≥ cfg.minimumBatteryPercentage
  let reserved := robot.robotId ∈ s.reservedRobots
  robot.online && !robot.confirmedOffline && robot.localizationOk && available &&
    batterySufficient && !decide reserved

/-- `std::max_element`: the first of the largest elements. -/
def maxElement (candidates : List CandidateRobot) : Option CandidateRobot :=
  match candidates with
  | [] => none
  | first :: rest => some (rest.foldl (fun best robot =>
      if best.batteryPercentage < robot.batteryPercentage then robot else best) first)

def selectRobot (cfg : Config) (s : State) : Option CandidateRobot :=
  if !s.receivedFleetState then none
  else maxElement ((s.latestFleetState.robots.filter (isCandidate cfg s)).map
    fun robot => ⟨robot.robotId, robot.batteryPercentage⟩)

/-! ### Active missions -/

def setActiveMission (robotId : String) (mission : ActiveMission) (now : Time) (s : State) :
    State :=
  let mission := { mission with robotConfirmedActive := false, dispatchedAt := now }
  { s with activeMissions := s.activeMissions.insert robotId mission }

/-- What the loop of `reconcile_active_missions_locked` decides on one entry. -/
inductive Verdict where
  | keep | confirm | complete | fail
  deriving DecidableEq

def judge (cfg : Config) (now : Time) (robots : List FleetRobotState) (robotId : String)
    (active : ActiveMission) : Verdict :=
  match robots.find? (·.robotId = robotId) with
  | none => .keep
  | some robot =>
    if robot.confirmedOffline ∨ robot.state = RobotHeartbeat.stateError then .fail
    else if robot.state ≠ RobotHeartbeat.stateIdle then .confirm
    else if active.robotConfirmedActive then .complete
    else if now - active.dispatchedAt > cfg.missionStartTimeout then .fail
    else .keep

def Verdict.apply (active : ActiveMission) : Verdict → Option ActiveMission
  | .keep => some active
  | .confirm => some { active with robotConfirmedActive := true }
  | .complete => none
  | .fail => none

def logCompleted (s : State) (entry : Sigma fun _ : String => ActiveMission) : State :=
  s.record (.completed entry.2.missionId entry.1)

/-- One turn of the loop over `failed`: drop the mission or put it back on the
queue under a new id. The attempt counter has 32 bits. -/
def retryFailed (cfg : Config) (s : State) (entry : Sigma fun _ : String => ActiveMission) :
    State :=
  let mission := entry.2
  let s := s.record (.failed mission.missionId entry.1)
  let nextAttemptCount : Nat := (mission.attemptCount + 1) % UInt32.size
  if (nextAttemptCount : Int) ≥ cfg.maxMissionAttempts % UInt32.size then
    s.record (.dropped mission.missionId)
  else
    let (newMissionId, s) := enqueueMission mission.missionType mission.priority
      mission.targetPose mission.hasTarget nextAttemptCount s
    s.record (.requeued mission.missionId newMissionId)

/-- `visit` is the order in which the loop meets the entries of the map. -/
def reconcileActiveMissionsLocked (cfg : Config) (now : Time)
    (visit : List (Sigma fun _ : String => ActiveMission)) (s : State) : State :=
  if s.activeMissions.entries.isEmpty then s
  else
    let verdict := judge cfg now s.latestFleetState.robots
    let completed := visit.filter fun e => verdict e.1 e.2 = .complete
    let failed := visit.filter fun e => verdict e.1 e.2 = .fail
    let s := { s with
      activeMissions := s.activeMissions.filterMapVal fun r a => (verdict r a).apply a }
    let s := completed.foldl logCompleted s
    let s := failed.foldl (retryFailed cfg) s
    if failed.isEmpty then s else publishQueueState now s

def fleetStateCallback (cfg : Config) (message : FleetState) (now : Time)
    (visit : List (Sigma fun _ : String => ActiveMission)) (s : State) : State :=
  let s := { s with latestFleetState := message, receivedFleetState := true }
  reconcileActiveMissionsLocked cfg now visit (updateRobotReservationsLocked cfg now s)

/-! ### Dispatching -/

/-- Take back the slot of a dispatch whose response is overdue. -/
def reclaim (s : State) : State :=
  let timedOutRobotId := s.dispatchRobotId
  let s := { s.record (.reclaimed s.dispatchGeneration) with
    dispatchGeneration := s.dispatchGeneration + 1
    dispatchInProgress := false
    dispatchRobotId := "" }
  if timedOutRobotId.isEmpty then s else releaseRobotReservation timedOutRobotId s

/-- The first block of `process_queue`; `none` when it returns because a dispatch
is still in progress. -/
def reclaimDispatch (cfg : Config) (now : Time) (s : State) : Option State :=
  if s.dispatchInProgress then
    if now - s.dispatchStartedAt < cfg.dispatchTimeout then none else some (reclaim s)
  else some s

/-- The last block of `process_queue`: take the slot, reserve the robot, send. -/
def sendDispatch (mission : QueuedMission) (robot : CandidateRobot) (now : Time) (s : State) :
    State × Dispatch :=
  let generation := s.dispatchGeneration + 1
  let s := { s.record (.dispatched mission.missionId robot.robotId generation) with
    dispatchInProgress := true
    dispatchStartedAt := now
    dispatchRobotId := robot.robotId
    dispatchGeneration := generation }
  (reserveRobot robot.robotId now s,
    { missionId := mission.missionId
      missionType := mission.missionType
      priority := mission.priority
      targetPose := mission.targetPose
      hasTarget := mission.hasTarget
      attemptCount := mission.attemptCount
      robotId := robot.robotId
      generation })

def processQueue (cfg : Config) (now : Time) (serviceIsReady : Bool) (s : State) :
    State × Option Dispatch :=
  if !s.systemReady then (s, none)
  else match reclaimDispatch cfg now s with
    | none => (s, none)
    | some s =>
      if !serviceIsReady then (s, none)
      else match getNextMission s, selectRobot cfg s with
        | some mission, some robot =>
          let (s, dispatch) := sendDispatch mission robot now s
          (s, some dispatch)
        | _, _ => (s, none)

/-- The response callback of the request that `d` belongs to. -/
def assignResponseCallback (d : Dispatch) (answer : Answer) (now : Time) (s : State) : State :=
  if d.generation ≠ s.dispatchGeneration then s
  else
    let s := match answer with
      | .response r =>
        if r.success then
          (setActiveMission d.robotId
            { missionId := d.missionId
              missionType := d.missionType
              priority := d.priority
              targetPose := d.targetPose
              hasTarget := d.hasTarget
              robotConfirmedActive := false
              dispatchedAt := 0
              attemptCount := d.attemptCount } now (removeMission d.missionId s)).record
            (.accepted d.missionId d.robotId d.generation)
        else (releaseRobotReservation d.robotId s).record (.rejected d.generation)
      | .exception _ => (releaseRobotReservation d.robotId s).record (.raised d.generation)
    { publishQueueState now s with dispatchInProgress := false }

end PatrolFleet.Scheduler
