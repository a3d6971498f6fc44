import PatrolFleet.Fleet.Effects
import PatrolFleet.Lib.Machine
import PatrolFleet.Scheduler.Slots

/-!
The scheduler and the fleet manager over any number of restarts. A process starts
with its counters at zero and without the requests of the one before it, while the
tables of the mission store stay, and so do the requests that are on their way.
-/

set_option autoImplicit false

namespace PatrolFleet.Restart

open Scheduler (Dispatch)

structure World where
  schedulerConfig : Scheduler.Config
  scheduler : Scheduler.World
  /-- How often the scheduler has been restarted. -/
  schedulerProcess : Nat
  fleetConfig : Fleet.Config
  fleet : Fleet.State
  fleetProcess : Nat
  /-- The `AssignMission` requests that no fleet manager has handled, with the
  process that sent them. -/
  requests : List (Nat × Dispatch)
  responses : List (Nat × Dispatch × AssignMission.Response)
  /-- What the fleet manager has sent, with the scheduler process of the mission
  that it is about. -/
  unanswered : List (Option Nat × Fleet.Sent)
  /-- The answers to the fleet manager's `QueueMission` requests. -/
  queueResponses : List (Nat × String × QueueMission.Response)
  /-- The rows of `mission_events`, with the scheduler process of the mission. -/
  missionLog : List (Option Nat × Fleet.MissionEvent)
  /-- The ids of the rows of `incidents`, with the process that recorded them. -/
  incidentLog : List (Nat × String)

inductive Event where
  | scheduler (e : Scheduler.Event)
  | fleet (e : Fleet.Event)
  | assignMission (process : Nat) (d : Dispatch) (serviceIsReady : Bool) (now : Time)
  /-- A request of another client than the scheduler. -/
  | clientRequest (request : AssignMission.Request) (serviceIsReady : Bool) (now : Time)
  | assignResponse (d : Dispatch) (response : AssignMission.Response) (now : Time)
  | assignException (d : Dispatch) (what : String) (now : Time)
  | robotAnswer (about : Option Nat) (m : Fleet.Sent) (answer : Fleet.RobotAnswer)
  | queueMission (about : Option Nat) (incidentId : String) (request : QueueMission.Request)
      (now : Time)
  | queueResponse (process : Nat) (incidentId : String) (response : QueueMission.Response)
  | restartScheduler (cfg : Scheduler.Config) (now : Time)
  /-- `opens` is false when the database cannot be opened. -/
  | restartFleet (cfg : Fleet.Config) (opens : Bool)

/-- The response callback of a request to a robot. -/
def answered (m : Fleet.Sent) (answer : Fleet.RobotAnswer) : Option Fleet.Event :=
  match m with
  | .start robotId missionId missionType _ =>
    some (.startResponse robotId missionId missionType answer)
  | .stop robotId missionId => some (.stopResponse robotId missionId answer)
  | _ => none

namespace World

/-- The scheduler goes on; its new calls are on their way. -/
def schedule (scheduler : Scheduler.World) (w : World) : World :=
  { w with
    scheduler
    requests := (scheduler.calls.take (scheduler.calls.length - w.scheduler.calls.length)).map
      (Prod.mk w.schedulerProcess) ++ w.requests }

/-- The fleet manager goes on with a callback about a mission of the scheduler
process `about`, or about none. -/
def manage (about : Option Nat) (fleet : Fleet.State) (w : World) : World :=
  { w with
    fleet
    unanswered := (Fleet.sentSince w.fleet fleet).map (Prod.mk about) ++ w.unanswered
    missionLog := w.missionLog ++ (fleet.missionStore.missionEvents.drop
      w.fleet.missionStore.missionEvents.length).map (Prod.mk about)
    incidentLog := w.incidentLog ++ (fleet.missionStore.incidents.drop
      w.fleet.missionStore.incidents.length).map fun row => (w.fleetProcess, row.incidentId) }

def step (w : World) : Event → Option World
  | .scheduler e =>
    if e.isAnswer then none else (w.scheduler.step w.schedulerConfig e).map (schedule · w)
  | .fleet e =>
    if e.isResponse then none else some (w.manage none (w.fleet.step w.fleetConfig e))
  | .assignMission process d serviceIsReady now =>
    if (process, d) ∈ w.requests then
      let (response, fleet) :=
        Fleet.handleAssignMission w.fleetConfig d.request serviceIsReady now w.fleet
      some { w.manage (some process) fleet with
        requests := w.requests.erase (process, d)
        responses := (process, d, response) :: w.responses }
    else none
  | .clientRequest request serviceIsReady now =>
    some (w.manage none
      (Fleet.handleAssignMission w.fleetConfig request serviceIsReady now w.fleet).2)
  | .assignResponse d response now =>
    if (w.schedulerProcess, d, response) ∈ w.responses then
      (w.scheduler.step w.schedulerConfig (.assignResponse d (.response response) now)).map
        fun scheduler => { w.schedule scheduler with
          responses := w.responses.erase (w.schedulerProcess, d, response) }
    else none
  | .assignException d what now =>
    (w.scheduler.step w.schedulerConfig (.assignResponse d (.exception what) now)).map
      (schedule · w)
  | .robotAnswer about m answer =>
    if (about, m) ∈ w.unanswered then
      (answered m answer).map fun e =>
        { w.manage about (w.fleet.step w.fleetConfig e) with
          unanswered := w.unanswered.erase (about, m) }
    else none
  | .queueMission about incidentId request now =>
    if (about, .queueMission incidentId request) ∈ w.unanswered then
      let (response, node) := Scheduler.handleQueueMission request now w.scheduler.node
      some { w.schedule { w.scheduler with node } with
        unanswered := w.unanswered.erase (about, .queueMission incidentId request)
        queueResponses := (w.schedulerProcess, incidentId, response) :: w.queueResponses }
    else none
  | .queueResponse process incidentId response =>
    if (process, incidentId, response) ∈ w.queueResponses then
      some { w.manage (some process)
          (w.fleet.step w.fleetConfig (.queueResponse incidentId response)) with
        queueResponses := w.queueResponses.erase (process, incidentId, response) }
    else none
  | .restartScheduler cfg now =>
    some { w with
      schedulerConfig := cfg
      scheduler := ⟨Scheduler.State.init now, []⟩
      schedulerProcess := w.schedulerProcess + 1 }
  | .restartFleet cfg opens =>
    match Fleet.State.init cfg { w.fleet.missionStore with isOpen := opens } with
    | .error _ => none
    | .ok fleet => some { w with
        fleetConfig := cfg
        fleet
        fleetProcess := w.fleetProcess + 1
        unanswered := []
        queueResponses := [] }

end World

/-- The fleet manager starts with a new database. -/
def machine (cfg : Scheduler.Config) (fcfg : Fleet.Config) (startedAt : Time)
    (fleet : Fleet.State) : Machine World Event where
  init :=
    { schedulerConfig := cfg
      scheduler := ⟨Scheduler.State.init startedAt, []⟩
      schedulerProcess := 0
      fleetConfig := fcfg
      fleet
      fleetProcess := 0
      requests := []
      responses := []
      unanswered := []
      queueResponses := []
      missionLog := []
      incidentLog := [] }
  step := World.step

end PatrolFleet.Restart
