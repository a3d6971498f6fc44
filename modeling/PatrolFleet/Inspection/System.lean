import PatrolFleet.Coordination.System
import PatrolFleet.Fleet.Incidents

/-!
The scheduler and the fleet manager with the inspections that the fleet manager asks for
when an incident is reported. A request or a response for an inspection may be delayed
for any time, overtaken, or never delivered; the other clients of the scheduler are free.
-/

set_option autoImplicit false

namespace PatrolFleet.Inspection

structure World where
  coordination : Coordination.World
  /-- The requests that the scheduler has not handled, by the incident. -/
  requests : List (String × QueueMission.Request)
  /-- The responses that the fleet manager has not processed. -/
  responses : List (String × QueueMission.Response)
  /-- The incidents with the missions that were queued for them, the latest first. It is
  a history: no callback reads it. -/
  inspections : List (String × String)

inductive Event where
  | coordination (e : Coordination.Event)
  | queueMission (incidentId : String) (request : QueueMission.Request) (now : Time)
  | queueResponse (incidentId : String) (response : QueueMission.Response)

def isQueueResponse : Coordination.Event → Bool
  | .fleet (.queueResponse ..) => true
  | _ => false

/-- The request for an inspection that a message is. -/
def asked : Fleet.Sent → Option (String × QueueMission.Request)
  | .queueMission incidentId request => some (incidentId, request)
  | _ => none

def World.step (cfg : Scheduler.Config) (fcfg : Fleet.Config) (w : World) : Event → Option World
  | .coordination e =>
    if isQueueResponse e then none
    else (w.coordination.step cfg fcfg e).map fun coordination =>
      { w with
        coordination
        requests :=
          (Fleet.sentSince w.coordination.fleet coordination.fleet).filterMap asked ++
            w.requests }
  | .queueMission incidentId request now =>
    if (incidentId, request) ∈ w.requests then
      let response :=
        (Scheduler.handleQueueMission request now w.coordination.scheduler.node).1
      (w.coordination.step cfg fcfg (.scheduler (.queueMission request now))).map
        fun coordination =>
          { coordination
            requests := w.requests.erase (incidentId, request)
            responses := (incidentId, response) :: w.responses
            inspections := if response.accepted then
              (incidentId, response.missionId) :: w.inspections else w.inspections }
    else none
  | .queueResponse incidentId response =>
    if (incidentId, response) ∈ w.responses then
      (w.coordination.step cfg fcfg (.fleet (.queueResponse incidentId response))).map
        fun coordination =>
          { w with coordination, responses := w.responses.erase (incidentId, response) }
    else none

def machine (cfg : Scheduler.Config) (fcfg : Fleet.Config) (startedAt : Time)
    (fleet : Fleet.State) : Machine World Event where
  init := ⟨(Coordination.machine cfg fcfg startedAt fleet).init, [], [], []⟩
  step := World.step cfg fcfg

/-- The steps, by the callback that runs. -/
inductive StepCase (cfg : Scheduler.Config) (fcfg : Fleet.Config) (w : World) :
    Event → World → Prop where
  | coordination {e : Coordination.Event} {c : Coordination.World} : isQueueResponse e = false →
      w.coordination.step cfg fcfg e = some c →
      StepCase cfg fcfg w (.coordination e)
        { w with
          coordination := c
          requests := (Fleet.sentSince w.coordination.fleet c.fleet).filterMap asked ++
            w.requests }
  | queueMission {incidentId : String} {request : QueueMission.Request} {now : Time}
      {response : QueueMission.Response} {c : Coordination.World} :
      (incidentId, request) ∈ w.requests →
      (Scheduler.handleQueueMission request now w.coordination.scheduler.node).1 = response →
      w.coordination.step cfg fcfg (.scheduler (.queueMission request now)) = some c →
      StepCase cfg fcfg w (.queueMission incidentId request now)
        { coordination := c
          requests := w.requests.erase (incidentId, request)
          responses := (incidentId, response) :: w.responses
          inspections := if response.accepted then
            (incidentId, response.missionId) :: w.inspections else w.inspections }
  | queueResponse {incidentId : String} {response : QueueMission.Response}
      {c : Coordination.World} : (incidentId, response) ∈ w.responses →
      w.coordination.step cfg fcfg (.fleet (.queueResponse incidentId response)) = some c →
      StepCase cfg fcfg w (.queueResponse incidentId response)
        { w with coordination := c, responses := w.responses.erase (incidentId, response) }

theorem step_cases {cfg : Scheduler.Config} {fcfg : Fleet.Config} {w v : World} {e : Event}
    (h : w.step cfg fcfg e = some v) : StepCase cfg fcfg w e v := by
  cases e with
  | coordination e =>
    simp only [World.step] at h
    split at h
    · cases h
    · rename_i he
      obtain ⟨c, hc, rfl⟩ := Option.map_eq_some_iff.mp h
      exact .coordination (Bool.not_eq_true _ ▸ he) hc
  | queueMission incidentId request now =>
    simp only [World.step] at h
    split at h
    · rename_i hm
      obtain ⟨c, hc, rfl⟩ := Option.map_eq_some_iff.mp h
      exact .queueMission hm rfl hc
    · cases h
  | queueResponse incidentId response =>
    simp only [World.step] at h
    split at h
    · rename_i hm
      obtain ⟨c, hc, rfl⟩ := Option.map_eq_some_iff.mp h
      exact .queueResponse hm hc
    · cases h

section

variable {cfg : Scheduler.Config} {fcfg : Fleet.Config} {startedAt : Time}
  {fleet : Fleet.State}

theorem coordination_projection : Machine.Projection (machine cfg fcfg startedAt fleet)
    (Coordination.machine cfg fcfg startedAt fleet) World.coordination where
  init := rfl
  step w e v h := by
    cases step_cases h with
    | coordination _ hc => exact .inr ⟨_, hc⟩
    | @queueMission _ request now _ _ _ _ hc =>
      exact .inr ⟨.scheduler (.queueMission request now), hc⟩
    | @queueResponse incidentId response _ _ hc =>
      exact .inr ⟨.fleet (.queueResponse incidentId response), hc⟩

theorem scheduler_projection : Machine.Projection (machine cfg fcfg startedAt fleet)
    (Scheduler.machine cfg startedAt) fun w => w.coordination.scheduler :=
  Coordination.scheduler_projection.comp coordination_projection

end

/-! ### The rows of an earlier process -/

section

variable {cfg : Scheduler.Config} {fcfg : Fleet.Config} {startedAt : Time} {fleet : Fleet.State}
  {old : Fleet.MissionStore}

def coordinationOnto (old : Fleet.MissionStore) (c : Coordination.World) : Coordination.World :=
  { c with fleet := c.fleet.onto old }

theorem coordination_onto (c : Coordination.World) (e : Coordination.Event) :
    (coordinationOnto old c).step cfg fcfg e = (c.step cfg fcfg e).map (coordinationOnto old) := by
  cases e with
  | scheduler e =>
    simp only [Coordination.World.step]
    split
    · rfl
    · rw [Option.map_map]
      rfl
  | fleet e =>
    have hcall : (c.fleet.onto old).step fcfg e = (c.fleet.step fcfg e).onto old :=
      Fleet.call_onto fcfg old c.fleet (.other e)
    simp [Coordination.World.step, coordinationOnto, hcall]
  | assignMission d serviceIsReady now =>
    simp only [Coordination.World.step, coordinationOnto, Fleet.handleAssignMission_onto]
    split <;> rfl
  | response d response now =>
    have hresponses : (coordinationOnto old c).responses = c.responses := rfl
    simp only [Coordination.World.step, hresponses]
    split
    · rw [Option.map_map]
      rfl
    · rfl
  | exception d what now =>
    simp only [Coordination.World.step, Option.map_map]
    rfl

def World.since (old : Fleet.MissionStore) (w : World) : World :=
  { w with coordination := { w.coordination with fleet := w.coordination.fleet.since old } }

def World.onto (old : Fleet.MissionStore) (w : World) : World :=
  { w with coordination := coordinationOnto old w.coordination }

theorem lockstep_onto : Machine.Lockstep (machine cfg fcfg startedAt fleet)
    (machine cfg fcfg startedAt (fleet.onto old)) (World.onto old) where
  init := rfl
  step w e := by
    have hcoordination : (w.onto old).coordination = coordinationOnto old w.coordination := rfl
    cases e with
    | coordination e =>
      simp only [machine, World.step, hcoordination, coordination_onto]
      split
      · rfl
      · rw [Option.map_map, Option.map_map]
        rfl
    | queueMission incidentId request now =>
      have hrequests : (w.onto old).requests = w.requests := rfl
      simp only [machine, World.step, hcoordination, coordination_onto, hrequests]
      split
      · rw [Option.map_map, Option.map_map]
        rfl
      · rfl
    | queueResponse incidentId response =>
      have hresponses : (w.onto old).responses = w.responses := rfl
      simp only [machine, World.step, hcoordination, coordination_onto, hresponses]
      split
      · rw [Option.map_map, Option.map_map]
        rfl
      · rfl

theorem reachable_since {w : World}
    (h : (machine cfg fcfg startedAt (fleet.onto old)).Reachable w) :
    (machine cfg fcfg startedAt fleet).Reachable (w.since old) := by
  obtain ⟨fresh, hfresh, rfl⟩ := lockstep_onto.reachable h
  have hsince : (fresh.onto old).since old = fresh := by
    simp [World.since, World.onto, coordinationOnto]
  rwa [hsince]

end

end PatrolFleet.Inspection
