import PatrolFleet.Scheduler.Slots
import PatrolFleet.Fleet.System

/-!
The scheduler and the fleet manager with the `AssignMission` requests and
responses between them. A message may be delayed for any time, overtaken, or
never delivered.
-/

set_option autoImplicit false

namespace PatrolFleet.Coordination

open Scheduler (Dispatch)

structure World where
  scheduler : Scheduler.World
  fleet : Fleet.State
  /-- The requests that the fleet manager has not handled. -/
  requests : List Dispatch
  /-- The responses that the scheduler has not processed. -/
  responses : List (Dispatch × AssignMission.Response)
  /-- The requests on which the fleet manager has sent a START, the latest first. -/
  started : List Dispatch

inductive Event where
  | scheduler (e : Scheduler.Event)
  | fleet (e : Fleet.Event)
  | assignMission (d : Dispatch) (serviceIsReady : Bool) (now : Time)
  | response (d : Dispatch) (response : AssignMission.Response) (now : Time)
  | exception (d : Dispatch) (what : String) (now : Time)

/-- The calls that a callback of the scheduler has made. -/
def sentSince (u v : Scheduler.World) : List Dispatch :=
  v.calls.take (v.calls.length - u.calls.length)

def World.step (cfg : Scheduler.Config) (fcfg : Fleet.Config) (w : World) : Event → Option World
  | .scheduler e =>
    if e.isAnswer then none
    else (w.scheduler.step cfg e).map fun v =>
      { w with scheduler := v, requests := sentSince w.scheduler v ++ w.requests }
  | .fleet e => some { w with fleet := w.fleet.step fcfg e }
  | .assignMission d serviceIsReady now =>
    if d ∈ w.requests then
      let (response, fleet) :=
        Fleet.handleAssignMission fcfg d.request serviceIsReady now w.fleet
      some { w with
        fleet
        requests := w.requests.erase d
        responses := (d, response) :: w.responses
        started := if w.fleet.sent.length < fleet.sent.length then d :: w.started
          else w.started }
    else none
  | .response d response now =>
    if (d, response) ∈ w.responses then
      (w.scheduler.step cfg (.assignResponse d (.response response) now)).map fun v =>
        { w with scheduler := v, responses := w.responses.erase (d, response) }
    else none
  | .exception d what now =>
    (w.scheduler.step cfg (.assignResponse d (.exception what) now)).map fun v =>
      { w with scheduler := v }

/-- The fleet manager may start in any state. -/
def machine (cfg : Scheduler.Config) (fcfg : Fleet.Config) (startedAt : Time)
    (fleet : Fleet.State) : Machine World Event where
  init := ⟨⟨Scheduler.State.init startedAt, []⟩, fleet, [], [], []⟩
  step := World.step cfg fcfg

/-- The steps, by the callback that runs. -/
inductive StepCase (cfg : Scheduler.Config) (fcfg : Fleet.Config) (w : World) :
    Event → World → Prop where
  | scheduler {e : Scheduler.Event} {v : Scheduler.World} : e.isAnswer = false →
      w.scheduler.step cfg e = some v →
      StepCase cfg fcfg w (.scheduler e)
        { w with scheduler := v, requests := sentSince w.scheduler v ++ w.requests }
  | fleet (e : Fleet.Event) :
      StepCase cfg fcfg w (.fleet e) { w with fleet := w.fleet.step fcfg e }
  | assignMission {d : Dispatch} {serviceIsReady : Bool} {now : Time}
      {handled : AssignMission.Response × Fleet.State} : d ∈ w.requests →
      Fleet.handleAssignMission fcfg d.request serviceIsReady now w.fleet = handled →
      StepCase cfg fcfg w (.assignMission d serviceIsReady now)
        { w with
          fleet := handled.2
          requests := w.requests.erase d
          responses := (d, handled.1) :: w.responses
          started := if w.fleet.sent.length < handled.2.sent.length then d :: w.started
            else w.started }
  | response {d : Dispatch} {response : AssignMission.Response} {now : Time}
      {v : Scheduler.World} : (d, response) ∈ w.responses →
      w.scheduler.step cfg (.assignResponse d (.response response) now) = some v →
      StepCase cfg fcfg w (.response d response now)
        { w with scheduler := v, responses := w.responses.erase (d, response) }
  | exception {d : Dispatch} {what : String} {now : Time} {v : Scheduler.World} :
      w.scheduler.step cfg (.assignResponse d (.exception what) now) = some v →
      StepCase cfg fcfg w (.exception d what now) { w with scheduler := v }

theorem step_cases {cfg : Scheduler.Config} {fcfg : Fleet.Config} {w v : World} {e : Event}
    (h : w.step cfg fcfg e = some v) : StepCase cfg fcfg w e v := by
  cases e with
  | scheduler e =>
    simp only [World.step] at h
    split at h
    · cases h
    · rename_i he
      obtain ⟨u, hu, rfl⟩ := Option.map_eq_some_iff.mp h
      exact .scheduler (Bool.not_eq_true _ ▸ he) hu
  | fleet e =>
    cases h
    exact .fleet e
  | assignMission d serviceIsReady now =>
    simp only [World.step] at h
    split at h
    · rename_i hd
      cases h
      exact .assignMission hd rfl
    · cases h
  | response d response now =>
    simp only [World.step] at h
    split at h
    · rename_i hd
      obtain ⟨u, hu, rfl⟩ := Option.map_eq_some_iff.mp h
      exact .response hd hu
    · cases h
  | exception d what now =>
    obtain ⟨u, hu, rfl⟩ := Option.map_eq_some_iff.mp h
    exact .exception hu

/-- The fleet manager as it is started with its default parameters. -/
def shippedFleet : Fleet.State := (Fleet.State.init {} {}).toOption.get (by decide)

section

variable {cfg : Scheduler.Config} {fcfg : Fleet.Config} {startedAt : Time}
  {fleet : Fleet.State}

theorem scheduler_projection : Machine.Projection (machine cfg fcfg startedAt fleet)
    (Scheduler.machine cfg startedAt) World.scheduler where
  init := rfl
  step w e v h := by
    cases step_cases h with
    | scheduler _ hu => exact Or.inr ⟨_, hu⟩
    | fleet e => exact Or.inl rfl
    | assignMission _ _ => exact Or.inl rfl
    | @response d response now _ _ hu =>
      exact Or.inr ⟨.assignResponse d (.response response) now, hu⟩
    | @exception d what now _ hu =>
      exact Or.inr ⟨.assignResponse d (.exception what) now, hu⟩

theorem reachable_scheduler {w : World} (h : (machine cfg fcfg startedAt fleet).Reachable w) :
    (Scheduler.machine cfg startedAt).Reachable w.scheduler := scheduler_projection.reachable h

end

end PatrolFleet.Coordination
