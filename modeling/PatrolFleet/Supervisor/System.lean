import PatrolFleet.Lib.Machine
import PatrolFleet.Supervisor.Node

/-!
The supervisor as a machine. The services answer each request at most once and
in any order; an answer that is lost is a step that is never taken.
-/

set_option autoImplicit false

namespace PatrolFleet.Supervisor

inductive Event where
  | map (robotId : String) (message : MapInfo)
  | tick (now : Time) (visits : List (String × Observation))
  | stateResponse (robotId : String) (generation : Nat) (nodeName : String) (future : GetState)
      (manageReady : Bool) (now : Time)
  | commandResponse (robotId : String) (command : ManageCommand)
  deriving DecidableEq

def State.step (cfg : Config) (s : State) : Event → Option State
  | .map robotId message => some (mapCallback robotId message s)
  | .tick now visits =>
    if visits.map Prod.fst = cfg.robotIds then some (checkReadiness cfg now visits s) else none
  | .stateResponse robotId generation nodeName future manageReady now =>
    match s.polls.lookup (robotId, generation) with
    | none => none
    | some poll =>
      if nodeName ∈ poll.waiting then
        let (poll, s) := handleGetStateResponse cfg robotId nodeName future
          { poll with waiting := poll.waiting.erase nodeName } generation manageReady now s
        some { s with polls := s.polls.insert (robotId, generation) poll }
      else none
  | .commandResponse robotId command =>
    if (robotId, command) ∈ s.commands then
      some (commandResponseCallback robotId
        { s with commands := s.commands.erase (robotId, command) })
    else none

def machine (cfg : Config) : Machine State Event where
  init := State.init cfg
  step := State.step cfg

/-- The steps, by the callback that runs. -/
inductive StepCase (cfg : Config) (s : State) : Event → State → Prop where
  | map (robotId : String) (message : MapInfo) :
      StepCase cfg s (.map robotId message) (mapCallback robotId message s)
  | tick {now : Time} {visits : List (String × Observation)} :
      visits.map Prod.fst = cfg.robotIds →
      StepCase cfg s (.tick now visits) (checkReadiness cfg now visits s)
  | stateResponse {robotId nodeName : String} {generation : Nat} {future : GetState}
      {manageReady : Bool} {now : Time} {poll : Poll} {handled : Poll × State} :
      s.polls.lookup (robotId, generation) = some poll → nodeName ∈ poll.waiting →
      handleGetStateResponse cfg robotId nodeName future
        { poll with waiting := poll.waiting.erase nodeName } generation manageReady now s =
          handled →
      StepCase cfg s (.stateResponse robotId generation nodeName future manageReady now)
        { handled.2 with polls := handled.2.polls.insert (robotId, generation) handled.1 }
  | commandResponse {robotId : String} {command : ManageCommand} :
      (robotId, command) ∈ s.commands →
      StepCase cfg s (.commandResponse robotId command)
        (commandResponseCallback robotId
          { s with commands := s.commands.erase (robotId, command) })

theorem step_cases {cfg : Config} {s t : State} {e : Event} (h : s.step cfg e = some t) :
    StepCase cfg s e t := by
  cases e with
  | map robotId message =>
    cases h
    exact .map robotId message
  | tick now visits =>
    simp only [State.step] at h
    split at h
    · rename_i hvisits
      cases h
      exact .tick hvisits
    · cases h
  | stateResponse robotId generation nodeName future manageReady now =>
    simp only [State.step] at h
    split at h
    · cases h
    · rename_i poll hm
      split at h
      · rename_i hw
        cases h
        exact .stateResponse hm hw rfl
      · cases h
  | commandResponse robotId command =>
    simp only [State.step] at h
    split at h
    · rename_i hm
      cases h
      exact .commandResponse hm
    · cases h

end PatrolFleet.Supervisor
