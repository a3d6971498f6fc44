import Mathlib.Data.List.Chain
import Mathlib.Tactic.Linarith
import PatrolFleet.Supervisor.Callbacks

/-!
The pace of the commands: the retry periods hold for every robot, whatever the polls
report and in whatever order their answers come.
-/

set_option autoImplicit false

namespace PatrolFleet.Supervisor

/-- What the node's clock returns during the step; the callbacks of the maps and of the
commands do not read it. -/
def Event.time : Event → Time
  | .tick now _ => now
  | .stateResponse _ _ _ _ _ now => now
  | .map _ _ | .commandResponse _ _ => 0

/-- The time of the step, if it sends the command to the robot. -/
def State.requested (cfg : Config) (command : ManageCommand) (id : String) (s : State)
    (e : Event) : Option Time :=
  match s.step cfg e with
  | none => none
  | some t => if t.commands = (id, command) :: s.commands then some e.time else none

/-- The times at which the command is sent to the robot in the run of `es`. -/
def requestTimes (cfg : Config) (command : ManageCommand) (id : String) (es : List Event) :
    List Time :=
  (machine cfg).outputs (State.requested cfg command id) (machine cfg).init es

/-- At most one command is sent, not before its period is over, and remembered. -/
inductive Attempts (cfg : Config) (now : Time) (s t : State) : Prop where
  | none : t.commands.Sublist s.commands → Same RobotSupervisor.attempts s t →
      Attempts cfg now s t
  | sent (command : ManageCommand) (robotId : String) :
      t.commands = (robotId, command) :: s.commands →
      t.lastAttempt command robotId = now →
      (0 < s.lastAttempt command robotId →
        s.lastAttempt command robotId + command.retryPeriod cfg ≤ now) →
      (∀ command' id, (id, command') ≠ (robotId, command) →
        t.lastAttempt command' id = s.lastAttempt command' id) →
      Attempts cfg now s t

section

variable {cfg : Config} {now : Time} {s t : State} {robotId nodeName : String}
  {robot : RobotSupervisor} {command : ManageCommand} {future : GetState} {poll : Poll}
  {generation : Nat}

theorem Keeps.attempts (h : Keeps RobotSupervisor.attempts s t) : Attempts cfg now s t :=
  .none (h.commands ▸ .refl _) h.robots

theorem attempts_of_elapsed (hr : s.findRobot robotId = some robot)
    (helapsed : command.retryPeriod cfg ≤ command.elapsed cfg now robot) :
    Attempts cfg now s { s.setRobot robotId
        (command.attempt now { robot with confirmedActive := false }) with
      commands := (robotId, command) :: s.commands } := by
  set asked := command.attempt now { robot with confirmedActive := false } with hasked
  refine .sent command robotId rfl ?_ (fun hpos => ?_) fun command' id hne => ?_
  · refine (lastAttempt_of (s := s.setRobot robotId asked) findRobot_setRobot_self).trans ?_
    cases command <;> rfl
  · rw [lastAttempt_of hr] at hpos ⊢
    rw [ManageCommand.elapsed, if_pos hpos] at helapsed
    exact Int.add_le_of_le_sub_left helapsed
  · change (s.setRobot robotId asked).lastAttempt command' id = _
    by_cases hid : id = robotId
    · subst hid
      rw [lastAttempt_of hr, lastAttempt_of findRobot_setRobot_self, hasked]
      cases command <;> cases command' <;> first | rfl | exact absurd rfl hne
    · rw [State.lastAttempt, findRobot_setRobot_of_ne hid, State.lastAttempt]

theorem Answered.attempts {r : Poll × State}
    (h : Answered cfg robotId nodeName future poll generation now s r) (key : String × Nat) :
    Attempts cfg now s { r.2 with polls := r.2.polls.insert key r.1 } := by
  have hsame : Keeps RobotSupervisor.attempts s s := .refl s
  cases h with
  | stale => exact .none (.refl _) hsame.robots
  | counted => exact .none (.refl _) hsame.robots
  | @completed robot t hr _ _ hended =>
    cases hended with
    | idle =>
      refine .none (.refl _) ?_
      exact Same.setRobot (s := s.conclude robotId _) hr rfl
    | sent command _ _ _ hperiod =>
      cases attempts_of_elapsed (s := s.conclude robotId _) hr hperiod with
      | none hcommands => exact absurd hcommands.length_le (by simp [State.conclude])
      | sent c id hcommands hnow hlate hothers => exact .sent c id hcommands hnow hlate hothers

theorem attempts_step {e : Event} (h : s.step cfg e = some t) : Attempts cfg e.time s t := by
  cases step_cases h with
  | map robotId message =>
    exact ((mapCallback_keeps robotId message s).comp RobotSupervisor.attempts).attempts
  | @tick now visits _ =>
    rcases Int.lt_or_le 0 now with hnow | hnow
    · have hspares := @checkRobots_spares cfg now visits s
      have hpublish := publishReady_keeps (checkRobots cfg now visits s).1
        (checkRobots cfg now visits s).2
      rw [checkReadiness_of_pos hnow]
      refine .none ?_ ((hspares.robots.comp fun lasting => lasting.2.2).trans
        (hpublish.robots.comp RobotSupervisor.attempts))
      rw [hpublish.commands, hspares.commands]
    · rw [checkReadiness_of_nonpos hnow]
      exact ((publishReady_keeps false s).comp RobotSupervisor.attempts).attempts
  | stateResponse hm hw hhandled =>
    exact (handleGetStateResponse_answered hhandled).attempts _
  | @commandResponse robotId command _ =>
    have hkeeps := (commandResponseCallback_keeps robotId
      { s with commands := s.commands.erase (robotId, command) }).comp RobotSupervisor.attempts
    exact .none (hkeeps.commands ▸ List.erase_sublist) hkeeps.robots

/-! ### Runs -/

/-- A step that does not send the command leaves its attempts as they are; one that sends
it is late enough. -/
theorem requested_step {e : Event} {id : String} (h : s.step cfg e = some t) :
    (s.requested cfg command id e = none →
      t.lastAttempt command id = s.lastAttempt command id) ∧
    ∀ now, s.requested cfg command id e = some now → t.lastAttempt command id = now ∧
      (0 < s.lastAttempt command id →
        s.lastAttempt command id + command.retryPeriod cfg ≤ now) := by
  simp only [State.requested, h]
  cases attempts_step h with
  | none hcommands hsame =>
    have hnot : ¬ t.commands = (id, command) :: s.commands := by
      intro heq
      have hle := hcommands.length_le
      rw [heq, List.length_cons] at hle
      omega
    rw [if_neg hnot]
    exact ⟨fun _ => hsame.lastAttempt command id, fun now hnow => by cases hnow⟩
  | sent c robotId hcommands hnow hperiod hothers =>
    by_cases hc : (id, command) = (robotId, c)
    · cases hc
      rw [if_pos hcommands]
      refine ⟨fun hn => (by cases hn), fun now hsome => ?_⟩
      cases hsome
      exact ⟨hnow, hperiod⟩
    · have hnot : ¬ t.commands = (id, command) :: s.commands := by
        rw [hcommands]
        exact fun heq => hc (List.cons.inj heq).1.symm
      rw [if_neg hnot]
      exact ⟨fun _ => hothers command id hc, fun now hnow => by cases hnow⟩

end

theorem chain_length {period a b : Time} {times : List Time}
    (h : (a :: times).IsChain fun a b => a + period ≤ b)
    (hb : (a :: times).getLast? = some b) : a + times.length * period ≤ b := by
  induction times generalizing a with
  | nil =>
    obtain rfl : a = b := by simpa using hb
    simp
  | cons c times ih =>
    obtain ⟨hac, hrest⟩ := List.isChain_cons_cons.mp h
    have hcb := ih hrest (by simpa using hb)
    rw [List.length_cons]
    push_cast
    linarith

/-- Whatever the polls report and however the clock jumps, a command is not sent to a
robot before the period since its last attempt is over. While the clock shows positive
times, `n + 1` requests take `n` periods. -/
theorem requests_paced (cfg : Config) (command : ManageCommand) (id : String)
    (es : List Event) :
    ((requestTimes cfg command id es).IsChain fun a b =>
      0 < a → a + command.retryPeriod cfg ≤ b) ∧
    ∀ a times b, requestTimes cfg command id es = a :: times → (a :: times).getLast? = some b →
      (∀ c ∈ a :: times, 0 < c) → a + times.length * command.retryPeriod cfg ≤ b := by
  have hchain : (requestTimes cfg command id es).IsChain fun a b =>
      0 < a → a + command.retryPeriod cfg ≤ b := by
    have hall : (State.lastAttempt command id (machine cfg).init ::
        requestTimes cfg command id es).IsChain fun a b =>
          0 < a → a + command.retryPeriod cfg ≤ b := by
      refine Machine.outputs_isChain (State.lastAttempt command id)
        (fun s e t h => (requested_step h).1) (fun s e t now h hnow => ?_) _ es
      obtain ⟨hlast, hperiod⟩ := (requested_step h).2 now hnow
      exact ⟨hperiod, hlast⟩
    exact hall.of_cons
  refine ⟨hchain, fun a times b htimes hb hpos => ?_⟩
  rw [htimes] at hchain
  exact chain_length (hchain.imp_of_mem_imp fun x y hx _ hxy => hxy (hpos x hx)) hb

end PatrolFleet.Supervisor
