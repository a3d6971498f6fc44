import PatrolFleet.Supervisor.System

/-!
What the callbacks do: to the robot that they are about, to the other robots, and to the
messages.
-/

set_option autoImplicit false

namespace PatrolFleet.Supervisor

def ManageCommand.pendingPhase : ManageCommand → RobotPhase
  | startup => .startupPending
  | reset => .resetPending

namespace State

def generation (id : String) (s : State) : Nat :=
  ((s.findRobot id).map RobotSupervisor.pollGeneration).getD 0

def confirmed (id : String) (s : State) : Bool :=
  ((s.findRobot id).map RobotSupervisor.confirmedActive).getD false

def phaseOf (id : String) (s : State) : Option RobotPhase :=
  (s.findRobot id).map RobotSupervisor.phase

/-- The time of the last attempt of the command for the robot; zero before the first one. -/
def lastAttempt (command : ManageCommand) (id : String) (s : State) : Time :=
  ((s.findRobot id).map command.lastAttempt).getD 0

end State

section

variable {s : State} {id robotId : String} {robot : RobotSupervisor}

@[simp] theorem findRobot_setRobot_self :
    (s.setRobot robotId robot).findRobot robotId = some robot := by
  simp [State.setRobot, State.findRobot]

@[simp] theorem findRobot_setRobot_of_ne (h : id ≠ robotId) :
    (s.setRobot robotId robot).findRobot id = s.findRobot id := by
  simp [State.setRobot, State.findRobot, AList.lookup_insert_ne h]

theorem setRobot_setRobot (robot' : RobotSupervisor) :
    (s.setRobot robotId robot).setRobot robotId robot' = s.setRobot robotId robot' := by
  simp [State.setRobot]

theorem generation_of (h : s.findRobot id = some robot) :
    s.generation id = robot.pollGeneration := by
  simp [State.generation, h]

theorem confirmed_of (h : s.findRobot id = some robot) :
    s.confirmed id = robot.confirmedActive := by
  simp [State.confirmed, h]

theorem phaseOf_of (h : s.findRobot id = some robot) : s.phaseOf id = some robot.phase := by
  simp [State.phaseOf, h]

theorem lastAttempt_of {command : ManageCommand} (h : s.findRobot id = some robot) :
    s.lastAttempt command id = command.lastAttempt robot := by
  simp [State.lastAttempt, h]

end

def RobotSupervisor.attempts (robot : RobotSupervisor) : Time × Time :=
  (robot.lastStartupAttempt, robot.lastResetAttempt)

/-! ### What stays as it is -/

/-- No robot has changed in what `g` reads of its record. -/
def Same {β : Type} (g : RobotSupervisor → β) (s t : State) : Prop :=
  ∀ id, (t.findRobot id).map g = (s.findRobot id).map g

/-- Nor have the polls and the commands. -/
structure Keeps {β : Type} (g : RobotSupervisor → β) (s t : State) : Prop where
  robots : Same g s t
  polls : t.polls = s.polls
  commands : t.commands = s.commands
  concluded : t.concluded = s.concluded

/-- Nothing was published. -/
structure Silent (s t : State) : Prop where
  hasPublishedReady : t.hasPublishedReady = s.hasPublishedReady
  lastPublishedReady : t.lastPublishedReady = s.lastPublishedReady
  ready : t.ready = s.ready

/-- The two states are the same as far as the robot is concerned. -/
structure Alike (id : String) (s t : State) : Prop where
  robot : t.findRobot id = s.findRobot id
  polls : ∀ generation, t.polls.lookup (id, generation) = s.polls.lookup (id, generation)
  commands : t.commands.filter (·.1 = id) = s.commands.filter (·.1 = id)
  concluded : t.concluded.filter (·.1 = id) = s.concluded.filter (·.1 = id)

section

variable {β γ : Type} {g : RobotSupervisor → β} {s t u : State} {id robotId : String}
  {robot robot' : RobotSupervisor}

theorem Same.refl (s : State) : Same g s s := fun _ => rfl

theorem Same.trans (h : Same g s t) (k : Same g t u) : Same g s u :=
  fun id => (k id).trans (h id)

theorem Same.comp (h : Same g s t) (f : β → γ) : Same (fun robot => f (g robot)) s t := by
  intro id
  have hmap := congrArg (Option.map f) (h id)
  rwa [Option.map_map, Option.map_map] at hmap

theorem Same.setRobot (h : s.findRobot robotId = some robot) (hg : g robot' = g robot) :
    Same g s (s.setRobot robotId robot') := by
  intro id
  by_cases hid : id = robotId
  · subst hid
    rw [h, findRobot_setRobot_self, Option.map_some, Option.map_some, hg]
  · rw [findRobot_setRobot_of_ne hid]

theorem Same.generation (h : Same RobotSupervisor.pollGeneration s t) (id : String) :
    t.generation id = s.generation id := congrArg (Option.getD · 0) (h id)

theorem Same.confirmed (h : Same RobotSupervisor.confirmedActive s t) (id : String) :
    t.confirmed id = s.confirmed id := congrArg (Option.getD · false) (h id)

theorem Same.lastAttempt (h : Same RobotSupervisor.attempts s t) (command : ManageCommand)
    (id : String) : t.lastAttempt command id = s.lastAttempt command id := by
  cases command
  · exact congrArg (Option.getD · 0) (h.comp Prod.fst id)
  · exact congrArg (Option.getD · 0) (h.comp Prod.snd id)

theorem Keeps.refl (s : State) : Keeps g s s := ⟨.refl s, rfl, rfl, rfl⟩

theorem Keeps.comp (h : Keeps g s t) (f : β → γ) : Keeps (fun robot => f (g robot)) s t :=
  ⟨h.robots.comp f, h.polls, h.commands, h.concluded⟩

theorem Keeps.setRobot (h : s.findRobot robotId = some robot) (hg : g robot' = g robot) :
    Keeps g s (s.setRobot robotId robot') := ⟨.setRobot h hg, rfl, rfl, rfl⟩

theorem Silent.trans (h : Silent s t) (k : Silent t u) : Silent s u where
  hasPublishedReady := k.hasPublishedReady.trans h.hasPublishedReady
  lastPublishedReady := k.lastPublishedReady.trans h.lastPublishedReady
  ready := k.ready.trans h.ready

theorem Alike.refl (id : String) (s : State) : Alike id s s := ⟨rfl, fun _ => rfl, rfl, rfl⟩

theorem Alike.trans (h : Alike id s t) (k : Alike id t u) : Alike id s u :=
  ⟨k.robot.trans h.robot, fun g => (k.polls g).trans (h.polls g), k.commands.trans h.commands,
    k.concluded.trans h.concluded⟩

theorem Alike.symm (h : Alike id s t) : Alike id t s :=
  ⟨h.robot.symm, fun g => (h.polls g).symm, h.commands.symm, h.concluded.symm⟩

theorem Alike.generation (h : Alike id s t) : t.generation id = s.generation id := by
  rw [State.generation, h.robot, State.generation]

theorem Alike.confirmed (h : Alike id s t) : t.confirmed id = s.confirmed id := by
  rw [State.confirmed, h.robot, State.confirmed]

theorem Alike.phaseOf (h : Alike id s t) : t.phaseOf id = s.phaseOf id := by
  rw [State.phaseOf, h.robot, State.phaseOf]

theorem Alike.lookup (h : Alike id s t) : t.concluded.lookup id = s.concluded.lookup id := by
  have hfilter : ∀ concluded : List (String × Conclusion),
      (concluded.filter (·.1 = id)).lookup id = concluded.lookup id := by
    intro concluded
    induction concluded with
    | nil => rfl
    | cons c concluded ih =>
      by_cases hc : c.1 = id
      · subst hc
        rw [List.filter_cons_of_pos (by simp), List.lookup_cons_self, List.lookup_cons_self]
      · rw [List.filter_cons_of_neg (by simpa using hc), ih, List.lookup_cons,
          beq_false_of_ne (Ne.symm hc)]
  rw [← hfilter, h.concluded, hfilter]

theorem alike_setRobot (hid : id ≠ robotId) : Alike id s (s.setRobot robotId robot) :=
  ⟨findRobot_setRobot_of_ne hid, fun _ => rfl, rfl, rfl⟩

theorem alike_conclude (hid : id ≠ robotId) (conclusion : Conclusion) :
    Alike id s (s.conclude robotId conclusion) :=
  ⟨rfl, fun _ => rfl, rfl, by simp [State.conclude, Ne.symm hid]⟩

theorem alike_insertPoll {generation : Nat} {poll : Poll} (hid : id ≠ robotId) :
    Alike id s { s with polls := s.polls.insert (robotId, generation) poll } :=
  ⟨rfl, fun _ => AList.lookup_insert_ne fun heq => hid (congrArg Prod.fst heq), rfl, rfl⟩

theorem alike_eraseCommand {command : ManageCommand} (hid : id ≠ robotId) :
    Alike id s { s with commands := s.commands.erase (robotId, command) } := by
  refine ⟨rfl, fun _ => rfl, ?_, rfl⟩
  rw [← List.erase_filter, List.erase_of_not_mem]
  intro hmem
  exact hid (of_decide_eq_true (List.mem_filter.mp hmem).2).symm

end

/-! ### The callbacks -/

/-- The record without the inputs. -/
def RobotSupervisor.inner (robot : RobotSupervisor) : RobotSupervisor :=
  { robot with mapReceived := false, tfAvailable := false, lifecycleServiceAvailable := false }

/-- The record without its phase. -/
def RobotSupervisor.unphased (robot : RobotSupervisor) : RobotSupervisor :=
  { robot with phase := .idle }

section

variable {cfg : Config} {id robotId : String} {robot : RobotSupervisor} {s : State}

theorem publishReady_keeps (ready : Bool) (s : State) :
    Keeps (fun robot => robot) s (publishReady ready s) := by
  unfold publishReady
  split <;> exact ⟨fun _ => rfl, rfl, rfl, rfl⟩

theorem alike_publishReady (ready : Bool) (s : State) : Alike id s (publishReady ready s) := by
  unfold publishReady
  split <;> exact ⟨rfl, fun _ => rfl, rfl, rfl⟩

@[simp] theorem publishReady_lastPublishedReady (ready : Bool) (s : State) :
    (publishReady ready s).lastPublishedReady = ready := by
  unfold publishReady
  split
  · rename_i hsame
    exact beq_iff_eq.mp (Bool.and_eq_true_iff.mp hsame).2
  · rfl

theorem mapCallback_keeps (robotId : String) (message : MapInfo) (s : State) :
    Keeps RobotSupervisor.inner s (mapCallback robotId message s) := by
  unfold mapCallback
  split
  · exact .refl s
  · rename_i robot h
    exact .setRobot h rfl

theorem mapCallback_silent (robotId : String) (message : MapInfo) (s : State) :
    Silent s (mapCallback robotId message s) := by
  unfold mapCallback
  split <;> exact ⟨rfl, rfl, rfl⟩

theorem alike_mapCallback (hid : id ≠ robotId) (message : MapInfo) :
    Alike id s (mapCallback robotId message s) := by
  unfold mapCallback
  split
  · exact .refl id s
  · exact alike_setRobot hid

theorem commandResponseCallback_keeps (robotId : String) (s : State) :
    Keeps RobotSupervisor.unphased s (commandResponseCallback robotId s) := by
  unfold commandResponseCallback
  split
  · exact .refl s
  · rename_i robot h
    exact .setRobot h rfl

theorem commandResponse_silent (robotId : String) (commands : List (String × ManageCommand))
    (s : State) : Silent s (commandResponseCallback robotId { s with commands := commands }) := by
  unfold commandResponseCallback
  split <;> exact ⟨rfl, rfl, rfl⟩

theorem alike_commandResponseCallback (hid : id ≠ robotId) :
    Alike id s (commandResponseCallback robotId s) := by
  unfold commandResponseCallback
  split
  · exact .refl id s
  · exact alike_setRobot hid

end

/-! ### The end of a poll -/

/-- How a poll ends: the robot is idle, with the verdict of the poll as its readiness
signal, or a command is sent for it. -/
inductive Ended (cfg : Config) (robotId : String)
    (allActive allUnconfigured queryFailed : Bool) (now : Time) (robot : RobotSupervisor)
    (s : State) : State → Prop where
  | idle : Ended cfg robotId allActive allUnconfigured queryFailed now robot s
      (s.setRobot robotId { robot with
        confirmedActive := allActive && !queryFailed
        phase := .idle })
  | sent (command : ManageCommand) : queryFailed = false → allActive = false →
      command = (if allUnconfigured then .startup else .reset) →
      command.retryPeriod cfg ≤ command.elapsed cfg now robot →
      Ended cfg robotId allActive allUnconfigured queryFailed now robot s
        { s.setRobot robotId (command.attempt now { robot with confirmedActive := false }) with
          commands := (robotId, command) :: s.commands }

section

variable {cfg : Config} {id robotId nodeName : String} {robot : RobotSupervisor} {now : Time}
  {manageReady allActive allUnconfigured queryFailed : Bool} {future : GetState} {poll : Poll}
  {generation : Nat} {s t : State}

theorem requestNav2_ended (command : ManageCommand)
    (hcommand : command = if allUnconfigured then .startup else .reset) :
    Ended cfg robotId false allUnconfigured false now robot s
      (requestNav2 command cfg robotId manageReady now
        (s.setRobot robotId { robot with confirmedActive := false })) := by
  have hidle : Ended cfg robotId false allUnconfigured false now robot s
      (s.setRobot robotId { robot with confirmedActive := false, phase := .idle }) := .idle
  have helapsed : command.elapsed cfg now { robot with confirmedActive := false } =
      command.elapsed cfg now robot := by cases command <;> rfl
  unfold requestNav2
  rw [findRobot_setRobot_self]
  dsimp only
  rw [helapsed]
  split
  · rwa [setRobot_setRobot]
  rename_i hperiod
  split
  · rwa [setRobot_setRobot]
  · rw [setRobot_setRobot]
    exact .sent command rfl rfl hcommand (Int.not_lt.mp hperiod)

theorem finishPoll_ended (hr : s.findRobot robotId = some robot)
    (allActive allUnconfigured queryFailed : Bool) :
    Ended cfg robotId allActive allUnconfigured queryFailed now robot s
      (finishPoll cfg robotId allActive allUnconfigured queryFailed manageReady now s) := by
  unfold finishPoll
  rw [hr]
  cases queryFailed with
  | true =>
    have hended : Ended cfg robotId allActive allUnconfigured true now robot s _ := .idle
    rwa [Bool.not_true, Bool.and_false] at hended
  | false =>
    cases allActive with
    | true => exact .idle
    | false =>
      cases allUnconfigured
      · exact requestNav2_ended .reset rfl
      · exact requestNav2_ended .startup rfl

theorem Ended.silent (h : Ended cfg robotId allActive allUnconfigured queryFailed now robot s t) :
    Silent s t := by
  cases h <;> exact ⟨rfl, rfl, rfl⟩

theorem Ended.alike (h : Ended cfg robotId allActive allUnconfigured queryFailed now robot s t)
    (hid : id ≠ robotId) : Alike id s t := by
  cases h with
  | idle => exact alike_setRobot hid
  | sent => exact ⟨findRobot_setRobot_of_ne hid, fun _ => rfl, by simp [Ne.symm hid], rfl⟩

theorem Ended.polls (h : Ended cfg robotId allActive allUnconfigured queryFailed now robot s t) :
    t.polls = s.polls ∧ t.concluded = s.concluded := by
  cases h <;> exact ⟨rfl, rfl⟩

theorem Ended.same (hr : s.findRobot robotId = some robot)
    (h : Ended cfg robotId allActive allUnconfigured queryFailed now robot s t) :
    Same (fun robot => (robot.mapReceived, robot.pollGeneration)) s t := by
  cases h with
  | idle => exact .setRobot hr rfl
  | sent command =>
    refine Same.setRobot hr ?_
    cases command <;> rfl

theorem Ended.confirmed
    (h : Ended cfg robotId allActive allUnconfigured queryFailed now robot s t) :
    t.confirmed robotId = (allActive && !queryFailed) := by
  cases h with
  | idle => exact confirmed_of findRobot_setRobot_self
  | sent command _ hactive =>
    rw [hactive, Bool.false_and]
    refine (confirmed_of findRobot_setRobot_self).trans ?_
    cases command <;> rfl

theorem handleGetStateResponse_stale
    (h : ∀ robot, s.findRobot robotId = some robot → robot.pollGeneration ≠ generation) :
    handleGetStateResponse cfg robotId nodeName future poll generation manageReady now s =
      (poll, s) := by
  unfold handleGetStateResponse
  cases hr : s.findRobot robotId with
  | none => rfl
  | some robot => simp [h robot hr]

theorem handleGetStateResponse_current (hr : s.findRobot robotId = some robot)
    (h : robot.pollGeneration = generation) :
    handleGetStateResponse cfg robotId nodeName future poll generation manageReady now s =
      (poll.count nodeName future,
        if (poll.tally.count future).remaining ≠ 0 then s
        else finishPoll cfg robotId (poll.tally.count future).allActive
          (poll.tally.count future).allUnconfigured (poll.tally.count future).queryFailed
          manageReady now
          (s.conclude robotId (.completed (poll.count nodeName future).outcomes))) := by
  unfold handleGetStateResponse
  rw [hr]
  dsimp only
  rw [if_neg (not_not.mpr h)]
  split <;> simp_all [Poll.count]

end

/-- What an answer does: it is dropped, counted, or it completes its poll. -/
inductive Answered (cfg : Config) (robotId nodeName : String) (future : GetState) (poll : Poll)
    (g : Nat) (now : Time) (s : State) : Poll × State → Prop where
  | stale : (∀ robot, s.findRobot robotId = some robot → robot.pollGeneration ≠ g) →
      Answered cfg robotId nodeName future poll g now s (poll, s)
  | counted {robot : RobotSupervisor} : s.findRobot robotId = some robot →
      robot.pollGeneration = g → (poll.tally.count future).remaining ≠ 0 →
      Answered cfg robotId nodeName future poll g now s (poll.count nodeName future, s)
  | completed {robot : RobotSupervisor} {t : State} : s.findRobot robotId = some robot →
      robot.pollGeneration = g → (poll.tally.count future).remaining = 0 →
      Ended cfg robotId (poll.tally.count future).allActive
        (poll.tally.count future).allUnconfigured (poll.tally.count future).queryFailed now robot
        (s.conclude robotId (.completed (poll.count nodeName future).outcomes)) t →
      Answered cfg robotId nodeName future poll g now s (poll.count nodeName future, t)

section

variable {cfg : Config} {id robotId nodeName : String} {now : Time} {manageReady : Bool}
  {future : GetState} {poll : Poll} {g : Nat} {s : State} {r : Poll × State}

theorem handleGetStateResponse_answered
    (h : handleGetStateResponse cfg robotId nodeName future poll g manageReady now s = r) :
    Answered cfg robotId nodeName future poll g now s r := by
  subst h
  by_cases hstale : ∀ robot, s.findRobot robotId = some robot → robot.pollGeneration ≠ g
  · rw [handleGetStateResponse_stale hstale]
    exact .stale hstale
  · push Not at hstale
    obtain ⟨robot, hr, hg⟩ := hstale
    rw [handleGetStateResponse_current hr hg]
    split
    · rename_i hremaining
      exact .counted hr hg hremaining
    · rename_i hremaining
      exact .completed hr hg (not_not.mp hremaining)
        (finishPoll_ended (s := s.conclude _ _) hr _ _ _)

theorem Answered.silent (h : Answered cfg robotId nodeName future poll g now s r) :
    Silent s r.2 := by
  cases h with
  | stale => exact ⟨rfl, rfl, rfl⟩
  | counted => exact ⟨rfl, rfl, rfl⟩
  | completed _ _ _ hended =>
    have hconcluded : Silent s
        (s.conclude robotId (.completed (poll.count nodeName future).outcomes)) := ⟨rfl, rfl, rfl⟩
    exact hconcluded.trans hended.silent

theorem Answered.alike (h : Answered cfg robotId nodeName future poll g now s r)
    (hid : id ≠ robotId) : Alike id s r.2 := by
  cases h with
  | stale => exact .refl id s
  | counted => exact .refl id s
  | completed _ _ _ hended => exact (alike_conclude hid _).trans (hended.alike hid)

theorem Answered.same (h : Answered cfg robotId nodeName future poll g now s r) :
    Same (fun robot => (robot.mapReceived, robot.pollGeneration)) s r.2 := by
  cases h with
  | stale => exact .refl s
  | counted => exact .refl s
  | completed hr _ _ hended => exact hended.same (s := s.conclude robotId _) hr

theorem Answered.polls (h : Answered cfg robotId nodeName future poll g now s r) :
    r.2.polls = s.polls := by
  cases h with
  | stale => rfl
  | counted => rfl
  | completed _ _ _ hended => exact hended.polls.1

end

/-! ### The tick -/

section

variable {cfg : Config} {robotId : String} {o : Observation} {robot : RobotSupervisor}
  {now : Time}

@[simp] theorem updateInputReadiness_phase :
    (updateInputReadiness cfg robotId o robot).phase = robot.phase := rfl

@[simp] theorem updateInputReadiness_confirmedActive :
    (updateInputReadiness cfg robotId o robot).confirmedActive = robot.confirmedActive := rfl

@[simp] theorem updateInputReadiness_pollGeneration :
    (updateInputReadiness cfg robotId o robot).pollGeneration = robot.pollGeneration := rfl

@[simp] theorem pollTimedOut_updateInputReadiness :
    pollTimedOut cfg now (updateInputReadiness cfg robotId o robot) = pollTimedOut cfg now robot :=
  rfl

theorem inputsReady_hasClients
    (h : (updateInputReadiness cfg robotId o robot).inputsReady = true) :
    hasClients cfg robotId = true := by
  simp only [RobotSupervisor.inputsReady, updateInputReadiness, Bool.and_eq_true] at h
  exact h.2.1

end

/-- What `poll_lifecycle_states` does: nothing for a robot without clients, and otherwise a
poll is started or refused. -/
inductive PollCase (cfg : Config) (robotId : String) (o : Observation) (now : Time) (s : State) :
    State → Prop where
  | none : PollCase cfg robotId o now s s
  | refused {robot : RobotSupervisor} : s.findRobot robotId = some robot →
      hasClients cfg robotId = true → statesReady o = false →
      PollCase cfg robotId o now s (s.conclude robotId .refused)
  | started {robot : RobotSupervisor} : s.findRobot robotId = some robot →
      statesReady o = true → PollCase cfg robotId o now s (startPoll robotId robot now s)

/-- The visit of a robot by `check_readiness`, by the phase that it finds. -/
inductive Visited (cfg : Config) (now : Time) (robotId : String) (o : Observation) (s : State) :
    Bool × State → Prop where
  | absent : s.findRobot robotId = none → Visited cfg now robotId o s (false, s)
  | waiting {robot : RobotSupervisor} : s.findRobot robotId = some robot →
      (updateInputReadiness cfg robotId o robot).inputsReady = false →
      Visited cfg now robotId o s (false, s.setRobot robotId
        { updateInputReadiness cfg robotId o robot with phase := .waitingForInputs })
  | busy {robot : RobotSupervisor} : s.findRobot robotId = some robot →
      (updateInputReadiness cfg robotId o robot).inputsReady = true →
      robot.phase ≠ .waitingForInputs → robot.phase ≠ .idle → pollTimedOut cfg now robot = false →
      Visited cfg now robotId o s
        (robot.confirmedActive, s.setRobot robotId (updateInputReadiness cfg robotId o robot))
  | resumed {robot : RobotSupervisor} : s.findRobot robotId = some robot →
      (updateInputReadiness cfg robotId o robot).inputsReady = true →
      (robot.phase = .waitingForInputs ∨ robot.phase = .idle) →
      Visited cfg now robotId o s
        (robot.confirmedActive, pollLifecycleStates cfg robotId o now (s.setRobot robotId
          { updateInputReadiness cfg robotId o robot with phase := .idle }))
  | abandoned {robot : RobotSupervisor} : s.findRobot robotId = some robot →
      (updateInputReadiness cfg robotId o robot).inputsReady = true →
      pollTimedOut cfg now robot = true →
      Visited cfg now robotId o s
        (robot.confirmedActive,
          pollLifecycleStates cfg robotId o now ((s.conclude robotId .abandoned).setRobot robotId
            { updateInputReadiness cfg robotId o robot with
              phase := .idle
              pollGeneration := robot.pollGeneration + 1 }))

section

variable {cfg : Config} {now : Time} {id robotId : String} {o : Observation} {s t u : State}
  {robot : RobotSupervisor} {visits : List (String × Observation)}

theorem pollLifecycleStates_case : PollCase cfg robotId o now s
    (pollLifecycleStates cfg robotId o now s) := by
  unfold pollLifecycleStates
  cases hr : s.findRobot robotId with
  | none => exact .none
  | some robot =>
    dsimp only
    cases hclients : hasClients cfg robotId with
    | false => exact .none
    | true =>
      cases ho : statesReady o with
      | false => exact .refused hr hclients ho
      | true => exact .started hr ho

theorem pollLifecycleStates_eq (h : s.findRobot robotId = some robot)
    (hclients : hasClients cfg robotId = true) :
    pollLifecycleStates cfg robotId o now s =
      if statesReady o then startPoll robotId robot now s else s.conclude robotId .refused := by
  unfold pollLifecycleStates
  rw [h]
  cases statesReady o <;> simp [hclients]

theorem checkRobot_visited (cfg : Config) (now : Time) (robotId : String) (o : Observation)
    (s : State) : Visited cfg now robotId o s (checkRobot cfg now robotId o s) := by
  unfold checkRobot
  cases h : s.findRobot robotId with
  | none => exact .absent h
  | some robot =>
    dsimp only
    cases hi : (updateInputReadiness cfg robotId o robot).inputsReady with
    | false => exact .waiting h hi
    | true =>
      cases ht : pollTimedOut cfg now robot with
      | true => simpa [abandonPoll, ht] using Visited.abandoned h hi ht
      | false =>
        by_cases hw : robot.phase = .waitingForInputs
        · simpa [abandonPoll, ht, hw] using Visited.resumed h hi (.inl hw)
        · by_cases hidle : robot.phase = .idle
          · have hsame : { updateInputReadiness cfg robotId o robot with phase := .idle } =
                updateInputReadiness cfg robotId o robot := by
              simp [updateInputReadiness, ← hidle]
            have hv : Visited cfg now robotId o s _ := .resumed h hi (.inr hidle)
            rw [hsame] at hv
            simpa [abandonPoll, ht, hidle] using hv
          · simpa [abandonPoll, ht, hw, hidle] using Visited.busy h hi hw hidle ht

/-- What every visit does from one state to the next, all of them do. -/
theorem checkRobots_induction {R : State → State → Prop} (refl : ∀ s, R s s)
    (trans : ∀ s t u, R s t → R t u → R s u)
    (visit : ∀ visit ∈ visits, ∀ s r, Visited cfg now visit.1 visit.2 s r → R s r.2) :
    R s (checkRobots cfg now visits s).2 := by
  induction visits generalizing s with
  | nil => exact refl s
  | cons first visits ih =>
    have hfirst := visit first List.mem_cons_self s _ (checkRobot_visited ..)
    exact trans _ _ _ hfirst (ih fun other ho => visit other (List.mem_cons_of_mem _ ho))

theorem checkReadiness_of_nonpos (h : now ≤ 0) :
    checkReadiness cfg now visits s = publishReady false s := if_pos h

theorem checkReadiness_of_pos (h : 0 < now) : checkReadiness cfg now visits s =
    publishReady (checkRobots cfg now visits s).1 (checkRobots cfg now visits s).2 :=
  if_neg (Int.not_le.mpr h)

/-- What no visit changes of a robot. -/
def RobotSupervisor.lasting (robot : RobotSupervisor) : Bool × Bool × Time × Time :=
  (robot.mapReceived, robot.confirmedActive, robot.attempts)

/-- What no visit changes. -/
structure Spares (s t : State) : Prop extends Silent s t where
  robots : Same RobotSupervisor.lasting s t
  commands : t.commands = s.commands

theorem Spares.refl (s : State) : Spares s s := ⟨⟨rfl, rfl, rfl⟩, .refl s, rfl⟩

theorem Spares.trans (h : Spares s t) (k : Spares t u) : Spares s u :=
  ⟨h.toSilent.trans k.toSilent, h.robots.trans k.robots, k.commands.trans h.commands⟩

theorem Spares.setRobot {robot' : RobotSupervisor} (h : s.findRobot robotId = some robot)
    (hr : robot'.lasting = robot.lasting) : Spares s (s.setRobot robotId robot') :=
  ⟨⟨rfl, rfl, rfl⟩, .setRobot h hr, rfl⟩

theorem Spares.confirmed (h : Spares s t) (id : String) : t.confirmed id = s.confirmed id :=
  (h.robots.comp fun lasting => lasting.2.1).confirmed id

theorem PollCase.spares (h : PollCase cfg robotId o now s t) : Spares s t := by
  cases h with
  | none => exact .refl s
  | refused => exact ⟨⟨rfl, rfl, rfl⟩, .refl s, rfl⟩
  | @started robot hr =>
    have hset : Same RobotSupervisor.lasting s (s.setRobot robotId { robot with
        phase := .polling, pollStartedAt := now, pollGeneration := robot.pollGeneration + 1 }) :=
      .setRobot hr rfl
    exact ⟨⟨rfl, rfl, rfl⟩, hset, rfl⟩

theorem Visited.spares {r : Bool × State} (hv : Visited cfg now robotId o s r) :
    Spares s r.2 := by
  cases hv with
  | absent => exact .refl s
  | waiting hr => exact .setRobot hr rfl
  | busy hr => exact .setRobot hr rfl
  | resumed hr => exact (Spares.setRobot hr (by rfl)).trans pollLifecycleStates_case.spares
  | abandoned hr =>
    have hconcluded : Spares s (s.conclude robotId .abandoned) :=
      ⟨⟨rfl, rfl, rfl⟩, .refl s, rfl⟩
    exact (hconcluded.trans (.setRobot hr (by rfl))).trans pollLifecycleStates_case.spares

theorem checkRobots_spares (visits : List (String × Observation)) (s : State) :
    Spares s (checkRobots cfg now visits s).2 :=
  checkRobots_induction .refl (fun _ _ _ => .trans) fun _ _ _ _ hv => hv.spares

theorem PollCase.alike (h : PollCase cfg robotId o now s t) (hid : id ≠ robotId) :
    Alike id s t := by
  cases h with
  | none => exact .refl id s
  | refused => exact alike_conclude hid .refused
  | started => exact (alike_setRobot hid).trans (alike_insertPoll hid)

theorem Visited.alike {r : Bool × State} (hv : Visited cfg now robotId o s r)
    (hid : id ≠ robotId) : Alike id s r.2 := by
  cases hv with
  | absent => exact .refl id s
  | waiting => exact alike_setRobot hid
  | busy => exact alike_setRobot hid
  | resumed => exact (alike_setRobot hid).trans (pollLifecycleStates_case.alike hid)
  | abandoned =>
    exact ((alike_conclude hid .abandoned).trans (alike_setRobot hid)).trans
      (pollLifecycleStates_case.alike hid)

theorem alike_checkRobots (hid : id ∉ visits.map Prod.fst) :
    Alike id s (checkRobots cfg now visits s).2 := by
  refine checkRobots_induction (.refl id) (fun _ _ _ => .trans) fun visit hm _ _ hv => ?_
  exact hv.alike fun heq => hid (heq ▸ List.mem_map_of_mem hm)

end

/-! ### The steps of one robot -/

/-- The robot that the message is about. -/
def Event.robotId : Event → Option String
  | .tick _ _ => none
  | .map robotId _ | .stateResponse robotId _ _ _ _ _ | .commandResponse robotId _ => some robotId

section

variable {cfg : Config} {id robotId : String} {s t : State} {e : Event}

theorem step_alike (he : e.robotId = some robotId) (hid : id ≠ robotId)
    (h : s.step cfg e = some t) : Alike id s t := by
  cases step_cases h with
  | map _ message =>
    cases he
    exact alike_mapCallback hid message
  | tick => cases he
  | stateResponse _ _ hhandled =>
    cases he
    exact ((handleGetStateResponse_answered hhandled).alike hid).trans (alike_insertPoll hid)
  | commandResponse =>
    cases he
    exact (alike_eraseCommand hid).trans (alike_commandResponseCallback hid)

theorem step_silent (he : e.robotId = some robotId) (h : s.step cfg e = some t) :
    Silent s t := by
  cases step_cases h with
  | map _ message => exact mapCallback_silent _ message s
  | tick => cases he
  | stateResponse _ _ hhandled =>
    exact (handleGetStateResponse_answered hhandled).silent.trans ⟨rfl, rfl, rfl⟩
  | commandResponse => exact commandResponse_silent _ _ s

end

end PatrolFleet.Supervisor
