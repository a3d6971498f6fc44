import PatrolFleet.Supervisor.Watchdog

/-!
The supervisor of several robots is the supervisors of the single robots side by side:
what it does to one robot, it would do to it alone.
-/

set_option autoImplicit false

namespace PatrolFleet.Supervisor

/-- The supervisor of one of the robots. -/
def Config.only (cfg : Config) (robotId : String) : Config :=
  { cfg with robotIds := cfg.robotIds.filter (· = robotId) }

/-- What the supervisor of one robot has of an event. -/
def Event.only (robotId : String) : Event → Option Event
  | .map id message => if id = robotId then some (.map id message) else none
  | .tick now visits => some (.tick now (visits.filter (·.1 = robotId)))
  | .stateResponse id generation nodeName future manageReady now =>
    if id = robotId then some (.stateResponse id generation nodeName future manageReady now)
    else none
  | .commandResponse id command => if id = robotId then some (.commandResponse id command) else none

section

variable {cfg : Config} {id robotId : String} {robot : RobotSupervisor} {now : Time}
  {o : Observation} {manageReady : Bool} {s t : State}

theorem hasClients_only (cfg : Config) (robotId : String) :
    hasClients (cfg.only robotId) robotId = hasClients cfg robotId := by
  simp [hasClients, Config.only, List.contains_eq_mem]

theorem Alike.setRobot (h : Alike id s t) (robot : RobotSupervisor) :
    Alike id (s.setRobot id robot) (t.setRobot id robot) :=
  ⟨by simp, h.polls, h.commands, h.concluded⟩

theorem Alike.conclude (h : Alike id s t) (conclusion : Conclusion) :
    Alike id (s.conclude id conclusion) (t.conclude id conclusion) :=
  ⟨h.robot, h.polls, h.commands, by simp [State.conclude, h.concluded]⟩

theorem Alike.insertPoll (h : Alike id s t) (generation : Nat) (poll : Poll) :
    Alike id { s with polls := s.polls.insert (id, generation) poll }
      { t with polls := t.polls.insert (id, generation) poll } := by
  refine ⟨h.robot, fun g => ?_, h.commands, h.concluded⟩
  by_cases hg : g = generation
  · subst hg
    simp only [AList.lookup_insert]
  · have hne : (id, g) ≠ (id, generation) := fun heq => hg (congrArg Prod.snd heq)
    simp only [AList.lookup_insert_ne hne]
    exact h.polls g

theorem Alike.command (h : Alike id s t) (command : ManageCommand) :
    Alike id { s with commands := (id, command) :: s.commands }
      { t with commands := (id, command) :: t.commands } :=
  ⟨h.robot, h.polls, by simp [h.commands], h.concluded⟩

theorem Alike.mapCallback (h : Alike id s t) (message : MapInfo) :
    Alike id (mapCallback id message s) (mapCallback id message t) := by
  unfold Supervisor.mapCallback
  rw [h.robot]
  split
  · exact h
  · exact h.setRobot _

theorem Alike.commandResponseCallback (h : Alike id s t) :
    Alike id (commandResponseCallback id s) (commandResponseCallback id t) := by
  unfold Supervisor.commandResponseCallback
  rw [h.robot]
  split
  · exact h
  · exact h.setRobot _

theorem Alike.pollLifecycleStates (h : Alike id s t) :
    Alike id (pollLifecycleStates cfg id o now s)
      (pollLifecycleStates (cfg.only id) id o now t) := by
  unfold Supervisor.pollLifecycleStates
  rw [h.robot, hasClients_only]
  split
  · exact h
  split
  · exact h
  split
  · exact h.conclude _
  · exact (h.setRobot _).insertPoll _ _

theorem Alike.requestNav2 (h : Alike id s t) (command : ManageCommand) :
    Alike id (requestNav2 command cfg id manageReady now s)
      (requestNav2 command (cfg.only id) id manageReady now t) := by
  have hperiod : ∀ robot, command.elapsed (cfg.only id) now robot = command.elapsed cfg now robot ∧
      command.retryPeriod (cfg.only id) = command.retryPeriod cfg := by
    cases command <;> exact fun _ => ⟨rfl, rfl⟩
  unfold Supervisor.requestNav2
  rw [h.robot, hasClients_only]
  split
  · exact h
  rw [(hperiod _).1, (hperiod {}).2]
  split
  · exact h.setRobot _
  split
  · exact h.setRobot _
  · exact (h.setRobot _).command command

theorem Alike.finishPoll (h : Alike id s t) (allActive allUnconfigured queryFailed : Bool) :
    Alike id (finishPoll cfg id allActive allUnconfigured queryFailed manageReady now s)
      (finishPoll (cfg.only id) id allActive allUnconfigured queryFailed manageReady now t) := by
  unfold Supervisor.finishPoll
  rw [h.robot]
  split
  · exact h
  split
  · exact h.setRobot _
  split
  · exact h.setRobot _
  dsimp only
  split
  · exact (h.setRobot _).requestNav2 .startup
  · exact (h.setRobot _).requestNav2 .reset

theorem Alike.handleGetStateResponse (h : Alike id s t) (nodeName : String) (future : GetState)
    (poll : Poll) (generation : Nat) :
    (handleGetStateResponse (cfg.only id) id nodeName future poll generation manageReady now t).1 =
      (handleGetStateResponse cfg id nodeName future poll generation manageReady now s).1 ∧
    Alike id (handleGetStateResponse cfg id nodeName future poll generation manageReady now s).2
      (handleGetStateResponse (cfg.only id) id nodeName future poll generation manageReady now
        t).2 := by
  unfold Supervisor.handleGetStateResponse
  rw [h.robot]
  split
  · exact ⟨rfl, h⟩
  split
  · exact ⟨rfl, h⟩
  dsimp only
  split
  · exact ⟨rfl, h⟩
  · exact ⟨rfl, (h.conclude _).finishPoll _ _ _⟩

theorem Alike.abandonPoll (h : Alike id s t) (robot : RobotSupervisor) :
    (abandonPoll (cfg.only id) id now robot t).1 = (abandonPoll cfg id now robot s).1 ∧
      Alike id (abandonPoll cfg id now robot s).2 (abandonPoll (cfg.only id) id now robot t).2 := by
  have htimed : pollTimedOut (cfg.only id) now robot = pollTimedOut cfg now robot := rfl
  unfold Supervisor.abandonPoll
  rw [htimed]
  split
  · exact ⟨rfl, h.conclude _⟩
  · exact ⟨rfl, h⟩

theorem Alike.checkRobot (h : Alike id s t) :
    (checkRobot (cfg.only id) now id o t).1 = (checkRobot cfg now id o s).1 ∧
      Alike id (checkRobot cfg now id o s).2 (checkRobot (cfg.only id) now id o t).2 := by
  have hinputs : ∀ robot, updateInputReadiness (cfg.only id) id o robot =
      updateInputReadiness cfg id o robot := by
    intro robot
    rw [updateInputReadiness, updateInputReadiness, hasClients_only]
  unfold Supervisor.checkRobot
  rw [h.robot]
  split
  · exact ⟨rfl, h⟩
  rename_i robot _
  rw [hinputs]
  dsimp only
  split
  · exact ⟨rfl, h.setRobot _⟩
  obtain ⟨hrobot, hstate⟩ :=
    @Alike.abandonPoll cfg id now _ _ h (updateInputReadiness cfg id o robot)
  rw [hrobot]
  split
  · exact ⟨rfl, (hstate.setRobot _).pollLifecycleStates⟩
  split
  · exact ⟨rfl, (hstate.setRobot _).pollLifecycleStates⟩
  · exact ⟨rfl, hstate.setRobot _⟩

/-! ### The tick -/

theorem Alike.checkRobots (h : Alike id s t) (visits : List (String × Observation)) :
    Alike id (checkRobots cfg now visits s).2
      (checkRobots (cfg.only id) now (visits.filter (·.1 = id)) t).2 := by
  induction visits generalizing s t with
  | nil => exact h
  | cons visit visits ih =>
    obtain ⟨robotId, o⟩ := visit
    by_cases hid : robotId = id
    · subst hid
      rw [List.filter_cons_of_pos (by simp)]
      exact ih h.checkRobot.2
    · rw [List.filter_cons_of_neg (by simpa using hid)]
      have hv := checkRobot_visited cfg now robotId o s
      exact ih ((hv.alike (Ne.symm hid)).symm.trans h)

theorem Alike.checkReadiness (h : Alike id s t) (visits : List (String × Observation)) :
    Alike id (checkReadiness cfg now visits s)
      (checkReadiness (cfg.only id) now (visits.filter (·.1 = id)) t) := by
  unfold Supervisor.checkReadiness
  split
  · exact ((alike_publishReady _ s).symm.trans h).trans (alike_publishReady _ t)
  · dsimp only
    exact ((alike_publishReady _ _).symm.trans (h.checkRobots visits)).trans
      (alike_publishReady _ _)

end

/-- After the events, each supervisor of one robot is in its state beside the supervisor
of all of them. -/
structure SideBySide (cfg : Config) (es : List Event) (s : State) (alone : String → State) :
    Prop where
  run : ∀ id, (machine (cfg.only id)).run (es.filterMap (Event.only id)) = some (alone id)
  alike : ∀ id, Alike id s (alone id)
  ready : s.lastPublishedReady = true ↔ ∀ id ∈ cfg.robotIds, (alone id).lastPublishedReady = true

section

variable {cfg : Config} {es : List Event} {s t : State} {e : Event} {alone : String → State}

theorem run_only {id : String} {e' : Event} {u v : State}
    (h : (machine (cfg.only id)).run (es.filterMap (Event.only id)) = some u)
    (honly : Event.only id e = some e') (hstep : u.step (cfg.only id) e' = some v) :
    (machine (cfg.only id)).run ((es ++ [e]).filterMap (Event.only id)) = some v := by
  rw [List.filterMap_append, List.filterMap_cons_some honly]
  exact (machine (cfg.only id)).run_concat h hstep

theorem only_of_robotId {robotId : String} (he : e.robotId = some robotId) (id : String) :
    Event.only id e = if robotId = id then some e else none := by
  cases e with
  | tick => cases he
  | map | stateResponse | commandResponse =>
    cases he
    rfl

theorem SideBySide.own (h : SideBySide cfg es s alone) {robotId : String} {u : State}
    (he : e.robotId = some robotId) (hstep : s.step cfg e = some t)
    (hown : (alone robotId).step (cfg.only robotId) e = some u) (halike : Alike robotId t u) :
    SideBySide cfg (es ++ [e]) t (Function.update alone robotId u) where
  run id := by
    by_cases hid : id = robotId
    · subst hid
      rw [Function.update_self]
      exact run_only (h.run id) ((only_of_robotId he id).trans (if_pos rfl)) hown
    · have hnone : Event.only id e = none :=
        (only_of_robotId he id).trans (if_neg (Ne.symm hid))
      rw [Function.update_of_ne hid, List.filterMap_append, List.filterMap_cons_none hnone]
      simpa using h.run id
  alike id := by
    by_cases hid : id = robotId
    · subst hid
      rw [Function.update_self]
      exact halike
    · rw [Function.update_of_ne hid]
      exact (step_alike he hid hstep).symm.trans (h.alike id)
  ready := by
    have hlast : ∀ id, (Function.update alone robotId u id).lastPublishedReady =
        (alone id).lastPublishedReady := by
      intro id
      by_cases hid : id = robotId
      · subst hid
        rw [Function.update_self]
        exact (step_silent he hown).lastPublishedReady
      · rw [Function.update_of_ne hid]
    simp only [hlast, (step_silent he hstep).lastPublishedReady]
    exact h.ready

theorem Alike.commandResponse {id : String} {command : ManageCommand} {u : State}
    (h : Alike id s u) (hc : (id, command) ∈ s.commands) :
    (id, command) ∈ u.commands ∧
      Alike id { s with commands := s.commands.erase (id, command) }
        { u with commands := u.commands.erase (id, command) } := by
  have hmem : (id, command) ∈ u.commands.filter (·.1 = id) := by
    rw [h.commands]
    exact List.mem_filter.mpr ⟨hc, by simp⟩
  refine ⟨(List.mem_filter.mp hmem).1, h.robot, h.polls, ?_, h.concluded⟩
  rw [← List.erase_filter, ← List.erase_filter, h.commands]

end

end PatrolFleet.Supervisor
