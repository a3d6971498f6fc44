import PatrolFleet.Supervisor.Watchdog

/-!
The commands to the lifecycle managers. One at a time is outstanding, and its
answer finds the robot in the phase of the command, as long as the inputs of a
robot do not drop out while it waits for the answer.
-/

set_option autoImplicit false

namespace PatrolFleet.Supervisor

/-- What is promised of the commands in the run of `es`. -/
structure OneCommand (cfg : Config) (es : List Event) : Prop where
  alone : ∀ s, (machine cfg).Visits es s → (s.commands.map Prod.fst).Nodup
  noPoll : ∀ s e t, (machine cfg).Takes es s e t → ∀ id g, (id, g) ∈ t.polls → (id, g) ∉ s.polls →
    ∀ command, (id, command) ∉ s.commands ∧ (id, command) ∉ t.commands
  inPhase : ∀ s id command t, (machine cfg).Takes es s (.commandResponse id command) t →
    t.phaseOf id = s.phaseOf id ∨ s.phaseOf id = some command.pendingPhase

/-- The promise is kept in the run, and in each of its beginnings that ends with one more
answer to a command. -/
structure OneCommandThroughout (cfg : Config) (es : List Event) : Prop where
  run : OneCommand cfg es
  answered : ∀ before, before <+: es → ∀ id command,
    OneCommand cfg (before ++ [.commandResponse id command])

/-- The visit finds the inputs of the robot gone while it waits for the answer to a
command. -/
structure DropsCommand (cfg : Config) (o : Observation) (robotId : String)
    (robot : RobotSupervisor) : Prop where
  pending : robot.phase = .startupPending ∨ robot.phase = .resetPending
  inputs : (updateInputReadiness cfg robotId o robot).inputsReady = false

instance (cfg : Config) (o : Observation) (robotId : String) (robot : RobotSupervisor) :
    Decidable (DropsCommand cfg o robotId robot) :=
  decidable_of_iff ((robot.phase = .startupPending ∨ robot.phase = .resetPending) ∧
      (updateInputReadiness cfg robotId o robot).inputsReady = false)
    ⟨fun h => ⟨h.1, h.2⟩, fun h => ⟨h.pending, h.inputs⟩⟩

/-- No visit of the tick drops a command. -/
def KeepsCommands (cfg : Config) (now : Time) (visits : List (String × Observation))
    (s : State) : Prop :=
  EachVisit cfg now (fun robotId o robot => ¬ DropsCommand cfg o robotId robot) visits s

instance (cfg : Config) (now : Time) (visits : List (String × Observation)) (s : State) :
    Decidable (KeepsCommands cfg now visits s) :=
  inferInstanceAs (Decidable (EachVisit cfg now _ visits s))

def State.KeepsCommands (cfg : Config) (s : State) : Event → Prop
  | .tick now visits => 0 < now → Supervisor.KeepsCommands cfg now visits s
  | _ => True

instance (cfg : Config) (s : State) : ∀ e, Decidable (s.KeepsCommands cfg e)
  | .tick now visits =>
    inferInstanceAs (Decidable (0 < now → Supervisor.KeepsCommands cfg now visits s))
  | .map _ _ => isTrue trivial
  | .stateResponse _ _ _ _ _ _ => isTrue trivial
  | .commandResponse _ _ => isTrue trivial

/-! ### The invariant -/

/-- The robot is in the phase of no command. -/
def State.Free (id : String) (s : State) : Prop :=
  ∀ command : ManageCommand, s.phaseOf id ≠ some command.pendingPhase

/-- Either no command to the robot is outstanding and it is in the phase of none, or one
is, the robot is in its phase, and no answer to the current poll of the robot is awaited. -/
inductive State.Held (id : String) (s : State) : Prop where
  | free : s.commands.filter (·.1 = id) = [] → s.Free id → s.Held id
  | waits (command : ManageCommand) : s.commands.filter (·.1 = id) = [(id, command)] →
      s.phaseOf id = some command.pendingPhase →
      (∀ poll, s.polls.lookup (id, s.generation id) = some poll → poll.waiting = []) → s.Held id

/-- What the invariant reads of a robot. -/
def RobotSupervisor.stage (robot : RobotSupervisor) : RobotPhase × Nat :=
  (robot.phase, robot.pollGeneration)

section

variable {s t : State} {id robotId : String} {command : ManageCommand}

theorem pendingPhase_injective {a b : ManageCommand} (h : a.pendingPhase = b.pendingPhase) :
    a = b := by
  cases a <;> cases b <;> first | rfl | cases h

theorem free_of {phase : RobotPhase} (h : s.phaseOf id = some phase)
    (hs : phase ≠ .startupPending) (hr : phase ≠ .resetPending) : s.Free id := by
  intro command heq
  rw [h] at heq
  cases command
  · exact hs (Option.some.inj heq)
  · exact hr (Option.some.inj heq)

theorem mem_commands_iff {commands : List (String × ManageCommand)} :
    (id, command) ∈ commands ↔ (id, command) ∈ commands.filter (·.1 = id) := by
  simp

theorem State.Held.pending_iff (h : s.Held id) :
    (id, command) ∈ s.commands ↔ s.phaseOf id = some command.pendingPhase := by
  rw [mem_commands_iff]
  cases h with
  | free hcommands hfree =>
    rw [hcommands]
    exact iff_of_false List.not_mem_nil (hfree command)
  | waits asked hcommands hphase =>
    rw [hcommands, hphase, List.mem_singleton, Option.some.injEq]
    constructor
    · intro heq
      rw [(Prod.mk.inj heq).2]
    · intro heq
      rw [pendingPhase_injective heq]

theorem State.Held.free_iff (h : s.Held id) :
    s.Free id ↔ ∀ command, (id, command) ∉ s.commands :=
  forall_congr' fun _ => not_congr h.pending_iff.symm

theorem State.Held.congr (h : s.Held id)
    (hcommands : t.commands.filter (·.1 = id) = s.commands.filter (·.1 = id))
    (hphase : t.phaseOf id = s.phaseOf id) (hgeneration : t.generation id = s.generation id)
    (hpolls : ∀ g, t.polls.lookup (id, g) = s.polls.lookup (id, g)) : t.Held id := by
  cases h with
  | free hnone hfree =>
    refine .free (hcommands.trans hnone) fun command => ?_
    rw [hphase]
    exact hfree command
  | waits command hone hpending hdone =>
    refine .waits command (hcommands.trans hone) (hphase.trans hpending) fun poll => ?_
    rw [hgeneration, hpolls]
    exact hdone poll

theorem Alike.held (h : Alike id s t) (hs : s.Held id) : t.Held id :=
  hs.congr h.commands h.phaseOf h.generation h.polls

theorem Keeps.held (h : Keeps RobotSupervisor.stage s t) (hs : s.Held id) : t.Held id :=
  hs.congr (congrArg (List.filter _) h.commands) (h.robots.comp Prod.fst id)
    ((h.robots.comp Prod.snd).generation id) fun _ => congrArg (AList.lookup _) h.polls

theorem nodup_of_held (h : ∀ id, s.Held id) : (s.commands.map Prod.fst).Nodup := by
  refine List.nodup_iff_count_le_one.mpr fun id => ?_
  have hcount : (s.commands.map Prod.fst).count id = (s.commands.filter (·.1 = id)).length := by
    rw [List.count, List.countP_map, List.countP_eq_length_filter]
    rfl
  rw [hcount]
  cases h id with
  | free hcommands => simp [hcommands]
  | waits command hcommands => simp [hcommands]

end

/-! ### The tick -/

section

variable {cfg : Config} {now : Time} {robotId id : String} {o : Observation} {s t u : State}
  {robot : RobotSupervisor} {visits : List (String × Observation)} {g : Nat}

theorem PollCase.phase (h : PollCase cfg robotId o now s t) :
    t.phaseOf robotId = s.phaseOf robotId ∨ t.phaseOf robotId = some .polling := by
  cases h with
  | none => exact .inl rfl
  | refused => exact .inl rfl
  | started => exact .inr (phaseOf_of findRobot_setRobot_self)

theorem PollCase.free (h : PollCase cfg robotId o now s t)
    (hidle : s.phaseOf robotId = some .idle) : t.Free robotId := by
  rcases h.phase with hphase | hphase
  · exact free_of (hphase.trans hidle) (by simp) (by simp)
  · exact free_of hphase (by simp) (by simp)

theorem PollCase.polls (h : PollCase cfg robotId o now s t) (hm : (id, g) ∈ t.polls) :
    (id, g) ∈ s.polls ∨ id = robotId := by
  cases h with
  | none => exact .inl hm
  | refused => exact .inl hm
  | started => exact ((AList.mem_insert _).mp hm).symm.imp_right fun heq => congrArg Prod.fst heq

theorem Visited.polls {r : Bool × State} (hv : Visited cfg now robotId o s r)
    (hm : (id, g) ∈ r.2.polls) : (id, g) ∈ s.polls ∨ s.Free id := by
  cases hv with
  | absent => exact .inl hm
  | waiting => exact .inl hm
  | busy => exact .inl hm
  | resumed hr _ hphase =>
    refine (pollLifecycleStates_case.polls hm).imp_right fun heq => ?_
    rw [heq]
    rcases hphase with hphase | hphase <;>
      exact free_of (phaseOf_of hr) (by simp [hphase]) (by simp [hphase])
  | abandoned hr _ ht =>
    refine (pollLifecycleStates_case.polls hm).imp_right fun heq => ?_
    simp only [pollTimedOut, Bool.and_eq_true, beq_iff_eq] at ht
    rw [heq]
    exact free_of (phaseOf_of hr) (by simp [ht.1]) (by simp [ht.1])

/-- A visit that does not drop a command keeps the invariant of its robot. -/
theorem Visited.held {r : Bool × State} (hv : Visited cfg now robotId o s r)
    (hkeeps : ∀ robot, s.findRobot robotId = some robot → ¬ DropsCommand cfg o robotId robot)
    (hs : s.Held robotId) : r.2.Held robotId := by
  have hfilter := congrArg (List.filter (·.1 = robotId)) hv.spares.commands
  have hfree : s.Free robotId → r.2.Free robotId → r.2.Held robotId := by
    intro hbefore hafter
    cases hs with
    | free hnone => exact .free (hfilter.trans hnone) hafter
    | waits command _ hphase => exact absurd hphase (hbefore command)
  cases hv with
  | absent => exact hs
  | @waiting robot hr hi =>
    have hnot : ¬ (robot.phase = .startupPending ∨ robot.phase = .resetPending) :=
      fun hp => hkeeps robot hr ⟨hp, hi⟩
    obtain ⟨hstartup, hreset⟩ := not_or.mp hnot
    exact hfree (free_of (phaseOf_of hr) hstartup hreset)
      (free_of (phaseOf_of findRobot_setRobot_self) (by simp) (by simp))
  | busy hr =>
    have hstage : Keeps RobotSupervisor.stage s
        (s.setRobot robotId (updateInputReadiness cfg robotId o _)) := .setRobot hr rfl
    exact hstage.held hs
  | resumed hr _ hphase =>
    refine hfree ?_ (pollLifecycleStates_case.free (phaseOf_of findRobot_setRobot_self))
    rcases hphase with hphase | hphase <;>
      exact free_of (phaseOf_of hr) (by simp [hphase]) (by simp [hphase])
  | abandoned hr _ ht =>
    refine hfree ?_ (pollLifecycleStates_case.free (phaseOf_of findRobot_setRobot_self))
    simp only [pollTimedOut, Bool.and_eq_true, beq_iff_eq] at ht
    exact free_of (phaseOf_of hr) (by simp [ht.1]) (by simp [ht.1])

/-- The invariant holds of all robots. A tick polls a robot only that waits for no
answer to a command. -/
theorem checkRobots_held (hs : ∀ id, s.Held id) (hkeeps : KeepsCommands cfg now visits s) :
    (∀ id, (checkRobots cfg now visits s).2.Held id) ∧
      ∀ id g, (id, g) ∈ (checkRobots cfg now visits s).2.polls → (id, g) ∈ s.polls ∨ s.Free id := by
  induction visits generalizing s with
  | nil => exact ⟨hs, fun _ _ => .inl⟩
  | cons visit visits ih =>
    obtain ⟨hfirst, hrest⟩ := hkeeps
    have hv := checkRobot_visited cfg now visit.1 visit.2 s
    have hheld : ∀ id, (checkRobot cfg now visit.1 visit.2 s).2.Held id := by
      intro id
      by_cases hid : id = visit.1
      · exact hid ▸ hv.held hfirst (hs visit.1)
      · exact (hv.alike hid).held (hs id)
    obtain ⟨hlast, hpolls⟩ := ih hheld hrest
    refine ⟨hlast, fun id g hm => ?_⟩
    rcases hpolls id g hm with hm | hfree
    · exact hv.polls hm
    · refine .inr ((hs id).free_iff.mpr ?_)
      rw [← hv.spares.commands]
      exact (hheld id).free_iff.mp hfree

theorem checkReadiness_held (hs : ∀ id, s.Held id)
    (hkeeps : 0 < now → KeepsCommands cfg now visits s) :
    (∀ id, (checkReadiness cfg now visits s).Held id) ∧
      ∀ id g, (id, g) ∈ (checkReadiness cfg now visits s).polls →
        (id, g) ∈ s.polls ∨ s.Free id := by
  have hpublish : ∀ ready u, Keeps RobotSupervisor.stage u (publishReady ready u) :=
    fun ready u => (publishReady_keeps ready u).comp RobotSupervisor.stage
  rcases Int.lt_or_le 0 now with hnow | hnow
  · obtain ⟨hheld, hpolls⟩ := checkRobots_held hs (hkeeps hnow)
    rw [checkReadiness_of_pos hnow]
    refine ⟨fun id => (hpublish _ _).held (hheld id), fun id g hm => hpolls id g ?_⟩
    rwa [(hpublish _ _).polls] at hm
  · rw [checkReadiness_of_nonpos hnow]
    refine ⟨fun id => (hpublish _ _).held (hs id), fun id g hm => .inl ?_⟩
    rwa [(hpublish _ _).polls] at hm

theorem checkReadiness_commands (visits : List (String × Observation)) (s : State) :
    (checkReadiness cfg now visits s).commands = s.commands := by
  rcases Int.lt_or_le 0 now with hnow | hnow
  · rw [checkReadiness_of_pos hnow, (publishReady_keeps _ _).commands]
    exact (checkRobots_spares visits s).commands
  · rw [checkReadiness_of_nonpos hnow, (publishReady_keeps _ _).commands]

end

/-! ### Answers -/

section

variable {cfg : Config} {now : Time} {robotId nodeName : String} {future : GetState} {poll : Poll}
  {g : Nat} {s t : State} {command : ManageCommand} {r : Poll × State}

theorem State.Held.free_of_awaited (hs : s.Held robotId)
    (hm : s.polls.lookup (robotId, s.generation robotId) = some poll)
    (hw : nodeName ∈ poll.waiting) :
    s.commands.filter (·.1 = robotId) = [] ∧ s.Free robotId := by
  cases hs with
  | free hnone hfree => exact ⟨hnone, hfree⟩
  | waits command _ _ hdone =>
    rw [hdone poll hm] at hw
    cases hw

theorem Ended.held {allActive allUnconfigured queryFailed : Bool} {robot : RobotSupervisor}
    (h : Ended cfg robotId allActive allUnconfigured queryFailed now robot s t)
    (hr : s.findRobot robotId = some robot)
    (hnone : s.commands.filter (·.1 = robotId) = []) {done : Poll} (hdone : done.waiting = []) :
    State.Held robotId
      { t with polls := t.polls.insert (robotId, robot.pollGeneration) done } := by
  have hgeneration : t.generation robotId = robot.pollGeneration :=
    ((h.same hr).comp Prod.snd).generation robotId |>.trans (generation_of hr)
  have hself : (t.polls.insert (robotId, robot.pollGeneration) done).lookup
      (robotId, t.generation robotId) = some done := by
    rw [hgeneration, AList.lookup_insert]
  cases h with
  | idle => exact .free hnone (free_of (phaseOf_of findRobot_setRobot_self) (by simp) (by simp))
  | sent command =>
    refine .waits command ?_ ?_ fun poll hpoll => ?_
    · simpa using hnone
    · refine (phaseOf_of findRobot_setRobot_self).trans ?_
      cases command <;> rfl
    · obtain rfl : done = poll := Option.some.inj (hself.symm.trans hpoll)
      exact hdone

theorem Answered.held
    (h : Answered cfg robotId nodeName future
      { poll with waiting := poll.waiting.erase nodeName } g now s r)
    (hsound : s.PollsSound) (hm : s.polls.lookup (robotId, g) = some poll)
    (hw : nodeName ∈ poll.waiting) (hs : s.Held robotId) :
    State.Held robotId { r.2 with polls := r.2.polls.insert (robotId, g) r.1 } := by
  cases h with
  | stale hstale =>
    have hpast : s.generation robotId ≠ g := by
      rintro rfl
      cases hr : s.findRobot robotId with
      | none =>
        have hpos := (hsound.begun robotId _ poll hm).1
        rw [State.generation, hr] at hpos
        exact absurd hpos (Nat.lt_irrefl 0)
      | some robot => exact hstale robot hr (generation_of hr).symm
    cases hs with
    | free hnone hfree => exact .free hnone hfree
    | waits command hone hphase hdone =>
      refine .waits command hone hphase fun q hq => hdone q (Eq.trans ?_ hq)
      exact (AList.lookup_insert_ne fun heq => hpast (Prod.mk.inj heq).2).symm
  | counted hr hg =>
    have hgeneration := (generation_of hr).trans hg
    subst hgeneration
    obtain ⟨hnone, hfree⟩ := hs.free_of_awaited hm hw
    exact .free hnone hfree
  | completed hr hg hremaining hended =>
    subst hg
    have hgeneration := generation_of hr
    rw [← hgeneration] at hm
    have hdone : (Poll.count nodeName future
        { poll with waiting := poll.waiting.erase nodeName }).waiting = [] := by
      refine waiting_nil_of_finished ((hsound.current robotId poll hm).count hw future) ?_
        hremaining
      simp [Poll.count, Tally.of_cons, hsound.tally _ poll hm]
    exact hended.held hr (hs.free_of_awaited hm hw).1 hdone

theorem commandResponse_held (hs : s.Held robotId) (hm : (robotId, command) ∈ s.commands) :
    (commandResponseCallback robotId
      { s with commands := s.commands.erase (robotId, command) }).Held robotId := by
  have hphase := hs.pending_iff.mp hm
  obtain ⟨robot, hr, _⟩ := Option.map_eq_some_iff.mp hphase
  have hnone : (s.commands.erase (robotId, command)).filter (·.1 = robotId) = [] := by
    rw [← List.erase_filter]
    cases hs with
    | free hnone =>
      rw [hnone]
      rfl
    | waits asked hone hasked =>
      rw [hone, pendingPhase_injective (Option.some.inj (hasked.symm.trans hphase)),
        List.erase_cons_head]
  have hcallback : commandResponseCallback robotId
      { s with commands := s.commands.erase (robotId, command) } =
        State.setRobot robotId { robot with phase := .idle }
          { s with commands := s.commands.erase (robotId, command) } := by
    unfold commandResponseCallback
    rw [show State.findRobot robotId
      { s with commands := s.commands.erase (robotId, command) } = some robot from hr]
  rw [hcallback]
  exact .free hnone (free_of (phaseOf_of findRobot_setRobot_self) (by simp) (by simp))

theorem held_step {e : Event} (hs : ∀ id, s.Held id) (hsound : s.PollsSound)
    (hkeeps : s.KeepsCommands cfg e) (hstep : s.step cfg e = some t) (id : String) :
    t.Held id := by
  have hothers : ∀ robotId, e.robotId = some robotId → t.Held robotId → t.Held id := by
    intro robotId he hself
    by_cases hid : id = robotId
    · rwa [hid]
    · exact (step_alike he hid hstep).held (hs id)
  cases step_cases hstep with
  | map robotId message =>
    have hstage : Keeps RobotSupervisor.stage s (mapCallback robotId message s) :=
      (mapCallback_keeps robotId message s).comp RobotSupervisor.stage
    exact hstage.held (hs id)
  | tick => exact (checkReadiness_held hs hkeeps).1 id
  | stateResponse hm hw hhandled =>
    exact hothers _ rfl ((handleGetStateResponse_answered hhandled).held hsound hm hw (hs _))
  | commandResponse hm => exact hothers _ rfl (commandResponse_held (hs _) hm)

theorem polls_step {e : Event} (hs : ∀ id, s.Held id) (hkeeps : s.KeepsCommands cfg e)
    (hstep : s.step cfg e = some t) {id : String} (hm : (id, g) ∈ t.polls) :
    (id, g) ∈ s.polls ∨ (s.Free id ∧ t.commands = s.commands) := by
  cases step_cases hstep with
  | map robotId message => exact .inl ((mapCallback_keeps robotId message s).polls ▸ hm)
  | tick =>
    have hpolls := (checkReadiness_held hs hkeeps).2 id g hm
    exact hpolls.imp_right fun hfree => ⟨hfree, checkReadiness_commands _ s⟩
  | stateResponse hpoll _ hhandled =>
    rw [AList.mem_insert, (handleGetStateResponse_answered hhandled).polls] at hm
    rcases hm with heq | hold
    · exact .inl (heq ▸ AList.lookup_isSome.mp (by simp [hpoll]))
    · exact .inl hold
  | @commandResponse robotId command _ =>
    have hkept := commandResponseCallback_keeps robotId
      { s with commands := s.commands.erase (robotId, command) }
    exact .inl (hkept.polls ▸ hm)

end

/-! ### Runs -/

section

variable {cfg : Config} {now : Time} {robotId : String} {s t : State} {es : List Event}

theorem held_init (cfg : Config) (id : String) : (machine cfg).init.Held id := by
  refine .free rfl fun command hphase => ?_
  obtain ⟨robot, hr, heq⟩ := Option.map_eq_some_iff.mp hphase
  rw [findRobot_init hr] at heq
  cases command <;> cases heq

theorem visits_held (hkeeps : ∀ s e t, (machine cfg).Takes es s e t → (∀ id, s.Held id) →
    s.KeepsCommands cfg e) (hs : (machine cfg).Visits es s) :
    s.PollsSound ∧ ∀ id, s.Held id := by
  refine Machine.visits_invariant (P := fun s => s.PollsSound ∧ ∀ id, s.Held id)
    (C := fun s e _ => (∀ id, s.Held id) → s.KeepsCommands cfg e)
    ⟨pollsSound_init cfg, held_init cfg⟩ ?_ hkeeps hs
  intro u e v hu hk hstep
  exact ⟨pollsSound_step hu.1 hstep, held_step hu.2 hu.1 (hk hu.2) hstep⟩

theorem oneCommand_of_keeps
    (hkeeps : ∀ s e t, (machine cfg).Takes es s e t → s.KeepsCommands cfg e) :
    OneCommand cfg es := by
  have hheld : ∀ {s}, (machine cfg).Visits es s → ∀ id, s.Held id := fun hs =>
    (visits_held (fun s e t htake _ => hkeeps s e t htake) hs).2
  refine ⟨fun s hs => nodup_of_held (hheld hs), fun s e t htake id g hm hnew command => ?_,
    fun s id command t htake => .inr ?_⟩
  · have hs := hheld htake.visits
    rcases polls_step hs (hkeeps s e t htake) htake.step_eq hm with hold | ⟨hfree, hsame⟩
    · exact absurd hold hnew
    · have hnone := (hs id).free_iff.mp hfree command
      exact ⟨hnone, hsame ▸ hnone⟩
  · have hstep : s.step cfg (.commandResponse id command) = some t := htake.step_eq
    cases step_cases hstep with
    | commandResponse hm => exact (hheld htake.visits id).pending_iff.mp hm

theorem checkRobots_waiting {visits : List (String × Observation)}
    (hnodup : (visits.map Prod.fst).Nodup) {visit : String × Observation} (hm : visit ∈ visits)
    {robot : RobotSupervisor} (hr : s.findRobot visit.1 = some robot)
    (hi : (updateInputReadiness cfg visit.1 visit.2 robot).inputsReady = false) :
    (checkRobots cfg now visits s).2.phaseOf visit.1 = some .waitingForInputs := by
  induction visits generalizing s with
  | nil => simp at hm
  | cons first visits ih =>
    rw [List.map_cons, List.nodup_cons] at hnodup
    have hv := checkRobot_visited cfg now first.1 first.2 s
    rcases List.mem_cons.mp hm with rfl | hm
    · have hfirst : (checkRobot cfg now visit.1 visit.2 s).2.phaseOf visit.1 =
          some .waitingForInputs := by
        unfold checkRobot
        rw [hr]
        dsimp only
        rw [hi]
        exact phaseOf_of findRobot_setRobot_self
      rw [← hfirst]
      exact (alike_checkRobots hnodup.1).phaseOf
    · have hne : visit.1 ≠ first.1 := fun heq => hnodup.1 (heq ▸ List.mem_map_of_mem hm)
      exact ih hnodup.2 hm ((hv.alike hne).robot.trans hr)

/-- An outstanding command whose robot waits for inputs will be answered in the wrong
phase. -/
theorem answered_elsewhere (cfg : Config) {command : ManageCommand}
    (hm : (robotId, command) ∈ s.commands)
    (hphase : s.phaseOf robotId = some .waitingForInputs) :
    ∃ t, s.step cfg (.commandResponse robotId command) = some t ∧
      t.phaseOf robotId ≠ s.phaseOf robotId ∧
      s.phaseOf robotId ≠ some command.pendingPhase := by
  obtain ⟨robot, hr, _⟩ := Option.map_eq_some_iff.mp hphase
  refine ⟨_, if_pos hm, ?_, ?_⟩
  · have hidle : (commandResponseCallback robotId
        { s with commands := s.commands.erase (robotId, command) }).phaseOf robotId =
          some .idle := by
      have hr' : State.findRobot robotId
          { s with commands := s.commands.erase (robotId, command) } = some robot := hr
      unfold commandResponseCallback
      rw [hr']
      exact phaseOf_of findRobot_setRobot_self
    rw [hidle, hphase]
    simp
  · rw [hphase]
    cases command <;> simp [ManageCommand.pendingPhase]

theorem keeps_of_answers (hids : cfg.robotIds.Nodup) (h : OneCommandThroughout cfg es) {e : Event}
    (htake : (machine cfg).Takes es s e t) (hs : ∀ id, s.Held id) : s.KeepsCommands cfg e := by
  cases e with
  | map robotId message => trivial
  | stateResponse robotId g nodeName future manageReady now => trivial
  | commandResponse robotId command => trivial
  | tick now visits =>
    intro hnow
    obtain ⟨before, hprefix, hrun, htick⟩ := htake
    have hstep : s.step cfg (.tick now visits) = some t := htick
    cases step_cases hstep with | tick hvisits =>
    have hnodup : (visits.map Prod.fst).Nodup := hvisits ▸ hids
    refine (eachVisit_iff hnodup).mpr fun visit hm robot hr hdrops => ?_
    have hpending : robot.Pending := pending_iff.mpr hdrops.pending
    obtain ⟨command, hphase⟩ := hpending
    have hcommand : (visit.1, command) ∈ s.commands :=
      (hs visit.1).pending_iff.mpr ((phaseOf_of hr).trans (congrArg some hphase))
    have hwaiting : (checkReadiness cfg now visits s).phaseOf visit.1 =
        some .waitingForInputs := by
      rw [checkReadiness_of_pos hnow, (alike_publishReady _ _).phaseOf]
      exact checkRobots_waiting hnodup hm hr hdrops.inputs
    have hstill : (visit.1, command) ∈ (checkReadiness cfg now visits s).commands := by
      rwa [checkReadiness_commands]
    obtain ⟨u, hu, hchanged, helsewhere⟩ := answered_elsewhere cfg hstill hwaiting
    have hanswer := h.answered (before ++ [.tick now visits]) hprefix visit.1 command
    rcases hanswer.inPhase _ visit.1 command u
      ⟨_, List.prefix_refl _, (machine cfg).run_concat hrun htick, hu⟩ with hkept | hin
    · exact hchanged hkept
    · exact helsewhere hin

end

theorem one_command_iff (cfg : Config) (es : List Event) :
    ((∀ s e t, (machine cfg).Takes es s e t → s.KeepsCommands cfg e) →
      OneCommandThroughout cfg es) ∧
    (cfg.robotIds.Nodup → OneCommandThroughout cfg es →
      ∀ s e t, (machine cfg).Takes es s e t → s.KeepsCommands cfg e) := by
  refine ⟨fun hkeeps => ⟨oneCommand_of_keeps hkeeps, fun before hbefore id command => ?_⟩,
    fun hids h s e t htake => ?_⟩
  · refine oneCommand_of_keeps fun s e t htake => ?_
    obtain ⟨earlier, hprefix, hrun, hstep⟩ := htake
    rcases List.prefix_concat_iff.mp hprefix with heq | hprefix
    · obtain rfl : e = .commandResponse id command :=
        List.singleton_inj.mp (List.append_inj' heq rfl).2
      trivial
    · exact hkeeps s e t ⟨earlier, hprefix.trans hbefore, hrun, hstep⟩
  · have hheld := visits_held (fun s e t htake hs => keeps_of_answers hids h htake hs)
      htake.visits
    exact keeps_of_answers hids h htake hheld.2

/-- The command to start the nodes up is answered before the next tick. -/
theorem one_command_answered :
    OneCommand oneRobot (startupRun ++ [.commandResponse "robot1" .startup,
      .tick (seconds 3) [("robot1", allServices)]]) := by
  refine ((one_command_iff oneRobot _).1 fun s e t htake => ?_).run
  have hc : decide (s.KeepsCommands oneRobot e) = true :=
    Machine.takes_of_eachStep (c := fun s e => decide (s.KeepsCommands oneRobot e)) rfl htake
  exact of_decide_eq_true hc

/-- The transform of the robot is gone for one tick while its nodes start up. The next
poll finds one of them inactive. -/
def dropoutRun : List Event :=
  startupRun ++
  [.tick (seconds 3) [("robot1", ⟨false, true, nav2NodeNames⟩)],
    .tick (seconds 4) [("robot1", allServices)]] ++
  nav2NodeNames.map fun name => .stateResponse "robot1" 2 name (some 2) true (seconds 5)

theorem reset_during_startup : ¬ ∀ cfg es, OneCommand cfg es := by
  intro h
  have hrun : ∃ s, (machine oneRobot).run dropoutRun = some s ∧
      s.commands = [("robot1", .reset), ("robot1", .startup)] := ⟨_, rfl, rfl⟩
  obtain ⟨s, hs, hcommands⟩ := hrun
  have halone := (h oneRobot dropoutRun).alone s ⟨dropoutRun, List.prefix_refl _, hs⟩
  rw [hcommands] at halone
  revert halone
  decide

end PatrolFleet.Supervisor
