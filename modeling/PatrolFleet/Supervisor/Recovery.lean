import Mathlib.Data.List.Nodup
import Mathlib.Data.List.ProdSigma
import PatrolFleet.Lib.Latest
import PatrolFleet.Supervisor.Commands
import PatrolFleet.Supervisor.Messages

/-!
The supervisor is never stuck: once its commands are answered and the maps of the robots
are there, one tick, one round of answers and another tick make it publish READY.
-/

set_option autoImplicit false

namespace PatrolFleet.Supervisor

/-! ### Outstanding commands -/

/-- The robot waits for the answer to a command only while the command is outstanding. -/
def State.Outstanding (id : String) (s : State) : Prop :=
  ∀ command : ManageCommand, s.phaseOf id = some command.pendingPhase → (id, command) ∈ s.commands

section

variable {cfg : Config} {now : Time} {s t : State} {id robotId nodeName : String}
  {o : Observation} {command : ManageCommand} {future : GetState} {poll : Poll} {g : Nat}

theorem State.Free.outstanding (h : s.Free id) : s.Outstanding id :=
  fun command hphase => absurd hphase (h command)

theorem Alike.outstanding (h : Alike id s t) (hs : s.Outstanding id) : t.Outstanding id := by
  intro command hphase
  rw [mem_commands_iff, h.commands, ← mem_commands_iff]
  exact hs command (h.phaseOf ▸ hphase)

theorem Keeps.outstanding (h : Keeps RobotSupervisor.stage s t) (hs : s.Outstanding id) :
    t.Outstanding id := by
  intro command hphase
  rw [h.commands]
  exact hs command ((h.robots.comp Prod.fst id).symm.trans hphase)

theorem Visited.outstanding {r : Bool × State} (hv : Visited cfg now robotId o s r)
    (hs : s.Outstanding robotId) : r.2.Outstanding robotId := by
  cases hv with
  | absent => exact hs
  | waiting =>
    exact (free_of (phaseOf_of findRobot_setRobot_self) (by simp) (by simp)).outstanding
  | busy hr =>
    have hstage : Keeps RobotSupervisor.stage s
        (s.setRobot robotId (updateInputReadiness cfg robotId o _)) := .setRobot hr rfl
    exact hstage.outstanding hs
  | resumed =>
    exact (pollLifecycleStates_case.free (phaseOf_of findRobot_setRobot_self)).outstanding
  | abandoned =>
    exact (pollLifecycleStates_case.free (phaseOf_of findRobot_setRobot_self)).outstanding

theorem checkReadiness_outstanding (visits : List (String × Observation))
    (hs : s.Outstanding id) : (checkReadiness cfg now visits s).Outstanding id := by
  rcases Int.lt_or_le 0 now with hnow | hnow
  · rw [checkReadiness_of_pos hnow]
    refine (alike_publishReady _ _).outstanding ?_
    refine checkRobots_induction (R := fun s t => s.Outstanding id → t.Outstanding id)
      (fun _ h => h) (fun _ _ _ hst htu h => htu (hst h)) (fun visit _ u r hv hu => ?_) hs
    by_cases hid : id = visit.1
    · subst hid
      exact hv.outstanding hu
    · exact (hv.alike hid).outstanding hu
  · rw [checkReadiness_of_nonpos hnow]
    exact (alike_publishReady false s).outstanding hs

theorem Ended.outstanding {allActive allUnconfigured queryFailed : Bool}
    {robot : RobotSupervisor}
    (h : Ended cfg robotId allActive allUnconfigured queryFailed now robot s t) :
    t.Outstanding robotId := by
  cases h with
  | idle =>
    exact (free_of (phaseOf_of findRobot_setRobot_self) (by simp) (by simp)).outstanding
  | sent asked =>
    intro command hphase
    have hasked : some asked.pendingPhase = some command.pendingPhase := by
      rw [← hphase]
      refine Eq.trans ?_ (phaseOf_of findRobot_setRobot_self).symm
      cases asked <;> rfl
    rw [pendingPhase_injective (Option.some.inj hasked)]
    exact List.mem_cons_self

theorem Answered.outstanding {r : Poll × State}
    (h : Answered cfg robotId nodeName future poll g now s r) (hs : s.Outstanding robotId) :
    r.2.Outstanding robotId := by
  cases h with
  | stale => exact hs
  | counted => exact hs
  | completed _ _ _ hended => exact hended.outstanding

theorem commandResponse_outstanding :
    (commandResponseCallback robotId
      { s with commands := s.commands.erase (robotId, command) }).Outstanding robotId := by
  unfold commandResponseCallback
  cases hr : State.findRobot robotId
      { s with commands := s.commands.erase (robotId, command) } with
  | none =>
    intro c hphase
    rw [State.phaseOf, hr] at hphase
    cases hphase
  | some robot =>
    exact (free_of (phaseOf_of findRobot_setRobot_self) (by simp) (by simp)).outstanding

theorem outstanding_step {e : Event} (hs : s.Outstanding id) (h : s.step cfg e = some t) :
    t.Outstanding id := by
  have hothers : ∀ robotId, e.robotId = some robotId →
      (s.Outstanding robotId → t.Outstanding robotId) → t.Outstanding id := by
    intro robotId he hself
    by_cases hid : id = robotId
    · subst hid
      exact hself hs
    · exact (step_alike he hid h).outstanding hs
  cases step_cases h with
  | map robotId message =>
    exact ((mapCallback_keeps robotId message s).comp RobotSupervisor.stage).outstanding hs
  | tick => exact checkReadiness_outstanding _ hs
  | stateResponse _ _ hhandled =>
    exact hothers _ rfl (handleGetStateResponse_answered hhandled).outstanding
  | commandResponse => exact hothers _ rfl fun _ => commandResponse_outstanding

theorem reachable_outstanding (h : (machine cfg).Reachable s) (id : String) :
    s.Outstanding id := by
  refine h.invariant (P := State.Outstanding id) ?_ fun u e v hu hstep => outstanding_step hu hstep
  intro command hphase
  obtain ⟨robot, hr, heq⟩ := Option.map_eq_some_iff.mp hphase
  rw [findRobot_init hr] at heq
  cases command <;> cases heq

/-- What is known of a robot when no command is outstanding and its last map was valid. -/
structure RobotSupervisor.Ready (robot : RobotSupervisor) : Prop where
  mapped : robot.mapReceived = true
  free : ∀ command : ManageCommand, robot.phase ≠ command.pendingPhase

theorem run_ready {es : List Event} (hrun : (machine cfg).run es = some s)
    (hcommands : s.commands = []) (hid : id ∈ cfg.robotIds)
    (hmap : Latest.latest (Event.mapValid id) es = some true) :
    ∃ robot, s.findRobot id = some robot ∧ robot.Ready := by
  obtain ⟨robot, hr⟩ := reachable_findRobot ⟨es, hrun⟩ hid
  have hregister := Latest.run_register (m := machine cfg) (g := State.mapReceived id)
    (fun _ e _ _ hstep => mapReceived_step hstep id) hrun
  have hmapped : some robot.mapReceived = (s.mapReceived id) := by rw [State.mapReceived, hr]; rfl
  refine ⟨robot, hr, ?_, fun command hphase => ?_⟩
  · rw [hregister, hmap] at hmapped
    obtain ⟨_, _, heq⟩ := Option.map_eq_some_iff.mp hmapped.symm
    exact heq.symm
  · have hout := reachable_outstanding ⟨es, hrun⟩ id command
      ((phaseOf_of hr).trans (congrArg some hphase))
    rw [hcommands] at hout
    cases hout

end

/-! ### The poll of every robot -/

section

variable {cfg : Config} {now : Time} {s : State} {id robotId : String} {o : Observation}
  {robot : RobotSupervisor}

/-- The robot is mapped, and no answer to its current poll has come. -/
def State.Polled (id : String) (s : State) : Prop :=
  ∃ robot, s.findRobot id = some robot ∧ robot.mapReceived = true ∧
    s.polls.lookup (id, robot.pollGeneration) = some {}

theorem Alike.polled {t : State} (h : Alike id s t) (hs : s.Polled id) : t.Polled id := by
  obtain ⟨robot, hr, hmap, hpoll⟩ := hs
  exact ⟨robot, h.robot.trans hr, hmap, (h.polls _).trans hpoll⟩

theorem Visited.polled {r : Bool × State} (hv : Visited cfg now id o s r)
    (hid : id ∈ cfg.robotIds) (ho : Available o) (hr : s.findRobot id = some robot)
    (hmap : robot.mapReceived = true) (hdue : PollDue cfg now robot) : r.2.Polled id := by
  obtain ⟨u, robot', hstart, hmap', _⟩ := hv.starts hid ho hr hmap hdue
  rw [hstart]
  exact ⟨_, findRobot_setRobot_self, hmap', AList.lookup_insert _⟩

theorem checkRobots_polled {visits : List (String × Observation)}
    (hnodup : (visits.map Prod.fst).Nodup)
    (hvisits : ∀ visit ∈ visits, visit.1 ∈ cfg.robotIds ∧ Available visit.2 ∧
      ∃ robot, s.findRobot visit.1 = some robot ∧ robot.mapReceived = true ∧
        PollDue cfg now robot) :
    ∀ id ∈ visits.map Prod.fst, (checkRobots cfg now visits s).2.Polled id := by
  induction visits generalizing s with
  | nil => simp
  | cons visit visits ih =>
    rw [List.map_cons, List.nodup_cons] at hnodup
    have hv := checkRobot_visited cfg now visit.1 visit.2 s
    intro id hid
    rcases List.mem_cons.mp hid with rfl | hid
    · obtain ⟨hconf, ho, robot, hr, hmap, hdue⟩ := hvisits visit List.mem_cons_self
      exact (alike_checkRobots hnodup.1).polled (hv.polled hconf ho hr hmap hdue)
    · refine ih hnodup.2 (fun other ho => ?_) id hid
      obtain ⟨hconf, havailable, robot, hr, hmap, hdue⟩ :=
        hvisits other (List.mem_cons_of_mem _ ho)
      have hne : other.1 ≠ visit.1 := fun heq => hnodup.1 (heq ▸ List.mem_map_of_mem ho)
      exact ⟨hconf, havailable, robot, (hv.alike hne).robot.trans hr, hmap, hdue⟩

/-- Polls of these robots that have begun before some time are over. -/
theorem exists_timeout (cfg : Config) (s : State) (ids : List String) :
    ∃ t₀, 0 ≤ t₀ ∧ ∀ now, t₀ < now → ∀ id ∈ ids, ∀ robot, s.findRobot id = some robot →
      cfg.pollTimeout < now - robot.pollStartedAt := by
  induction ids with
  | nil => exact ⟨0, le_refl 0, by simp⟩
  | cons id ids ih =>
    obtain ⟨t₀, hpos, ht₀⟩ := ih
    cases hr : s.findRobot id with
    | none =>
      refine ⟨t₀, hpos, fun now hnow other hother robot hrobot => ?_⟩
      rcases List.mem_cons.mp hother with rfl | hother
      · rw [hr] at hrobot
        cases hrobot
      · exact ht₀ now hnow other hother robot hrobot
    | some robot =>
      refine ⟨max t₀ (robot.pollStartedAt + cfg.pollTimeout), le_max_of_le_left hpos,
        fun now hnow other hother robot' hrobot => ?_⟩
      obtain ⟨hlate, hover⟩ := max_lt_iff.mp hnow
      rcases List.mem_cons.mp hother with rfl | hother
      · obtain rfl : robot = robot' := Option.some.inj (hr.symm.trans hrobot)
        exact Int.lt_sub_left_of_add_lt hover
      · exact ht₀ now hlate other hother robot' hrobot

/-- A robot that waits for no answer to a command is polled once its poll is over. -/
theorem RobotSupervisor.Ready.due (h : robot.Ready)
    (hover : cfg.pollTimeout < now - robot.pollStartedAt) : PollDue cfg now robot := by
  unfold PollDue
  cases hphase : robot.phase with
  | waitingForInputs => exact Or.inl rfl
  | idle => exact Or.inr (Or.inl rfl)
  | polling => exact Or.inr (Or.inr (by simp [pollTimedOut, hphase, hover]))
  | startupPending => exact absurd hphase (h.free .startup)
  | resetPending => exact absurd hphase (h.free .reset)

theorem tick_polled {visits : List (String × Observation)}
    (hvisits : visits.map Prod.fst = cfg.robotIds) (hnow : 0 < now)
    (hnodup : (visits.map Prod.fst).Nodup)
    (hdue : ∀ visit ∈ visits, visit.1 ∈ cfg.robotIds ∧ Available visit.2 ∧
      ∃ robot, s.findRobot visit.1 = some robot ∧ robot.mapReceived = true ∧
        PollDue cfg now robot) :
    ∃ t, s.step cfg (.tick now visits) = some t ∧ ∀ id ∈ cfg.robotIds, t.Polled id := by
  refine ⟨checkReadiness cfg now visits s, if_pos hvisits, fun id hid => ?_⟩
  rw [checkReadiness_of_pos hnow]
  exact (alike_publishReady _ _).polled (checkRobots_polled hnodup hdue id (hvisits ▸ hid))

end

/-! ### The answers to the polls -/

/-- An answer of a node that is active. -/
structure Answer where
  robotId : String
  nodeName : String
  manageReady : Bool
  now : Time

def Answer.key (a : Answer) : String × String := (a.robotId, a.nodeName)

/-- The answer to the poll of its robot that is current in the state. -/
def Answer.event (s : State) (a : Answer) : Event :=
  .stateResponse a.robotId (s.generation a.robotId) a.nodeName
    (some LifecycleState.primaryStateActive) a.manageReady a.now

/-- The nodes of the robot that are left have not answered the poll, and the others were
active. -/
structure Poll.Collects (poll : Poll) (id : String) (rest : List (String × String)) : Prop where
  waiting : ∀ nodeName, nodeName ∈ poll.waiting ↔ (id, nodeName) ∈ rest
  nodup : poll.waiting.Nodup
  left : poll.waiting ≠ []
  remaining : poll.tally.remaining = poll.waiting.length
  allActive : poll.tally.allActive = true
  queryFailed : poll.tally.queryFailed = false

/-- The robot is mapped, and confirmed unless answers to its poll are left. -/
def State.Collects (s : State) (id : String) (generation : Nat)
    (rest : List (String × String)) : Prop :=
  ∃ robot, s.findRobot id = some robot ∧ robot.mapReceived = true ∧
    robot.pollGeneration = generation ∧
    ((∀ nodeName, (id, nodeName) ∉ rest) ∧ robot.confirmedActive = true ∨
      ∃ poll, s.polls.lookup (id, generation) = some poll ∧ poll.Collects id rest)

section

variable {cfg : Config} {s t : State} {id robotId nodeName : String} {g : Nat}
  {rest : List (String × String)} {poll : Poll} {manageReady : Bool} {now : Time}

theorem State.Polled.collects (h : s.Polled id) (hid : id ∈ cfg.robotIds) :
    s.Collects id (s.generation id) (cfg.robotIds.product nav2NodeNames) := by
  obtain ⟨robot, hr, hmap, hpoll⟩ := h
  have hgen : s.generation id = robot.pollGeneration := generation_of hr
  refine ⟨robot, hr, hmap, hgen.symm, Or.inr ⟨{}, hgen ▸ hpoll, ?_⟩⟩
  exact ⟨fun nodeName => by simp [hid], by decide, by decide, rfl, rfl, rfl⟩

theorem State.Collects.congr {rest' : List (String × String)} (h : s.Collects id g rest)
    (hrest : ∀ key, key ∈ rest ↔ key ∈ rest') : s.Collects id g rest' := by
  obtain ⟨robot, hr, hmap, hgen, hcase⟩ := h
  refine ⟨robot, hr, hmap, hgen, ?_⟩
  rcases hcase with ⟨hnone, hconfirmed⟩ | ⟨poll, hpoll, hcollects⟩
  · exact Or.inl ⟨fun name hm => hnone name ((hrest _).mpr hm), hconfirmed⟩
  · exact Or.inr ⟨poll, hpoll, { hcollects with
      waiting := fun name => (hcollects.waiting name).trans (hrest _) }⟩

theorem State.Collects.other (h : s.Collects id g ((robotId, nodeName) :: rest))
    (hid : id ≠ robotId) (halike : Alike id s t) : t.Collects id g rest := by
  have hmem : ∀ name, (id, name) ∈ (robotId, nodeName) :: rest ↔ (id, name) ∈ rest := by
    intro name
    simp [hid]
  obtain ⟨robot, hr, hmap, hgen, hcase⟩ := h
  refine ⟨robot, halike.robot.trans hr, hmap, hgen, ?_⟩
  rcases hcase with ⟨hnone, hconfirmed⟩ | ⟨poll, hpoll, hcollects⟩
  · exact Or.inl ⟨fun name hm => hnone name ((hmem name).mpr hm), hconfirmed⟩
  · exact Or.inr ⟨poll, (halike.polls g).trans hpoll, { hcollects with
      waiting := fun name => (hcollects.waiting name).trans (hmem name) }⟩

theorem finishPoll_active {robot : RobotSupervisor} {allUnconfigured : Bool}
    (hr : s.findRobot id = some robot) :
    finishPoll cfg id true allUnconfigured false manageReady now s =
      s.setRobot id { robot with confirmedActive := true, phase := .idle } := by
  simp [finishPoll, hr]

theorem State.Collects.answer (h : s.Collects id g ((id, nodeName) :: rest))
    (hnodup : (id, nodeName) ∉ rest) :
    ∃ t, s.step cfg (.stateResponse id g nodeName (some LifecycleState.primaryStateActive)
        manageReady now) = some t ∧ t.Collects id g rest := by
  obtain ⟨robot, hr, hmap, hgen, ⟨hnone, _⟩ | ⟨poll, hpoll, hcollects⟩⟩ := h
  · exact absurd List.mem_cons_self (hnone nodeName)
  have hw : nodeName ∈ poll.waiting := (hcollects.waiting nodeName).mpr List.mem_cons_self
  have hwaiting : ∀ name, name ∈ poll.waiting.erase nodeName ↔ (id, name) ∈ rest := by
    intro name
    rw [hcollects.nodup.mem_erase_iff, hcollects.waiting]
    by_cases hname : name = nodeName
    · subst hname
      simp [hnodup]
    · simp [hname]
  have hlength := List.length_erase_of_mem hw
  have hremaining : (poll.tally.count (some LifecycleState.primaryStateActive)).remaining =
      (poll.waiting.erase nodeName).length := by
    rw [hlength, ← hcollects.remaining]
    rfl
  have hactive : (poll.tally.count (some LifecycleState.primaryStateActive)).allActive = true := by
    simp [Tally.count, hcollects.allActive]
  have hfailed : (poll.tally.count (some LifecycleState.primaryStateActive)).queryFailed =
      false := hcollects.queryFailed
  simp only [State.step, hpoll, if_pos hw]
  rw [handleGetStateResponse_current hr hgen]
  by_cases hleft : poll.waiting.erase nodeName = []
  · have hzero : ¬ (poll.tally.count (some LifecycleState.primaryStateActive)).remaining ≠ 0 := by
      rw [hremaining, hleft]
      simp
    rw [if_neg hzero, hactive, hfailed, finishPoll_active (s := s.conclude id _) hr]
    refine ⟨_, rfl, _, findRobot_setRobot_self, hmap, hgen, Or.inl ⟨fun name hm => ?_, rfl⟩⟩
    have hnil := (hwaiting name).mpr hm
    rw [hleft] at hnil
    cases hnil
  · have hmore : (poll.tally.count (some LifecycleState.primaryStateActive)).remaining ≠ 0 := by
      rw [hremaining]
      exact fun hzero => hleft (List.length_eq_zero_iff.mp hzero)
    rw [if_pos hmore]
    refine ⟨_, rfl, robot, hr, hmap, hgen, Or.inr ⟨_, AList.lookup_insert _, ?_⟩⟩
    exact ⟨hwaiting, hcollects.nodup.erase _, hleft, hremaining, hactive, hfailed⟩

theorem run_answers {u : State} {answers : List Answer}
    (h : ∀ id ∈ cfg.robotIds, s.Collects id (u.generation id) (answers.map Answer.key))
    (hnodup : (answers.map Answer.key).Nodup) (hids : ∀ a ∈ answers, a.robotId ∈ cfg.robotIds) :
    ∃ t, (machine cfg).runFrom s (answers.map (Answer.event u)) = some t ∧
      ∀ id ∈ cfg.robotIds, t.Collects id (u.generation id) [] := by
  induction answers generalizing s with
  | nil => exact ⟨s, rfl, h⟩
  | cons a answers ih =>
    rw [List.map_cons, List.nodup_cons] at hnodup
    have hanswer : ∃ v, s.step cfg (a.event u) = some v ∧
        v.Collects a.robotId (u.generation a.robotId) (answers.map Answer.key) :=
      (h a.robotId (hids a List.mem_cons_self)).answer hnodup.1
    obtain ⟨v, hstep, hself⟩ := hanswer
    have hrest : ∀ id ∈ cfg.robotIds,
        v.Collects id (u.generation id) (answers.map Answer.key) := by
      intro id hid
      by_cases heq : id = a.robotId
      · subst heq
        exact hself
      · exact (h id hid).other heq (step_alike rfl heq hstep)
    obtain ⟨t, hrun, ht⟩ := ih hrest hnodup.2 fun b hb => hids b (List.mem_cons_of_mem _ hb)
    refine ⟨t, ?_, ht⟩
    rw [List.map_cons, Machine.runFrom_cons]
    exact (congrArg (fun o => Option.bind o _) hstep).trans hrun

end

/-! ### The tick that publishes -/

/-- After some time, a tick that finds the services of all robots there, the answers of
their nodes that they are active, in any order, and one more tick that finds the inputs
there make the supervisor publish READY. -/
def Recovers (cfg : Config) (s : State) : Prop :=
  ∃ t₀, ∀ visits visits', visits.map Prod.fst = cfg.robotIds →
    visits'.map Prod.fst = cfg.robotIds → (∀ visit ∈ visits, Available visit.2) →
    (∀ visit ∈ visits', visit.2.canTransform = true ∧ visit.2.manageReady = true) →
    ∀ now now', t₀ < now → 0 < now' → ∃ u, s.step cfg (.tick now visits) = some u ∧
      ∀ answers : List Answer,
        (answers.map Answer.key).Perm (cfg.robotIds.product nav2NodeNames) →
        ∃ v w, (machine cfg).runFrom u (answers.map (Answer.event u)) = some v ∧
          v.step cfg (.tick now' visits') = some w ∧ w.lastPublishedReady = true

/-- In every run the supervisor recovers once no command is outstanding and the last map
of every robot was valid. -/
theorem ready_again (cfg : Config) (hids : cfg.robotIds.Nodup) {es : List Event} {s : State}
    (hrun : (machine cfg).run es = some s) (hcommands : s.commands = [])
    (hmaps : ∀ id ∈ cfg.robotIds, Latest.latest (Event.mapValid id) es = some true) :
    Recovers cfg s := by
  obtain ⟨t₀, hpos, ht₀⟩ := exists_timeout cfg s cfg.robotIds
  refine ⟨t₀, fun visits visits' hvisits hvisits' havailable hinputs now now' hnow hnow' => ?_⟩
  have hmem : ∀ {visit : String × Observation}, visit ∈ visits → visit.1 ∈ cfg.robotIds :=
    fun hv => hvisits ▸ List.mem_map_of_mem hv
  have hdue : ∀ visit ∈ visits, visit.1 ∈ cfg.robotIds ∧ Available visit.2 ∧
      ∃ robot, s.findRobot visit.1 = some robot ∧ robot.mapReceived = true ∧
        PollDue cfg now robot := by
    intro visit hvisit
    obtain ⟨robot, hr, hready⟩ := run_ready hrun hcommands (hmem hvisit) (hmaps _ (hmem hvisit))
    have hover := ht₀ now hnow visit.1 (hmem hvisit) robot hr
    exact ⟨hmem hvisit, havailable visit hvisit, robot, hr, hready.mapped, hready.due hover⟩
  obtain ⟨u, hu, hpolled⟩ := tick_polled hvisits (hpos.trans_lt hnow) (hvisits ▸ hids) hdue
  refine ⟨u, hu, fun answers hanswers => ?_⟩
  have hcollects : ∀ id ∈ cfg.robotIds,
      u.Collects id (u.generation id) (answers.map Answer.key) := fun id hid =>
    ((hpolled id hid).collects hid).congr fun key => hanswers.symm.mem_iff
  have hkeys : (answers.map Answer.key).Nodup :=
    hanswers.nodup_iff.mpr (hids.product (by decide))
  obtain ⟨v, hv, hdone⟩ := run_answers hcollects hkeys fun a ha => by
    have hkey := hanswers.mem_iff.mp (List.mem_map_of_mem (f := Answer.key) ha)
    exact (List.mem_product.mp hkey).1
  refine ⟨v, checkReadiness cfg now' visits' v, hv, if_pos hvisits', ?_⟩
  rw [checkReadiness_of_pos hnow', publishReady_lastPublishedReady, checkRobots_readyAt,
    List.all_eq_true]
  intro visit hvisit
  have hid : visit.1 ∈ cfg.robotIds := hvisits' ▸ List.mem_map_of_mem hvisit
  obtain ⟨robot, hr, hmap, _, ⟨_, hconfirmed⟩ | ⟨poll, _, hleft⟩⟩ := hdone visit.1 hid
  · simp [State.readyAt, hinputs visit hvisit, hasClients, hid, hr, hmap, hconfirmed]
  · obtain ⟨name, hname⟩ := List.exists_mem_of_ne_nil _ hleft.left
    cases (hleft.waiting name).mp hname

/-- The command to start the nodes up is answered. -/
def startedRun : List Event := startupRun ++ [.commandResponse "robot1" .startup]

def startedState : State := ((machine oneRobot).run startedRun).get (by decide +kernel)

theorem ready_again_started : Recovers oneRobot startedState :=
  ready_again oneRobot (by decide) (Option.some_get _).symm (by decide +kernel) (by decide +kernel)

end PatrolFleet.Supervisor
