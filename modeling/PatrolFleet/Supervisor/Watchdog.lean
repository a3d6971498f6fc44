import Mathlib.Algebra.Order.Ring.Int
import PatrolFleet.Supervisor.Readiness

/-!
Which phases `check_readiness` can leave by itself. A poll without an answer is
abandoned; a command without an answer is not.
-/

set_option autoImplicit false

namespace PatrolFleet.Supervisor

/-- What a tick finds of a robot when everything but its map is there. -/
structure Available (o : Observation) : Prop where
  transform : o.canTransform = true
  manage : o.manageReady = true
  states : statesReady o = true

/-- A tick at `now` that finds the services of the robot available starts a new poll of it,
whatever it finds of the other robots. -/
def Repolls (cfg : Config) (s : State) (id : String) (now : Time) : Prop :=
  ∀ visits, visits.map Prod.fst = cfg.robotIds → (∀ o, (id, o) ∈ visits → Available o) →
    ∃ t g, s.step cfg (.tick now visits) = some t ∧
      s.generation id < g ∧ g ≤ t.generation id ∧ (id, g) ∉ s.polls ∧ (id, g) ∈ t.polls

/-- With the map of the robot received, every tick that comes late enough polls it. -/
def NoTrap (cfg : Config) (s : State) (id : String) : Prop :=
  (∃ robot, s.findRobot id = some robot ∧ robot.mapReceived = true) →
    ∃ t₀, ∀ now > t₀, Repolls cfg s id now

/-- The robot waits for the answer to a command. -/
def RobotSupervisor.Pending (robot : RobotSupervisor) : Prop :=
  ∃ command : ManageCommand, robot.phase = command.pendingPhase

/-- A visit at `now` starts a poll if the inputs are ready. -/
def PollDue (cfg : Config) (now : Time) (robot : RobotSupervisor) : Prop :=
  robot.phase = .waitingForInputs ∨ robot.phase = .idle ∨ pollTimedOut cfg now robot = true

/-! ### The robots -/

/-- The validity of the map of the robot that the event brings. -/
def Event.mapValid (id : String) : Event → Option Bool
  | .map robotId message => if robotId = id then some message.valid else none
  | _ => none

def State.mapReceived (id : String) (s : State) : Option Bool :=
  (s.findRobot id).map RobotSupervisor.mapReceived

theorem mapReceived_step {cfg : Config} {s t : State} {e : Event} (h : s.step cfg e = some t)
    (id : String) :
    t.mapReceived id = (s.mapReceived id).map fun valid => (e.mapValid id).getD valid := by
  have hsame : Same RobotSupervisor.mapReceived s t → e.mapValid id = none →
      t.mapReceived id = (s.mapReceived id).map fun valid => (e.mapValid id).getD valid := by
    intro hsame hnone
    rw [hnone]
    exact (hsame id).trans Option.map_id'.symm
  cases step_cases h with
  | map robotId message =>
    by_cases hid : robotId = id
    · subst hid
      rw [Event.mapValid, if_pos rfl]
      unfold mapCallback State.mapReceived
      cases hr : s.findRobot robotId with
      | none => exact congrArg (Option.map _) hr
      | some robot => exact congrArg (Option.map _) findRobot_setRobot_self
    · rw [Event.mapValid, if_neg hid, State.mapReceived,
        (alike_mapCallback (Ne.symm hid) message).robot]
      exact Option.map_id'.symm
  | @tick now visits _ =>
    refine hsame ?_ rfl
    rcases Int.lt_or_le 0 now with hnow | hnow
    · rw [checkReadiness_of_pos hnow]
      exact ((checkRobots_spares visits s).robots.comp Prod.fst).trans
        ((publishReady_keeps _ _).robots.comp RobotSupervisor.mapReceived)
    · rw [checkReadiness_of_nonpos hnow]
      exact (publishReady_keeps false s).robots.comp RobotSupervisor.mapReceived
  | stateResponse hm hw hhandled =>
    exact hsame ((handleGetStateResponse_answered hhandled).same.comp Prod.fst) rfl
  | @commandResponse robotId command _ =>
    have hkeeps := commandResponseCallback_keeps robotId
      { s with commands := s.commands.erase (robotId, command) }
    exact hsame (hkeeps.robots.comp RobotSupervisor.mapReceived) rfl

theorem foldl_emplace_mem {robotIds : List String} {robots : UnorderedMap String RobotSupervisor}
    {id : String} (h : id ∈ robots ∨ id ∈ robotIds) : id ∈ robotIds.foldl emplace robots := by
  induction robotIds generalizing robots with
  | nil => simpa using h
  | cons robotId robotIds ih =>
    apply ih
    unfold emplace
    split
    · rename_i hmem
      rcases h with h | h
      · exact .inl h
      · rcases List.mem_cons.mp h with rfl | h
        · exact .inl hmem
        · exact .inr h
    · rcases h with h | h
      · exact .inl (AList.mem_insert _ |>.mpr (.inr h))
      · rcases List.mem_cons.mp h with rfl | h
        · exact .inl (AList.mem_insert _ |>.mpr (.inl rfl))
        · exact .inr h

theorem reachable_findRobot {cfg : Config} {s : State} (h : (machine cfg).Reachable s)
    {id : String} (hid : id ∈ cfg.robotIds) : ∃ robot, s.findRobot id = some robot := by
  refine Option.isSome_iff_exists.mp ?_
  refine h.invariant (P := fun s => (s.findRobot id).isSome = true) ?_ ?_
  · exact AList.lookup_isSome.mpr (foldl_emplace_mem (.inr hid))
  · intro u e v hu hstep
    have hsame := congrArg Option.isSome (mapReceived_step hstep id)
    simp only [State.mapReceived, Option.isSome_map] at hsame
    exact hsame.trans hu

/-! ### What a tick does to a robot whose services are there -/

/-- No poll and no generation is forgotten. -/
structure Grows (s t : State) : Prop where
  generation : ∀ id, s.generation id ≤ t.generation id
  polls : ∀ key, key ∈ s.polls → key ∈ t.polls

theorem Grows.refl (s : State) : Grows s s := ⟨fun _ => Nat.le_refl _, fun _ => id⟩

theorem Grows.trans {s t u : State} (h : Grows s t) (k : Grows t u) : Grows s u where
  generation id := (h.generation id).trans (k.generation id)
  polls key hk := k.polls key (h.polls key hk)

theorem Grows.setRobot {s : State} {robotId : String} {robot robot' : RobotSupervisor}
    (h : s.findRobot robotId = some robot) (hg : robot.pollGeneration ≤ robot'.pollGeneration) :
    Grows s (s.setRobot robotId robot') where
  generation id := by
    by_cases hid : id = robotId
    · subst hid
      rwa [generation_of h, generation_of findRobot_setRobot_self]
    · exact (alike_setRobot hid).generation.ge
  polls _ := id

section

variable {cfg : Config} {now : Time} {robotId id : String} {o : Observation} {s t : State}
  {robot : RobotSupervisor}

theorem inputsReady_of (hid : id ∈ cfg.robotIds) (ho : Available o)
    (hmap : robot.mapReceived = true) :
    (updateInputReadiness cfg id o robot).inputsReady = true := by
  simp [RobotSupervisor.inputsReady, updateInputReadiness, hmap, ho.transform, ho.manage,
    hasClients, hid]

theorem PollCase.grows (h : PollCase cfg robotId o now s t) : Grows s t := by
  cases h with
  | none => exact .refl s
  | refused => exact ⟨fun _ => Nat.le_refl _, fun _ => id⟩
  | @started robot hr =>
    have hset : Grows s (s.setRobot robotId { robot with
        phase := .polling, pollStartedAt := now, pollGeneration := robot.pollGeneration + 1 }) :=
      .setRobot hr (Nat.le_succ _)
    exact ⟨hset.generation, fun key hk => AList.mem_insert _ |>.mpr (.inr hk)⟩

theorem Visited.grows {r : Bool × State} (hv : Visited cfg now robotId o s r) : Grows s r.2 := by
  cases hv with
  | absent => exact .refl s
  | waiting hr => exact .setRobot hr (Nat.le_refl _)
  | busy hr => exact .setRobot hr (Nat.le_refl _)
  | resumed hr =>
    refine Grows.trans (Grows.setRobot hr ?_) pollLifecycleStates_case.grows
    exact Nat.le_refl _
  | abandoned hr =>
    have hconcluded : Grows s (s.conclude robotId .abandoned) :=
      ⟨fun _ => Nat.le_refl _, fun _ => id⟩
    refine (hconcluded.trans (Grows.setRobot hr ?_)).trans pollLifecycleStates_case.grows
    exact Nat.le_succ _

theorem checkRobots_grows (visits : List (String × Observation)) :
    Grows s (checkRobots cfg now visits s).2 :=
  checkRobots_induction .refl (fun _ _ _ => .trans) fun _ _ _ _ hv => hv.grows

theorem pollLifecycleStates_starts (hid : id ∈ cfg.robotIds) (ho : Available o)
    (hr : s.findRobot id = some robot) :
    pollLifecycleStates cfg id o now s = startPoll id robot now s := by
  rw [pollLifecycleStates_eq hr (by simpa [hasClients] using hid), if_pos ho.states]

theorem Visited.starts {r : Bool × State} (hv : Visited cfg now id o s r)
    (hid : id ∈ cfg.robotIds) (ho : Available o) (hr : s.findRobot id = some robot)
    (hmap : robot.mapReceived = true) (hdue : PollDue cfg now robot) :
    ∃ u robot', r.2 = startPoll id robot' now u ∧ robot'.mapReceived = true ∧
      robot.pollGeneration ≤ robot'.pollGeneration := by
  have hsame : ∀ robot', s.findRobot id = some robot' → robot' = robot := by
    intro robot' hr'
    simpa [hr] using hr'.symm
  cases hv with
  | absent hnone => simp [hnone] at hr
  | waiting hr' hi =>
    obtain rfl := hsame _ hr'
    simp [inputsReady_of hid ho hmap] at hi
  | busy hr' _ hw hidle ht =>
    obtain rfl := hsame _ hr'
    rcases hdue with hphase | hphase | hout
    · exact absurd hphase hw
    · exact absurd hphase hidle
    · simp [ht] at hout
  | resumed hr' =>
    obtain rfl := hsame _ hr'
    exact ⟨_, _, pollLifecycleStates_starts hid ho findRobot_setRobot_self, hmap, Nat.le_refl _⟩
  | abandoned hr' =>
    obtain rfl := hsame _ hr'
    exact ⟨_, _, pollLifecycleStates_starts hid ho findRobot_setRobot_self, hmap, Nat.le_succ _⟩

theorem startPoll_generation :
    (startPoll id robot now s).generation id = robot.pollGeneration + 1 :=
  generation_of findRobot_setRobot_self

theorem checkRobots_starts {visits : List (String × Observation)} (hid : id ∈ cfg.robotIds)
    (hvisit : id ∈ visits.map Prod.fst) (ho : ∀ o, (id, o) ∈ visits → Available o)
    (hr : s.findRobot id = some robot) (hmap : robot.mapReceived = true)
    (hdue : PollDue cfg now robot) :
    ∃ g, s.generation id < g ∧ g ≤ (checkRobots cfg now visits s).2.generation id ∧
      (id, g) ∈ (checkRobots cfg now visits s).2.polls := by
  induction visits generalizing s with
  | nil => simp at hvisit
  | cons visit visits ih =>
    have hv := checkRobot_visited cfg now visit.1 visit.2 s
    set u := (checkRobot cfg now visit.1 visit.2 s).2
    have hgrows : Grows u (checkRobots cfg now visits u).2 := checkRobots_grows visits
    by_cases hfirst : id = visit.1
    · subst hfirst
      have havailable : Available visit.2 := ho visit.2 List.mem_cons_self
      obtain ⟨before, robot', hstart, _, hle⟩ := hv.starts hid havailable hr hmap hdue
      have hgen : u.generation visit.1 = robot'.pollGeneration + 1 :=
        (congrArg (State.generation visit.1) hstart).trans startPoll_generation
      refine ⟨robot'.pollGeneration + 1, ?_, hgen ▸ hgrows.generation _, hgrows.polls _ ?_⟩
      · rw [generation_of hr]
        omega
      · rw [show u = _ from hstart]
        exact (AList.mem_insert _).mpr (.inl rfl)
    · have hrest : id ∈ visits.map Prod.fst := by
        rcases List.mem_cons.mp hvisit with heq | hrest
        · exact absurd heq hfirst
        · exact hrest
      have halike : Alike id s u := hv.alike hfirst
      rw [← halike.generation]
      exact ih hrest (fun o hm => ho o (List.mem_cons_of_mem _ hm)) (halike.robot.trans hr)

theorem Visited.stuck {r : Bool × State} (hv : Visited cfg now id o s r)
    (hid : id ∈ cfg.robotIds) (ho : Available o) (hr : s.findRobot id = some robot)
    (hmap : robot.mapReceived = true) (hpending : robot.Pending) :
    ∃ robot', r.2.findRobot id = some robot' ∧ robot'.mapReceived = true ∧ robot'.Pending ∧
      robot'.pollGeneration = robot.pollGeneration := by
  have hsame : ∀ robot', s.findRobot id = some robot' → robot' = robot := by
    intro robot' hr'
    simpa [hr] using hr'.symm
  obtain ⟨command, hphase⟩ := hpending
  cases hv with
  | absent hnone => simp [hnone] at hr
  | waiting hr' hi =>
    obtain rfl := hsame _ hr'
    simp [inputsReady_of hid ho hmap] at hi
  | busy hr' _ _ _ _ =>
    obtain rfl := hsame _ hr'
    exact ⟨_, findRobot_setRobot_self, hmap, ⟨command, hphase⟩, rfl⟩
  | resumed hr' _ hfree =>
    obtain rfl := hsame _ hr'
    cases command <;> rcases hfree with hfree | hfree <;> simp [hfree, ManageCommand.pendingPhase]
      at hphase
  | abandoned hr' _ ht =>
    obtain rfl := hsame _ hr'
    simp only [pollTimedOut, Bool.and_eq_true, beq_iff_eq] at ht
    cases command <;> simp [ht.1, ManageCommand.pendingPhase] at hphase

theorem checkRobots_stuck {visits : List (String × Observation)} (hid : id ∈ cfg.robotIds)
    (ho : ∀ o, (id, o) ∈ visits → Available o) (hr : s.findRobot id = some robot)
    (hmap : robot.mapReceived = true) (hpending : robot.Pending) :
    (checkRobots cfg now visits s).2.generation id = s.generation id := by
  induction visits generalizing s robot with
  | nil => rfl
  | cons visit visits ih =>
    have hv := checkRobot_visited cfg now visit.1 visit.2 s
    set u := (checkRobot cfg now visit.1 visit.2 s).2
    have hrest : ∀ o, (id, o) ∈ visits → Available o :=
      fun o hm => ho o (List.mem_cons_of_mem _ hm)
    by_cases hfirst : id = visit.1
    · subst hfirst
      obtain ⟨robot', hr', hmap', hpending', hgen⟩ :=
        hv.stuck hid (ho visit.2 List.mem_cons_self) hr hmap hpending
      rw [generation_of hr, ← hgen, ← generation_of hr']
      exact ih hrest hr' hmap' hpending'
    · have halike : Alike id s u := hv.alike hfirst
      rw [← halike.generation]
      exact ih hrest (halike.robot.trans hr) hmap hpending

end

theorem pending_iff {robot : RobotSupervisor} :
    robot.Pending ↔ robot.phase = .startupPending ∨ robot.phase = .resetPending := by
  constructor
  · rintro ⟨command, hphase⟩
    cases command
    · exact .inl hphase
    · exact .inr hphase
  · rintro (hphase | hphase)
    · exact ⟨.startup, hphase⟩
    · exact ⟨.reset, hphase⟩

theorem tick_eq {cfg : Config} {now : Time} {visits : List (String × Observation)} {s : State}
    (hnow : 0 < now) (hvisits : visits.map Prod.fst = cfg.robotIds) :
    ∃ t, s.step cfg (.tick now visits) = some t ∧
      Keeps (fun robot => robot) (checkRobots cfg now visits s).2 t := by
  refine ⟨_, if_pos hvisits, ?_⟩
  rw [checkReadiness_of_pos hnow]
  exact publishReady_keeps _ _

section

variable {cfg : Config} {s : State} {id : String} {robot : RobotSupervisor}

theorem noTrap_of_not_pending (h : s.PollsSound) (hid : id ∈ cfg.robotIds)
    (hr : s.findRobot id = some robot) (hfree : robot.mapReceived = true → ¬ robot.Pending) :
    NoTrap cfg s id := by
  rintro ⟨robot', hr', hmap⟩
  obtain rfl : robot' = robot := by simpa [hr] using hr'.symm
  have hnot := pending_iff.not.mp (hfree hmap)
  refine ⟨max 0 (robot'.pollStartedAt + cfg.pollTimeout), fun now hnow visits hvisits ho => ?_⟩
  obtain ⟨hpos, hlate⟩ := max_lt_iff.mp hnow
  have hdue : PollDue cfg now robot' := by
    cases hphase : robot'.phase with
    | waitingForInputs => exact .inl hphase
    | idle => exact .inr (.inl hphase)
    | polling =>
      have htimeout : cfg.pollTimeout < now - robot'.pollStartedAt :=
        Int.lt_sub_left_of_add_lt hlate
      exact .inr (.inr (by simp [pollTimedOut, hphase, htimeout]))
    | startupPending => exact absurd (.inl hphase) hnot
    | resetPending => exact absurd (.inr hphase) hnot
  obtain ⟨g, hlt, hle, hmem⟩ := checkRobots_starts hid (hvisits ▸ hid) ho hr hmap hdue
  obtain ⟨t, ht, hsame⟩ := tick_eq (s := s) hpos hvisits
  have hgen := (hsame.robots.comp RobotSupervisor.pollGeneration).generation id
  refine ⟨t, g, ht, hlt, hgen ▸ hle, fun hold => ?_, hsame.polls ▸ hmem⟩
  obtain ⟨poll, hpoll⟩ := Option.isSome_iff_exists.mp (AList.lookup_isSome.mpr hold)
  have hbegun := (h.begun id g poll hpoll).2
  omega

theorem trapped_of_pending (hid : id ∈ cfg.robotIds) (hr : s.findRobot id = some robot)
    (hmap : robot.mapReceived = true) (hpending : robot.Pending) : ¬ NoTrap cfg s id := by
  intro hfree
  obtain ⟨t₀, hpolls⟩ := hfree ⟨robot, hr, hmap⟩
  set visits := cfg.robotIds.map fun robotId => (robotId, allServices) with hv
  have hvisits : visits.map Prod.fst = cfg.robotIds := by simp [hv, Function.comp_def]
  have ho : ∀ o, (id, o) ∈ visits → Available o := by
    intro o hm
    obtain ⟨robotId, _, heq⟩ := List.mem_map.mp hm
    cases heq
    exact ⟨rfl, rfl, rfl⟩
  have hlate : max t₀ 0 + 1 > t₀ := Int.lt_add_one_of_le (le_max_left t₀ 0)
  have hpos : 0 < max t₀ 0 + 1 := Int.lt_add_one_of_le (le_max_right t₀ 0)
  obtain ⟨t, g, ht, hlt, hle, _⟩ := hpolls _ hlate visits hvisits ho
  obtain ⟨t', ht', hsame⟩ := tick_eq (s := s) hpos hvisits
  obtain rfl : t' = t := Option.some.inj (ht'.symm.trans ht)
  rw [(hsame.robots.comp RobotSupervisor.pollGeneration).generation id,
    checkRobots_stuck hid ho hr hmap hpending] at hle
  omega

end

theorem no_trap_iff {cfg : Config} {s : State} (h : (machine cfg).Reachable s) {id : String}
    (hid : id ∈ cfg.robotIds) : ∃ robot, s.findRobot id = some robot ∧
      (NoTrap cfg s id ↔ (robot.mapReceived = true →
        robot.phase ≠ .startupPending ∧ robot.phase ≠ .resetPending)) := by
  obtain ⟨robot, hr⟩ := reachable_findRobot h hid
  refine ⟨robot, hr, fun hfree hmap => ?_, fun hphase => ?_⟩
  · have hnot : ¬ robot.Pending := fun hpending => trapped_of_pending hid hr hmap hpending hfree
    exact not_or.mp (pending_iff.not.mp hnot)
  · refine noTrap_of_not_pending (reachable_pollsSound h) hid hr fun hmap => ?_
    exact pending_iff.not.mpr (not_or.mpr (hphase hmap))

/-- The robot's map is there, and its first poll has begun. -/
def pollingRun : List Event :=
  [.map "robot1" ⟨1, 1, 1⟩, .tick (seconds 1) [("robot1", allServices)]]

def pollingState : State := ((machine oneRobot).run pollingRun).get rfl

theorem no_trap_polling : NoTrap oneRobot pollingState "robot1" := by
  have hreach : (machine oneRobot).Reachable pollingState := ⟨pollingRun, rfl⟩
  have hid : "robot1" ∈ oneRobot.robotIds := by decide
  obtain ⟨robot, hr, hiff⟩ := no_trap_iff hreach hid
  refine hiff.mpr fun _ => ?_
  cases hr
  decide

/-- All nodes are unconfigured, and the command to start them up is sent. -/
def startupRun : List Event :=
  pollingRun ++ nav2NodeNames.map fun name =>
    .stateResponse "robot1" 1 name (some LifecycleState.primaryStateUnconfigured) true (seconds 2)

def startupState : State := ((machine oneRobot).run startupRun).get rfl

theorem startup_traps : ¬ ∀ cfg s id, (machine cfg).Reachable s → id ∈ cfg.robotIds →
    NoTrap cfg s id := by
  intro h
  have hreach : (machine oneRobot).Reachable startupState := ⟨startupRun, rfl⟩
  have hr : ∃ robot, startupState.findRobot "robot1" = some robot ∧
      robot.mapReceived = true ∧ robot.phase = .startupPending := ⟨_, rfl, rfl, rfl⟩
  obtain ⟨robot, hr, hmap, hphase⟩ := hr
  have hid : "robot1" ∈ oneRobot.robotIds := by decide
  exact trapped_of_pending hid hr hmap ⟨.startup, hphase⟩
    (h oneRobot startupState "robot1" hreach hid)

end PatrolFleet.Supervisor
