import PatrolFleet.Execution.History

/-!
A mission that `reconcile_active_missions_locked` completes, and what the robot made
of it.
-/

set_option autoImplicit false

namespace PatrolFleet.Execution

open Scheduler (ActiveMission)

/-- The run ended without a failure. -/
def Robot.Succeeded (robot : Robot) (run : Run) : Prop :=
  ∃ report ∈ robot.log, report.run = run ∧
    (report.status = "completed" ∨ report.status = "canceled")

/-- The robot accepted the mission, and the terminal status of it is not a failure. -/
structure Robot.Performed (robot : Robot) (missionId : String) : Prop where
  accepted : some missionId ∈ robot.accepted
  ended : ∃ last ∈ robot.log, last.run.missionId = some missionId ∧
    isTerminal last.status = true ∧
    ∀ report ∈ robot.log, report.run = last.run → isFailure report.status = false

/-- Nothing that the run has yet to report can turn it into a failure unnoticed. -/
def Robot.Stands (robot : Robot) (run : Run) : Prop := run = robot.current ∨ robot.Succeeded run

/-- The scheduler has seen the robot at the mission. -/
def World.Vouched (w : World) (robotId missionId : String) : Prop :=
  ∃ report ∈ w.observed robotId, report.run.missionId = some missionId ∧
    (w.robots robotId).Stands report.run

/-- With the snapshot that comes next, the scheduler reads the robot of a mission. -/
structure World.Reads (w : World) (snapshot : Snapshot) (robotId : String)
    (active : ActiveMission) (robot : FleetRobotState) : Prop where
  next : w.fleetStates.head? = some snapshot
  onRobot : w.coordination.scheduler.node.activeMissions.lookup robotId = some active
  found : snapshot.message.robots.find? (·.robotId = robotId) = some robot

/-- The reading of the robot rests on a status of the mission, and the robot has not
gone on to another one after failing it. -/
def World.RestsOn (w : World) (snapshot : Snapshot) (robotId missionId : String) : Prop :=
  ∃ report, (snapshot.seen robotId).head? = some report ∧
    report.run.missionId = some missionId ∧ (w.robots robotId).Stands report.run

/-- The steps from which the scheduler learns enough. -/
structure World.Attentive (cfg : Config) (w : World) (e : Event) : Prop where
  answered : w.BeginsAnswered cfg e
  /-- A robot that is seen busy is busy with the mission on record for it. -/
  confirms : ∀ now visit, e = .fleetState now visit →
    ∀ snapshot robotId active robot, w.Reads snapshot robotId active robot →
    active.robotConfirmedActive = false → robot.confirmedOffline = false →
    robot.state ≠ RobotHeartbeat.stateError → robot.state ≠ RobotHeartbeat.stateIdle →
    w.RestsOn snapshot robotId active.missionId
  /-- A robot that has failed the mission on record for it accepts no other. -/
  begins : ∀ robotId active,
    w.coordination.scheduler.node.activeMissions.lookup robotId = some active →
    active.robotConfirmedActive = true → w.Begins cfg e robotId →
    (w.robots robotId).current.missionId = some active.missionId →
    (w.robots robotId).Succeeded (w.robots robotId).current

section

variable {robot robot' : Robot} {run : Run} {accepted : List (Option String)}

theorem Robot.Succeeded.continues (h : robot.Succeeded run) (hc : Continues robot robot' accepted) :
    robot'.Succeeded run := by
  obtain ⟨report, hr, hrun, hstatus⟩ := h
  exact ⟨report, hc.log_mem hr, hrun, hstatus⟩

theorem Robot.Stands.continues (h : robot.Stands run)
    (hc : Continues robot robot' robot.accepted) : robot'.Stands run := by
  rcases h with hrun | hsucceeded
  · exact .inl (hrun.trans hc.current.symm)
  · exact .inr (hsucceeded.continues hc)

theorem Robot.Succeeded.performed (h : robot.Succeeded run)
    (hlogged : Logged robot.current robot.log) (hrecorded : robot.Recorded) {missionId : String}
    (hm : run.missionId = some missionId) :
    robot.Performed missionId := by
  obtain ⟨last, hlast, rfl, hstatus⟩ := h
  have hends : isTerminal last.status = true ∧ isFailure last.status = false := by
    rcases hstatus with heq | heq <;> rw [heq] <;> decide
  refine ⟨missionId_mem (hrecorded last hlast) hm, last, hlast, hm, hends.1, ?_⟩
  intro report hr hrun
  cases hfailure : isFailure report.status with
  | false => rfl
  | true =>
    have hterminal : isTerminal report.status = true := by simp [isTerminal, hfailure]
    have hsame := hlogged.terminal_unique hr hlast hrun hterminal hends.1
    rw [hsame, hends.2] at hfailure
    cases hfailure

theorem idle_status {status : String}
    (h : Heartbeat.statusState status = some RobotHeartbeat.stateIdle) :
    status = "idle" ∨ status = "completed" ∨ status = "canceled" := by
  unfold Heartbeat.statusState at h
  split at h
  · simp [RobotHeartbeat.statePatrolling, RobotHeartbeat.stateIdle] at h
  split at h
  · assumption
  split at h
  · simp [RobotHeartbeat.stateError, RobotHeartbeat.stateIdle] at h
  · cases h

/-- A robot that is seen idle after a status of its last mission has ended it. -/
theorem Logged.idle_succeeded (h : Logged robot.current robot.log) {seen : List Report}
    (hseen : seen <:+ robot.log) (hshows : Shows RobotHeartbeat.stateIdle seen) {report : Report}
    (hr : report ∈ seen) (hrun : report.run = robot.current) {missionId : String}
    (hm : report.run.missionId = some missionId) : robot.Succeeded robot.current := by
  cases seen with
  | nil => cases hr
  | cons newest rest =>
    have hnewest : newest ∈ robot.log := hseen.subset (List.mem_cons_self ..)
    have hle : report.run.number ≤ newest.run.number := by
      rcases List.mem_cons.mp hr with rfl | hr
      · exact Nat.le_refl _
      · exact ((List.pairwise_cons.mp (h.ordered.sublist hseen.sublist)).1 report hr).number
    have hcurrent : newest.run = robot.current := by
      refine h.agree newest hnewest (Nat.le_antisymm (h.bound newest hnewest) ?_)
      rw [← hrun]
      exact hle
    refine ⟨newest, hnewest, hcurrent, ?_⟩
    rcases idle_status (hshows newest rest rfl) with hidle | hended
    · have hzero := h.idle newest hnewest hidle
      rw [hcurrent] at hzero
      have hnone : robot.accepted = [] := List.length_eq_zero_iff.mp hzero
      rw [hrun, Robot.current, hnone] at hm
      cases hm
    · exact hended

end

section

variable {cfg : Config} {w v : World} {e : Event} {snapshot : Snapshot} {robotId : String}
  {active : ActiveMission} {robot : FleetRobotState}

theorem World.Relayed.seen_log (h : w.Relayed) (hnext : w.fleetStates.head? = some snapshot)
    (robotId : String) : w.observed robotId <:+ snapshot.seen robotId ∧
      snapshot.seen robotId <:+ (w.robots robotId).log := by
  obtain ⟨queue, hqueue⟩ := List.head?_eq_some_iff.mp hnext
  have horder := h.order robotId
  rw [World.stages, hqueue, List.map_cons, List.cons_append] at horder
  obtain ⟨hobserved, hbehind⟩ := List.pairwise_cons.mp horder
  refine ⟨hobserved _ (List.mem_cons_self ..), (List.pairwise_cons.mp hbehind).1 _ ?_⟩
  simp [Robot.stages]

theorem World.Reads.shows (h : w.Reads snapshot robotId active robot) (hrelayed : w.Relayed) :
    Shows robot.state (snapshot.seen robotId) := by
  have hname : robot.robotId = robotId := by simpa using List.find?_some h.found
  have hshows := hrelayed.snapshots snapshot (List.mem_of_head? h.next) robot
    (List.mem_of_find?_eq_some h.found)
  rwa [hname] at hshows

/-- The confirmed missions are those at which the robot was seen. -/
structure World.Sound (w : World) : Prop where
  inv : w.Inv
  recorded : ∀ robotId, (w.robots robotId).Recorded
  vouched : ∀ robotId active,
    w.coordination.scheduler.node.activeMissions.lookup robotId = some active →
    active.robotConfirmedActive = true → w.Vouched robotId active.missionId

theorem World.Vouched.step {missionId : String} (h : w.Vouched robotId missionId) (hinv : w.Inv)
    (hturn : Turn cfg w e v) (hobserved : w.observed robotId <:+ v.observed robotId)
    (hbegins : w.Begins cfg e robotId →
      (w.robots robotId).current.missionId = some missionId →
      (w.robots robotId).Succeeded (w.robots robotId).current) :
    v.Vouched robotId missionId := by
  obtain ⟨report, hr, hm, hstands⟩ := h
  refine ⟨report, hobserved.subset hr, hm, ?_⟩
  rcases hturn.continues hinv robotId with ⟨hbegin, hc⟩ | hc
  · have hsucceeded : (w.robots robotId).Succeeded report.run := by
      rcases hstands with hrun | hsucceeded
      · rw [hrun] at hm ⊢
        exact hbegins hbegin hm
      · exact hsucceeded
    exact .inr (hsucceeded.continues hc)
  · exact hstands.continues hc

theorem sound_step (h : w.Sound) (ha : w.Attentive cfg e) (hstep : w.step cfg e = some v) :
    v.Sound := by
  have hturn := step_turn hstep
  refine ⟨inv_step h.inv ha.answered hturn, recorded_step h.inv h.recorded hturn,
    fun robotId active hl hconfirmed => ?_⟩
  have hkeeps : ∀ old, w.coordination.scheduler.node.activeMissions.lookup robotId = some old →
      old.robotConfirmedActive = true → w.observed robotId <:+ v.observed robotId →
      v.Vouched robotId old.missionId := fun old hold hc hobserved =>
    (h.vouched robotId old hold hc).step h.inv hturn hobserved (ha.begins robotId old hold hc)
  cases hturn.decides with
  | aside haside hobserved =>
    refine hkeeps active (haside.confirmed robotId active hl hconfirmed) hconfirmed ?_
    rw [hobserved]
  | @reconcile now visit snapshot he hnext hvisit hnode hobserved hrobots =>
    obtain ⟨hseen, _⟩ := h.inv.relayed.seen_log hnext robotId
    rw [← hobserved] at hseen
    rw [hnode, (Scheduler.fleetState_reports cfg.scheduler snapshot.message now hvisit).2,
      UnorderedMap.lookup_filterMapVal] at hl
    obtain ⟨old, hold, hverdict⟩ := Option.bind_eq_some_iff.mp hl
    obtain ⟨hid, hcases⟩ := Scheduler.apply_some hverdict
    rw [hid]
    cases hc : old.robotConfirmedActive with
    | true => exact hkeeps old hold hc hseen
    | false =>
      have hjudge : Scheduler.judge cfg.scheduler now snapshot.message.robots robotId old =
          .confirm := by simpa [hc] using hcases hconfirmed
      obtain ⟨robot, hfound, honline, herror, hidle⟩ := Scheduler.judge_confirm hjudge
      obtain ⟨report, hhead, hm, hstands⟩ := ha.confirms now visit he snapshot robotId old robot
        ⟨hnext, hold, hfound⟩ hc honline herror hidle
      refine ⟨report, ?_, hm, ?_⟩
      · rw [hobserved]
        exact List.mem_of_head? hhead
      · rw [hrobots]
        exact hstands

theorem sound_init {startedAt : Time} {store : Fleet.MissionStore} {fleet : Fleet.State}
    (hinit : Fleet.State.init cfg.fleet store = .ok fleet) :
    (machine cfg startedAt fleet).init.Sound := by
  refine ⟨inv_init hinit, fun robotId report hr => ?_, fun robotId active hl _ => ?_⟩
  · simp only [machine, Robot.init, List.mem_singleton] at hr
    rw [hr]
    exact List.mem_cons_self ..
  · simp [machine, Coordination.machine, Scheduler.State.init, Scheduler.publishQueueState] at hl

/-- An idle reading of a robot that was seen at the mission completes what it has
performed. -/
theorem World.Sound.completes (h : w.Sound) (hreads : w.Reads snapshot robotId active robot)
    (hidle : robot.state = RobotHeartbeat.stateIdle)
    (hconfirmed : active.robotConfirmedActive = true) :
    (w.robots robotId).Performed active.missionId := by
  have hlogged := (h.inv.tidy robotId).logged
  obtain ⟨report, hr, hm, hstands⟩ := h.vouched robotId active hreads.onRobot hconfirmed
  have hsucceeded : (w.robots robotId).Succeeded report.run := by
    rcases hstands with hrun | hsucceeded
    · obtain ⟨hobserved, hseen⟩ := h.inv.relayed.seen_log hreads.next robotId
      have hshows := hreads.shows h.inv.relayed
      rw [hidle] at hshows
      rw [hrun]
      exact hlogged.idle_succeeded hseen hshows (hobserved.subset hr) hrun hm
    · exact hsucceeded
  exact hsucceeded.performed hlogged (h.recorded robotId) hm

theorem completed_missions_performed {cfg : Config} {startedAt : Time} {store : Fleet.MissionStore}
    {fleet : Fleet.State}
    (hinit : Fleet.State.init cfg.fleet store = .ok fleet) {es : List Event}
    (hattentive : ∀ w e v, (machine cfg startedAt fleet).Takes es w e v → w.Attentive cfg e)
    {w v : World} {e : Event} (h : (machine cfg startedAt fleet).Takes es w e v)
    {missionId robotId : String}
    (hcompleted : .completed missionId robotId ∈
      w.coordination.scheduler.node.news v.coordination.scheduler.node) :
    (w.robots robotId).Performed missionId := by
  have hsound : w.Sound := Machine.visits_invariant (C := fun w e _ => w.Attentive cfg e)
    (sound_init hinit) (fun _ _ _ hs ha hstep => sound_step hs ha hstep) hattentive h.visits
  cases (step_turn h.step_eq).decides with
  | aside haside _ => cases haside.undecided hcompleted
  | @reconcile now visit snapshot he hnext hvisit hnode _ _ =>
    rw [hnode] at hcompleted
    obtain ⟨active, hl, rfl, hverdict⟩ :=
      (Scheduler.fleetState_judged snapshot.message hvisit missionId robotId).1 hcompleted
    obtain ⟨robot, hfound, hidle, hconfirmed⟩ := Scheduler.judge_complete hverdict
    exact hsound.completes ⟨hnext, hl, hfound⟩ hidle hconfirmed

end

/-! ### Attentive runs -/

/-- Every reading that the scheduler takes from the next snapshot meets `p`. -/
def World.everyReading (w : World)
    (p : Snapshot → String → ActiveMission → FleetRobotState → Bool) : Bool :=
  w.fleetStates.head?.all fun snapshot =>
    w.coordination.scheduler.node.activeMissions.entries.all fun entry =>
      (snapshot.message.robots.find? (·.robotId = entry.1)).all (p snapshot entry.1 entry.2)

/-- The robot whose patrol manager runs the callback. -/
def Event.caller : Event → Option String
  | .start robotId .. => some robotId
  | .stop robotId _ => some robotId
  | .patrol robotId _ => some robotId
  | _ => none

def World.begins (cfg : Config) (w : World) (e : Event) (robotId : String) : Bool :=
  (e.calls robotId).any (accepts (cfg.patrol robotId) cfg.libm (w.robots robotId).patrol.node)

/-- No goal awaits its answer where a mission is accepted. -/
def World.beginsAnswered (cfg : Config) (w : World) (e : Event) : Bool :=
  e.caller.all fun robotId => !w.begins cfg e robotId ||
    (w.robots robotId).patrol.goals.all (·.2 ≠ .awaiting)

/-- The step is attentive, and no robot accepts a mission while one that it was seen
at is on record for it. -/
def World.attentive (cfg : Config) (w : World) (e : Event) : Bool :=
  w.beginsAnswered cfg e &&
  w.everyReading (fun snapshot robotId active robot =>
    active.robotConfirmedActive || robot.state = RobotHeartbeat.stateIdle ||
      (snapshot.seen robotId).head?.any fun report =>
        report.run.missionId = some active.missionId ∧ report.run = (w.robots robotId).current) &&
  e.caller.all fun robotId => !w.begins cfg e robotId ||
    (w.coordination.scheduler.node.activeMissions.lookup robotId).all (!·.robotConfirmedActive)

section

variable {cfg : Config} {w : World} {e : Event} {snapshot : Snapshot} {robotId : String}
  {active : ActiveMission} {robot : FleetRobotState}

theorem World.Reads.of_everyReading
    {p : Snapshot → String → ActiveMission → FleetRobotState → Bool}
    (h : w.Reads snapshot robotId active robot) (hp : w.everyReading p = true) :
    p snapshot robotId active robot = true := by
  unfold World.everyReading at hp
  rw [h.next, Option.all_some, List.all_eq_true] at hp
  have hentry := hp ⟨robotId, active⟩ (UnorderedMap.lookup_eq_some_iff.mp h.onRobot)
  rwa [h.found, Option.all_some] at hentry

theorem World.Begins.caller (h : w.Begins cfg e robotId) :
    e.caller = some robotId ∧ w.begins cfg e robotId = true := by
  obtain ⟨call, hcall, haccepts⟩ := h
  refine ⟨?_, by rw [World.begins, hcall]; exact haccepts⟩
  cases e with
  | start id _ _ request serverAvailable now =>
    exact congrArg some (Option.ite_none_right_eq_some.mp hcall).1
  | stop id _ => exact congrArg some (Option.ite_none_right_eq_some.mp hcall).1
  | patrol id e => exact congrArg some (Option.ite_none_right_eq_some.mp hcall).1
  | _ => cases hcall

theorem beginsAnswered_of_check (h : w.beginsAnswered cfg e = true) : w.BeginsAnswered cfg e := by
  intro robotId hbegins id hm
  obtain ⟨hcaller, hb⟩ := hbegins.caller
  rw [World.beginsAnswered, hcaller, Option.all_some, hb] at h
  simpa using List.all_eq_true.mp h _ hm

theorem attentive_of_check (h : w.attentive cfg e = true) : w.Attentive cfg e := by
  simp only [World.attentive, Bool.and_eq_true] at h
  obtain ⟨⟨hanswered, hreadings⟩, hbegins⟩ := h
  refine ⟨beginsAnswered_of_check hanswered, ?_, ?_⟩
  · intro now visit _ snapshot robotId active robot hreads hunconfirmed _ _ hbusy
    have hreading := hreads.of_everyReading hreadings
    simp only [hunconfirmed, hbusy, decide_false, Bool.false_or, Option.any_eq_true,
      decide_eq_true_eq] at hreading
    obtain ⟨report, hhead, hm, hcurrent⟩ := hreading
    exact ⟨report, hhead, hm, .inl hcurrent⟩
  · intro robotId active hl hconfirmed hbegin _
    obtain ⟨hcaller, hb⟩ := hbegin.caller
    rw [hcaller, Option.all_some, hb, hl, Option.all_some, hconfirmed] at hbegins
    cases hbegins

end

/-! ### A mission that is performed, and one that is not -/

def manualConfig : Config where
  patrol robotId := { robotNamespace := robotId, autostart := false }
  libm := ⟨fun _ => 0, fun _ => 1⟩

def dispatched : Scheduler.Dispatch := ⟨"mission-1", "patrol", 0, {}, false, 0, "robot1", 1⟩

def seenBusy : Sigma fun _ : String => ActiveMission :=
  ⟨"robot1", { dispatched.activated (seconds 2) with robotConfirmedActive := true }⟩

def forwarded : AssignMission.Response :=
  ⟨true, "Mission request accepted and forwarded to robot1; execution status is available on " ++
    "/fleet/state"⟩

def patrolRequest : StartMission.Request := ⟨StartMission.missionPatrol, {}, false⟩

/-- The state of the robot is passed on to the scheduler. -/
def passOn (now : Time) : List Event :=
  [.publishHeartbeat "robot1" now, .heartbeat "robot1" now,
    .coordination (.fleet (.publishFleetState now))]

def readyRun : List Event :=
  [.coordination (.fleet (.systemReady true)), .coordination (.scheduler (.systemReady true)),
    .status "robot1"] ++ passOn (seconds 1) ++ [.fleetState (seconds 1) []]

/-- The scheduler assigns its first mission to the robot. -/
def assignRun : List Event :=
  [.coordination (.scheduler (.dispatchPatrol (seconds 2))),
    .coordination (.scheduler (.processQueue (seconds 2) true)),
    .coordination (.assignMission dispatched true (seconds 2)),
    .coordination (.response dispatched forwarded (seconds 2)),
    .start "robot1" "mission-1" "patrol" patrolRequest true (seconds 2)]

/-- The robot takes up the mission, is seen at it, and completes it. -/
def performedRun : List Event :=
  readyRun ++ assignRun ++
    [.patrol "robot1" (.goalResponse 0 true), .status "robot1", .status "robot1",
      .status "robot1"] ++
    passOn (seconds 3) ++
    [.fleetState (seconds 3) [⟨"robot1", dispatched.activated (seconds 2)⟩],
      .patrol "robot1" (.result 0 ⟨.succeeded, none⟩), .status "robot1"] ++
    passOn (seconds 4)

def manualMachine : Machine World Event := machine manualConfig 0 Coordination.shippedFleet

def performedWorld : World := (manualMachine.run performedRun).get (by decide +kernel)

def completedWorld : World :=
  (manualMachine.step performedWorld (.fleetState (seconds 4) [seenBusy])).get (by decide +kernel)

theorem performed_takes : manualMachine.Takes (performedRun ++ [.fleetState (seconds 4) [seenBusy]])
    performedWorld (.fleetState (seconds 4) [seenBusy]) completedWorld :=
  ⟨performedRun, List.prefix_rfl, (Option.some_get _).symm, (Option.some_get _).symm⟩

theorem completed_mission_performed : (performedWorld.robots "robot1").Performed "mission-1" := by
  have hinit : Fleet.State.init manualConfig.fleet {} = .ok Coordination.shippedFleet := rfl
  refine completed_missions_performed hinit (fun w e v h => ?_) performed_takes (by decide +kernel)
  refine attentive_of_check (Machine.takes_of_eachStep (c := fun w e => w.attentive manualConfig e)
    ?_ h)
  decide +kernel

/-- An operator has the robot patrol when the mission of the scheduler arrives. -/
def foreignRun : List Event :=
  readyRun ++
    [.coordination (.fleet (.dispatchPatrol true (seconds 1))),
      .start "robot1" "manual-dispatch" "patrol" patrolRequest true (seconds 1),
      .patrol "robot1" (.goalResponse 0 true)] ++
    assignRun ++ [.status "robot1", .status "robot1", .status "robot1"] ++ passOn (seconds 3) ++
    [.fleetState (seconds 3) [⟨"robot1", dispatched.activated (seconds 2)⟩],
      .patrol "robot1" (.result 0 ⟨.succeeded, none⟩), .status "robot1"] ++
    passOn (seconds 4)

def foreignWorld : World := (manualMachine.run foreignRun).get (by decide +kernel)

def mistakenWorld : World :=
  (manualMachine.step foreignWorld (.fleetState (seconds 4) [seenBusy])).get (by decide +kernel)

theorem refused_mission_completed : ¬ ∀ cfg startedAt fleet,
    Fleet.State.init cfg.fleet {} = .ok fleet → ∀ es w e v missionId robotId,
    (machine cfg startedAt fleet).Takes es w e v →
    .completed missionId robotId ∈
      w.coordination.scheduler.node.news v.coordination.scheduler.node →
    (w.robots robotId).Performed missionId := by
  intro h
  have htake : manualMachine.Takes (foreignRun ++ [.fleetState (seconds 4) [seenBusy]])
      foreignWorld (.fleetState (seconds 4) [seenBusy]) mistakenWorld :=
    ⟨foreignRun, List.prefix_rfl, (Option.some_get _).symm, (Option.some_get _).symm⟩
  have hperformed := h manualConfig 0 Coordination.shippedFleet rfl _ foreignWorld _ mistakenWorld
    "mission-1" "robot1" htake (by decide +kernel)
  have haccepted := hperformed.accepted
  revert haccepted
  decide +kernel

end PatrolFleet.Execution
