import PatrolFleet.Execution.Completion

/-!
A mission that `reconcile_active_missions_locked` gives up on, and whether a robot
has completed it.
-/

set_option autoImplicit false

namespace PatrolFleet.Execution

open Scheduler (ActiveMission)

/-- The patrol manager of a robot has answered a START of the mission with success. -/
def World.Accepted (w : World) (missionId : String) : Prop :=
  ∃ robotId, some missionId ∈ (w.robots robotId).accepted

/-- The patrol manager of a robot has published `completed` for the mission. -/
def World.Completed (w : World) (missionId : String) : Prop :=
  ∃ robotId, ∃ report ∈ (w.robots robotId).log,
    report.run.missionId = some missionId ∧ report.status = "completed"

/-- No robot with a mission is read as confirmed offline. -/
def World.StaysOnline (w : World) (e : Event) : Prop :=
  ∀ now visit, e = .fleetState now visit → ∀ snapshot robotId active robot,
    w.Reads snapshot robotId active robot → robot.confirmedOffline = false

/-- The reading of the robot rests on a status of the mission, and that is not
`completed`. -/
def Snapshot.Unsuccessful (snapshot : Snapshot) (robotId missionId : String) : Prop :=
  ∃ report, (snapshot.seen robotId).head? = some report ∧
    report.run.missionId = some missionId ∧ report.status ≠ "completed"

/-- The steps in which the scheduler is not behind. -/
structure World.Timely (cfg : Config) (w : World) (e : Event) : Prop where
  answered : w.BeginsAnswered cfg e
  /-- No mission is accepted again. -/
  once : ∀ robotId missionId, e.missionId = some missionId → w.Begins cfg e robotId →
    ¬ w.Accepted missionId
  /-- An error that is read of an accepted mission is its own. -/
  errors : ∀ now visit, e = .fleetState now visit → ∀ snapshot robotId active robot,
    w.Reads snapshot robotId active robot → w.Accepted active.missionId →
    robot.state = RobotHeartbeat.stateError → snapshot.Unsuccessful robotId active.missionId
  /-- An accepted mission is seen to run before its time to start is over. -/
  starts : ∀ now visit, e = .fleetState now visit → ∀ snapshot robotId active robot,
    w.Reads snapshot robotId active robot → w.Accepted active.missionId →
    robot.state = RobotHeartbeat.stateIdle → active.robotConfirmedActive = false →
    now - active.dispatchedAt > cfg.scheduler.missionStartTimeout →
    snapshot.Unsuccessful robotId active.missionId

/-- Each mission was accepted at most once. -/
structure World.Once (w : World) : Prop where
  robot : ∀ missionId a b, some missionId ∈ (w.robots a).accepted →
    some missionId ∈ (w.robots b).accepted → a = b
  count : ∀ missionId robotId, (w.robots robotId).accepted.count (some missionId) ≤ 1

/-- What holds in the runs of timely steps. -/
structure World.Kept (w : World) : Prop where
  inv : w.Inv
  recorded : ∀ robotId, (w.robots robotId).Recorded
  once : w.Once

section

variable {cfg : Config} {w v : World} {e : Event} {snapshot : Snapshot} {robotId : String}
  {active : ActiveMission} {robot : FleetRobotState}

theorem begins_unique {a b : String} (ha : w.Begins cfg e a) (hb : w.Begins cfg e b) : a = b :=
  Option.some.inj (ha.caller.1.symm.trans hb.caller.1)

theorem error_status {status : String}
    (h : Heartbeat.statusState status = some RobotHeartbeat.stateError) :
    isFailure status = true := by
  unfold Heartbeat.statusState at h
  split at h
  · simp [RobotHeartbeat.statePatrolling, RobotHeartbeat.stateError] at h
  split at h
  · simp [RobotHeartbeat.stateIdle, RobotHeartbeat.stateError] at h
  split at h
  · simpa [isFailure, or_assoc] using ‹_›
  · cases h

/-- What a robot has accepted after a step, it had accepted before, or the step is
the first START of it. -/
theorem accepted_step (h : w.Inv) (honce : ∀ robotId missionId, e.missionId = some missionId →
      w.Begins cfg e robotId → ¬ w.Accepted missionId) (hturn : Turn cfg w e v)
    (robotId missionId : String) :
    (v.robots robotId).accepted.count (some missionId) =
        (w.robots robotId).accepted.count (some missionId) ∨
      w.Begins cfg e robotId ∧ e.missionId = some missionId ∧ ¬ w.Accepted missionId ∧
        (v.robots robotId).accepted.count (some missionId) = 1 := by
  rcases hturn.continues h robotId with ⟨hbegin, hc⟩ | hc
  · rw [hc.accepted]
    by_cases heq : e.missionId = some missionId
    · have hfirst := honce robotId missionId heq hbegin
      have hzero : (w.robots robotId).accepted.count (some missionId) = 0 :=
        List.count_eq_zero.mpr fun hm => hfirst ⟨robotId, hm⟩
      exact .inr ⟨hbegin, heq, hfirst, by rw [heq, List.count_cons_self, hzero]⟩
    · exact .inl (List.count_cons_of_ne heq)
  · exact .inl (by rw [hc.accepted])

theorem once_step (h : w.Once) (hinv : w.Inv) (htimely : w.Timely cfg e)
    (hturn : Turn cfg w e v) : v.Once := by
  have hstep := accepted_step hinv htimely.once hturn
  refine ⟨fun missionId a b ha hb => ?_, fun missionId robotId => ?_⟩
  · rw [← List.count_pos_iff] at ha hb
    rcases hstep a missionId with hsame | ⟨hbegin, _, hfirst, _⟩ <;>
      rcases hstep b missionId with hsame' | ⟨hbegin', _, hfirst', _⟩
    · rw [hsame] at ha
      rw [hsame'] at hb
      exact h.robot missionId a b (List.count_pos_iff.mp ha) (List.count_pos_iff.mp hb)
    · rw [hsame] at ha
      exact absurd ⟨a, List.count_pos_iff.mp ha⟩ hfirst'
    · rw [hsame'] at hb
      exact absurd ⟨b, List.count_pos_iff.mp hb⟩ hfirst
    · exact begins_unique hbegin hbegin'
  · rcases hstep robotId missionId with hsame | ⟨_, _, _, hone⟩
    · rw [hsame]
      exact h.count missionId robotId
    · exact hone.le

theorem kept_step (h : w.Kept) (htimely : w.Timely cfg e) (hstep : w.step cfg e = some v) :
    v.Kept := by
  have hturn := step_turn hstep
  exact ⟨inv_step h.inv htimely.answered hturn, recorded_step h.inv h.recorded hturn,
    once_step h.once h.inv htimely hturn⟩

theorem kept_init {startedAt : Time} {store : Fleet.MissionStore} {fleet : Fleet.State}
    (hinit : Fleet.State.init cfg.fleet store = .ok fleet) :
    (machine cfg startedAt fleet).init.Kept := by
  refine ⟨inv_init hinit, fun robotId report hr => ?_, ⟨fun _ _ _ ha => ?_, fun _ _ => ?_⟩⟩
  · simp only [machine, Robot.init, List.mem_singleton] at hr
    rw [hr]
    exact List.mem_cons_self ..
  · cases ha
  · exact Nat.zero_le _

/-- A robot whose reading rests on an unsuccessful status of a mission, and shows it
idle or in error, has not completed the mission; nor has another. -/
theorem World.Kept.uncompleted (h : w.Kept) (hreads : w.Reads snapshot robotId active robot)
    (hstate : robot.state = RobotHeartbeat.stateError ∨ robot.state = RobotHeartbeat.stateIdle)
    (hunsuccessful : snapshot.Unsuccessful robotId active.missionId) :
    ¬ w.Completed active.missionId := by
  rintro ⟨id, report, hreport, hm, hstatus⟩
  obtain ⟨last, hhead, hlastm, hlaststatus⟩ := hunsuccessful
  have hlast : last ∈ (w.robots robotId).log :=
    (h.inv.relayed.seen_log hreads.next robotId).2.subset (List.mem_of_head? hhead)
  have haccepted := missionId_mem (h.recorded id report hreport) hm
  have hlastaccepted := missionId_mem (h.recorded robotId last hlast) hlastm
  obtain rfl := h.once.robot active.missionId id robotId haccepted hlastaccepted
  have hrun : last.run = report.run := run_unique (h.once.count active.missionId id)
    (h.recorded id last hlast) (h.recorded id report hreport) hlastm hm
  have hlogged := (h.inv.tidy id).logged
  have hshown : Heartbeat.statusState last.status = some robot.state := by
    obtain ⟨rest, hrest⟩ := List.head?_eq_some_iff.mp hhead
    exact hreads.shows h.inv.relayed last rest hrest
  have hends : isTerminal last.status = true := by
    rcases hstate with herror | hidle
    · rw [herror] at hshown
      simp [isTerminal, error_status hshown]
    · rw [hidle] at hshown
      rcases idle_status hshown with heq | heq | heq
      · have hpos := number_pos (h.recorded id last hlast) hlastm
        rw [hlogged.idle last hlast heq] at hpos
        exact absurd hpos (Nat.lt_irrefl 0)
      · exact absurd heq hlaststatus
      · rw [heq]
        decide
  have hsame := hlogged.terminal_unique hlast hreport hrun hends (by rw [hstatus]; decide)
  exact hlaststatus (hsame ▸ hstatus)

theorem World.Kept.unfailed (h : w.Kept) (honline : w.StaysOnline e) (htimely : w.Timely cfg e)
    {now : Time} {visit : List (Sigma fun _ : String => ActiveMission)}
    (he : e = .fleetState now visit) (hnext : w.fleetStates.head? = some snapshot)
    (hl : w.coordination.scheduler.node.activeMissions.lookup robotId = some active)
    (hfail : Scheduler.judge cfg.scheduler now snapshot.message.robots robotId active = .fail) :
    ¬ w.Completed active.missionId := by
  intro hcompleted
  have haccepted : w.Accepted active.missionId := by
    obtain ⟨id, report, hreport, hm, _⟩ := hcompleted
    exact ⟨id, missionId_mem (h.recorded id report hreport) hm⟩
  obtain ⟨robot, hfound, hcases⟩ := Scheduler.judge_fail hfail
  have hreads : w.Reads snapshot robotId active robot := ⟨hnext, hl, hfound⟩
  rcases hcases with hoffline | herror | ⟨hidle, hunconfirmed, hlate⟩
  · rw [honline now visit he snapshot robotId active robot hreads] at hoffline
    cases hoffline
  · exact h.uncompleted hreads (.inl herror)
      (htimely.errors now visit he snapshot robotId active robot hreads haccepted herror) hcompleted
  · exact h.uncompleted hreads (.inr hidle)
      (htimely.starts now visit he snapshot robotId active robot hreads haccepted hidle hunconfirmed
        hlate) hcompleted

theorem completed_missions_kept {cfg : Config} {startedAt : Time} {store : Fleet.MissionStore}
    {fleet : Fleet.State}
    (hinit : Fleet.State.init cfg.fleet store = .ok fleet) {es : List Event}
    (honline : ∀ w e v, (machine cfg startedAt fleet).Takes es w e v → w.StaysOnline e)
    (htimely : ∀ w e v, (machine cfg startedAt fleet).Takes es w e v → w.Timely cfg e)
    {w v : World} {e : Event} (h : (machine cfg startedAt fleet).Takes es w e v)
    {missionId : String} (hcompleted : w.Completed missionId) :
    (∀ robotId, .failed missionId robotId ∉
      w.coordination.scheduler.node.news v.coordination.scheduler.node) ∧
    ∀ fresh, .requeued missionId fresh ∉
      w.coordination.scheduler.node.news v.coordination.scheduler.node := by
  have hkept : w.Kept := Machine.visits_invariant (C := fun w e _ => w.Timely cfg e)
    (kept_init hinit) (fun _ _ _ hk ht hstep => kept_step hk ht hstep) htimely h.visits
  cases (step_turn h.step_eq).decides with
  | aside haside _ =>
    exact ⟨fun robotId hm => (by cases haside.undecided hm),
      fun fresh hm => (by cases haside.undecided hm)⟩
  | @reconcile now visit snapshot he hnext hvisit hnode _ _ =>
    rw [hnode]
    have hunfailed : ∀ robotId, .failed missionId robotId ∉ w.coordination.scheduler.node.news
        (Scheduler.fleetStateCallback cfg.scheduler snapshot.message now visit
          w.coordination.scheduler.node) := by
      intro robotId hfailed
      obtain ⟨active, hl, rfl, hverdict⟩ :=
        (Scheduler.fleetState_judged snapshot.message hvisit missionId robotId).2 hfailed
      exact hkept.unfailed (honline w e v h) (htimely w e v h) he hnext hl hverdict hcompleted
    refine ⟨hunfailed, fun fresh hm => ?_⟩
    obtain ⟨new, hhistory, hretries⟩ := Scheduler.retriesFailed_fleetState cfg.scheduler
      snapshot.message now visit w.coordination.scheduler.node
    have hnews := Scheduler.news_eq hhistory
    rw [hnews] at hm
    obtain ⟨robotId, hfailed⟩ := hretries missionId fresh hm
    exact hunfailed robotId (hnews ▸ hfailed)

end

/-! ### Timely runs -/

/-- The robots with a mission are online, and none of them is in error, or idle past
the time to start, where the mission would be given up on. -/
def World.timely (cfg : Config) (w : World) (e : Event) : Bool :=
  w.beginsAnswered cfg e &&
  match e with
  | .fleetState now _ => w.everyReading fun _ _ active robot =>
    robot.state ≠ RobotHeartbeat.stateError ∧
      (active.robotConfirmedActive = true ∨
        now - active.dispatchedAt ≤ cfg.scheduler.missionStartTimeout)
  | _ => true

def World.staysOnline (w : World) : Bool :=
  w.everyReading fun _ _ _ robot => !robot.confirmedOffline

section

variable {cfg : Config} {startedAt : Time} {store : Fleet.MissionStore} {fleet : Fleet.State}
  {es : List Event} {w v : World}
  {e : Event} {missionId : String}

theorem staysOnline_of_check (h : w.staysOnline = true) : w.StaysOnline e := by
  intro now visit _ snapshot robotId active robot hreads
  simpa using hreads.of_everyReading h

theorem accepted_before (hinit : Fleet.State.init cfg.fleet store = .ok fleet)
    (hanswered : ∀ w e v, (machine cfg startedAt fleet).Takes es w e v → w.BeginsAnswered cfg e)
    {before : List Event} (hpre : before <+: es)
    (hrun : (machine cfg startedAt fleet).run before = some w) (h : w.Accepted missionId) :
    ∃ e ∈ before, e.missionId = some missionId := by
  induction before using List.reverseRecOn generalizing w with
  | nil =>
    cases hrun
    obtain ⟨robotId, hm⟩ := h
    cases hm
  | append_singleton before e ih =>
    obtain ⟨u, hu, hstep⟩ := Machine.run_concat_inv _ hrun
    have hinv : u.Inv := Machine.visits_invariant (C := fun w e _ => w.BeginsAnswered cfg e)
      (inv_init hinit) (fun _ _ _ hi ha hs => inv_step hi ha (step_turn hs)) hanswered
      ⟨before, (List.prefix_append before [e]).trans hpre, hu⟩
    have hearlier : u.Accepted missionId → ∃ d ∈ before ++ [e], d.missionId = some missionId := by
      intro hu'
      obtain ⟨d, hd, hm⟩ := ih ((List.prefix_append before [e]).trans hpre) hu hu'
      exact ⟨d, List.mem_append_left _ hd, hm⟩
    obtain ⟨robotId, hm⟩ := h
    rcases (step_turn hstep).continues hinv robotId with ⟨_, hc⟩ | hc
    · rw [hc.accepted] at hm
      rcases List.mem_cons.mp hm with heq | hm
      · exact ⟨e, by simp, heq.symm⟩
      · exact hearlier ⟨robotId, hm⟩
    · rw [hc.accepted] at hm
      exact hearlier ⟨robotId, hm⟩

theorem once_of_nodup (hinit : Fleet.State.init cfg.fleet store = .ok fleet)
    (hanswered : ∀ w e v, (machine cfg startedAt fleet).Takes es w e v → w.BeginsAnswered cfg e)
    (hnodup : (es.filterMap Event.missionId).Nodup)
    (h : (machine cfg startedAt fleet).Takes es w e v) (hm : e.missionId = some missionId) :
    ¬ w.Accepted missionId := by
  intro haccepted
  obtain ⟨before, hpre, hrun, _⟩ := h
  obtain ⟨d, hd, hdm⟩ := accepted_before hinit hanswered
    ((List.prefix_append before [e]).trans hpre) hrun haccepted
  have hstarts : (before.filterMap Event.missionId ++ [missionId]).Nodup := by
    have hsub := hnodup.sublist (hpre.sublist.filterMap Event.missionId)
    simpa [List.filterMap_append, hm] using hsub
  have hmem : missionId ∈ before.filterMap Event.missionId := List.mem_filterMap.mpr ⟨d, hd, hdm⟩
  exact (List.nodup_append.mp hstarts).2.2 missionId hmem missionId (List.mem_singleton_self _) rfl

theorem timely_of_check (hinit : Fleet.State.init cfg.fleet store = .ok fleet)
    (hcheck : (machine cfg startedAt fleet).eachStep (fun w e => w.timely cfg e)
      (machine cfg startedAt fleet).init es = true)
    (hnodup : (es.filterMap Event.missionId).Nodup) :
    ∀ w e v, (machine cfg startedAt fleet).Takes es w e v → w.Timely cfg e := by
  have htimely : ∀ w e v, (machine cfg startedAt fleet).Takes es w e v →
      w.timely cfg e = true := fun w e v h =>
    Machine.takes_of_eachStep (c := fun w e => w.timely cfg e) hcheck h
  have hanswered : ∀ w e v, (machine cfg startedAt fleet).Takes es w e v →
      w.BeginsAnswered cfg e := fun w e v h =>
    beginsAnswered_of_check (Bool.and_eq_true_iff.mp (htimely w e v h)).1
  have hreadings : ∀ w e v, (machine cfg startedAt fleet).Takes es w e v →
      ∀ now visit, e = .fleetState now visit → ∀ snapshot robotId active robot,
      w.Reads snapshot robotId active robot → robot.state ≠ RobotHeartbeat.stateError ∧
        (active.robotConfirmedActive = true ∨
          now - active.dispatchedAt ≤ cfg.scheduler.missionStartTimeout) := by
    rintro w _ v h now visit rfl snapshot robotId active robot hreads
    exact of_decide_eq_true
      (hreads.of_everyReading (Bool.and_eq_true_iff.mp (htimely w _ v h)).2)
  intro w e v h
  refine ⟨hanswered w e v h, fun robotId missionId hm _ => ?_, ?_, ?_⟩
  · exact once_of_nodup hinit hanswered hnodup h hm
  · intro now visit he snapshot robotId active robot hreads _ herror
    exact absurd herror (hreadings w e v h now visit he snapshot robotId active robot hreads).1
  · intro now visit he snapshot robotId active robot hreads _ _ hunconfirmed hlate
    rcases (hreadings w e v h now visit he snapshot robotId active robot hreads).2 with hc | hc
    · rw [hunconfirmed] at hc
      cases hc
    · exact absurd hlate (Int.not_lt.mpr hc)

end

theorem completed_mission_kept :
    (∀ robotId, .failed "mission-1" robotId ∉ performedWorld.coordination.scheduler.node.news
      completedWorld.coordination.scheduler.node) ∧
    ∀ fresh, .requeued "mission-1" fresh ∉ performedWorld.coordination.scheduler.node.news
      completedWorld.coordination.scheduler.node := by
  have hinit : Fleet.State.init manualConfig.fleet {} = .ok Coordination.shippedFleet := rfl
  refine completed_missions_kept hinit (fun w e v h => ?_)
    (timely_of_check hinit (by decide +kernel) (by decide +kernel)) performed_takes ?_
  · refine staysOnline_of_check (Machine.takes_of_eachStep (c := fun w _ => w.staysOnline) ?_ h)
    decide +kernel
  · exact ⟨"robot1", ⟨⟨1, some "mission-1"⟩, "completed"⟩, by decide +kernel, rfl, rfl⟩

/-! ### A mission that is over before it is seen -/

/-- A service by which an operator commands the patrol robot. -/
def Event.manual : Event → Bool
  | .coordination (.fleet (.dispatchPatrol ..)) => true
  | .coordination (.fleet (.stopPatrol ..)) => true
  | _ => false

def unseen : List (Sigma fun _ : String => ActiveMission) :=
  [⟨"robot1", dispatched.activated (seconds 2)⟩]

/-- The robot takes up the mission and completes it between two heartbeats. -/
def briefRun : List Event :=
  readyRun ++ assignRun ++
    [.patrol "robot1" (.goalResponse 0 true), .patrol "robot1" (.result 0 ⟨.succeeded, none⟩),
      .status "robot1", .status "robot1", .status "robot1", .status "robot1",
      .missionType "robot1"] ++
    ((List.range 15).flatMap fun i =>
      passOn (seconds (i + 3)) ++ [.fleetState (seconds (i + 3)) unseen]) ++
    passOn (seconds 18)

def briefWorld : World := (manualMachine.run briefRun).get (by decide +kernel)

def retriedWorld : World :=
  (manualMachine.step briefWorld (.fleetState (seconds 18) unseen)).get (by decide +kernel)

theorem brief_mission_failed : ¬ ∀ cfg startedAt fleet,
    Fleet.State.init cfg.fleet {} = .ok fleet → ∀ es,
    (∀ w e v, (machine cfg startedAt fleet).Takes es w e v → w.StaysOnline e) →
    (∀ e ∈ es, e.manual = false) → ∀ w e v missionId,
    (machine cfg startedAt fleet).Takes es w e v → w.Completed missionId → ∀ robotId,
    .failed missionId robotId ∉
      w.coordination.scheduler.node.news v.coordination.scheduler.node := by
  intro h
  have htake : manualMachine.Takes (briefRun ++ [.fleetState (seconds 18) unseen])
      briefWorld (.fleetState (seconds 18) unseen) retriedWorld :=
    ⟨briefRun, List.prefix_rfl, (Option.some_get _).symm, (Option.some_get _).symm⟩
  refine h manualConfig 0 Coordination.shippedFleet rfl _ (fun w e v h => ?_) ?_ briefWorld _
    retriedWorld "mission-1" htake ?_ "robot1" (by decide +kernel)
  · refine staysOnline_of_check (Machine.takes_of_eachStep (c := fun w _ => w.staysOnline) ?_ h)
    decide +kernel
  · decide +kernel
  · exact ⟨"robot1", ⟨⟨1, some "mission-1"⟩, "completed"⟩, by decide +kernel, rfl, rfl⟩

end PatrolFleet.Execution
