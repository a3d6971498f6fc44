import PatrolFleet.Scheduler.Reconciling

/-!
What `reconcile_active_missions_locked` does with a reading of a robot that is
older than the mission the robot was given.
-/

set_option autoImplicit false

namespace PatrolFleet.Scheduler

/-! ### What a callback records -/

/-- The happenings that `t` has on record and `s` has not. -/
def State.news (s t : State) : List Happening :=
  t.history.take (t.history.length - s.history.length)

/-- From `s` to `t`, the given entries were logged as completed and as failed, and
no others were. -/
structure Reports (s t : State)
    (completed failed : List (Sigma fun _ : String => ActiveMission)) : Prop where
  history : t.history = s.news t ++ s.history
  completed : ∀ m r, .completed m r ∈ s.news t ↔ ∃ e ∈ completed, e.2.missionId = m ∧ e.1 = r
  failed : ∀ m r, .failed m r ∈ s.news t ↔ ∃ e ∈ failed, e.2.missionId = m ∧ e.1 = r

theorem news_eq {s t : State} {new : List Happening} (h : t.history = new ++ s.history) :
    s.news t = new := by
  unfold State.news
  rw [h, List.length_append, Nat.add_sub_cancel, List.take_left]

theorem Reports.refl {s t : State} (h : t.history = s.history) : Reports s t [] [] := by
  have hnews : s.news t = [] := news_eq (by simp [h])
  exact ⟨by simp [hnews, h], by simp [hnews], by simp [hnews]⟩

theorem Reports.trans {s t u : State}
    {completed completed' failed failed' : List (Sigma fun _ : String => ActiveMission)}
    (h : Reports s t completed failed) (k : Reports t u completed' failed') :
    Reports s u (completed ++ completed') (failed ++ failed') := by
  have hsu : u.history = (t.news u ++ s.news t) ++ s.history := by
    rw [k.history, h.history, List.append_assoc, ← h.history]
  have hnews := news_eq hsu
  refine ⟨by rw [hnews, hsu], fun m r => ?_, fun m r => ?_⟩
  · rw [hnews, List.mem_append, h.completed, k.completed]
    simp only [List.mem_append, or_and_right, exists_or]
    exact or_comm
  · rw [hnews, List.mem_append, h.failed, k.failed]
    simp only [List.mem_append, or_and_right, exists_or]
    exact or_comm

theorem reports_logCompleted (s : State) (e : Sigma fun _ : String => ActiveMission) :
    Reports s (logCompleted s e) [e] [] := by
  have hh : (logCompleted s e).history = [.completed e.2.missionId e.1] ++ s.history := rfl
  have hnews := news_eq hh
  exact ⟨by rw [hnews, hh], by simp [hnews, eq_comm], by simp [hnews]⟩

theorem reports_retryFailed (cfg : Config) (s : State)
    (e : Sigma fun _ : String => ActiveMission) : Reports s (retryFailed cfg s e) [] [e] := by
  rcases retryFailed_cases cfg s e with h | ⟨_, h⟩
  all_goals
    have hnews := news_eq h.history
    exact ⟨by rw [hnews, h.history], by simp [hnews], by simp [hnews, eq_comm]⟩

/-! ### Reconciling, one entry at a time -/

section

variable {s : State} {visit : List (Sigma fun _ : String => ActiveMission)}

theorem fleetState_reports (cfg : Config) (message : FleetState) (now : Time)
    (hv : s.activeMissions.VisitOrder visit) :
    let verdict := judge cfg now message.robots
    let t := fleetStateCallback cfg message now visit s
    Reports s t (visit.filter fun e => verdict e.1 e.2 = .complete)
        (visit.filter fun e => verdict e.1 e.2 = .fail) ∧
      t.activeMissions = s.activeMissions.filterMapVal fun r a => (verdict r a).apply a := by
  intro verdict t
  set updated := updateRobotReservationsLocked cfg now
    { s with latestFleetState := message, receivedFleetState := true }
  let judged (t : State) (completed failed : List Entry) : Prop := Reports s t completed failed ∧
    t.activeMissions = s.activeMissions.filterMapVal fun r a => (verdict r a).apply a
  refine reconcile_rule (s := updated) (P := judged) (Q := fun t => judged t
    (visit.filter fun e => verdict e.1 e.2 = .complete)
    (visit.filter fun e => verdict e.1 e.2 = .fail)) (fun hidle => ?_)
    ⟨Reports.refl rfl, rfl⟩ (fun t done e ht => ?_) (fun t done failed e ht => ?_)
    (fun _ ht _ => ht) fun t ht => ⟨⟨ht.1.history, ht.1.completed, ht.1.failed⟩, ht.2⟩
  · have hnil : s.activeMissions.entries = [] := hidle
    have hvisit : visit = [] := List.perm_nil.mp (hnil ▸ hv)
    subst hvisit
    refine ⟨Reports.refl rfl, AList.ext ?_⟩
    change s.activeMissions.entries = _
    simp [UnorderedMap.filterMapVal, hnil]
  · exact ⟨ht.1.trans (reports_logCompleted t e), ht.2⟩
  · refine ⟨by simpa using ht.1.trans (reports_retryFailed cfg t e), ?_⟩
    rcases retryFailed_cases cfg t e with h | ⟨_, h⟩ <;> exact h.activeMissions.trans ht.2

theorem mem_filter_visit (hv : s.activeMissions.VisitOrder visit) {robotId : String}
    {active : ActiveMission} (hl : s.activeMissions.lookup robotId = some active)
    (verdict : String → ActiveMission → Verdict) (v : Verdict) :
    (∃ e ∈ visit.filter fun e => verdict e.1 e.2 = v,
      e.2.missionId = active.missionId ∧ e.1 = robotId) ↔ verdict robotId active = v := by
  constructor
  · rintro ⟨⟨r, a⟩, he, _, rfl⟩
    obtain ⟨hmem, hverdict⟩ := List.mem_filter.mp he
    have ha := UnorderedMap.lookup_eq_some_iff.mpr (hv.subset hmem)
    have heq : a = active := by simpa [hl, eq_comm] using ha
    simpa [heq] using hverdict
  · intro hverdict
    have hmem := hv.symm.subset (UnorderedMap.lookup_eq_some_iff.mp hl)
    exact ⟨⟨robotId, active⟩, List.mem_filter.mpr ⟨hmem, by simpa using hverdict⟩, rfl, rfl⟩

end

/-! ### Stale readings -/

/-- The entry that `reconcile` reads for the mission on `robotId` repeats a
heartbeat from before the dispatch, of a robot that is not known to be offline. -/
structure StaleReading (s : State) (message : FleetState) (robotId : String)
    (active : ActiveMission) (robot : FleetRobotState) : Prop where
  onRobot : s.activeMissions.lookup robotId = some active
  found : message.robots.find? (·.robotId = robotId) = some robot
  stale : robot.lastHeartbeat < active.dispatchedAt
  online : robot.confirmedOffline = false

/-- From `s` to `t` the mission on `robotId` was neither seen to run, nor completed,
nor failed before it had its time to start. -/
structure Undecided (cfg : Config) (now : Time) (s t : State) (robotId : String)
    (active : ActiveMission) : Prop where
  unconfirmed : ∀ kept, t.activeMissions.lookup robotId = some kept →
    kept.robotConfirmedActive = true → active.robotConfirmedActive = true
  uncompleted : .completed active.missionId robotId ∉ s.news t
  failedLate : .failed active.missionId robotId ∈ s.news t →
    cfg.missionStartTimeout ≤ now - active.dispatchedAt

/-- The readings on which `reconcile` decides nothing. -/
structure Inconclusive (cfg : Config) (now : Time) (active : ActiveMission)
    (robot : FleetRobotState) : Prop where
  error : robot.state = RobotHeartbeat.stateError →
    cfg.missionStartTimeout ≤ now - active.dispatchedAt
  idle : robot.state = RobotHeartbeat.stateIdle → active.robotConfirmedActive = false
  busy : robot.state ≠ RobotHeartbeat.stateError → robot.state ≠ RobotHeartbeat.stateIdle →
    active.robotConfirmedActive = true

theorem undecided_iff_verdict {cfg : Config} {message : FleetState} {now : Time} {s : State}
    {visit : List (Sigma fun _ : String => ActiveMission)}
    (hv : s.activeMissions.VisitOrder visit) {robotId : String} {active : ActiveMission}
    (hl : s.activeMissions.lookup robotId = some active) :
    Undecided cfg now s (fleetStateCallback cfg message now visit s) robotId active ↔
      (judge cfg now message.robots robotId active = .confirm →
        active.robotConfirmedActive = true) ∧
      judge cfg now message.robots robotId active ≠ .complete ∧
      (judge cfg now message.robots robotId active = .fail →
        cfg.missionStartTimeout ≤ now - active.dispatchedAt) := by
  obtain ⟨hreports, hmap⟩ := fleetState_reports cfg message now hv
  have hcompleted := hreports.completed active.missionId robotId
  have hfailed := hreports.failed active.missionId robotId
  rw [mem_filter_visit hv hl] at hcompleted hfailed
  have hkept : (fleetStateCallback cfg message now visit s).activeMissions.lookup robotId =
      (judge cfg now message.robots robotId active).apply active := by
    rw [hmap, UnorderedMap.lookup_filterMapVal, hl]
    rfl
  constructor
  · intro h
    refine ⟨fun hj => ?_, fun hj => h.uncompleted (hcompleted.mpr hj),
      fun hj => h.failedLate (hfailed.mpr hj)⟩
    rw [hj] at hkept
    exact h.unconfirmed _ hkept rfl
  · rintro ⟨hconfirm, hcomplete, hfail⟩
    refine ⟨fun kept hk hflag => ?_, fun hm => hcomplete (hcompleted.mp hm),
      fun hm => hfail (hfailed.mp hm)⟩
    rw [hkept] at hk
    cases hj : judge cfg now message.robots robotId active with
    | keep =>
      rw [hj] at hk
      cases hk
      exact hflag
    | confirm => exact hconfirm hj
    | complete => simp [hj, Verdict.apply] at hk
    | fail => simp [hj, Verdict.apply] at hk

theorem undecided_iff {cfg : Config} {message : FleetState} {now : Time} {s : State}
    {visit : List (Sigma fun _ : String => ActiveMission)}
    (hv : s.activeMissions.VisitOrder visit) {robotId : String} {active : ActiveMission}
    {robot : FleetRobotState} (h : StaleReading s message robotId active robot) :
    Undecided cfg now s (fleetStateCallback cfg message now visit s) robotId active ↔
      Inconclusive cfg now active robot := by
  rw [undecided_iff_verdict hv h.onRobot]
  have hjudge : judge cfg now message.robots robotId active =
      if robot.state = RobotHeartbeat.stateError then .fail
      else if robot.state ≠ RobotHeartbeat.stateIdle then .confirm
      else if active.robotConfirmedActive then .complete
      else if now - active.dispatchedAt > cfg.missionStartTimeout then .fail else .keep := by
    unfold judge
    rw [h.found]
    simp [h.online]
  have hdistinct : RobotHeartbeat.stateIdle ≠ RobotHeartbeat.stateError := by decide
  rw [hjudge]
  constructor
  · rintro ⟨hconfirm, hcomplete, hfail⟩
    refine ⟨fun he => ?_, fun hi => ?_, fun he hi => ?_⟩
    · simpa [he] using hfail
    · cases hflag : active.robotConfirmedActive with
      | false => rfl
      | true => simp [hi, hdistinct, hflag] at hcomplete
    · simpa [he, hi] using hconfirm
  · intro hc
    by_cases he : robot.state = RobotHeartbeat.stateError
    · simp [he, hc.error he]
    by_cases hi : robot.state = RobotHeartbeat.stateIdle
    · simp only [hi, hdistinct, hc.idle hi, if_false, ne_eq, not_true_eq_false,
        Bool.false_eq_true]
      split
      · rename_i hlate
        simp [Int.le_of_lt hlate]
      · simp
    · simp [he, hi, hc.busy he hi]

theorem stale_readings_undecided_iff (cfg : Config) (startedAt : Time) (es : List Event) :
    (∀ w message now visit v,
      (machine cfg startedAt).Takes es w (.fleetState message now visit) v →
      ∀ robotId active robot, StaleReading w.node message robotId active robot →
        Undecided cfg now w.node v.node robotId active) ↔
    ∀ w message now visit v,
      (machine cfg startedAt).Takes es w (.fleetState message now visit) v →
      ∀ robotId active robot, StaleReading w.node message robotId active robot →
        Inconclusive cfg now active robot := by
  have hstep : ∀ w message now visit v,
      (machine cfg startedAt).Takes es w (.fleetState message now visit) v →
      ∀ robotId active robot, StaleReading w.node message robotId active robot →
        (Undecided cfg now w.node v.node robotId active ↔ Inconclusive cfg now active robot) := by
    intro w message now visit v htake robotId active robot h
    have hs := htake.step_eq
    simp only [machine, World.step] at hs
    split at hs
    · rename_i hv
      cases hs
      exact undecided_iff hv h
    · cases hs
  constructor
  · intro h w message now visit v htake robotId active robot hr
    exact (hstep w message now visit v htake robotId active robot hr).mp
      (h w message now visit v htake robotId active robot hr)
  · intro h w message now visit v htake robotId active robot hr
    exact (hstep w message now visit v htake robotId active robot hr).mpr
      (h w message now visit v htake robotId active robot hr)

/-- A robot in `STATE_ERROR` is given a mission, and the next snapshot repeats the
heartbeat from before. -/
def errorRobot : FleetRobotState :=
  ⟨"robot1", true, false, RobotHeartbeat.stateError, 90, true, "", seconds 2⟩

def errorDispatch : Dispatch := ⟨"mission-1", "patrol", 0, {}, false, 0, "robot1", 1⟩

def errorRun : List Event :=
  [.systemReady true,
    .dispatchPatrol (seconds 1),
    .fleetState ⟨seconds 2, [errorRobot]⟩ (seconds 2) [],
    .processQueue (seconds 3) true,
    .assignResponse errorDispatch (.response ⟨true, "Mission started"⟩) (seconds 4)]

def errorSnapshot : FleetState := ⟨seconds 5, [errorRobot]⟩

def errorVisit : List (Sigma fun _ : String => ActiveMission) :=
  [⟨"robot1", errorDispatch.activated (seconds 4)⟩]

def errorWorld : World := ((machine {} 0).run errorRun).get (by decide)

def failedWorld : World :=
  ((machine {} 0).step errorWorld (.fleetState errorSnapshot (seconds 5) errorVisit)).get
    (by decide)

theorem stale_error_fails : ¬ ∀ es w message now visit v,
    (machine {} 0).Takes es w (.fleetState message now visit) v →
    ∀ robotId active robot, StaleReading w.node message robotId active robot →
      Undecided {} now w.node v.node robotId active := by
  intro h
  have htake : (machine {} 0).Takes
      (errorRun ++ [.fleetState errorSnapshot (seconds 5) errorVisit]) errorWorld
      (.fleetState errorSnapshot (seconds 5) errorVisit) failedWorld :=
    ⟨errorRun, List.prefix_refl _, (Option.some_get _).symm, (Option.some_get _).symm⟩
  have hundecided := h _ errorWorld errorSnapshot (seconds 5) errorVisit failedWorld htake
    "robot1" (errorDispatch.activated (seconds 4)) errorRobot
    ⟨by decide, by decide, by decide, by decide⟩
  have hlate := hundecided.failedLate (by decide)
  revert hlate
  decide

end PatrolFleet.Scheduler
