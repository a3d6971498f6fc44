import PatrolFleet.Scheduler.StaleReadings

/-!
Only a fleet state decides on the active missions: the other callbacks complete
none, fail none, and confirm none. What it decides rests on one reading.
-/

set_option autoImplicit false

namespace PatrolFleet.Scheduler

/-- What is decided about an active mission. -/
def Happening.ofOutcome : Happening → Bool
  | .completed _ _ | .failed _ _ | .requeued _ _ | .dropped _ => true
  | .enqueued _ | .cancelled _ | .dispatched _ _ _ | .reclaimed _ | .rejected _ | .raised _
  | .accepted _ _ _ => false

/-- From `s` to `t` nothing was decided about a mission, and none was confirmed. -/
structure Aside (s t : State) : Prop where
  history : ∃ new, t.history = new ++ s.history ∧ ∀ happening ∈ new, happening.ofOutcome = false
  confirmed : ∀ robotId active, t.activeMissions.lookup robotId = some active →
    active.robotConfirmedActive = true → s.activeMissions.lookup robotId = some active

section

variable {cfg : Config} {s t u : State}

theorem Aside.undecided (h : Aside s t) {happening : Happening} (hm : happening ∈ s.news t) :
    happening.ofOutcome = false := by
  obtain ⟨new, hhistory, hnew⟩ := h.history
  rw [news_eq hhistory] at hm
  exact hnew happening hm

theorem Aside.trans (h : Aside s t) (h' : Aside t u) : Aside s u := by
  obtain ⟨new, hhistory, hnew⟩ := h.history
  obtain ⟨new', hhistory', hnew'⟩ := h'.history
  refine ⟨⟨new' ++ new, by rw [hhistory', hhistory, List.append_assoc], fun happening hm => ?_⟩,
    fun robotId active hl hc => ?_⟩
  · exact (List.mem_append.mp hm).elim (hnew' happening) (hnew happening)
  · exact h.confirmed robotId active (h'.confirmed robotId active hl hc) hc

/-- What writes at most one happening, and that not an outcome, and leaves the active
missions alone. -/
theorem aside_of_eq (hactive : t.activeMissions = s.activeMissions)
    (hhistory : t.history = s.history ∨ ∃ happening, t.history = happening :: s.history ∧
      happening.ofOutcome = false) : Aside s t := by
  refine ⟨?_, fun robotId active hl _ => by rw [← hactive]; exact hl⟩
  rcases hhistory with hsame | ⟨happening, hone, hnot⟩
  · exact ⟨[], hsame, by simp⟩
  · exact ⟨[happening], hone, by simpa using hnot⟩

theorem aside_processQueue (now : Time) (ready : Bool) (s : State) :
    Aside s (processQueue cfg now ready s).1 := by
  obtain ⟨t, ht, hcases⟩ := processQueue_cases cfg now ready s
  have hcleared : Aside s t := by
    cases ht with
    | same => exact aside_of_eq rfl (.inl rfl)
    | overdue =>
      have hchange := reclaim_change s
      exact aside_of_eq hchange.activeMissions
        (.inr ⟨_, hchange.history, rfl⟩)
  rcases hcases with hnone | ⟨mission, robot, _, _, _, _, _, hsend⟩
  · rw [hnone]
    exact hcleared
  · rw [hsend]
    have hchange := sendDispatch_change mission robot now t
    exact hcleared.trans (aside_of_eq hchange.activeMissions
      (.inr ⟨_, hchange.history, rfl⟩))

theorem aside_assignResponse (d : Dispatch) (answer : Answer) (now : Time) (s : State) :
    Aside s (assignResponseCallback d answer now s) := by
  by_cases hg : d.generation = s.dispatchGeneration
  · cases ha : answer.accepts with
    | true =>
      have hchange := assignResponse_accepted hg ha now
      refine ⟨⟨[_], hchange.history, by simp [Happening.ofOutcome]⟩,
        fun robotId active hl hc => ?_⟩
      rw [hchange.activeMissions] at hl
      by_cases heq : robotId = d.robotId
      · subst heq
        rw [AList.lookup_insert, Option.some.injEq] at hl
        subst hl
        cases hc
      · rwa [AList.lookup_insert_ne heq] at hl
    | false =>
      have hchange := assignResponse_refused hg ha now
      refine aside_of_eq hchange.activeMissions (.inr ⟨_, hchange.history, ?_⟩)
      cases answer <;> rfl
  · rw [assignResponse_stale hg]
    exact aside_of_eq rfl (.inl rfl)

theorem aside_step {w v : World} {e : Event} (h : w.step cfg e = some v)
    (he : ∀ message now visit, e ≠ .fleetState message now visit) : Aside w.node v.node := by
  cases e with
  | systemReady data =>
    cases h
    exact aside_of_eq rfl (.inl rfl)
  | fleetState message now visit => exact absurd rfl (he message now visit)
  | queueMission request now =>
    cases h
    unfold handleQueueMission
    split
    · exact aside_of_eq rfl (.inl rfl)
    · exact aside_of_eq rfl (.inr ⟨_, rfl, rfl⟩)
  | cancelMission missionId now =>
    cases h
    unfold handleCancelMission
    split
    · exact aside_of_eq rfl (.inl rfl)
    split
    · exact aside_of_eq rfl (.inr ⟨_, rfl, rfl⟩)
    · exact aside_of_eq rfl (.inl rfl)
  | dispatchPatrol now =>
    cases h
    exact aside_of_eq rfl (.inr ⟨_, rfl, rfl⟩)
  | recurringPatrol now =>
    simp only [World.step] at h
    split at h
    · cases h
      exact aside_of_eq rfl (.inr ⟨_, rfl, rfl⟩)
    · cases h
  | processQueue now ready =>
    cases h
    exact aside_processQueue now ready w.node
  | assignResponse d answer now =>
    simp only [World.step] at h
    split at h
    · cases h
      exact aside_assignResponse d answer now w.node
    · cases h

end

/-! ### What is put back on the queue -/

/-- From `s` to `t` no mission was put back on the queue that had not failed. -/
def RetriesFailed (s t : State) : Prop :=
  ∃ new, t.history = new ++ s.history ∧
    ∀ missionId fresh, .requeued missionId fresh ∈ new → ∃ robotId, .failed missionId robotId ∈ new

section

variable {s t u : State}

theorem RetriesFailed.refl (h : t.history = s.history) : RetriesFailed s t := ⟨[], h, by simp⟩

theorem RetriesFailed.trans (h : RetriesFailed s t) (h' : RetriesFailed t u) :
    RetriesFailed s u := by
  obtain ⟨new, hhistory, hnew⟩ := h
  obtain ⟨new', hhistory', hnew'⟩ := h'
  refine ⟨new' ++ new, by rw [hhistory', hhistory, List.append_assoc],
    fun missionId fresh hm => ?_⟩
  rcases List.mem_append.mp hm with hm | hm
  · obtain ⟨robotId, hfailed⟩ := hnew' missionId fresh hm
    exact ⟨robotId, List.mem_append_left _ hfailed⟩
  · obtain ⟨robotId, hfailed⟩ := hnew missionId fresh hm
    exact ⟨robotId, List.mem_append_right _ hfailed⟩

theorem retriesFailed_retryFailed (cfg : Config) (s : State)
    (e : Sigma fun _ : String => ActiveMission) : RetriesFailed s (retryFailed cfg s e) := by
  rcases retryFailed_cases cfg s e with h | ⟨_, h⟩
  · exact ⟨_, h.history, by simp⟩
  · refine ⟨_, h.history, fun missionId fresh hm => ⟨e.1, ?_⟩⟩
    simp only [List.mem_cons, Happening.requeued.injEq, reduceCtorEq, List.not_mem_nil, or_false]
      at hm
    simp [hm.1]

theorem retriesFailed_fleetState (cfg : Config) (message : FleetState) (now : Time)
    (visit : List (Sigma fun _ : String => ActiveMission)) (s : State) :
    RetriesFailed s (fleetStateCallback cfg message now visit s) := by
  refine reconcile_kept (RetriesFailed.refl rfl) (fun _ => RetriesFailed.refl rfl)
    (fun t e ht => ht.trans ⟨[.completed e.2.missionId e.1], rfl, by simp⟩)
    (fun t e ht => ht.trans (retriesFailed_retryFailed cfg t e))
    fun t ht => ht.trans (RetriesFailed.refl rfl)

end

/-! ### The reading behind a verdict -/

section

variable {cfg : Config} {now : Time} {robots : List FleetRobotState} {robotId : String}
  {active : ActiveMission}

theorem mem_verdict {s : State} {visit : List (Sigma fun _ : String => ActiveMission)}
    (hv : s.activeMissions.VisitOrder visit) {verdict : String → ActiveMission → Verdict}
    {v : Verdict} {missionId : String}
    (h : ∃ e ∈ visit.filter fun e => verdict e.1 e.2 = v,
      e.2.missionId = missionId ∧ e.1 = robotId) :
    ∃ active, s.activeMissions.lookup robotId = some active ∧ active.missionId = missionId ∧
      verdict robotId active = v := by
  obtain ⟨⟨id, active⟩, hm, hid, rfl⟩ := h
  obtain ⟨hmem, hverdict⟩ := List.mem_filter.mp hm
  exact ⟨active, UnorderedMap.lookup_eq_some_iff.mpr (hv.subset hmem), hid,
    of_decide_eq_true hverdict⟩

theorem fleetState_judged {s : State} {visit : List (Sigma fun _ : String => ActiveMission)}
    (message : FleetState) (hv : s.activeMissions.VisitOrder visit) (missionId robotId : String) :
    (.completed missionId robotId ∈ s.news (fleetStateCallback cfg message now visit s) →
      ∃ active, s.activeMissions.lookup robotId = some active ∧ active.missionId = missionId ∧
        judge cfg now message.robots robotId active = .complete) ∧
    (.failed missionId robotId ∈ s.news (fleetStateCallback cfg message now visit s) →
      ∃ active, s.activeMissions.lookup robotId = some active ∧ active.missionId = missionId ∧
        judge cfg now message.robots robotId active = .fail) := by
  obtain ⟨hreports, _⟩ := fleetState_reports cfg message now hv
  exact ⟨fun hm => mem_verdict hv ((hreports.completed missionId robotId).mp hm),
    fun hm => mem_verdict hv ((hreports.failed missionId robotId).mp hm)⟩

theorem judge_confirm (h : judge cfg now robots robotId active = .confirm) :
    ∃ robot, robots.find? (·.robotId = robotId) = some robot ∧ robot.confirmedOffline = false ∧
      robot.state ≠ RobotHeartbeat.stateError ∧ robot.state ≠ RobotHeartbeat.stateIdle := by
  unfold judge at h
  split at h
  · cases h
  rename_i robot hrobot
  split at h
  · cases h
  rename_i hnot
  obtain ⟨honline, herror⟩ := not_or.mp hnot
  split at h
  · exact ⟨robot, hrobot, by simpa using honline, herror, ‹_›⟩
  split at h
  · cases h
  split at h <;> cases h

theorem judge_complete (h : judge cfg now robots robotId active = .complete) :
    ∃ robot, robots.find? (·.robotId = robotId) = some robot ∧
      robot.state = RobotHeartbeat.stateIdle ∧ active.robotConfirmedActive = true := by
  unfold judge at h
  split at h
  · cases h
  rename_i robot hrobot
  split at h
  · cases h
  split at h
  · cases h
  rename_i hidle
  split at h
  · exact ⟨robot, hrobot, not_not.mp hidle, ‹_›⟩
  split at h <;> cases h

theorem judge_fail (h : judge cfg now robots robotId active = .fail) :
    ∃ robot, robots.find? (·.robotId = robotId) = some robot ∧
      (robot.confirmedOffline = true ∨ robot.state = RobotHeartbeat.stateError ∨
        robot.state = RobotHeartbeat.stateIdle ∧ active.robotConfirmedActive = false ∧
          now - active.dispatchedAt > cfg.missionStartTimeout) := by
  unfold judge at h
  split at h
  · cases h
  rename_i robot hrobot
  refine ⟨robot, hrobot, ?_⟩
  split at h
  · rename_i hfailed
    exact hfailed.imp id .inl
  split at h
  · cases h
  rename_i hidle
  split at h
  · cases h
  rename_i hunconfirmed
  split at h
  · exact .inr (.inr ⟨not_not.mp hidle, by simpa using hunconfirmed, ‹_›⟩)
  · cases h

theorem apply_some {verdict : Verdict} {kept : ActiveMission}
    (h : verdict.apply active = some kept) : kept.missionId = active.missionId ∧
      (kept.robotConfirmedActive = true → active.robotConfirmedActive = true ∨
        verdict = .confirm) := by
  cases verdict with
  | keep =>
    cases h
    exact ⟨rfl, .inl⟩
  | confirm =>
    cases h
    exact ⟨rfl, fun _ => .inr rfl⟩
  | complete => cases h
  | fail => cases h

end

end PatrolFleet.Scheduler
