import Mathlib.Data.Finset.Order
import Mathlib.Algebra.Order.Ring.Int
import PatrolFleet.Scheduler.Exclusivity
import PatrolFleet.Scheduler.Reconciling

/-!
What can keep `process_queue` from sending: the slot of a dispatch that is not
answered, and the reservations of the robots. Both run out.
-/

set_option autoImplicit false

namespace PatrolFleet.Scheduler

/-! ### The set of reserved robots and the map of their times -/

/-- A robot is in `reserved_robots_` when it has a time in `reservation_times_`. -/
def AgreeOnReserved (robots : Finset String) (times : UnorderedMap String Time) : Prop :=
  ∀ robotId, robotId ∈ robots ↔ robotId ∈ times

section

variable {robots : Finset String} {times : UnorderedMap String Time}

theorem AgreeOnReserved.insert (h : AgreeOnReserved robots times) (robotId : String)
    (now : Time) : AgreeOnReserved (insert robotId robots) (times.insert robotId now) := by
  intro other
  rw [Finset.mem_insert, AList.mem_insert, h other]

theorem AgreeOnReserved.erase (h : AgreeOnReserved robots times) (robotId : String) :
    AgreeOnReserved (robots.erase robotId) (times.erase robotId) := by
  intro other
  rw [Finset.mem_erase, AList.mem_erase, h other]

theorem AgreeOnReserved.updateReservation (h : AgreeOnReserved robots times) (cfg : Config)
    (now : Time) (robot : FleetRobotState) :
    AgreeOnReserved (updateReservation cfg now (robots, times) robot).1
      (updateReservation cfg now (robots, times) robot).2 := by
  unfold Scheduler.updateReservation
  dsimp only
  split
  · exact h
  split
  · exact h.erase robot.robotId
  split
  · exact h.erase robot.robotId
  · exact h

theorem AgreeOnReserved.updateReservations (h : AgreeOnReserved robots times) (cfg : Config)
    (now : Time) (readings : List FleetRobotState) :
    AgreeOnReserved (readings.foldl (Scheduler.updateReservation cfg now) (robots, times)).1
      (readings.foldl (Scheduler.updateReservation cfg now) (robots, times)).2 := by
  induction readings generalizing robots times with
  | nil => exact h
  | cons robot readings ih => exact ih (h.updateReservation cfg now robot)

end

def State.ReservationsAgree (s : State) : Prop :=
  AgreeOnReserved s.reservedRobots s.reservationTimes

theorem reservationsAgree_answered {s : State} (h : s.ReservationsAgree) (d : Dispatch)
    (answer : Answer) (now : Time) :
    (assignResponseCallback d answer now s).ReservationsAgree := by
  unfold assignResponseCallback
  split
  · exact h
  cases answer with
  | exception what => exact AgreeOnReserved.erase h d.robotId
  | response r =>
    dsimp only
    split
    · exact h
    · exact AgreeOnReserved.erase h d.robotId

theorem reservationsAgree_cleared {cfg : Config} {now : Time} {s t : State}
    (h : s.ReservationsAgree) (ht : Cleared cfg now s t) : t.ReservationsAgree := by
  unfold State.ReservationsAgree
  rcases ht.freed.reservations with ⟨hrobots, htimes⟩ | ⟨hrobots, htimes⟩
  · rw [hrobots, htimes]
    exact h
  · rw [hrobots, htimes]
    exact AgreeOnReserved.erase h s.dispatchRobotId

theorem reservationsAgree_fleetState {s : State} (h : s.ReservationsAgree) (cfg : Config)
    (message : FleetState) (now : Time)
    (visit : List (Sigma fun _ : String => ActiveMission)) :
    (fleetStateCallback cfg message now visit s).ReservationsAgree := by
  set updated := updateRobotReservationsLocked cfg now
    { s with latestFleetState := message, receivedFleetState := true }
  have hupdated : updated.ReservationsAgree :=
    AgreeOnReserved.updateReservations h cfg now message.robots
  have hkeeps : KeepsSlot updated (fleetStateCallback cfg message now visit s) :=
    keepsSlot_reconcile cfg now visit updated
  unfold State.ReservationsAgree
  rw [hkeeps.reservedRobots, hkeeps.reservationTimes]
  exact hupdated

theorem reservationsAgree_step {cfg : Config} {w v : World} {e : Event}
    (h : w.node.ReservationsAgree) (hs : w.step cfg e = some v) : v.node.ReservationsAgree := by
  cases e with
  | systemReady data =>
    cases hs
    exact h
  | fleetState message now visit =>
    simp only [World.step] at hs
    split at hs
    · cases hs
      exact reservationsAgree_fleetState h cfg message now visit
    · cases hs
  | queueMission request now =>
    cases hs
    unfold handleQueueMission
    split <;> exact h
  | cancelMission missionId now =>
    cases hs
    unfold handleCancelMission
    split
    · exact h
    split <;> exact h
  | dispatchPatrol now =>
    cases hs
    exact h
  | recurringPatrol now =>
    simp only [World.step] at hs
    split at hs
    · cases hs
      exact h
    · cases hs
  | processQueue now ready =>
    simp only [World.step, Option.some.injEq] at hs
    obtain ⟨t, ht, hnone | ⟨mission, robot, _, _, _, _, _, hsend⟩⟩ :=
      processQueue_cases cfg now ready w.node
    · rw [hnone] at hs
      subst hs
      exact reservationsAgree_cleared h ht
    · rw [hsend] at hs
      subst hs
      exact AgreeOnReserved.insert (reservationsAgree_cleared h ht) robot.robotId now
  | assignResponse d answer now =>
    simp only [World.step] at hs
    split at hs
    · cases hs
      exact reservationsAgree_answered h d answer now
    · cases hs

theorem reachable_reservationsAgree {cfg : Config} {startedAt : Time} {w : World}
    (h : (machine cfg startedAt).Reachable w) : w.node.ReservationsAgree := by
  refine Machine.Reachable.invariant (P := fun w : World => w.node.ReservationsAgree) ?_ ?_ h
  · intro robotId
    simp [machine, State.init, publishQueueState]
  · exact fun u e v hu hstep => reservationsAgree_step hu hstep

/-! ### Reservations run out -/

section

variable {cfg : Config} {now : Time} {robots : Finset String} {times : UnorderedMap String Time}

/-- The time of every reservation is over at `now`. -/
def Expired (cfg : Config) (now : Time) (times : UnorderedMap String Time) : Prop :=
  ∀ robotId reservedAt, times.lookup robotId = some reservedAt →
    now - reservedAt > cfg.reservationTimeout

theorem Expired.erase (h : Expired cfg now times) (robotId : String) :
    Expired cfg now (times.erase robotId) := by
  intro other reservedAt hlookup
  by_cases heq : other = robotId
  · subst heq
    simp at hlookup
  · rw [AList.lookup_erase_ne heq] at hlookup
    exact h other reservedAt hlookup

theorem updateReservation_times (cfg : Config) (now : Time) (robots : Finset String)
    (times : UnorderedMap String Time) (robot : FleetRobotState) :
    (updateReservation cfg now (robots, times) robot).2 = times ∨
      (updateReservation cfg now (robots, times) robot).2 = times.erase robot.robotId := by
  unfold updateReservation
  dsimp only
  split
  · exact Or.inl rfl
  split
  · exact Or.inr rfl
  split
  · exact Or.inr rfl
  · exact Or.inl rfl

theorem updateReservation_expired (h : Expired cfg now times) (robot : FleetRobotState) :
    robot.robotId ∉ (updateReservation cfg now (robots, times) robot).2 := by
  unfold updateReservation
  dsimp only
  split
  · rename_i hnone
    exact AList.lookup_eq_none.mp hnone
  · rename_i reservedAt hsome
    split
    · simp [AList.mem_erase]
    rw [if_pos (h robot.robotId reservedAt hsome)]
    simp [AList.mem_erase]

theorem updateReservations_absent (readings : List FleetRobotState) {robotId : String}
    (h : robotId ∉ times) :
    robotId ∉ (readings.foldl (updateReservation cfg now) (robots, times)).2 := by
  induction readings generalizing robots times with
  | nil => exact h
  | cons robot readings ih =>
    have hnext : robotId ∉ (updateReservation cfg now (robots, times) robot).2 := by
      rcases updateReservation_times cfg now robots times robot with heq | heq <;> rw [heq]
      · exact h
      · simp [AList.mem_erase, h]
    exact ih hnext

theorem updateReservations_expired (h : Expired cfg now times)
    {readings : List FleetRobotState} {robot : FleetRobotState} (hr : robot ∈ readings) :
    robot.robotId ∉ (readings.foldl (updateReservation cfg now) (robots, times)).2 := by
  induction readings generalizing robots times with
  | nil => simp at hr
  | cons head readings ih =>
    rcases List.mem_cons.mp hr with rfl | hr
    · exact updateReservations_absent readings (updateReservation_expired h robot)
    · have hnext : Expired cfg now (updateReservation cfg now (robots, times) head).2 := by
        rcases updateReservation_times cfg now robots times head with heq | heq <;> rw [heq]
        · exact h
        · exact h.erase head.robotId
      exact ih hnext hr

end

theorem exists_expired (cfg : Config) (times : UnorderedMap String Time) :
    ∃ expiry, ∀ now, expiry < now → Expired cfg now times := by
  obtain ⟨latest, hlatest⟩ := (times.entries.map (·.2)).toFinset.exists_le
  refine ⟨latest + cfg.reservationTimeout, fun now hnow robotId reservedAt hlookup => ?_⟩
  have hentry : ⟨robotId, reservedAt⟩ ∈ times.entries := AList.mem_lookup_iff.mp hlookup
  have hmem : reservedAt ∈ (times.entries.map (·.2)).toFinset :=
    List.mem_toFinset.mpr (List.mem_map_of_mem hentry)
  have hle : reservedAt ≤ latest := hlatest reservedAt hmem
  exact lt_sub_iff_add_lt'.mpr (lt_of_le_of_lt (Int.add_le_add_right hle _) hnow)

/-! ### A free slot and a free robot -/

/-- What `select_robot` asks of a robot, its reservation apart. -/
structure Eligible (cfg : Config) (robot : FleetRobotState) : Prop where
  online : robot.online = true
  notOffline : robot.confirmedOffline = false
  localized : robot.localizationOk = true
  available : robot.state = RobotHeartbeat.stateIdle ∨ robot.state = RobotHeartbeat.stateError
  battery : cfg.minimumBatteryPercentage ≤ robot.batteryPercentage

theorem isCandidate_iff {cfg : Config} {s : State} {robot : FleetRobotState} :
    isCandidate cfg s robot = true ↔ Eligible cfg robot ∧ robot.robotId ∉ s.reservedRobots := by
  simp only [isCandidate, Bool.and_eq_true, Bool.not_eq_true', decide_eq_true_eq,
    decide_eq_false_iff_not]
  constructor
  · rintro ⟨⟨⟨⟨⟨ho, hn⟩, hl⟩, ha⟩, hb⟩, hr⟩
    exact ⟨⟨ho, hn, hl, ha, hb⟩, hr⟩
  · rintro ⟨⟨ho, hn, hl, ha, hb⟩, hr⟩
    exact ⟨⟨⟨⟨⟨ho, hn⟩, hl⟩, ha⟩, hb⟩, hr⟩

theorem selectRobot_isSome {cfg : Config} {s : State} {robot : FleetRobotState}
    (hreceived : s.receivedFleetState = true) (hr : robot ∈ s.latestFleetState.robots)
    (hc : isCandidate cfg s robot = true) : (selectRobot cfg s).isSome = true := by
  have hmem : robot ∈ s.latestFleetState.robots.filter (isCandidate cfg s) :=
    List.mem_filter.mpr ⟨hr, hc⟩
  obtain ⟨first, rest, hcons⟩ := List.exists_cons_of_ne_nil (List.ne_nil_of_mem hmem)
  simp [selectRobot, hreceived, hcons, maxElement]

theorem isCandidate_reclaim {cfg : Config} {s : State} {robot : FleetRobotState}
    (h : isCandidate cfg s robot = true) : isCandidate cfg (reclaim s) robot = true := by
  obtain ⟨he, hr⟩ := isCandidate_iff.mp h
  refine isCandidate_iff.mpr ⟨he, ?_⟩
  rcases (reclaim_freed s).reservations with ⟨hrobots, _⟩ | ⟨hrobots, _⟩ <;> rw [hrobots]
  · exact hr
  · exact fun hmem => hr (Finset.mem_of_mem_erase hmem)

/-- With the slot free or overdue, a queued mission and a candidate, a tick of
`process_queue` sends a request. -/
theorem processQueue_sends {cfg : Config} {now : Time} {s : State} {robot : FleetRobotState}
    (hready : s.systemReady = true) (hqueue : s.missionQueue ≠ [])
    (hslot : s.dispatchInProgress = true → cfg.dispatchTimeout ≤ now - s.dispatchStartedAt)
    (hreceived : s.receivedFleetState = true) (hr : robot ∈ s.latestFleetState.robots)
    (hc : isCandidate cfg s robot = true) :
    ∃ d, (processQueue cfg now true s).2 = some d := by
  have hfree : ∃ t, reclaimDispatch cfg now s = some t ∧ t.missionQueue = s.missionQueue ∧
      (selectRobot cfg t).isSome = true := by
    unfold reclaimDispatch
    split
    · rename_i hp
      have hfreed := reclaim_freed s
      refine ⟨reclaim s, if_neg (not_lt.mpr (hslot hp)), hfreed.missionQueue, ?_⟩
      exact selectRobot_isSome (hfreed.receivedFleetState.trans hreceived)
        (hfreed.latestFleetState ▸ hr) (isCandidate_reclaim hc)
    · exact ⟨s, rfl, rfl, selectRobot_isSome hreceived hr hc⟩
  obtain ⟨t, ht, htqueue, htrobot⟩ := hfree
  obtain ⟨mission, rest, hcons⟩ := List.exists_cons_of_ne_nil hqueue
  obtain ⟨chosen, hchosen⟩ := Option.isSome_iff_exists.mp htrobot
  have hnext : getNextMission t = some mission := by simp [getNextMission, htqueue, hcons]
  refine ⟨(sendDispatch mission chosen now t).2, ?_⟩
  simp [processQueue, hready, ht, hnext, hchosen]

/-- A reading that comes after all reservations are over frees the robots it lists. -/
theorem fleetState_candidate {cfg : Config} {now : Time} {s : State} {message : FleetState}
    (visit : List (Sigma fun _ : String => ActiveMission)) (hagree : s.ReservationsAgree)
    (hexpired : Expired cfg now s.reservationTimes) {robot : FleetRobotState}
    (hr : robot ∈ message.robots) (he : Eligible cfg robot) :
    let t := fleetStateCallback cfg message now visit s
    t.receivedFleetState = true ∧ t.latestFleetState = message ∧
      isCandidate cfg t robot = true := by
  intro t
  set updated := updateRobotReservationsLocked cfg now
    { s with latestFleetState := message, receivedFleetState := true }
  have hkeeps : KeepsSlot updated t := keepsSlot_reconcile cfg now visit updated
  have hagrees : t.ReservationsAgree := reservationsAgree_fleetState hagree cfg message now visit
  have habsent : robot.robotId ∉ t.reservationTimes := by
    rw [hkeeps.reservationTimes]
    exact updateReservations_expired hexpired hr
  refine ⟨hkeeps.receivedFleetState, hkeeps.latestFleetState, ?_⟩
  exact isCandidate_iff.mpr ⟨he, fun hmem => habsent ((hagrees robot.robotId).mp hmem)⟩

theorem dispatch_not_wedged {cfg : Config} {startedAt : Time} {w : World}
    (h : (machine cfg startedAt).Reachable w) :
    w.node.ReservationsAgree ∧
    (w.node.systemReady = true → w.node.missionQueue ≠ [] →
      ∃ t₀, ∀ now > t₀, ∀ later ≥ now, ∀ message visit robot,
        w.node.activeMissions.VisitOrder visit → robot ∈ message.robots → Eligible cfg robot →
        ∃ u v d, w.step cfg (.fleetState message now visit) = some u ∧
          u.step cfg (.processQueue later true) = some v ∧ v.calls = d :: w.calls) := by
  have hagree := reachable_reservationsAgree h
  refine ⟨hagree, fun hready hqueue => ?_⟩
  obtain ⟨expiry, hexpiry⟩ := exists_expired cfg w.node.reservationTimes
  refine ⟨max expiry (w.node.dispatchStartedAt + cfg.dispatchTimeout), ?_⟩
  intro now hnow later hlater message visit robot hv hr he
  obtain ⟨hafter, hover⟩ := max_lt_iff.mp hnow
  set node := fleetStateCallback cfg message now visit w.node
  obtain ⟨hreceived, hlatest, hcandidate⟩ :=
    fleetState_candidate visit hagree (hexpiry now hafter) hr he
  have hkeeps : KeepsSlot _ node := keepsSlot_reconcile cfg now visit
    (updateRobotReservationsLocked cfg now
      { w.node with latestFleetState := message, receivedFleetState := true })
  have hkept : w.node.missionQueue ⊆ node.missionQueue := missionQueue_reconcile cfg now visit
    (updateRobotReservationsLocked cfg now
      { w.node with latestFleetState := message, receivedFleetState := true })
  have hqueue' : node.missionQueue ≠ [] := by
    obtain ⟨mission, hm⟩ := List.exists_mem_of_ne_nil _ hqueue
    exact List.ne_nil_of_mem (hkept hm)
  have hslot : node.dispatchInProgress = true →
      cfg.dispatchTimeout ≤ later - node.dispatchStartedAt := by
    intro _
    rw [hkeeps.dispatchStartedAt]
    exact Int.le_sub_left_of_add_le (Int.le_of_lt (lt_of_lt_of_le hover hlater))
  obtain ⟨d, hd⟩ := processQueue_sends (hkeeps.systemReady.trans hready) hqueue' hslot hreceived
    (hlatest ▸ hr) hcandidate
  refine ⟨⟨node, w.calls⟩, ⟨(processQueue cfg later true node).1, d :: w.calls⟩, d, ?_, ?_, rfl⟩
  · exact if_pos hv
  · simp [World.step, hd]

theorem dispatch_not_wedged_dispatched :
    let message : FleetState := ⟨seconds 60,
      [⟨"robot1", true, false, RobotHeartbeat.stateIdle, 80, true, "", seconds 59⟩]⟩
    dispatchedWorld.node.dispatchInProgress = true ∧
      "robot1" ∈ dispatchedWorld.node.reservedRobots ∧
    ∃ t₀, ∀ now > t₀, ∃ u v d,
      dispatchedWorld.step {} (.fleetState message now []) = some u ∧
        u.step {} (.processQueue now true) = some v ∧ v.calls = d :: dispatchedWorld.calls := by
  intro message
  refine ⟨by decide, by decide, ?_⟩
  have hreach : (machine {} 0).Reachable dispatchedWorld := (machine {} 0).reachable_get _
  obtain ⟨t₀, hsends⟩ := (dispatch_not_wedged hreach).2 (by decide) (by decide)
  refine ⟨t₀, fun now hnow => ?_⟩
  refine hsends now hnow now (Int.le_refl _) message [] _ (by decide) List.mem_cons_self ?_
  exact ⟨rfl, rfl, rfl, Or.inl rfl, by decide⟩

end PatrolFleet.Scheduler
