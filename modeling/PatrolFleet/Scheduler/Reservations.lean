import PatrolFleet.Scheduler.Readings

/-!
A robot that was sent a request is reserved: until something releases it, no other
request goes to it.
-/

set_option autoImplicit false

namespace PatrolFleet.Scheduler

/-- The callback ends the reservation that was made for `d` at the time `since`: the
fleet state shows the robot at something else than idling, or the reservation has
expired; the fleet manager refuses `d`; or its answer is overdue when the system is ready. -/
def Releases (cfg : Config) (d : Dispatch) (since : Time) (w : World) : Event → Prop
  | .fleetState message now _ => ∃ robot ∈ message.robots, robot.robotId = d.robotId ∧
      (robot.state ≠ RobotHeartbeat.stateIdle ∨ now - since > cfg.reservationTimeout)
  | .assignResponse other answer _ =>
    other = d ∧ d.generation = w.node.dispatchGeneration ∧ answer.accepts = false
  | .processQueue now _ => w.node.systemReady = true ∧ d ∈ w.calls ∧
      d.generation = w.node.dispatchGeneration ∧ w.node.dispatchInProgress = true ∧
      now - since ≥ cfg.dispatchTimeout
  | _ => False

/-- The robot is reserved since `since`, and if its request holds the slot, it is `d`. -/
structure World.Reserves (w : World) (d : Dispatch) (since : Time) : Prop where
  reserved : d.robotId ∈ w.node.reservedRobots
  reservedAt : w.node.reservationTimes.lookup d.robotId = some since
  later : d.generation ≤ w.node.dispatchGeneration
  slot : w.node.dispatchInProgress = true → w.node.dispatchRobotId = d.robotId →
    w.node.dispatchGeneration = d.generation ∧ w.node.dispatchStartedAt = since ∧ d ∈ w.calls
  current : ∀ other ∈ w.calls, other.generation = w.node.dispatchGeneration →
    other.robotId = d.robotId → other = d

section

variable {cfg : Config} {d : Dispatch} {since : Time} {w v : World} {e : Event} {s t u : State}

theorem World.Reserves.congr (h : w.Reserves d since) (hsame : SameSlot w.node t) :
    World.Reserves ⟨t, w.calls⟩ d since := by
  obtain ⟨hreserved, htimes, hprogress, hstarted, hgeneration, hrobot⟩ := hsame
  refine ⟨?_, ?_, ?_, ?_, ?_⟩ <;> dsimp only
  · rw [hreserved]
    exact h.reserved
  · rw [htimes]
    exact h.reservedAt
  · rw [hgeneration]
    exact h.later
  · rw [hprogress, hrobot, hgeneration, hstarted]
    exact h.slot
  · rw [hgeneration]
    exact h.current

/-! ### Fleet states -/

theorem updateReservations_kept {now : Time} {robotId : String} {readings : List FleetRobotState}
    {acc : Finset String × UnorderedMap String Time} (hreserved : robotId ∈ acc.1)
    (htime : acc.2.lookup robotId = some since)
    (hkept : ∀ robot ∈ readings, robot.robotId = robotId →
      robot.state = RobotHeartbeat.stateIdle ∧ now - since ≤ cfg.reservationTimeout) :
    robotId ∈ (readings.foldl (updateReservation cfg now) acc).1 ∧
      (readings.foldl (updateReservation cfg now) acc).2.lookup robotId = some since := by
  induction readings generalizing acc with
  | nil => exact ⟨hreserved, htime⟩
  | cons robot readings ih =>
    obtain ⟨hrobot, hrest⟩ := List.forall_mem_cons.mp hkept
    have hone : robotId ∈ (updateReservation cfg now acc robot).1 ∧
        (updateReservation cfg now acc robot).2.lookup robotId = some since := by
      by_cases hid : robot.robotId = robotId
      · obtain ⟨hidle, hfresh⟩ := hrobot hid
        unfold updateReservation
        rw [hid, htime]
        dsimp only
        rw [if_neg (not_not.mpr hidle), if_neg (not_lt.mpr hfresh)]
        exact ⟨hreserved, htime⟩
      · have herased : robotId ∈ acc.1.erase robot.robotId ∧
            (acc.2.erase robot.robotId).lookup robotId = some since :=
          ⟨Finset.mem_erase.mpr ⟨Ne.symm hid, hreserved⟩,
            (AList.lookup_erase_ne (Ne.symm hid)).trans htime⟩
        unfold updateReservation
        split
        · exact ⟨hreserved, htime⟩
        split
        · exact herased
        split
        · exact herased
        · exact ⟨hreserved, htime⟩
    exact ih hone.1 hone.2 hrest

theorem World.Reserves.fleetState (h : w.Reserves d since) {message : FleetState} {now : Time}
    (visit : List (Sigma fun _ : String => ActiveMission))
    (hkept : ¬ Releases cfg d since w (.fleetState message now visit)) :
    World.Reserves ⟨fleetStateCallback cfg message now visit w.node, w.calls⟩ d since := by
  simp only [Releases, not_exists, not_and, not_or, not_not, not_lt] at hkept
  obtain ⟨hreserved, htime⟩ := @updateReservations_kept cfg since now d.robotId message.robots
    (w.node.reservedRobots, w.node.reservationTimes) h.reserved h.reservedAt hkept
  have hupdated : World.Reserves ⟨updateRobotReservationsLocked cfg now
      { w.node with latestFleetState := message, receivedFleetState := true }, w.calls⟩ d since :=
    ⟨hreserved, htime, h.later, h.slot, h.current⟩
  exact hupdated.congr (keepsSlot_reconcile cfg now visit _).toSameSlot

/-! ### Answers and ticks -/

theorem reserved_release {robotId : String} (hne : robotId ≠ d.robotId)
    (hreserved : d.robotId ∈ s.reservedRobots)
    (htime : s.reservationTimes.lookup d.robotId = some since) :
    d.robotId ∈ (releaseRobotReservation robotId s).reservedRobots ∧
      (releaseRobotReservation robotId s).reservationTimes.lookup d.robotId = some since :=
  ⟨Finset.mem_erase.mpr ⟨Ne.symm hne, hreserved⟩,
    (AList.lookup_erase_ne (Ne.symm hne)).trans htime⟩

theorem World.Reserves.answered (h : w.Reserves d since) {other : Dispatch} {answer : Answer}
    {now : Time} (hother : other ∈ w.calls)
    (hkept : ¬ Releases cfg d since w (.assignResponse other answer now)) :
    World.Reserves ⟨assignResponseCallback other answer now w.node, w.calls.erase other⟩ d
      since := by
  by_cases hg : other.generation = w.node.dispatchGeneration
  · have hfree : ∀ t : State, t.dispatchInProgress = false →
        t.dispatchGeneration = w.node.dispatchGeneration → d.robotId ∈ t.reservedRobots →
        t.reservationTimes.lookup d.robotId = some since →
        World.Reserves ⟨t, w.calls.erase other⟩ d since := by
      intro t hprogress hgeneration hreserved htime
      refine ⟨hreserved, htime, by rw [hgeneration]; exact h.later, fun hbusy => ?_, ?_⟩
      · rw [hprogress] at hbusy
        cases hbusy
      · dsimp only
        rw [hgeneration]
        exact fun d' hd' => h.current d' (List.mem_of_mem_erase hd')
    cases ha : answer.accepts with
    | true =>
      have hc := assignResponse_accepted hg ha now
      refine hfree _ hc.dispatchInProgress hc.dispatchGeneration ?_ ?_ <;>
        unfold assignResponseCallback <;> rw [if_neg (not_not.mpr hg)]
      all_goals
        cases answer with
        | exception what => cases ha
        | response r =>
          have hr : r.success = true := ha
          simp only [hr, if_true]
          first | exact h.reserved | exact h.reservedAt
    | false =>
      have hne : other.robotId ≠ d.robotId := by
        intro heq
        have hsame := h.current other hother hg heq
        exact hkept ⟨hsame, hsame ▸ hg, ha⟩
      have hc := assignResponse_refused hg ha now
      have hrelease := reserved_release hne h.reserved h.reservedAt
      refine hfree _ hc.dispatchInProgress hc.dispatchGeneration ?_ ?_ <;>
        unfold assignResponseCallback <;> rw [if_neg (not_not.mpr hg)]
      all_goals
        cases answer with
        | exception what => first | exact hrelease.1 | exact hrelease.2
        | response r =>
          have hr : r.success = false := ha
          simp only [hr, Bool.false_eq_true, if_false]
          first | exact hrelease.1 | exact hrelease.2
  · rw [assignResponse_stale hg]
    refine ⟨h.reserved, h.reservedAt, h.later, fun hbusy hrobot => ?_,
      fun d' hd' => h.current d' (List.mem_of_mem_erase hd')⟩
    obtain ⟨hgeneration, hstarted, hd⟩ := h.slot hbusy hrobot
    have hne : d ≠ other := by
      rintro rfl
      exact hg hgeneration.symm
    exact ⟨hgeneration, hstarted, (List.mem_erase_of_ne hne).mpr hd⟩

theorem World.Reserves.cleared (h : w.Reserves d since) (hw : w.Inv) {now : Time} {ready : Bool}
    (hc : Cleared cfg now w.node t)
    (hkept : ¬ Releases cfg d since w (.processQueue now ready)) :
    World.Reserves ⟨t, w.calls⟩ d since := by
  cases hc with
  | same => exact h
  | overdue hsystem hbusy hover =>
    have hne : w.node.dispatchRobotId ≠ d.robotId := by
      intro heq
      obtain ⟨hgeneration, hstarted, hd⟩ := h.slot hbusy heq
      exact hkept ⟨hsystem, hd, hgeneration.symm, hbusy, hstarted ▸ hover⟩
    have hr := reclaim_change w.node
    have hkeeps : d.robotId ∈ (reclaim w.node).reservedRobots ∧
        (reclaim w.node).reservationTimes.lookup d.robotId = some since := by
      rcases (reclaim_freed w.node).reservations with ⟨hrobots, htimes⟩ | ⟨hrobots, htimes⟩ <;>
        rw [hrobots, htimes]
      · exact ⟨h.reserved, h.reservedAt⟩
      · exact reserved_release (s := w.node) hne h.reserved h.reservedAt
    refine ⟨hkeeps.1, hkeeps.2, ?_, fun hbusy' => ?_, fun other ho heq => ?_⟩
    · dsimp only
      rw [hr.dispatchGeneration]
      exact h.later.trans (Nat.le_succ _)
    · dsimp only at hbusy'
      rw [hr.dispatchInProgress] at hbusy'
      cases hbusy'
    · have hle := hw.generation_le other ho
      dsimp only at heq
      rw [hr.dispatchGeneration] at heq
      omega

theorem World.Reserves.select_ne (h : w.Reserves d since) {robot : CandidateRobot}
    (hr : selectRobot cfg w.node = some robot) : d.robotId ≠ robot.robotId := by
  intro heq
  obtain ⟨_, reading, _, _, hid, hcandidate, _⟩ := selectRobot_best hr
  have hfree := (isCandidate_iff.mp hcandidate).2
  rw [hid, ← heq] at hfree
  exact hfree h.reserved

theorem World.Reserves.sent (h : w.Reserves d since) (hw : w.Inv) {mission : QueuedMission}
    {robot : CandidateRobot} (hr : selectRobot cfg w.node = some robot) (now : Time) :
    World.Reserves ⟨(sendDispatch mission robot now w.node).1,
      (sendDispatch mission robot now w.node).2 :: w.calls⟩ d since := by
  have hne := h.select_ne hr
  refine ⟨Finset.mem_insert_of_mem h.reserved, (AList.lookup_insert_ne hne).trans h.reservedAt,
    h.later.trans (Nat.le_succ _), fun _ hrobot => absurd hrobot.symm hne, fun other ho heq => ?_⟩
  rcases List.mem_cons.mp ho with rfl | ho
  · exact fun hrobot => absurd hrobot.symm hne
  · have hle := hw.generation_le other ho
    have hnew : other.generation = w.node.dispatchGeneration + 1 := heq
    omega

theorem reserves_step (h : w.Reserves d since) (hw : w.Inv) (hkept : ¬ Releases cfg d since w e)
    (hstep : w.step cfg e = some v) : v.Reserves d since := by
  cases e with
  | systemReady data =>
    cases hstep
    exact h.congr ⟨rfl, rfl, rfl, rfl, rfl, rfl⟩
  | fleetState message now visit =>
    simp only [World.step] at hstep
    split at hstep <;> cases hstep
    exact h.fleetState visit hkept
  | queueMission request now =>
    cases hstep
    refine h.congr ?_
    unfold handleQueueMission
    split <;> exact ⟨rfl, rfl, rfl, rfl, rfl, rfl⟩
  | cancelMission missionId now =>
    cases hstep
    refine h.congr ?_
    unfold handleCancelMission
    split
    · exact ⟨rfl, rfl, rfl, rfl, rfl, rfl⟩
    · split <;> exact ⟨rfl, rfl, rfl, rfl, rfl, rfl⟩
  | dispatchPatrol now =>
    cases hstep
    exact h.congr ⟨rfl, rfl, rfl, rfl, rfl, rfl⟩
  | recurringPatrol now =>
    simp only [World.step] at hstep
    split at hstep <;> cases hstep
    exact h.congr ⟨rfl, rfl, rfl, rfl, rfl, rfl⟩
  | processQueue now ready =>
    simp only [World.step, Option.some.injEq] at hstep
    obtain ⟨t, hc, hnone | ⟨mission, robot, _, _, _, _, hr, hsent⟩⟩ :=
      processQueue_cases cfg now ready w.node
    · rw [hnone] at hstep
      subst hstep
      exact h.cleared hw hc hkept
    · rw [hsent] at hstep
      subst hstep
      exact (h.cleared hw hc hkept).sent (hw.cleared hc) hr now
  | assignResponse other answer now =>
    simp only [World.step] at hstep
    split at hstep <;> cases hstep
    exact h.answered ‹_› hkept

theorem reserves_sent (hw : w.Inv) {now : Time} {ready : Bool}
    (hstep : w.step cfg (.processQueue now ready) = some v) (hd : v.calls = d :: w.calls) :
    v.Reserves d now := by
  have hlength := congrArg List.length hd
  simp only [World.step, Option.some.injEq] at hstep
  obtain ⟨t, hc, hnone | ⟨mission, robot, _, _, _, _, _, hsent⟩⟩ :=
    processQueue_cases cfg now ready w.node
  · rw [hnone] at hstep
    subst hstep
    simp at hlength
  · rw [hsent] at hstep
    subst hstep
    cases hd
    refine ⟨Finset.mem_insert_self .., AList.lookup_insert _, Nat.le_refl _,
      fun _ _ => ⟨rfl, rfl, List.mem_cons_self⟩, fun other ho heq _ => ?_⟩
    rcases List.mem_cons.mp ho with rfl | ho
    · rfl
    · have hle : other.generation ≤ t.dispatchGeneration :=
        (hw.cleared hc).generation_le other ho
      have hnew : other.generation = t.dispatchGeneration + 1 := heq
      omega

theorem World.Reserves.sends_ne (h : w.Reserves d since) (hw : w.Inv) {now : Time} {ready : Bool}
    (hkept : ¬ Releases cfg d since w (.processQueue now ready))
    (hstep : w.step cfg (.processQueue now ready) = some v) {other : Dispatch}
    (hsent : v.calls = other :: w.calls) : d.robotId ≠ other.robotId := by
  have hlength := congrArg List.length hsent
  simp only [World.step, Option.some.injEq] at hstep
  obtain ⟨t, hc, hnone | ⟨mission, robot, _, _, _, _, hr, hprocessed⟩⟩ :=
    processQueue_cases cfg now ready w.node
  · rw [hnone] at hstep
    subst hstep
    simp at hlength
  · rw [hprocessed] at hstep
    subst hstep
    cases hsent
    exact (h.cleared hw hc hkept).select_ne hr

/-- Between two requests to one robot there is a callback that ends the reservation for the
first, and up to the first such callback the robot stays reserved. -/
theorem rebooked_after_release {startedAt : Time} {es : List Event} {x : World} {d' : Dispatch}
    {now now' : Time} {ready ready' : Bool} (hu : (machine cfg startedAt).Reachable w)
    (hfirst : w.step cfg (.processQueue now ready) = some v) (hd : v.calls = d :: w.calls)
    {y : World} (hrun : (machine cfg startedAt).runFrom v es = some y)
    (hsecond : y.step cfg (.processQueue now' ready') = some x) (hd' : x.calls = d' :: y.calls)
    (hrobot : d'.robotId = d.robotId) :
    ∃ before e after z, es ++ [.processQueue now' ready'] = before ++ e :: after ∧
      (machine cfg startedAt).runFrom v before = some z ∧ Releases cfg d now z e ∧
      ∀ past u, past <+: before → (machine cfg startedAt).runFrom v past = some u →
        d.robotId ∈ u.node.reservedRobots := by
  have hinv := reachable_inv hu
  have hinv' : v.Inv := inv_step hinv (step_cases hfirst)
  have hstep : ∀ a e b, World.Inv a ∧ a.Reserves d now → ¬ Releases cfg d now a e →
      (machine cfg startedAt).step a e = some b → b.Inv ∧ b.Reserves d now := by
    intro a e b ha hkept hstep
    exact ⟨inv_step ha.1 (step_cases (w := a) hstep), reserves_step ha.2 ha.1 hkept hstep⟩
  have hstart : v.Inv ∧ v.Reserves d now := ⟨hinv', reserves_sent hinv hfirst hd⟩
  rcases Machine.kept_or_ended hstep hstart hrun with
    hall | ⟨before, e, after, z, rfl, hz, hends, hall⟩
  · obtain ⟨hinvy, hreserves⟩ := hall es y List.prefix_rfl hrun
    refine ⟨es, _, [], y, rfl, hrun, ?_, fun past u hp hu => (hall past u hp hu).2.reserved⟩
    by_contra hkept
    exact hreserves.sends_ne hinvy hkept hsecond hd' hrobot.symm
  · exact ⟨before, e, after ++ [.processQueue now' ready'], z, by simp, hz, hends,
      fun past u hp hu => (hall past u hp hu).2.reserved⟩

end

/-- A robot whose heartbeats do not show the mission that it was sent. -/
def silentRobot : FleetRobotState :=
  ⟨"robot1", true, false, RobotHeartbeat.stateIdle, 90, true, "", seconds 1⟩

def bookingRun : List Event :=
  [.systemReady true, .dispatchPatrol (seconds 1), .dispatchPatrol (seconds 1),
    .fleetState ⟨seconds 2, [silentRobot]⟩ (seconds 2) []]

def booked (missionId : String) (generation : Nat) : Dispatch :=
  ⟨missionId, "patrol", 0, {}, false, 0, "robot1", generation⟩

def bookingWorld : World := ((machine {} 0).run bookingRun).get (by decide +kernel)

def bookedWorld : World :=
  (bookingWorld.step {} (.processQueue (seconds 3) true)).get (by decide +kernel)

/-- The reservation expires while the mission is on the robot. -/
def expiringRun : List Event :=
  [.assignResponse (booked "mission-1" 1) (.response ⟨true, ""⟩) (seconds 4),
    .fleetState ⟨seconds 14, [silentRobot]⟩ (seconds 14)
      [⟨"robot1", (booked "mission-1" 1).activated (seconds 4)⟩]]

def expiredWorld : World :=
  ((machine {} 0).runFrom bookedWorld expiringRun).get (by decide +kernel)

def rebookedWorld : World :=
  (expiredWorld.step {} (.processQueue (seconds 15) true)).get (by decide +kernel)

theorem rebooked_after_release_expired :
    rebookedWorld.calls = booked "mission-2" 2 :: expiredWorld.calls ∧
    "mission-1" ∈ rebookedWorld.node.activeIds ∧
    ∃ before e after z, expiringRun ++ [.processQueue (seconds 15) true] = before ++ e :: after ∧
      (machine {} 0).runFrom bookedWorld before = some z ∧
      Releases {} (booked "mission-1" 1) (seconds 3) z e ∧
      ∀ past u, past <+: before → (machine {} 0).runFrom bookedWorld past = some u →
        "robot1" ∈ u.node.reservedRobots := by
  have hfirst : bookedWorld.calls = booked "mission-1" 1 :: bookingWorld.calls := by
    decide +kernel
  have hsecond : rebookedWorld.calls = booked "mission-2" 2 :: expiredWorld.calls := by
    decide +kernel
  refine ⟨hsecond, by decide +kernel, ?_⟩
  exact rebooked_after_release (Machine.reachable_get _ _) (Option.some_get _).symm hfirst
    (Option.some_get _).symm (Option.some_get _).symm hsecond rfl

end PatrolFleet.Scheduler
