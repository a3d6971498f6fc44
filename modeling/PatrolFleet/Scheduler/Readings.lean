import PatrolFleet.Scheduler.Order
import PatrolFleet.Scheduler.Progress

/-!
What the scheduler goes by of the messages it hears: the last `/system/ready` and the
last `/fleet/state`.
-/

set_option autoImplicit false

namespace PatrolFleet.Scheduler

namespace Event

def hearsReady : Event → Option Bool
  | .systemReady data => some data
  | _ => none

def hearsFleetState : Event → Option FleetState
  | .fleetState message _ _ => some message
  | _ => none

end Event

/-- What was heard is the same. -/
structure SameReadings (s t : State) : Prop where
  systemReady : t.systemReady = s.systemReady
  latestFleetState : t.latestFleetState = s.latestFleetState

theorem processQueue_sameReadings (cfg : Config) (now : Time) (ready : Bool) (s : State) :
    SameReadings s (processQueue cfg now ready s).1 := by
  obtain ⟨t, ht, hnone | ⟨mission, robot, _, _, _, _, _, hsent⟩⟩ :=
    processQueue_cases cfg now ready s
  · rw [hnone]
    exact ⟨ht.freed.systemReady, ht.freed.latestFleetState⟩
  · rw [hsent]
    exact ⟨ht.freed.systemReady, ht.freed.latestFleetState⟩

theorem assignResponseCallback_sameReadings (d : Dispatch) (answer : Answer) (now : Time)
    (s : State) : SameReadings s (assignResponseCallback d answer now s) := by
  unfold assignResponseCallback
  split
  · exact ⟨rfl, rfl⟩
  · cases answer with
    | exception what => exact ⟨rfl, rfl⟩
    | response r =>
      dsimp only
      split <;> exact ⟨rfl, rfl⟩

/-- Only the two subscriptions change what the scheduler goes by. -/
theorem step_readings {cfg : Config} {w v : World} {e : Event} (h : w.step cfg e = some v) :
    v.node.systemReady = e.hearsReady.getD w.node.systemReady ∧
      v.node.latestFleetState = e.hearsFleetState.getD w.node.latestFleetState := by
  have hsame : SameReadings w.node v.node → e.hearsReady = none → e.hearsFleetState = none →
      v.node.systemReady = e.hearsReady.getD w.node.systemReady ∧
        v.node.latestFleetState = e.hearsFleetState.getD w.node.latestFleetState := by
    intro hsame hready hfleet
    rw [hready, hfleet]
    exact ⟨hsame.systemReady, hsame.latestFleetState⟩
  cases e with
  | systemReady data =>
    cases h
    exact ⟨rfl, rfl⟩
  | fleetState message now visit =>
    simp only [World.step] at h
    split at h <;> cases h
    have hkeeps := keepsSlot_reconcile cfg now visit (updateRobotReservationsLocked cfg now
      { w.node with latestFleetState := message, receivedFleetState := true })
    exact ⟨hkeeps.systemReady, hkeeps.latestFleetState⟩
  | queueMission request now =>
    cases h
    refine hsame ?_ rfl rfl
    unfold handleQueueMission
    split <;> exact ⟨rfl, rfl⟩
  | cancelMission missionId now =>
    cases h
    refine hsame ?_ rfl rfl
    unfold handleCancelMission
    split
    · exact ⟨rfl, rfl⟩
    · split <;> exact ⟨rfl, rfl⟩
  | dispatchPatrol now =>
    cases h
    exact ⟨rfl, rfl⟩
  | recurringPatrol now =>
    simp only [World.step] at h
    split at h <;> cases h
    exact ⟨rfl, rfl⟩
  | processQueue now ready =>
    cases h
    exact hsame (processQueue_sameReadings cfg now ready w.node) rfl rfl
  | assignResponse d answer now =>
    simp only [World.step] at h
    split at h <;> cases h
    exact hsame (assignResponseCallback_sameReadings d answer now w.node) rfl rfl

theorem sends_ready {cfg : Config} {w v : World} {e : Event} {d : Dispatch}
    (h : w.step cfg e = some v) (hd : v.calls = d :: w.calls) : w.node.systemReady = true := by
  have hmore : v.calls.length = w.calls.length + 1 := by rw [hd, List.length_cons]
  cases e with
  | processQueue now ready =>
    simp only [World.step, Option.some.injEq] at h
    obtain ⟨t, _, hnone | ⟨mission, robot, hready, _⟩⟩ := processQueue_cases cfg now ready w.node
    · rw [hnone] at h
      subst h
      simp at hmore
    · exact hready
  | assignResponse d' answer now =>
    simp only [World.step] at h
    split at h <;> cases h
    have hless : (w.calls.erase d').length ≤ w.calls.length := List.length_erase_le
    dsimp only at hmore
    omega
  | fleetState | recurringPatrol =>
    simp only [World.step] at h
    split at h <;> cases h
    simp at hmore
  | _ =>
    cases h
    simp at hmore

/-- The entry of a robot that a mission may be sent to. -/
structure Fit (cfg : Config) (robot : FleetRobotState) : Prop where
  online : robot.online = true
  notOffline : robot.confirmedOffline = false
  localizationOk : robot.localizationOk = true
  state : robot.state = RobotHeartbeat.stateIdle ∨ robot.state = RobotHeartbeat.stateError
  battery : cfg.minimumBatteryPercentage ≤ robot.batteryPercentage

theorem dispatched_fit {cfg : Config} {now : Time} {ready : Bool} {s : State} {d : Dispatch}
    (h : (processQueue cfg now ready s).2 = some d) :
    ∃ robot ∈ s.latestFleetState.robots, robot.robotId = d.robotId ∧ Fit cfg robot := by
  obtain ⟨t, ht, hnone | ⟨mission, robot, _, _, _, _, hselect, hsend⟩⟩ :=
    processQueue_cases cfg now ready s
  · simp [hnone] at h
  · rw [hsend] at h
    cases h
    obtain ⟨before, best, after, hrobots, hid, hcandidate, _⟩ := selectRobot_best hselect
    rw [ht.freed.latestFleetState] at hrobots
    refine ⟨best, by rw [hrobots]; simp, hid, ?_⟩
    simp only [isCandidate, Bool.and_eq_true, decide_eq_true_eq, Bool.not_eq_true',
      ge_iff_le] at hcandidate
    obtain ⟨⟨⟨⟨⟨honline, hoffline⟩, hok⟩, hstate⟩, hbattery⟩, _⟩ := hcandidate
    exact ⟨honline, hoffline, hok, hstate, hbattery⟩

end PatrolFleet.Scheduler
