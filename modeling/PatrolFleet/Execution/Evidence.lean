import PatrolFleet.Execution.Completion
import PatrolFleet.Fleet.Readings
import PatrolFleet.Scheduler.Readings

/-!
What a dispatch of the scheduler rests on: a fleet state that the fleet manager has
published, and a heartbeat that it had heard by then.
-/

set_option autoImplicit false

namespace PatrolFleet.Execution

open Fleet (Callback)
open Scheduler (Dispatch)

/-- The callback that the fleet manager runs on the event. -/
def World.fleetCallback (w : World) : Event → Option Callback
  | .coordination (.fleet e) => some (.other e)
  | .coordination (.assignMission d serviceIsReady now) =>
    some (.assignMission d.request serviceIsReady now)
  | .heartbeat robotId now =>
    (w.robots robotId).heartbeats.head?.map fun m => .other (.heartbeat robotId m.value now)
  | _ => none

/-- The callbacks of the fleet manager in the run. -/
def fleetCallbacks (cfg : Config) (startedAt : Time) (fleet : Fleet.State) (es : List Event) :
    List Callback :=
  (machine cfg startedAt fleet).outputs World.fleetCallback (machine cfg startedAt fleet).init es

/-- In the state `w` the scheduler sends the mission `d` on the event `e`. -/
def World.Dispatches (cfg : Config) (w : World) (e : Event) (d : Dispatch) : Prop :=
  ∃ now serviceIsReady, e = .coordination (.scheduler (.processQueue now serviceIsReady)) ∧
    (Scheduler.processQueue cfg.scheduler now serviceIsReady w.coordination.scheduler.node).2 =
      some d

/-- Of the robot, `message` was the last heartbeat, received at the time `heardAt`, when
the fleet state of the time `now` was published. -/
def LastHeard (callbacks : List Callback) (robotId : String) (message : RobotHeartbeat)
    (heardAt now : Time) : Prop :=
  ∃ before between after, callbacks = before ++ .other (.heartbeat robotId message heardAt) ::
      (between ++ .other (.publishFleetState now) :: after) ∧
    ∀ other at', .other (.heartbeat robotId other at') ∉ between

/-- The fleet states that are on the way, or that the scheduler goes by, were published. -/
structure World.Announced (w : World) : Prop where
  snapshots : ∀ snapshot ∈ w.fleetStates, snapshot.message ∈ w.coordination.fleet.ticks
  latest : w.coordination.scheduler.node.latestFleetState.robots = [] ∨
    w.coordination.scheduler.node.latestFleetState ∈ w.coordination.fleet.ticks

section

variable {cfg : Config} {w v : World} {e : Event} {c : Coordination.World}

/-! ### The steps -/

theorem coordination_callback {u : Coordination.World} {e : Coordination.Event}
    (h : u.step cfg.scheduler cfg.fleet e = some c) (he : fromSubscription e = false) :
    c.fleet = (w.fleetCallback (.coordination e)).elim u.fleet (u.fleet.call cfg.fleet) ∧
      c.scheduler.node.latestFleetState = u.scheduler.node.latestFleetState := by
  cases Coordination.step_cases h with
  | @scheduler e _ _ hstep =>
    refine ⟨rfl, ((Scheduler.step_readings hstep).2).trans ?_⟩
    cases e with
    | fleetState message now visit => cases he
    | _ => rfl
  | fleet e => exact ⟨rfl, rfl⟩
  | assignMission _ hhandled =>
    subst hhandled
    exact ⟨rfl, rfl⟩
  | response _ hstep => exact ⟨rfl, (Scheduler.step_readings hstep).2⟩
  | exception hstep => exact ⟨rfl, (Scheduler.step_readings hstep).2⟩

theorem step_fleetCallback (h : w.step cfg e = some v) :
    v.coordination.fleet =
      (w.fleetCallback e).elim w.coordination.fleet (w.coordination.fleet.call cfg.fleet) := by
  cases e with
  | coordination e =>
    simp only [World.step] at h
    split at h
    · cases h
    · rename_i he
      obtain ⟨c, hc, rfl⟩ := Option.map_eq_some_iff.mp h
      rw [World.advance, (routed_foldr _ _).coordination]
      exact (coordination_callback hc (Bool.not_eq_true _ ▸ he)).1
  | heartbeat robotId now =>
    simp only [World.step] at h
    split at h
    · cases h
    · rename_i m queue hqueue
      split at h
      · obtain ⟨c, hc, rfl⟩ := Option.map_eq_some_iff.mp h
        cases hc
        simp only [World.fleetCallback, hqueue]
        rfl
      · cases h
  | fleetStateLost => cases step_turn h <;> rfl
  | fleetState now visit => cases step_turn h <;> rfl
  | _ => cases step_turn h; rfl

theorem ticks_subset_call (callback : Callback) (s : Fleet.State) :
    s.ticks ⊆ (s.call cfg.fleet callback).ticks := by
  intro message hm
  rw [Fleet.State.ticks, (Fleet.effect_call cfg.fleet callback s).sentSince_eq.1,
    List.filterMap_append]
  exact List.mem_append_right _ hm

theorem step_ticks (h : w.step cfg e = some v) :
    w.coordination.fleet.ticks ⊆ v.coordination.fleet.ticks := by
  rw [step_fleetCallback h]
  cases w.fleetCallback e with
  | none => exact List.Subset.refl _
  | some callback => exact ticks_subset_call callback _

theorem sentSince_ticks {s t : Fleet.State} {message : FleetState}
    (h : .fleetState message ∈ Fleet.sentSince s t) : message ∈ t.ticks :=
  List.mem_filterMap.mpr ⟨.fleetState message, List.mem_of_mem_take h, rfl⟩

theorem announced_step (h : w.Announced) (hstep : w.step cfg e = some v) : v.Announced := by
  have hticks := step_ticks hstep
  have hkept : v.coordination.scheduler.node.latestFleetState =
      w.coordination.scheduler.node.latestFleetState → v.fleetStates ⊆ w.fleetStates →
      v.Announced := by
    intro hlatest hqueue
    refine ⟨fun snapshot hm => hticks (h.snapshots snapshot (hqueue hm)), ?_⟩
    rw [hlatest]
    exact h.latest.imp_right fun hm => hticks hm
  cases step_turn hstep with
  | @coordination e c he hc =>
    have hrouted := routed_foldr (Fleet.sentSince w.coordination.fleet c.fleet)
      { w with coordination := c }
    refine ⟨fun snapshot hm => ?_, ?_⟩
    · rcases hrouted.snapshots snapshot hm with hold | ⟨message, hmessage, rfl⟩
      · exact hticks (h.snapshots snapshot hold)
      · have hnew := sentSince_ticks hmessage
        rwa [World.advance, hrouted.coordination]
    · have hsame : (w.advance c).coordination.scheduler.node.latestFleetState =
          w.coordination.scheduler.node.latestFleetState := by
        rw [World.advance, hrouted.coordination]
        exact (@coordination_callback cfg w c _ _ hc he).2
      rw [hsame]
      exact h.latest.imp_right fun hm => hticks hm
  | @fleetState now visit snapshot queue scheduler hqueue hs =>
    refine ⟨fun other hm => hticks (h.snapshots other (hqueue ▸ List.mem_cons_of_mem _ hm)), ?_⟩
    have hlatest : scheduler.node.latestFleetState = snapshot.message :=
      (Scheduler.step_readings hs).2
    have hm := h.snapshots snapshot (hqueue ▸ List.mem_cons_self ..)
    rw [← hlatest] at hm
    exact .inr (hticks hm)
  | heartbeat hqueue => exact hkept rfl (List.Subset.refl _)
  | robot => exact hkept rfl (List.Subset.refl _)
  | lost hkeeps => exact hkept rfl hkeeps.subset

end

/-! ### The runs -/

section

variable {cfg : Config} {startedAt : Time} {store : Fleet.MissionStore} {fleet : Fleet.State}
  {es : List Event} {w : World}

theorem reachable_announced (h : (machine cfg startedAt fleet).Reachable w) : w.Announced :=
  h.invariant (P := World.Announced) ⟨fun _ hm => by simp [machine] at hm, .inl rfl⟩
    fun _ _ _ hs hstep => announced_step hs hstep

theorem run_fleetCallbacks (h : (machine cfg startedAt fleet).run es = some w) :
    (Fleet.callbacks cfg.fleet fleet).run (fleetCallbacks cfg startedAt fleet es) =
      some w.coordination.fleet := by
  induction es using List.reverseRecOn generalizing w with
  | nil =>
    cases h
    rfl
  | append_singleton es e ih =>
    obtain ⟨u, hu, hstep⟩ := (machine cfg startedAt fleet).run_concat_inv h
    have hfleet := step_fleetCallback hstep
    rw [fleetCallbacks, (machine cfg startedAt fleet).outputs_concat hu hstep]
    cases hcallback : u.fleetCallback e with
    | none =>
      rw [hcallback] at hfleet
      rw [Option.toList_none, List.append_nil, hfleet]
      exact ih hu
    | some callback =>
      rw [hcallback] at hfleet
      exact (Fleet.callbacks cfg.fleet fleet).run_concat (ih hu) (hfleet ▸ rfl)

end

/-- An entry of a published fleet state that has the robot online copies a heartbeat. -/
theorem lastHeard_of_entry {callbacks : List Callback} {fcfg : Fleet.Config}
    {store : Fleet.MissionStore} {fleet s : Fleet.State}
    (hinit : Fleet.State.init fcfg store = .ok fleet)
    (hrun : (Fleet.callbacks fcfg fleet).run callbacks = some s) {message : FleetState}
    (hm : message ∈ s.ticks) {robot : FleetRobotState} (hrobot : robot ∈ message.robots)
    (honline : robot.online = true) :
    ∃ heartbeat heardAt, LastHeard callbacks robot.robotId heartbeat heardAt message.stamp ∧
      message.stamp - heardAt ≤ fcfg.heartbeatTimeout ∧
      robot.state = heartbeat.state ∧ robot.batteryPercentage = heartbeat.batteryPercentage ∧
      robot.localizationOk = heartbeat.localizationOk := by
  obtain ⟨before, after, rfl, hrobots⟩ := Fleet.run_published hinit hrun hm
  obtain ⟨id, _, hentry⟩ := List.mem_map.mp (hrobots ▸ List.mem_map_of_mem hrobot)
  have hheard : robot.online = ((Fleet.lastReading id before).receivedHeartbeat &&
      decide (message.stamp - (Fleet.lastReading id before).lastHeartbeat ≤
        fcfg.heartbeatTimeout)) := (congrArg FleetRobotState.online hentry).symm
  cases hlast : Latest.latest (Callback.reading id) before with
  | none =>
    rw [Fleet.lastReading, hlast, honline] at hheard
    cases hheard
  | some x =>
    obtain ⟨early, callback, between, rfl, hx, hnone⟩ := Latest.latest_eq_some.mp hlast
    obtain ⟨heartbeat, heardAt, rfl, rfl⟩ := Callback.reading_eq_some hx
    rw [Fleet.lastReading, hlast] at hheard hentry
    have hid : id = robot.robotId := congrArg FleetRobotState.robotId hentry
    subst hid
    refine ⟨heartbeat, heardAt, ⟨early, between, after, by simp, fun other at' hmem => ?_⟩, ?_,
      (congrArg FleetRobotState.state hentry).symm,
      (congrArg FleetRobotState.batteryPercentage hentry).symm,
      (congrArg FleetRobotState.localizationOk hentry).symm⟩
    · simpa [Callback.reading] using hnone _ hmem
    · rw [honline] at hheard
      simpa [Fleet.heard] using hheard.symm

/-- Whatever the order of the callbacks and the delays of the messages, a mission is sent to
a robot only on a published fleet state in which the last heartbeat of the robot was no older
than its timeout, and of a free robot that knows where it is and has battery enough. -/
theorem dispatch_rests_on_heartbeat {cfg : Config} {startedAt : Time} {store : Fleet.MissionStore}
    {fleet : Fleet.State}
    (hinit : Fleet.State.init cfg.fleet store = .ok fleet) {es : List Event} {w : World} {e : Event}
    {d : Dispatch} (hrun : (machine cfg startedAt fleet).run es = some w)
    (hd : w.Dispatches cfg e d) :
    ∃ heartbeat heardAt,
      LastHeard (fleetCallbacks cfg startedAt fleet es) d.robotId heartbeat heardAt
        w.coordination.scheduler.node.latestFleetState.stamp ∧
      w.coordination.scheduler.node.latestFleetState.stamp - heardAt ≤
        cfg.fleet.heartbeatTimeout ∧
      (heartbeat.state = RobotHeartbeat.stateIdle ∨
        heartbeat.state = RobotHeartbeat.stateError) ∧
      heartbeat.localizationOk = true ∧
      cfg.scheduler.minimumBatteryPercentage ≤ heartbeat.batteryPercentage := by
  obtain ⟨now, ready, rfl, hsent⟩ := hd
  obtain ⟨robot, hrobot, hid, hfit⟩ := Scheduler.dispatched_fit hsent
  have hannounced := (reachable_announced ⟨es, hrun⟩).latest
  rcases hannounced with hempty | hticks
  · rw [hempty] at hrobot
    cases hrobot
  · obtain ⟨heartbeat, heardAt, hlast, hfresh, hstate, hbattery, hok⟩ :=
      lastHeard_of_entry hinit (run_fleetCallbacks hrun) hticks hrobot hfit.online
    refine ⟨heartbeat, heardAt, hid ▸ hlast, hfresh, ?_, ?_, ?_⟩
    · rw [← hstate]
      exact hfit.state
    · rw [← hok]
      exact hfit.localizationOk
    · rw [← hbattery]
      exact hfit.battery

def queuedRun : List Event :=
  readyRun ++ [.coordination (.scheduler (.dispatchPatrol (seconds 2)))]

def queuedWorld : World := (manualMachine.run queuedRun).get (by decide +kernel)

/-- The first mission goes to `robot1`, by the one heartbeat it has sent. -/
theorem dispatch_rests_on_heartbeat_first : ∃ heartbeat heardAt,
    LastHeard (fleetCallbacks manualConfig 0 Coordination.shippedFleet queuedRun) "robot1" heartbeat
      heardAt queuedWorld.coordination.scheduler.node.latestFleetState.stamp ∧
    queuedWorld.coordination.scheduler.node.latestFleetState.stamp - heardAt ≤ seconds 3 ∧
    (heartbeat.state = RobotHeartbeat.stateIdle ∨ heartbeat.state = RobotHeartbeat.stateError) ∧
    heartbeat.localizationOk = true ∧ 20 ≤ heartbeat.batteryPercentage := by
  have hrun : manualMachine.run queuedRun = some queuedWorld := (Option.some_get _).symm
  have hd : queuedWorld.Dispatches manualConfig
      (.coordination (.scheduler (.processQueue (seconds 2) true))) dispatched :=
    ⟨seconds 2, true, rfl, by decide +kernel⟩
  exact dispatch_rests_on_heartbeat (by rfl) hrun hd

end PatrolFleet.Execution
