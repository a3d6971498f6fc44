import PatrolFleet.Fleet.Audit
import PatrolFleet.Fleet.Dropout
import PatrolFleet.Lib.Latest

/-!
What `publish_fleet_state` says of each robot, as a function of the last heartbeat
that was received from it.
-/

set_option autoImplicit false

namespace PatrolFleet.Fleet

/-- What a heartbeat says of the robot on whose topic it comes. -/
def heard (robotId : String) (message : RobotHeartbeat) (now : Time) : Reading where
  robotId
  receivedHeartbeat := true
  state := message.state
  batteryPercentage := message.batteryPercentage
  currentMission := message.currentMission
  localizationOk := message.localizationOk
  lastHeartbeat := now

def Callback.reading (robotId : String) : Callback → Option Reading
  | .other (.heartbeat id message now) => if id = robotId then some (heard id message now) else none
  | _ => none

/-- Every record is of the robot that it is filed under. -/
def State.Named (s : State) : Prop := ∀ id x, s.reading id = some x → x.robotId = id

/-- The entry of a fleet state at the time `now`, its `confirmed_offline` aside. -/
def Reading.entry (cfg : Config) (now : Time) (x : Reading) : FleetRobotState where
  robotId := x.robotId
  online := x.receivedHeartbeat && decide (now - x.lastHeartbeat ≤ cfg.heartbeatTimeout)
  confirmedOffline := false
  state := x.state
  batteryPercentage := x.batteryPercentage
  localizationOk := x.localizationOk
  currentMission := x.currentMission
  lastHeartbeat := x.lastHeartbeat

/-- The entry without what depends on the length of a dropout. -/
def withoutGrace (robot : FleetRobotState) : FleetRobotState :=
  { robot with confirmedOffline := false }

section

variable {cfg : Config} {now : Time} {s : State} {record : RobotRecord} {id robotId : String}

theorem reading_insert : State.reading { s with records := s.records.insert id record } =
    Function.update s.reading id (some record.reading) :=
  UnorderedMap.map_lookup_insert ..

theorem reading_publishRobot (acc : State × List FleetRobotState) (id : String) :
    (publishRobot cfg now acc id).1.reading = acc.1.reading := by
  have hwrites : Writes .deaf acc.1 (publishRobot cfg now acc id).1 :=
    writes_publishRobot trivial (fun _ => trivial) now acc id
  exact hwrites.reading_eq not_false

/-! ### The loop of `publish_fleet_state` -/

theorem publishRobots_entries (ids : List String) (acc : State × List FleetRobotState) :
    ((ids.foldl (publishRobot cfg now) acc).2.map withoutGrace) = acc.2.map withoutGrace ++
      ids.filterMap fun id => (acc.1.reading id).map (Reading.entry cfg now) := by
  induction ids generalizing acc with
  | nil => simp
  | cons id ids ih =>
    rw [List.foldl_cons, ih, reading_publishRobot, List.filterMap_cons]
    cases hrecord : acc.1.records.lookup id with
    | none =>
      have hread : acc.1.reading id = none := by simp [State.reading, hrecord]
      rw [publishRobot_none hrecord, hread]
      rfl
    | some record =>
      have hread : acc.1.reading id = some record.reading := by simp [State.reading, hrecord]
      rw [publishRobot_some hrecord, hread, List.map_append, List.append_assoc]
      rfl

theorem ticks_publishFleetState (s : State) : ∃ robots,
    (publishFleetState cfg now s).ticks = ⟨now, robots⟩ :: s.ticks ∧
    robots.map withoutGrace =
      cfg.robotIds.filterMap fun id => (s.reading id).map (Reading.entry cfg now) := by
  generalize hfold : cfg.robotIds.foldl (publishRobot cfg now) (s, []) = acc
  have hloop : Effect (fun m => m.tick = none) s acc.1 := by
    rw [← hfold]
    exact effect_publishRobots (fun _ => rfl) now s
  refine ⟨acc.2, ?_, ?_⟩
  · rw [publishFleetState_send hfold, ← hloop.ticks]
    rfl
  · rw [← hfold, publishRobots_entries]
    rfl

/-! ### The callbacks -/

theorem reading_heartbeat {message : RobotHeartbeat} (hnamed : s.Named) :
    (heartbeatCallback id message now s).reading =
      Function.update s.reading id ((s.reading id).map fun _ => heard id message now) := by
  unfold heartbeatCallback
  cases hrecord : s.records.lookup id with
  | none =>
    have hread : s.reading id = none := by simp [State.reading, hrecord]
    rw [hread, Option.map_none, ← hread, Function.update_eq_self]
  | some record =>
    have hread : s.reading id = some record.reading := by simp [State.reading, hrecord]
    have hname : record.robotId = id := hnamed id _ hread
    rw [hread, Option.map_some]
    dsimp only
    rw [reading_insert]
    unfold RobotRecord.reading heard
    rw [hname]

theorem reading_call (e : Callback) (hnamed : s.Named) (robotId : String) :
    (s.call cfg e).reading robotId =
      (s.reading robotId).map fun x => (e.reading robotId).getD x := by
  cases hheard : e.isHeartbeat with
  | false =>
    have hnone : e.reading robotId = none := by
      unfold Callback.reading
      split
      · cases hheard
      · rfl
    rw [reading_call_eq hheard, hnone]
    simp
  | true =>
    cases e with
    | assignMission request serviceIsReady now => cases hheard
    | other e =>
      cases e with
      | heartbeat id message now =>
        have hread := @reading_heartbeat now s id message hnamed
        refine (congrFun hread robotId).trans ?_
        by_cases heq : id = robotId
        · subst heq
          simp [Callback.reading]
        · simp [Callback.reading, heq, Function.update_of_ne (Ne.symm heq)]
      | _ => cases hheard

theorem Callback.reading_eq_some {e : Callback} {x : Reading} (h : e.reading robotId = some x) :
    ∃ message now, e = .other (.heartbeat robotId message now) ∧ x = heard robotId message now := by
  unfold Callback.reading at h
  split at h
  · rename_i message now
    obtain ⟨rfl, hx⟩ := Option.ite_none_right_eq_some.mp h
    exact ⟨message, now, rfl, (Option.some.inj hx).symm⟩
  · cases h

theorem State.Named.call (h : s.Named) (e : Callback) : (s.call cfg e).Named := by
  intro id x hx
  rw [reading_call e h] at hx
  obtain ⟨old, hold, rfl⟩ := Option.map_eq_some_iff.mp hx
  cases hread : e.reading id with
  | none => exact h id old hold
  | some y =>
    obtain ⟨message, now, _, rfl⟩ := Callback.reading_eq_some hread
    rfl

theorem ticks_call {e : Callback} (h : ∀ now, e ≠ .other (.publishFleetState now)) (s : State) :
    (s.call cfg e).ticks = s.ticks := by
  refine Effect.ticks ((effect_call cfg e s).mono fun m hm => ?_)
  cases m with
  | fleetState message =>
    cases e with
    | assignMission => cases hm
    | other e =>
      cases e with
      | publishFleetState now => exact absurd rfl (h now)
      | _ => cases hm
  | _ => rfl

theorem fleetState_entries {e : Callback} {message : FleetState}
    (h : .fleetState message ∈ sentSince s (s.call cfg e)) :
    message.robots.map withoutGrace =
      cfg.robotIds.filterMap fun id => (s.reading id).map (Reading.entry cfg message.stamp) := by
  have hmessage : message ∈ (sentSince s (s.call cfg e)).filterMap Sent.tick :=
    List.mem_filterMap.mpr ⟨_, h, rfl⟩
  have hticks : (s.call cfg e).ticks =
      (sentSince s (s.call cfg e)).filterMap Sent.tick ++ s.ticks := by
    have hsent : (s.call cfg e).ticks =
        (sentSince s (s.call cfg e) ++ s.sent).filterMap Sent.tick :=
      congrArg (List.filterMap Sent.tick) (effect_call cfg e s).sentSince_eq.1
    rw [hsent, List.filterMap_append]
    rfl
  by_cases htick : ∃ now, e = .other (.publishFleetState now)
  · obtain ⟨now, rfl⟩ := htick
    obtain ⟨robots, hpublished, hrobots⟩ := @ticks_publishFleetState cfg now s
    have hone : [⟨now, robots⟩] =
        (sentSince s (s.call cfg (.other (.publishFleetState now)))).filterMap Sent.tick :=
      List.append_cancel_right (hpublished.symm.trans hticks)
    rw [← hone, List.mem_singleton] at hmessage
    rw [hmessage]
    exact hrobots
  · rw [ticks_call fun now heq => htick ⟨now, heq⟩] at hticks
    rw [List.self_eq_append_left.mp hticks] at hmessage
    cases hmessage

end

/-! ### Runs -/

/-- The fleet manager on its own: any callback may come at any time. -/
def callbacks (cfg : Config) (fleet : State) : Machine State Callback where
  init := fleet
  step s e := some (s.call cfg e)

/-- What is known of a robot from the callbacks `es`. -/
def lastReading (robotId : String) (es : List Callback) : Reading :=
  (Latest.latest (Callback.reading robotId) es).getD { robotId }

/-- The fleet states that the callbacks of `past` call for, each list the latest first. -/
def fleetStates (cfg : Config) : List Callback → List FleetState
  | [] => []
  | .other (.publishFleetState now) :: past =>
    ⟨now, cfg.robotIds.map fun id => (lastReading id past.reverse).entry cfg now⟩ ::
      fleetStates cfg past
  | _ :: past => fleetStates cfg past

theorem fleetStates_cons {cfg : Config} {e : Callback} {past : List Callback}
    (h : ∀ now, e ≠ .other (.publishFleetState now)) :
    fleetStates cfg (e :: past) = fleetStates cfg past := by
  rw [fleetStates]
  exact h

section

variable {cfg : Config} {store : MissionStore} {fleet s : State} {es : List Callback}

theorem init_reading (hinit : State.init cfg store = .ok fleet) :
    fleet.Named ∧ ∀ id ∈ cfg.robotIds, fleet.reading id = some { robotId := id } := by
  obtain ⟨hempty, hall⟩ := init_records hinit
  constructor
  · intro id x hx
    obtain ⟨record, hrecord, rfl⟩ := Option.map_eq_some_iff.mp hx
    rw [hempty id record hrecord]
    rfl
  · intro id hid
    obtain ⟨record, hrecord⟩ := Option.isSome_iff_exists.mp
      (AList.lookup_isSome.mpr (hall id hid))
    rw [State.reading, hrecord, hempty id record hrecord]
    rfl

theorem run_named (hinit : State.init cfg store = .ok fleet)
    (h : (callbacks cfg fleet).Reachable s) : s.Named := by
  refine h.invariant (P := State.Named) (init_reading hinit).1 fun s e t hs hstep => ?_
  cases hstep
  exact hs.call e

/-- What the node keeps of a robot is what its last heartbeat has said. -/
theorem run_reading (hinit : State.init cfg store = .ok fleet)
    (h : (callbacks cfg fleet).run es = some s) {id : String} (hid : id ∈ cfg.robotIds) :
    s.reading id = some (lastReading id es) := by
  have hread : s.reading id =
      (fleet.reading id).map fun x => (Latest.latest (Callback.reading id) es).getD x := by
    refine Latest.run_register (m := callbacks cfg fleet) (g := fun s => s.reading id) ?_ h
    intro s e t hs hstep
    cases hstep
    exact reading_call e (run_named hinit hs) id
  rw [hread, (init_reading hinit).2 id hid]
  rfl

theorem run_tick (hinit : State.init cfg store = .ok fleet)
    (h : (callbacks cfg fleet).run es = some s)
    (now : Time) : ∃ robots, (publishFleetState cfg now s).ticks = ⟨now, robots⟩ :: s.ticks ∧
      robots.map withoutGrace =
        cfg.robotIds.map fun id => (lastReading id es).entry cfg now := by
  obtain ⟨robots, hticks, hrobots⟩ := @ticks_publishFleetState cfg now s
  refine ⟨robots, hticks, ?_⟩
  rw [hrobots, ← List.filterMap_eq_map]
  refine List.filterMap_congr fun id hid => ?_
  rw [run_reading hinit h hid]
  rfl

theorem init_ticks (hinit : State.init cfg store = .ok fleet) : fleet.ticks = [] := by
  rw [State.ticks, init_sent hinit, List.filterMap_nil]

theorem run_published (hinit : State.init cfg store = .ok fleet)
    (h : (callbacks cfg fleet).run es = some s) {message : FleetState} (hm : message ∈ s.ticks) :
    ∃ before after, es = before ++ .other (.publishFleetState message.stamp) :: after ∧
      message.robots.map withoutGrace =
        cfg.robotIds.map fun id => (lastReading id before).entry cfg message.stamp := by
  induction es using List.reverseRecOn generalizing s with
  | nil =>
    cases h
    have hinit' : message ∈ fleet.ticks := hm
    rw [init_ticks hinit] at hinit'
    cases hinit'
  | append_singleton es e ih =>
    obtain ⟨u, hu, hstep⟩ := (callbacks cfg fleet).run_concat_inv h
    cases hstep
    have hearlier : message ∈ u.ticks → ∃ before after,
        es ++ [e] = before ++ .other (.publishFleetState message.stamp) :: after ∧
        message.robots.map withoutGrace =
          cfg.robotIds.map fun id => (lastReading id before).entry cfg message.stamp := by
      intro hold
      obtain ⟨before, after, rfl, hrobots⟩ := ih hu hold
      exact ⟨before, after ++ [e], by simp, hrobots⟩
    by_cases htick : ∃ now, e = .other (.publishFleetState now)
    · obtain ⟨now, rfl⟩ := htick
      obtain ⟨robots, hticks, hrobots⟩ := run_tick hinit hu now
      have hmem : message ∈ (publishFleetState cfg now u).ticks := hm
      rw [hticks] at hmem
      rcases List.mem_cons.mp hmem with rfl | hold
      · exact ⟨es, [], rfl, hrobots⟩
      · exact hearlier hold
    · rw [ticks_call fun now heq => htick ⟨now, heq⟩] at hm
      exact hearlier hm

end

/-- What the fleet states say of the robots is a function of the heartbeats: each has one
entry for each configured robot, with what the last heartbeat before it has said. -/
theorem fleet_states_of_heartbeats {cfg : Config} {store : MissionStore} {fleet s : State}
    (hinit : State.init cfg store = .ok fleet) {es : List Callback}
    (h : (callbacks cfg fleet).run es = some s) :
    (s.ticks.map fun message => ⟨message.stamp, message.robots.map withoutGrace⟩) =
      fleetStates cfg es.reverse := by
  induction es using List.reverseRecOn generalizing s with
  | nil =>
    cases h
    have hnone : (callbacks cfg fleet).init.ticks = [] := init_ticks hinit
    rw [hnone]
    rfl
  | append_singleton es e ih =>
    obtain ⟨u, hu, hstep⟩ := (callbacks cfg fleet).run_concat_inv h
    cases hstep
    rw [List.reverse_append, List.reverse_singleton, List.singleton_append]
    by_cases htick : ∃ now, e = .other (.publishFleetState now)
    · obtain ⟨now, rfl⟩ := htick
      obtain ⟨robots, hticks, hrobots⟩ := run_tick hinit hu now
      have hticks' : (u.call cfg (.other (.publishFleetState now))).ticks =
          ⟨now, robots⟩ :: u.ticks := hticks
      rw [hticks', List.map_cons, hrobots, ih hu, fleetStates, List.reverse_reverse]
    · have hother : ∀ now, e ≠ .other (.publishFleetState now) := fun now heq => htick ⟨now, heq⟩
      rw [fleetStates_cons hother, ticks_call hother, ih hu]

/-- Two ticks and a heartbeat of one of the robots, the second tick after its timeout. -/
def heardOnce : List Callback :=
  [.other (.heartbeat "robot2" ⟨"robot2", 0, RobotHeartbeat.stateError, 50, "patrol", false⟩ 1),
    .other (.publishFleetState 2), .other .estopReleaseAll,
    .other (.publishFleetState (seconds 10))]

theorem fleet_states_of_heartbeats_once : ∃ s, (callbacks {} shipped).run heardOnce = some s ∧
    (s.ticks.map fun message => ⟨message.stamp, message.robots.map withoutGrace⟩) =
      fleetStates {} heardOnce.reverse :=
  ⟨_, rfl, fleet_states_of_heartbeats (by rfl) rfl⟩

end PatrolFleet.Fleet
