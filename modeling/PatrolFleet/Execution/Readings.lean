import PatrolFleet.Execution.Runs
import PatrolFleet.Execution.System
import PatrolFleet.Fleet.Readings
import PatrolFleet.Lib.Relay

/-!
What the scheduler reads of a robot: the state for the latest status it has seen,
where whoever is farther from the patrol manager has seen less.
-/

set_option autoImplicit false

namespace PatrolFleet.Execution

/-- The state is the one for the latest status seen, if any was. -/
def Shows (state : UInt8) (seen : List Report) : Prop :=
  ∀ report rest, seen = report :: rest → Heartbeat.statusState report.status = some state

/-- What has been seen at each point between the fleet manager and the log. -/
def Robot.stages (robot : Robot) : List (List Report) :=
  robot.heartbeats.map (·.seen) ++ robot.seen :: (robot.statuses.map (·.seen) ++ [robot.log])

structure Robot.Faithful (robot : Robot) : Prop where
  statuses : ∀ m ∈ robot.statuses, ∃ run rest, m.seen = ⟨run, m.value⟩ :: rest
  heartbeat : Shows robot.heartbeat.state robot.seen
  heartbeats : ∀ m ∈ robot.heartbeats, Shows m.value.state m.seen

/-- Whatever stands before it, the readings of the robot stay in order. -/
def Robot.KeepsOrder (robot robot' : Robot) : Prop :=
  ∀ front, (front ++ robot.stages).Pairwise (· <:+ ·) →
    (front ++ robot'.stages).Pairwise (· <:+ ·)

section

variable {robot robot' : Robot}

theorem mem_sent {α : Type} {queue : List α} {m a : α} (h : a ∈ queue ++ [m]) :
    a ∈ queue ∨ a = m := by
  simpa using h

theorem overrun_sublist {α : Type} {depth : Nat} {queue kept : List α}
    (h : overrun depth queue = some kept) : kept.Sublist queue := by
  unfold overrun at h
  split at h <;> cases h
  exact List.tail_sublist queue

theorem publish_keepsOrder (run : Run) (m : Patrol.Sent) (robot : Robot) :
    robot.KeepsOrder (robot.publish run m) := by
  intro front h
  cases m with
  | status data =>
    have hgrown : (front ++ robot.heartbeats.map (·.seen) ++ robot.seen ::
        (robot.statuses.map (·.seen)) ++ [⟨run, data⟩ :: robot.log]).Pairwise (· <:+ ·) := by
      refine Relay.grow (List.suffix_cons ⟨run, data⟩ robot.log)
        (fun hxy hyz => hxy.trans hyz) ?_
      simpa [Robot.stages] using h
    have hsent := Relay.send Stamped.seen (front ++ robot.heartbeats.map (·.seen) ++ [robot.seen])
      [] robot.statuses ⟨data, ⟨run, data⟩ :: robot.log⟩ List.suffix_rfl (by simpa using hgrown)
    simpa [Robot.stages, Robot.publish] using hsent
  | _ => exact h

theorem foldr_keepsOrder (run : Run) (messages : List Patrol.Sent) (robot : Robot) :
    robot.KeepsOrder (messages.foldr (Robot.publish run) robot) := by
  induction messages with
  | nil => exact fun _ h => h
  | cons m messages ih => exact fun front h => publish_keepsOrder run m _ front (ih front h)

theorem step_keepsOrder {cfg : Patrol.Config} {libm : Patrol.Libm} {missionId : Option String}
    {e : Patrol.Event} (h : robot.step cfg libm missionId e = some robot') :
    robot.KeepsOrder robot' := by
  obtain ⟨patrol', _, rfl⟩ := Option.map_eq_some_iff.mp h
  split
  · exact foldr_keepsOrder _ _ { robot.begin missionId with patrol := patrol' }
  · exact foldr_keepsOrder _ _ { robot with patrol := patrol' }

theorem receiveStatus_keepsOrder (h : robot.receiveStatus = some robot') :
    robot.KeepsOrder robot' := by
  unfold Robot.receiveStatus at h
  split at h
  · cases h
  · rename_i m queue hqueue
    cases h
    intro front hfront
    rw [Robot.stages, hqueue, ← List.append_assoc] at hfront
    rw [Robot.stages, ← List.append_assoc]
    exact Relay.deliver Stamped.seen (front ++ robot.heartbeats.map (·.seen)) [robot.log] hfront

theorem sendHeartbeat_keepsOrder (cfg : Heartbeat.Config) (now : Time) (robot : Robot) :
    robot.KeepsOrder (robot.sendHeartbeat cfg now) := by
  intro front h
  exact Relay.send Stamped.seen front (robot.statuses.map (·.seen) ++ [robot.log]) _ _
    List.suffix_rfl h

theorem lose_keepsOrder {statuses : List (Stamped String)} {missionTypes : List String}
    {heartbeats : List (Stamped RobotHeartbeat)} (hstatuses : statuses.Sublist robot.statuses)
    (hheartbeats : heartbeats.Sublist robot.heartbeats) :
    robot.KeepsOrder { robot with statuses, missionTypes, heartbeats } := by
  intro front h
  have hsent := Relay.lose Stamped.seen front _ hheartbeats h
  rw [List.append_cons, ← List.append_assoc] at hsent
  have hreported := Relay.lose Stamped.seen (front ++ (heartbeats.map (·.seen) ++ [robot.seen]))
    [robot.log] hstatuses (by simpa using hsent)
  simpa [Robot.stages] using hreported

/-! ### What the messages show -/

theorem Shows.nil {state : UInt8} : Shows state [] := by
  intro report rest heq
  cases heq

theorem publish_faithful (run : Run) (m : Patrol.Sent) (h : robot.Faithful) :
    (robot.publish run m).Faithful := by
  cases m with
  | status data =>
    refine ⟨fun m hm => ?_, h.heartbeat, h.heartbeats⟩
    rcases mem_sent hm with hm | rfl
    · exact h.statuses m hm
    · exact ⟨run, robot.log, rfl⟩
  | _ => exact ⟨h.statuses, h.heartbeat, h.heartbeats⟩

theorem foldr_faithful (run : Run) (messages : List Patrol.Sent) (h : robot.Faithful) :
    (messages.foldr (Robot.publish run) robot).Faithful := by
  induction messages with
  | nil => exact h
  | cons m messages ih => exact publish_faithful run m ih

theorem step_faithful {cfg : Patrol.Config} {libm : Patrol.Libm} {missionId : Option String}
    {e : Patrol.Event} (h : robot.Faithful)
    (hstep : robot.step cfg libm missionId e = some robot') :
    robot'.Faithful := by
  obtain ⟨patrol', _, rfl⟩ := Option.map_eq_some_iff.mp hstep
  split
  · exact foldr_faithful _ _ ⟨h.statuses, h.heartbeat, h.heartbeats⟩
  · exact foldr_faithful _ _ ⟨h.statuses, h.heartbeat, h.heartbeats⟩

/-- The heartbeat node knows every status that the patrol manager publishes. -/
theorem receiveStatus_faithful (h : robot.Faithful) (hlogged : Logged robot.current robot.log)
    (horder : robot.stages.Pairwise (· <:+ ·)) (hstep : robot.receiveStatus = some robot') :
    robot'.Faithful := by
  unfold Robot.receiveStatus at hstep
  split at hstep
  · cases hstep
  · rename_i m queue hqueue
    cases hstep
    have hm : m ∈ robot.statuses := hqueue ▸ List.mem_cons_self ..
    obtain ⟨run, rest, hseen⟩ := h.statuses m hm
    have hsuffix : m.seen <:+ robot.log := by
      have hlast := (List.pairwise_append.mp horder).2.1
      exact (List.pairwise_append.mp (List.pairwise_cons.mp hlast).2).2.2 m.seen
        (List.mem_map_of_mem hm) robot.log (List.mem_singleton_self _)
    have hreport : (⟨run, m.value⟩ : Report) ∈ robot.log :=
      hsuffix.subset (hseen ▸ List.mem_cons_self ..)
    obtain ⟨state, hknown⟩ := hlogged.known _ hreport
    refine ⟨fun m' hm' => h.statuses m' (hqueue ▸ List.mem_cons_of_mem _ hm'), ?_, h.heartbeats⟩
    intro report rest' heq
    rw [Heartbeat.patrolStatusCallback_state hknown]
    have hsame : report = ⟨run, m.value⟩ := (List.cons.inj (heq.symm.trans hseen)).1
    rw [hsame]
    exact hknown

theorem sendHeartbeat_faithful (cfg : Heartbeat.Config) (now : Time) (h : robot.Faithful) :
    (robot.sendHeartbeat cfg now).Faithful := by
  refine ⟨h.statuses, h.heartbeat, fun m hm => ?_⟩
  rcases mem_sent hm with hm | rfl
  · exact h.heartbeats m hm
  · exact h.heartbeat

theorem lose_faithful {statuses : List (Stamped String)} {missionTypes : List String}
    {heartbeats : List (Stamped RobotHeartbeat)} (h : robot.Faithful)
    (hstatuses : statuses.Sublist robot.statuses)
    (hheartbeats : heartbeats.Sublist robot.heartbeats) :
    Robot.Faithful { robot with statuses, missionTypes, heartbeats } :=
  ⟨fun m hm => h.statuses m (hstatuses.subset hm), h.heartbeat,
    fun m hm => h.heartbeats m (hheartbeats.subset hm)⟩

end

/-! ### The whole system -/

/-- What has been seen of a robot at each point between the scheduler and the log. -/
def World.stages (w : World) (robotId : String) : List (List Report) :=
  w.observed robotId :: (w.fleetStates.map (·.seen robotId) ++
    w.fleetSeen robotId :: (w.robots robotId).stages)

structure World.Relayed (w : World) : Prop where
  order : ∀ robotId, (w.stages robotId).Pairwise (· <:+ ·)
  robots : ∀ robotId, (w.robots robotId).Faithful
  readings : ∀ id x, w.coordination.fleet.reading id = some x →
    x.robotId = id ∧ Shows x.state (w.fleetSeen id)
  snapshots : ∀ snapshot ∈ w.fleetStates, ∀ robot ∈ snapshot.message.robots,
    Shows robot.state (snapshot.seen robot.robotId)

section

variable {w v : World} {robotId : String} {robot' : Robot}

theorem World.Relayed.robotOrder (h : w.Relayed) (robotId : String) :
    (w.robots robotId).stages.Pairwise (· <:+ ·) := by
  have hbehind := (List.pairwise_cons.mp (h.order robotId)).2
  exact (List.pairwise_cons.mp (List.pairwise_append.mp hbehind).2.1).2

theorem World.Relayed.setRobot (h : w.Relayed) (horder : (w.robots robotId).KeepsOrder robot')
    (hfaithful : robot'.Faithful) : (w.setRobot robotId robot').Relayed := by
  refine ⟨fun id => ?_, fun id => ?_, h.readings, h.snapshots⟩
  · have hid := h.order id
    by_cases heq : id = robotId
    · subst heq
      simp only [World.stages, World.setRobot, Function.update_self]
      have hfront := horder (w.observed id :: (w.fleetStates.map (·.seen id) ++ [w.fleetSeen id]))
        (by simpa [World.stages] using hid)
      simpa using hfront
    · simpa only [World.stages, World.setRobot, Function.update_of_ne heq] using hid
  · by_cases heq : id = robotId
    · subst heq
      simpa only [World.setRobot, Function.update_self] using hfaithful
    · simpa only [World.setRobot, Function.update_of_ne heq] using h.robots id

/-- What the messages of the fleet manager change when they are routed. -/
structure Routed (w v : World) (messages : List Fleet.Sent) : Prop where
  coordination : v.coordination = w.coordination
  robots : v.robots = w.robots
  fleetSeen : v.fleetSeen = w.fleetSeen
  observed : v.observed = w.observed
  order : ∀ robotId, (w.stages robotId).Pairwise (· <:+ ·) →
    (v.stages robotId).Pairwise (· <:+ ·)
  snapshots : ∀ snapshot ∈ v.fleetStates, snapshot ∈ w.fleetStates ∨
    ∃ message, .fleetState message ∈ messages ∧ snapshot = ⟨message, w.fleetSeen⟩

theorem routed_foldr (messages : List Fleet.Sent) (w : World) :
    Routed w (messages.foldr World.route w) messages := by
  induction messages with
  | nil => exact ⟨rfl, rfl, rfl, rfl, fun _ h => h, fun _ hm => .inl hm⟩
  | cons m messages ih =>
    have hlater : ∀ snapshot ∈ (messages.foldr World.route w).fleetStates,
        snapshot ∈ w.fleetStates ∨
          ∃ message, .fleetState message ∈ m :: messages ∧ snapshot = ⟨message, w.fleetSeen⟩ := by
      intro snapshot hm
      rcases ih.snapshots snapshot hm with hold | ⟨message, hmessage, heq⟩
      · exact .inl hold
      · exact .inr ⟨message, List.mem_cons_of_mem _ hmessage, heq⟩
    cases m with
    | fleetState message =>
      refine ⟨ih.coordination, ih.robots, ih.fleetSeen, ih.observed, fun robotId h => ?_, ?_⟩
      · exact Relay.send (fun snapshot : Snapshot => snapshot.seen robotId)
          [(messages.foldr World.route w).observed robotId] _ _ _ List.suffix_rfl
          (ih.order robotId h)
      · intro snapshot hm
        rcases mem_sent hm with hm | rfl
        · exact hlater snapshot hm
        · exact .inr ⟨message, List.mem_cons_self .., by rw [ih.fleetSeen]⟩
    | _ => exact ⟨ih.coordination, ih.robots, ih.fleetSeen, ih.observed, ih.order, hlater⟩

/-- A step of the scheduler or the fleet manager is a callback of the fleet manager,
or leaves it as it is. -/
theorem coordination_fleet {scfg : Scheduler.Config} {fcfg : Fleet.Config}
    {u c : Coordination.World} {e : Coordination.Event} (h : u.step scfg fcfg e = some c) :
    c.fleet = u.fleet ∨ ∃ callback, c.fleet = u.fleet.call fcfg callback ∧
      ∀ id message now, callback = .other (.heartbeat id message now) →
        e = .fleet (.heartbeat id message now) := by
  cases Coordination.step_cases h with
  | scheduler _ _ => exact .inl rfl
  | fleet e =>
    refine .inr ⟨.other e, rfl, fun id message now heq => ?_⟩
    cases heq
    rfl
  | @assignMission d serviceIsReady now handled _ hhandled =>
    subst hhandled
    exact .inr ⟨.assignMission d.request serviceIsReady now, rfl, fun _ _ _ heq => by cases heq⟩
  | response _ _ => exact .inl rfl
  | exception _ => exact .inl rfl

theorem World.Relayed.advance {scfg : Scheduler.Config} {fcfg : Fleet.Config}
    {c : Coordination.World} {e : Coordination.Event} (h : w.Relayed)
    (hstep : w.coordination.step scfg fcfg e = some c) (he : fromSubscription e = false) :
    (w.advance c).Relayed := by
  have hrouted := routed_foldr (Fleet.sentSince w.coordination.fleet c.fleet)
    { w with coordination := c }
  have hfleet : c.fleet.reading = w.coordination.fleet.reading ∧
      ∀ message, .fleetState message ∈ Fleet.sentSince w.coordination.fleet c.fleet →
        message.robots.map Fleet.withoutGrace = fcfg.robotIds.filterMap fun id =>
          (w.coordination.fleet.reading id).map (Fleet.Reading.entry fcfg message.stamp) := by
    rcases coordination_fleet hstep with hsame | ⟨callback, hcall, hheartbeat⟩
    · rw [hsame]
      refine ⟨rfl, fun message hm => ?_⟩
      simp [Fleet.sentSince] at hm
    · rw [hcall]
      refine ⟨Fleet.reading_call_eq ?_ _, fun message hm => Fleet.fleetState_entries hm⟩
      unfold Fleet.Callback.isHeartbeat
      split
      · rw [hheartbeat _ _ _ rfl] at he
        cases he
      · rfl
  unfold World.advance
  refine ⟨fun robotId => hrouted.order robotId (h.order robotId), ?_, ?_, ?_⟩
  · rw [hrouted.robots]
    exact h.robots
  · rw [hrouted.coordination, hrouted.fleetSeen]
    dsimp only
    rw [hfleet.1]
    exact h.readings
  · intro snapshot hm robot hrobot
    rcases hrouted.snapshots snapshot hm with hold | ⟨message, hmessage, rfl⟩
    · exact h.snapshots snapshot hold robot hrobot
    · have hentry := List.mem_map_of_mem (f := Fleet.withoutGrace) hrobot
      rw [hfleet.2 message hmessage] at hentry
      obtain ⟨id, _, hread⟩ := List.mem_filterMap.mp hentry
      obtain ⟨x, hx, heq⟩ := Option.map_eq_some_iff.mp hread
      obtain ⟨hname, hshows⟩ := h.readings id x hx
      have hid : x.robotId = robot.robotId := congrArg FleetRobotState.robotId heq
      have hstate : x.state = robot.state := congrArg FleetRobotState.state heq
      rw [← hstate, ← hid, hname]
      exact hshows

end

end PatrolFleet.Execution
