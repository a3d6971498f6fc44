import PatrolFleet.Execution.Readings

/-!
What holds in every state of a run in which no robot accepts a mission while an
earlier goal of it awaits its answer.
-/

set_option autoImplicit false

namespace PatrolFleet.Execution

structure World.Inv (w : World) : Prop where
  relayed : w.Relayed
  tidy : ∀ robotId, (w.robots robotId).Tidy

/-- The event, as the patrol manager of the robot takes it. -/
def Event.calls (robotId : String) : Event → Option Patrol.Event
  | .start id _ _ request serverAvailable now =>
    if id = robotId then some (.start request serverAvailable now) else none
  | .stop id _ => if id = robotId then some .stop else none
  | .patrol id e => if id = robotId then some e else none
  | _ => none

/-- The command of the fleet manager that the event takes from those on their way. -/
def Event.takes : Event → Option Fleet.Sent
  | .start robotId missionId kind request _ _ => some (.start robotId missionId kind request)
  | .stop robotId missionId => some (.stop robotId missionId)
  | _ => none

/-- The mission that the event is about, if it has an id. -/
def Event.missionId : Event → Option String
  | .start _ missionId .. => some missionId
  | _ => none

/-- A patrol manager is only asked by a command that is on its way to it. -/
structure World.Prompts (w : World) (e : Event) : Prop where
  onItsWay : ∀ m, e.takes = some m → m ∈ w.commands
  byItself : ∀ robotId call, e = .patrol robotId call → fromRequest call = false

/-- The patrol manager of the robot accepts a mission. -/
def World.Begins (cfg : Config) (w : World) (e : Event) (robotId : String) : Prop :=
  ∃ call, e.calls robotId = some call ∧
    accepts (cfg.patrol robotId) cfg.libm (w.robots robotId).patrol.node call = true

/-- A robot that accepts a mission has no goal that awaits its answer. -/
def World.BeginsAnswered (cfg : Config) (w : World) (e : Event) : Prop :=
  ∀ robotId, w.Begins cfg e robotId → (w.robots robotId).Answered

/-- What the callbacks of one robot do to it. -/
inductive RobotTurn (cfg : Config) (robotId : String) (missionId : Option String)
    (call : Option Patrol.Event) (robot : Robot) : Robot → Prop where
  | called {robot' : Robot} {e : Patrol.Event} : call = some e →
      robot.step (cfg.patrol robotId) cfg.libm missionId e = some robot' →
      RobotTurn cfg robotId missionId call robot robot'
  | status {robot' : Robot} : call = none → robot.receiveStatus = some robot' →
      RobotTurn cfg robotId missionId call robot robot'
  | missionType {robot' : Robot} : call = none → robot.receiveMissionType = some robot' →
      RobotTurn cfg robotId missionId call robot robot'
  | localizationOk (data : Bool) : call = none →
      RobotTurn cfg robotId missionId call robot (robot.receiveLocalizationOk data)
  | heartbeat (now : Time) : call = none →
      RobotTurn cfg robotId missionId call robot (robot.sendHeartbeat (cfg.heartbeat robotId) now)
  | lost {statuses : List (Stamped String)} {missionTypes : List String}
      {heartbeats : List (Stamped RobotHeartbeat)} : call = none →
      statuses.Sublist robot.statuses → heartbeats.Sublist robot.heartbeats →
      RobotTurn cfg robotId missionId call robot
        { robot with statuses, missionTypes, heartbeats }

section

variable {cfg : Config} {robotId : String} {missionId : Option String}
  {call : Option Patrol.Event} {robot robot' : Robot}

theorem Robot.Tidy.congr (h : robot.Tidy) (hpatrol : robot'.patrol = robot.patrol)
    (haccepted : robot'.accepted = robot.accepted) (howner : robot'.owner = robot.owner)
    (hlog : robot'.log = robot.log) : robot'.Tidy := by
  have hcurrent : robot'.current = robot.current := by
    unfold Robot.current
    rw [haccepted]
  refine ⟨by rw [hpatrol]; exact h.oneGoal, ?_, ?_, ?_⟩
  · rw [hpatrol, howner, hcurrent]
    exact h.owned
  · rw [hcurrent, hlog]
    exact h.logged
  · rw [hpatrol, hcurrent, hlog]
    exact h.live

theorem RobotTurn.tidy (h : RobotTurn cfg robotId missionId call robot robot') (ht : robot.Tidy)
    (hanswered : ∀ e, call = some e →
      accepts (cfg.patrol robotId) cfg.libm robot.patrol.node e = true → robot.Answered) :
    robot'.Tidy := by
  cases h with
  | called hcall hstep => exact tidy_step ht (hanswered _ hcall) hstep
  | status _ hstep =>
    unfold Robot.receiveStatus at hstep
    split at hstep <;> cases hstep
    exact ht.congr rfl rfl rfl rfl
  | missionType _ hstep =>
    unfold Robot.receiveMissionType at hstep
    split at hstep <;> cases hstep
    exact ht.congr rfl rfl rfl rfl
  | localizationOk data _ => exact ht.congr rfl rfl rfl rfl
  | heartbeat now _ => exact ht.congr rfl rfl rfl rfl
  | lost _ _ _ => exact ht.congr rfl rfl rfl rfl

theorem RobotTurn.keepsOrder (h : RobotTurn cfg robotId missionId call robot robot') :
    robot.KeepsOrder robot' := by
  cases h with
  | called _ hstep => exact step_keepsOrder hstep
  | status _ hstep => exact receiveStatus_keepsOrder hstep
  | missionType _ hstep =>
    unfold Robot.receiveMissionType at hstep
    split at hstep <;> cases hstep
    exact fun _ h => h
  | localizationOk data _ => exact fun _ h => h
  | heartbeat now _ => exact sendHeartbeat_keepsOrder _ now robot
  | lost _ hstatuses hheartbeats => exact lose_keepsOrder hstatuses hheartbeats

theorem RobotTurn.faithful (h : RobotTurn cfg robotId missionId call robot robot')
    (hf : robot.Faithful) (ht : robot.Tidy) (horder : robot.stages.Pairwise (· <:+ ·)) :
    robot'.Faithful := by
  cases h with
  | called _ hstep => exact step_faithful hf hstep
  | status _ hstep => exact receiveStatus_faithful hf ht.logged horder hstep
  | missionType _ hstep =>
    unfold Robot.receiveMissionType at hstep
    split at hstep <;> cases hstep
    exact ⟨hf.statuses, hf.heartbeat, hf.heartbeats⟩
  | localizationOk data _ => exact ⟨hf.statuses, hf.heartbeat, hf.heartbeats⟩
  | heartbeat now _ => exact sendHeartbeat_faithful _ now hf
  | lost _ hstatuses hheartbeats => exact lose_faithful hf hstatuses hheartbeats

end

/-- The steps of the system. -/
inductive Turn (cfg : Config) (w : World) : Event → World → Prop where
  | coordination {e : Coordination.Event} {c : Coordination.World} : fromSubscription e = false →
      w.coordination.step cfg.scheduler cfg.fleet e = some c →
      Turn cfg w (.coordination e) (w.advance c)
  | fleetState {now : Time} {visit : List (Sigma fun _ : String => Scheduler.ActiveMission)}
      {snapshot : Snapshot} {queue : List Snapshot} {scheduler : Scheduler.World} :
      w.fleetStates = snapshot :: queue →
      w.coordination.scheduler.step cfg.scheduler (.fleetState snapshot.message now visit) =
        some scheduler →
      Turn cfg w (.fleetState now visit)
        { w with
          coordination := { w.coordination with
            scheduler
            requests := Coordination.sentSince w.coordination.scheduler scheduler ++
              w.coordination.requests }
          fleetStates := queue
          observed := snapshot.seen }
  | heartbeat {robotId : String} {now : Time} {m : Stamped RobotHeartbeat}
      {queue : List (Stamped RobotHeartbeat)} : (w.robots robotId).heartbeats = m :: queue →
      Turn cfg w (.heartbeat robotId now)
        { w.setRobot robotId { w.robots robotId with heartbeats := queue } with
          coordination := { w.coordination with
            fleet := Fleet.heartbeatCallback robotId m.value now w.coordination.fleet }
          fleetSeen := Function.update w.fleetSeen robotId m.seen }
  | robot {e : Event} {robotId : String} {robot' : Robot} {commands : List Fleet.Sent} :
      w.Prompts e → commands ⊆ w.commands → (∀ id, id ≠ robotId → e.calls id = none) →
      RobotTurn cfg robotId e.missionId (e.calls robotId) (w.robots robotId) robot' →
      Turn cfg w e { w.setRobot robotId robot' with commands }
  | lost {fleetStates : List Snapshot} : fleetStates.Sublist w.fleetStates →
      Turn cfg w .fleetStateLost { w with fleetStates }

theorem World.Prompts.aside {w : World} {e : Event} (htakes : e.takes = none)
    (hpatrol : ∀ robotId call, e ≠ .patrol robotId call) : w.Prompts e :=
  ⟨fun m hm => (by rw [htakes] at hm; cases hm), fun robotId call heq =>
    absurd heq (hpatrol robotId call)⟩

theorem World.Prompts.taken {w : World} {e : Event} {m : Fleet.Sent} (hm : m ∈ w.commands)
    (htakes : e.takes = some m) : w.Prompts e := by
  refine ⟨fun m' hm' => ?_, fun robotId call heq => ?_⟩
  · rw [htakes] at hm'
    cases hm'
    exact hm
  · rw [heq] at htakes
    cases htakes

theorem step_turn {cfg : Config} {w v : World} {e : Event} (h : w.step cfg e = some v) :
    Turn cfg w e v := by
  cases e with
  | coordination e =>
    simp only [World.step] at h
    split at h
    · cases h
    · rename_i he
      obtain ⟨c, hc, rfl⟩ := Option.map_eq_some_iff.mp h
      exact .coordination (by simpa using he) hc
  | fleetState now visit =>
    simp only [World.step] at h
    split at h
    · cases h
    · rename_i snapshot queue hqueue
      obtain ⟨c, hc, rfl⟩ := Option.map_eq_some_iff.mp h
      have hnot : Scheduler.Event.isAnswer (.fleetState snapshot.message now visit) = false := rfl
      simp only [Coordination.World.step, hnot, Bool.false_eq_true, if_false] at hc
      obtain ⟨scheduler, hs, rfl⟩ := Option.map_eq_some_iff.mp hc
      exact .fleetState hqueue hs
  | heartbeat robotId now =>
    simp only [World.step] at h
    split at h
    · cases h
    · rename_i m queue hqueue
      split at h
      · obtain ⟨c, hc, rfl⟩ := Option.map_eq_some_iff.mp h
        cases hc
        exact .heartbeat hqueue
      · cases h
  | start robotId missionId missionType request serverAvailable now =>
    simp only [World.step] at h
    split at h
    · rename_i hm
      obtain ⟨robot', hrobot, rfl⟩ := Option.map_eq_some_iff.mp h
      exact .robot (.taken hm rfl) List.erase_subset (fun id hid => if_neg (Ne.symm hid))
        (.called (if_pos rfl) hrobot)
    · cases h
  | stop robotId missionId =>
    simp only [World.step] at h
    split at h
    · rename_i hm
      obtain ⟨robot', hrobot, rfl⟩ := Option.map_eq_some_iff.mp h
      exact .robot (.taken hm rfl) List.erase_subset (fun id hid => if_neg (Ne.symm hid))
        (.called (if_pos rfl) hrobot)
    · cases h
  | patrol robotId e =>
    simp only [World.step] at h
    split at h
    · cases h
    · rename_i hrequest
      obtain ⟨robot', hrobot, rfl⟩ := Option.map_eq_some_iff.mp h
      refine .robot ⟨fun _ hm => (by cases hm), fun _ _ heq => ?_⟩ (List.Subset.refl _)
        (fun id hid => if_neg (Ne.symm hid)) (.called (if_pos rfl) hrobot)
      cases heq
      simpa using hrequest
  | status robotId =>
    obtain ⟨robot', hrobot, rfl⟩ := Option.map_eq_some_iff.mp h
    exact .robot (.aside rfl fun _ _ heq => by cases heq) (List.Subset.refl _) (fun _ _ => rfl)
      (.status rfl hrobot)
  | missionType robotId =>
    obtain ⟨robot', hrobot, rfl⟩ := Option.map_eq_some_iff.mp h
    exact .robot (.aside rfl fun _ _ heq => by cases heq) (List.Subset.refl _) (fun _ _ => rfl)
      (.missionType rfl hrobot)
  | localizationOk robotId data =>
    cases h
    exact .robot (.aside rfl fun _ _ heq => by cases heq) (List.Subset.refl _) (fun _ _ => rfl)
      (.localizationOk data rfl)
  | publishHeartbeat robotId now =>
    cases h
    exact .robot (.aside rfl fun _ _ heq => by cases heq) (List.Subset.refl _) (fun _ _ => rfl)
      (.heartbeat now rfl)
  | statusLost robotId =>
    obtain ⟨robot', hrobot, rfl⟩ := Option.map_eq_some_iff.mp h
    obtain ⟨kept, hkept, rfl⟩ := Option.map_eq_some_iff.mp hrobot
    exact .robot (.aside rfl fun _ _ heq => by cases heq) (List.Subset.refl _) (fun _ _ => rfl)
      (.lost rfl (overrun_sublist hkept) (.refl _))
  | missionTypeLost robotId =>
    obtain ⟨robot', hrobot, rfl⟩ := Option.map_eq_some_iff.mp h
    obtain ⟨kept, hkept, rfl⟩ := Option.map_eq_some_iff.mp hrobot
    exact .robot (.aside rfl fun _ _ heq => by cases heq) (List.Subset.refl _) (fun _ _ => rfl)
      (.lost rfl (.refl _) (.refl _))
  | heartbeatLost robotId =>
    obtain ⟨robot', hrobot, rfl⟩ := Option.map_eq_some_iff.mp h
    obtain ⟨kept, hkept, rfl⟩ := Option.map_eq_some_iff.mp hrobot
    exact .robot (.aside rfl fun _ _ heq => by cases heq) (List.Subset.refl _) (fun _ _ => rfl)
      (.lost rfl (.refl _) (overrun_sublist hkept))
  | fleetStateLost =>
    obtain ⟨kept, hkept, rfl⟩ := Option.map_eq_some_iff.mp h
    exact .lost (overrun_sublist hkept)

section

variable {cfg : Config} {w v : World} {e : Event}

theorem advance_robots (c : Coordination.World) (w : World) :
    (w.advance c).robots = w.robots :=
  (routed_foldr (Fleet.sentSince w.coordination.fleet c.fleet) { w with coordination := c }).robots

theorem World.Relayed.heartbeat {robotId : String} {now : Time} {m : Stamped RobotHeartbeat}
    {queue : List (Stamped RobotHeartbeat)} (h : w.Relayed)
    (hqueue : (w.robots robotId).heartbeats = m :: queue) :
    World.Relayed { w.setRobot robotId { w.robots robotId with heartbeats := queue } with
      coordination := { w.coordination with
        fleet := Fleet.heartbeatCallback robotId m.value now w.coordination.fleet }
      fleetSeen := Function.update w.fleetSeen robotId m.seen } := by
  have hfaithful := h.robots robotId
  have hshows : Shows m.value.state m.seen :=
    hfaithful.heartbeats m (hqueue ▸ List.mem_cons_self ..)
  refine ⟨fun id => ?_, fun id => ?_, fun id x hx => ?_, h.snapshots⟩
  · have hid := h.order id
    by_cases heq : id = robotId
    · subst heq
      simp only [World.stages, World.setRobot, Function.update_self, Robot.stages] at hid ⊢
      rw [hqueue] at hid
      exact Relay.deliver Stamped.seen (w.observed id :: w.fleetStates.map (·.seen id)) _ hid
    · simpa only [World.stages, World.setRobot, Function.update_of_ne heq] using hid
  · by_cases heq : id = robotId
    · subst heq
      simp only [World.setRobot, Function.update_self]
      exact ⟨hfaithful.statuses, hfaithful.heartbeat,
        fun m' hm' => hfaithful.heartbeats m' (hqueue ▸ List.mem_cons_of_mem _ hm')⟩
    · simpa only [World.setRobot, Function.update_of_ne heq] using h.robots id
  · have hnamed : w.coordination.fleet.Named := fun id x hx => (h.readings id x hx).1
    dsimp only at hx ⊢
    rw [Fleet.reading_heartbeat hnamed] at hx
    by_cases heq : id = robotId
    · subst heq
      rw [Function.update_self] at hx ⊢
      obtain ⟨old, _, rfl⟩ := Option.map_eq_some_iff.mp hx
      exact ⟨rfl, hshows⟩
    · rw [Function.update_of_ne heq] at hx ⊢
      exact h.readings id x hx

theorem World.Relayed.observe {snapshot : Snapshot} {queue : List Snapshot}
    {scheduler : Scheduler.World} {requests : List Scheduler.Dispatch} (h : w.Relayed)
    (hqueue : w.fleetStates = snapshot :: queue) :
    World.Relayed { w with
      coordination := { w.coordination with scheduler, requests }
      fleetStates := queue
      observed := snapshot.seen } := by
  refine ⟨fun id => ?_, h.robots, h.readings, fun s hs => ?_⟩
  · have hid := h.order id
    rw [World.stages, hqueue] at hid
    exact Relay.deliver (fun snapshot : Snapshot => snapshot.seen id) [] _ hid
  · exact h.snapshots s (hqueue ▸ List.mem_cons_of_mem _ hs)

theorem World.Relayed.lose {fleetStates : List Snapshot} (h : w.Relayed)
    (hkept : fleetStates.Sublist w.fleetStates) : World.Relayed { w with fleetStates } :=
  ⟨fun id => Relay.lose (fun snapshot : Snapshot => snapshot.seen id) [w.observed id] _ hkept
      (h.order id), h.robots, h.readings, fun s hs => h.snapshots s (hkept.subset hs)⟩

theorem inv_step (h : w.Inv) (hanswered : w.BeginsAnswered cfg e) (hturn : Turn cfg w e v) :
    v.Inv := by
  cases hturn with
  | coordination he hc =>
    refine ⟨h.relayed.advance hc he, fun robotId => ?_⟩
    rw [advance_robots]
    exact h.tidy robotId
  | fleetState hqueue hs => exact ⟨h.relayed.observe hqueue, h.tidy⟩
  | @heartbeat robotId now m queue hqueue =>
    refine ⟨h.relayed.heartbeat hqueue, fun id => ?_⟩
    by_cases heq : id = robotId
    · subst heq
      simp only [World.setRobot, Function.update_self]
      exact (h.tidy id).congr rfl rfl rfl rfl
    · simpa only [World.setRobot, Function.update_of_ne heq] using h.tidy id
  | @robot _ robotId robot' commands _ _ _ hrobot =>
    have htidy := h.tidy robotId
    have hset := h.relayed.setRobot hrobot.keepsOrder
      (hrobot.faithful (h.relayed.robots robotId) htidy (h.relayed.robotOrder robotId))
    refine ⟨⟨hset.order, hset.robots, hset.readings, hset.snapshots⟩, fun id => ?_⟩
    by_cases heq : id = robotId
    · subst heq
      simp only [World.setRobot, Function.update_self]
      exact hrobot.tidy htidy fun call hcall ha => hanswered id ⟨call, hcall, ha⟩
    · simpa only [World.setRobot, Function.update_of_ne heq] using h.tidy id
  | lost hkept => exact ⟨h.relayed.lose hkept, h.tidy⟩

theorem inv_init {startedAt : Time} {store : Fleet.MissionStore} {fleet : Fleet.State}
    (hinit : Fleet.State.init cfg.fleet store = .ok fleet) :
    (machine cfg startedAt fleet).init.Inv := by
  refine ⟨⟨fun robotId => ?_, fun robotId => ?_, fun id x hx => ?_, ?_⟩, fun robotId => ?_⟩
  · simp [machine, World.stages, Robot.stages, Robot.init]
  · refine ⟨fun m hm => ?_, Shows.nil, ?_⟩
    · rw [List.mem_singleton.mp hm]
      exact ⟨⟨0, none⟩, [], rfl⟩
    · simp [machine, Robot.init]
  · exact ⟨(Fleet.init_reading hinit).1 id x hx, Shows.nil⟩
  · simp [machine]
  · exact tidy_init _ _ _

end

end PatrolFleet.Execution
