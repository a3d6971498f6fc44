import PatrolFleet.Execution.Readings
import PatrolFleet.Fleet.Readings
import PatrolFleet.Lib.Relay
import PatrolFleet.Localization.System

/-!
The interlock on the localization of a robot: when the scheduler has been told of an
alarm, it sends the robot no mission before the watchdog has ended the alarm.
-/

set_option autoImplicit false

namespace PatrolFleet.Localization

/-- What the heartbeat node makes of the verdicts; it starts without any. -/
def verdict (verdicts : List Bool) : Bool := verdicts.headD true

/-- The entry has the robot's localization as the verdicts have it. -/
def Repeats (robotId : String) (verdicts : List Bool) (message : FleetState) : Prop :=
  ∀ robot ∈ message.robots, robot.robotId = robotId → robot.localizationOk = verdict verdicts

/-- What has been told at each point between the scheduler and the watchdog. -/
def World.stages {K : Type} (w : World K) : List (List Bool) :=
  w.scheduler.readings :: (w.fleetStates.map (·.readings) ++ w.fleet.readings ::
    (w.heartbeats.map (·.readings) ++ w.heartbeat.readings ::
      (w.alarms.map (·.readings) ++ [w.watchdog.published])))

structure World.Linked {K : Type} [One K] (cfg : Config K) (w : World K) : Prop where
  ordered : w.stages.Pairwise (· <:+ ·)
  alarms : ∀ m ∈ w.alarms, m.value = verdict m.readings
  heartbeat : w.heartbeat.value.localizationOk = verdict w.heartbeat.readings
  heartbeats : ∀ m ∈ w.heartbeats, m.value.localizationOk = verdict m.readings
  named : w.fleet.value.Named
  fleet : ∀ x, w.fleet.value.reading cfg.robotId = some x →
    x.localizationOk = verdict w.fleet.readings
  fleetStates : ∀ m ∈ w.fleetStates, Repeats cfg.robotId m.readings m.value
  scheduler : Repeats cfg.robotId w.scheduler.readings w.scheduler.value.node.latestFleetState

/-! ### The watchdog -/

section

variable {K : Type} [Field K] [LinearOrder K]

theorem check_publishes (cfg : Mapping.Config K) (s : Mapping.State K) (tick : Mapping.Tick K) :
    ∃ released alarmed, (Mapping.check cfg s tick).published =
        alarmed ++ released ++ s.published ∧ (alarmed = [] ∨ alarmed = [false]) ∧
      (released = [] ∨ released = [true] ∧ s.localizationOk = false ∧
        ∃ jumpAt, s.lastJumpAt = some jumpAt ∧ cfg.hold ≤ tick.now - jumpAt) := by
  have hrelease : ∃ released, (Mapping.releaseHold cfg tick.now s).published =
      released ++ s.published ∧ (released = [] ∨ released = [true] ∧ s.localizationOk = false ∧
        ∃ jumpAt, s.lastJumpAt = some jumpAt ∧ cfg.hold ≤ tick.now - jumpAt) := by
    unfold Mapping.releaseHold
    split
    · exact ⟨[], rfl, .inl rfl⟩
    · rename_i jumpAt hjump
      split
      · rename_i hover
        exact ⟨[true], rfl, .inr ⟨rfl, hover.1, jumpAt, hjump, hover.2⟩⟩
      · exact ⟨[], rfl, .inl rfl⟩
  have hcompare : ∀ t : Mapping.State K, ∃ alarmed,
      (Mapping.comparePosition cfg tick.now tick.position t).published =
        alarmed ++ t.published ∧ (alarmed = [] ∨ alarmed = [false]) := by
    intro t
    unfold Mapping.comparePosition
    dsimp only
    split
    · exact ⟨[], rfl, .inl rfl⟩
    · split
      · exact ⟨[false], rfl, .inr rfl⟩
      · exact ⟨[], rfl, .inl rfl⟩
  obtain ⟨released, hreleased, hhold⟩ := hrelease
  unfold Mapping.check
  dsimp only
  split
  · exact ⟨released, [], hreleased, .inl rfl, hhold⟩
  split
  · exact ⟨released, [], hreleased, .inl rfl, hhold⟩
  · obtain ⟨alarmed, halarmed, hkind⟩ := hcompare (Mapping.releaseHold cfg tick.now s)
    refine ⟨released, alarmed, ?_, hkind, hhold⟩
    rw [halarmed, hreleased, List.append_assoc]

end

/-! ### The alarms on their way -/

theorem announce_verdict {past messages : List Bool} :
    ∀ m ∈ Relay.announce past messages, m.value = verdict m.readings := by
  intro m hm
  rw [verdict, List.headD_eq_head?_getD, Relay.announce_value m hm, Option.getD_some]

/-! ### The fleet states on their way -/

theorem published_call (cfg : Fleet.Config) (s : Fleet.State) (e : Fleet.Callback) :
    published s (s.call cfg e) = [] ∨ ∃ now robots, e = .other (.publishFleetState now) ∧
      published s (s.call cfg e) = [⟨now, robots⟩] ∧
      robots.map Fleet.withoutGrace =
        cfg.robotIds.filterMap fun id => (s.reading id).map (Fleet.Reading.entry cfg now) := by
  unfold published
  by_cases htick : ∃ now, e = .other (.publishFleetState now)
  · obtain ⟨now, rfl⟩ := htick
    obtain ⟨robots, hticks, hrobots⟩ := @Fleet.ticks_publishFleetState cfg now s
    have hcall : (s.call cfg (.other (.publishFleetState now))).ticks = ⟨now, robots⟩ :: s.ticks :=
      hticks
    exact .inr ⟨now, robots, rfl, by simp [hcall], hrobots⟩
  · have hother : ∀ now, e ≠ .other (.publishFleetState now) := fun now heq => htick ⟨now, heq⟩
    exact .inl (by simp [Fleet.ticks_call hother])

theorem published_repeats {cfg : Fleet.Config} {s : Fleet.State} {robotId : String}
    {verdicts : List Bool} (hnamed : s.Named)
    (h : ∀ x, s.reading robotId = some x → x.localizationOk = verdict verdicts)
    (e : Fleet.Callback) :
    ∀ message ∈ published s (s.call cfg e), Repeats robotId verdicts message := by
  intro message hm robot hrobot hid
  rcases published_call cfg s e with hnone | ⟨now, robots, _, hone, hrobots⟩
  · simp [hnone] at hm
  · rw [hone, List.mem_singleton] at hm
    subst hm
    have hentry : Fleet.withoutGrace robot ∈ robots.map Fleet.withoutGrace :=
      List.mem_map_of_mem hrobot
    rw [hrobots] at hentry
    obtain ⟨id, _, hx⟩ := List.mem_filterMap.mp hentry
    obtain ⟨x, hx, heq⟩ := Option.map_eq_some_iff.mp hx
    have hname : x.robotId = robot.robotId := congrArg FleetRobotState.robotId heq
    have hok : x.localizationOk = robot.localizationOk :=
      congrArg FleetRobotState.localizationOk heq
    have hown : id = robotId := by rw [← hnamed id x hx, hname, hid]
    subst hown
    rw [← hok]
    exact h x hx

theorem call_reading {cfg : Fleet.Config} {s : Fleet.State} {robotId : String}
    {e : Fleet.Callback} (hnamed : s.Named) (h : isHeartbeatOf robotId e = false) :
    (s.call cfg e).reading robotId = s.reading robotId := by
  have hnone : e.reading robotId = none := by
    unfold Fleet.Callback.reading
    split
    · rename_i id message now
      refine if_neg fun heq => ?_
      simp [isHeartbeatOf, heq] at h
    · rfl
  rw [Fleet.reading_call e hnamed, hnone]
  simp

/-! ### The steps -/

theorem World.Linked.lost {K : Type} [One K] {cfg : Config K} {w : World K} (h : w.Linked cfg)
    {alarms : List (Resting Bool)} {heartbeats : List (Resting RobotHeartbeat)}
    {fleetStates : List (Resting FleetState)}
    (ha : alarms.Sublist w.alarms) (hh : heartbeats.Sublist w.heartbeats)
    (hf : fleetStates.Sublist w.fleetStates) :
    World.Linked cfg { w with alarms, heartbeats, fleetStates } := by
  refine { h with
    ordered := ?_
    alarms := fun m hm => h.alarms m (ha.subset hm)
    heartbeats := fun m hm => h.heartbeats m (hh.subset hm)
    fleetStates := fun m hm => h.fleetStates m (hf.subset hm) }
  refine h.ordered.sublist ?_
  have hback := (ha.map (·.readings)).append_right [w.watchdog.published]
  have hmid := (hh.map (·.readings)).append (hback.cons_cons w.heartbeat.readings)
  exact ((hf.map (·.readings)).append (hmid.cons_cons w.fleet.readings)).cons_cons
    w.scheduler.readings

section

variable {K : Type} [Field K] [LinearOrder K] {cfg : Config K} {w v : World K}

theorem World.Linked.check (h : w.Linked cfg) {tick : Mapping.Tick K}
    (hstep : w.step cfg (.check tick) = some v) : v.Linked cfg := by
  obtain ⟨released, alarmed, hpublished, _, _⟩ :=
    check_publishes cfg.watchdog w.watchdog tick
  simp only [World.step, Option.some.injEq] at hstep
  rw [hpublished, List.length_append, Nat.add_sub_cancel, List.take_left] at hstep
  subst hstep
  refine { h with ordered := ?_, alarms := fun m hm => ?_ }
  · have hordered := Relay.announce_ordered (w.scheduler.readings ::
      (w.fleetStates.map (·.readings) ++ w.fleet.readings ::
        (w.heartbeats.map (·.readings) ++ [w.heartbeat.readings]))) w.alarms w.watchdog.published
      (alarmed ++ released) (by simpa [World.stages] using h.ordered)
    simpa [World.stages, hpublished] using hordered
  · rcases List.mem_append.mp hm with hm | hm
    · exact h.alarms m hm
    · exact announce_verdict m hm

theorem World.Linked.localizationOk (h : w.Linked cfg)
    (hstep : w.step cfg .localizationOk = some v) : v.Linked cfg := by
  simp only [World.step] at hstep
  split at hstep
  · cases hstep
  · rename_i m queue hqueue
    cases hstep
    have hm : ∀ m' ∈ m :: queue, m'.value = verdict m'.readings := hqueue ▸ h.alarms
    refine { h with
      ordered := ?_
      alarms := fun m' hm' => hm m' (.tail m hm')
      heartbeat := hm m (.head queue) }
    have hordered := h.ordered
    rw [World.stages, hqueue] at hordered
    have hdelivered := Relay.deliver Relay.Resting.readings (w.scheduler.readings ::
      (w.fleetStates.map (·.readings) ++ w.fleet.readings :: w.heartbeats.map (·.readings)))
      [w.watchdog.published] (by simpa using hordered)
    simpa [World.stages] using hdelivered

theorem World.Linked.publishHeartbeat (h : w.Linked cfg) {now : Time}
    (hstep : w.step cfg (.publishHeartbeat now) = some v) : v.Linked cfg := by
  cases hstep
  refine { h with ordered := ?_, heartbeats := fun m hm => ?_ }
  · have hsent := Relay.send Relay.Resting.readings (w.scheduler.readings ::
      (w.fleetStates.map (·.readings) ++ [w.fleet.readings]))
      (w.alarms.map (·.readings) ++ [w.watchdog.published]) w.heartbeats
      ⟨Heartbeat.publishHeartbeat cfg.heartbeat now w.heartbeat.value, w.heartbeat.readings⟩
      List.suffix_rfl (by simpa [World.stages] using h.ordered)
    simpa [World.stages] using hsent
  · rcases List.mem_append.mp hm with hm | hm
    · exact h.heartbeats m hm
    · rw [List.mem_singleton.mp hm]
      exact h.heartbeat

theorem World.Linked.hear (h : w.Linked cfg) {now : Time}
    (hstep : w.step cfg (.heartbeat now) = some v) : v.Linked cfg := by
  simp only [World.step] at hstep
  split at hstep
  · cases hstep
  · rename_i m queue hqueue
    cases hstep
    have hm : ∀ m' ∈ m :: queue, m'.value.localizationOk = verdict m'.readings :=
      hqueue ▸ h.heartbeats
    have hreading := @Fleet.reading_heartbeat now w.fleet.value cfg.robotId m.value h.named
    refine { h with
      ordered := ?_
      heartbeats := fun m' hm' => hm m' (.tail m hm')
      named := ?_
      fleet := fun x hx => ?_ }
    · have hordered := h.ordered
      rw [World.stages, hqueue] at hordered
      have hdelivered := Relay.deliver Relay.Resting.readings (w.scheduler.readings ::
        w.fleetStates.map (·.readings)) (w.heartbeat.readings ::
          (w.alarms.map (·.readings) ++ [w.watchdog.published])) (by simpa using hordered)
      simpa [World.stages] using hdelivered
    · have hnamed := @Fleet.State.Named.call cfg.fleet _ h.named
        (.other (.heartbeat cfg.robotId m.value now))
      exact hnamed
    · dsimp only at hx
      rw [hreading, Function.update_self] at hx
      obtain ⟨_, _, rfl⟩ := Option.map_eq_some_iff.mp hx
      exact hm m (.head queue)

theorem World.Linked.manage (h : w.Linked cfg) {e : Fleet.Callback}
    (hstep : w.step cfg (.fleet e) = some v) : v.Linked cfg := by
  simp only [World.step] at hstep
  split at hstep
  · cases hstep
  · rename_i hother
    cases hstep
    refine { h with
      ordered := ?_
      named := h.named.call e
      fleet := fun x hx => ?_
      fleetStates := fun m hm => ?_ }
    · rcases published_call cfg.fleet w.fleet.value e with hnone | ⟨now, robots, _, hone, _⟩
      · simpa [World.stages, hnone] using h.ordered
      · have hsent := Relay.send Relay.Resting.readings [w.scheduler.readings]
          (w.heartbeats.map (·.readings) ++ w.heartbeat.readings ::
            (w.alarms.map (·.readings) ++ [w.watchdog.published])) w.fleetStates
          ⟨⟨now, robots⟩, w.fleet.readings⟩ List.suffix_rfl
          (by simpa [World.stages] using h.ordered)
        simpa [World.stages, hone] using hsent
    · rw [call_reading h.named (Bool.eq_false_iff.mpr hother)] at hx
      exact h.fleet x hx
    · rcases List.mem_append.mp hm with hm | hm
      · exact h.fleetStates m hm
      · obtain ⟨message, hmessage, rfl⟩ := List.mem_map.mp hm
        exact published_repeats h.named h.fleet e message (List.mem_reverse.mp hmessage)

theorem World.Linked.fleetState (h : w.Linked cfg) {now : Time}
    {visit : List (Sigma fun _ : String => Scheduler.ActiveMission)}
    (hstep : w.step cfg (.fleetState now visit) = some v) : v.Linked cfg := by
  simp only [World.step] at hstep
  split at hstep
  · cases hstep
  · rename_i m queue hqueue
    obtain ⟨scheduler, hscheduler, rfl⟩ := Option.map_eq_some_iff.mp hstep
    have hm : ∀ m' ∈ m :: queue, Repeats cfg.robotId m'.readings m'.value :=
      hqueue ▸ h.fleetStates
    refine { h with
      ordered := ?_
      fleetStates := fun m' hm' => hm m' (.tail m hm')
      scheduler := ?_ }
    · have hordered := h.ordered
      rw [World.stages, hqueue] at hordered
      have hdelivered := Relay.deliver Relay.Resting.readings [] (w.fleet.readings ::
        (w.heartbeats.map (·.readings) ++ w.heartbeat.readings ::
          (w.alarms.map (·.readings) ++ [w.watchdog.published]))) (by simpa using hordered)
      simpa [World.stages] using hdelivered
    · dsimp only
      rw [(Scheduler.step_readings hscheduler).2]
      exact hm m (.head queue)

theorem linked_step {e : Event K} (h : w.Linked cfg) (hstep : w.step cfg e = some v) :
    v.Linked cfg := by
  cases e with
  | check tick => exact h.check hstep
  | localizationOk => exact h.localizationOk hstep
  | patrolStatus status =>
    cases hstep
    refine { h with heartbeat := ?_ }
    rw [← h.heartbeat]
    dsimp only
    unfold Heartbeat.patrolStatusCallback
    split <;> rfl
  | missionType data =>
    cases hstep
    exact { h with heartbeat := h.heartbeat }
  | publishHeartbeat now => exact h.publishHeartbeat hstep
  | heartbeat now => exact h.hear hstep
  | fleet e => exact h.manage hstep
  | fleetState now visit => exact h.fleetState hstep
  | scheduler e =>
    simp only [World.step] at hstep
    split at hstep
    · cases hstep
    · rename_i hother
      obtain ⟨scheduler, hscheduler, rfl⟩ := Option.map_eq_some_iff.mp hstep
      refine { h with scheduler := ?_ }
      dsimp only
      rw [(Scheduler.step_readings hscheduler).2, Option.not_isSome_iff_eq_none.mp hother]
      exact h.scheduler
  | alarmLost =>
    obtain ⟨kept, hkept, rfl⟩ := Option.map_eq_some_iff.mp hstep
    exact h.lost (Execution.overrun_sublist hkept) (.refl _) (.refl _)
  | heartbeatLost =>
    obtain ⟨kept, hkept, rfl⟩ := Option.map_eq_some_iff.mp hstep
    exact h.lost (.refl _) (Execution.overrun_sublist hkept) (.refl _)
  | fleetStateLost =>
    obtain ⟨kept, hkept, rfl⟩ := Option.map_eq_some_iff.mp hstep
    exact h.lost (.refl _) (.refl _) (Execution.overrun_sublist hkept)

/-! ### Runs -/

theorem reachable_linked {startedAt : Time} {store : Fleet.MissionStore} {fleet : Fleet.State}
    (hinit : Fleet.State.init cfg.fleet store = .ok fleet)
    (h : (machine cfg startedAt fleet).Reachable w) : w.Linked cfg := by
  refine h.invariant (P := World.Linked cfg) ?_ fun s e t hs hstep => linked_step hs hstep
  obtain ⟨hempty, _⟩ := Fleet.init_records hinit
  refine ⟨?_, ?_, rfl, ?_, (Fleet.init_reading hinit).1, ?_, ?_, ?_⟩
  · simp [World.stages, machine, Mapping.State.init, Mapping.publishStatus]
  · simp [machine, verdict]
  · simp [machine]
  · intro x hx
    obtain ⟨record, hrecord, rfl⟩ := Option.map_eq_some_iff.mp hx
    rw [hempty _ record hrecord]
    rfl
  · simp [machine]
  · simp [machine, Repeats, Scheduler.State.init, Scheduler.publishQueueState]

theorem step_told {e : Event K} (h : w.Linked cfg) (hstep : w.step cfg e = some v) :
    w.scheduler.readings <:+ v.scheduler.readings := by
  cases e with
  | fleetState now visit =>
    simp only [World.step] at hstep
    split at hstep
    · cases hstep
    · rename_i m queue hqueue
      obtain ⟨scheduler, _, rfl⟩ := Option.map_eq_some_iff.mp hstep
      have hordered := h.ordered
      rw [World.stages, hqueue] at hordered
      exact (List.pairwise_cons.mp hordered).1 m.readings (by simp)
  | localizationOk | heartbeat | fleet =>
    simp only [World.step] at hstep
    split at hstep <;> cases hstep
    exact List.suffix_rfl
  | scheduler e =>
    simp only [World.step] at hstep
    split at hstep
    · cases hstep
    · obtain ⟨scheduler, _, rfl⟩ := Option.map_eq_some_iff.mp hstep
      exact List.suffix_rfl
  | alarmLost | heartbeatLost | fleetStateLost =>
    obtain ⟨kept, _, rfl⟩ := Option.map_eq_some_iff.mp hstep
    exact List.suffix_rfl
  | _ =>
    cases hstep
    exact List.suffix_rfl

theorem step_watchdog {e : Event K} (hstep : w.step cfg e = some v) :
    v.watchdog = w.watchdog ∨ ∃ tick, e = .check tick ∧
      v.watchdog = Mapping.check cfg.watchdog w.watchdog tick := by
  cases e with
  | check tick =>
    cases hstep
    exact .inr ⟨tick, rfl, rfl⟩
  | localizationOk | heartbeat | fleet =>
    simp only [World.step] at hstep
    split at hstep <;> cases hstep
    exact .inl rfl
  | scheduler | fleetState =>
    simp only [World.step] at hstep
    split at hstep
    · cases hstep
    · obtain ⟨scheduler, _, rfl⟩ := Option.map_eq_some_iff.mp hstep
      exact .inl rfl
  | alarmLost | heartbeatLost | fleetStateLost =>
    obtain ⟨kept, _, rfl⟩ := Option.map_eq_some_iff.mp hstep
    exact .inl rfl
  | _ =>
    cases hstep
    exact .inl rfl

theorem check_releases {tick : Mapping.Tick K} {past : List Bool}
    (h : true :: past <:+ (Mapping.check cfg.watchdog w.watchdog tick).published) :
    true :: past <:+ w.watchdog.published ∨
      w.watchdog.published = past ∧ w.Releases cfg tick := by
  obtain ⟨released, alarmed, hpublished, hkind, hreleased⟩ :=
    check_publishes cfg.watchdog w.watchdog tick
  rw [hpublished, List.append_assoc] at h
  have hrest : true :: past <:+ released ++ w.watchdog.published := by
    rcases hkind with rfl | rfl
    · exact h
    · rcases List.suffix_cons_iff.mp h with heq | hsuffix
      · cases heq
      · exact hsuffix
  rcases hreleased with rfl | ⟨rfl, hhold⟩
  · exact .inl hrest
  · rcases List.suffix_cons_iff.mp hrest with heq | hsuffix
    · cases heq
      exact .inr ⟨rfl, hhold⟩
    · exact .inl hsuffix

/-- A verdict that ends an alarm was published at a check that releases it. -/
theorem released_before {startedAt : Time} {fleet : Fleet.State} {es : List (Event K)}
    (h : (machine cfg startedAt fleet).run es = some w) {past : List Bool} (hpast : past ≠ [])
    (hverdict : true :: past <:+ w.watchdog.published) :
    ∃ x tick y, (machine cfg startedAt fleet).Takes es x (.check tick) y ∧
      x.watchdog.published = past ∧ x.Releases cfg tick := by
  have hinit : ¬ true :: past <:+ (machine cfg startedAt fleet).init.watchdog.published := by
    intro hfirst
    have hone : true :: past <:+ [true] := hfirst
    rcases List.suffix_cons_iff.mp hone with heq | hsuffix
    · cases heq
      exact hpast rfl
    · cases List.suffix_nil.mp hsuffix
  obtain ⟨x, e, y, htake, hbefore, hafter⟩ := Machine.brought_about
    (P := fun v : World K => true :: past <:+ v.watchdog.published) hinit h hverdict
  rcases step_watchdog htake.step_eq with hsame | ⟨tick, rfl, hcheck⟩
  · rw [hsame] at hafter
    exact absurd hafter hbefore
  · rw [hcheck] at hafter
    rcases check_releases hafter with hsuffix | hreleased
    · exact absurd hsuffix hbefore
    · exact ⟨x, tick, y, htake, hreleased⟩

end

theorem World.Linked.dispatches {K : Type} [One K] {cfg : Config K} {w : World K} {e : Event K}
    {d : Scheduler.Dispatch} (h : w.Linked cfg) (hd : w.Dispatches cfg e d)
    (hrobot : d.robotId = cfg.robotId) :
    verdict w.scheduler.readings = true := by
  obtain ⟨now, ready, rfl, hsent⟩ := hd
  obtain ⟨robot, hmem, hid, hfit⟩ := Scheduler.dispatched_fit hsent
  rw [← h.scheduler robot hmem (hid.trans hrobot), hfit.localizationOk]

/-- Once the scheduler has been told of an alarm, it sends the robot no mission until the
watchdog has released that alarm, the hold time after the last jump. -/
theorem dispatch_after_release {K : Type} [Field K] [LinearOrder K] {cfg : Config K}
    {startedAt : Time} {store : Fleet.MissionStore} {fleet : Fleet.State}
    (hinit : Fleet.State.init cfg.fleet store = .ok fleet)
    {es later : List (Event K)} {u w : World K} {e : Event K} {d : Scheduler.Dispatch}
    (hu : (machine cfg startedAt fleet).run es = some u) (halarm : u.Alarmed cfg)
    (hw : (machine cfg startedAt fleet).runFrom u later = some w) (hd : w.Dispatches cfg e d)
    (hrobot : d.robotId = cfg.robotId) :
    u.scheduler.readings.head? = some false ∧
    ∃ x tick y, (machine cfg startedAt fleet).Takes (es ++ later) x (.check tick) y ∧
      u.scheduler.readings <:+ x.watchdog.published ∧ x.Releases cfg tick := by
  have hlinked := reachable_linked hinit ⟨es, hu⟩
  have hrun := (machine cfg startedAt fleet).run_append hu hw
  have hlinked' := reachable_linked hinit ⟨es ++ later, hrun⟩
  have htold : u.scheduler.readings <:+ w.scheduler.readings :=
    Machine.Reachable.kept (P := fun v => u.scheduler.readings <:+ v.scheduler.readings)
      (fun v e v' hv hsuffix hstep => hsuffix.trans (step_told (reachable_linked hinit hv) hstep))
      ⟨es, hu⟩ List.suffix_rfl hw
  have hok : verdict w.scheduler.readings = true := hlinked'.dispatches hd hrobot
  obtain ⟨robot, hrobot, hid, hbad⟩ := halarm
  have hverdict : verdict u.scheduler.readings = false := by
    rw [← hlinked.scheduler robot hrobot hid, hbad]
  have hpublished : w.scheduler.readings <:+ w.watchdog.published :=
    (List.pairwise_cons.mp hlinked'.ordered).1 _ (by simp)
  have halarm : u.scheduler.readings.head? = some false := by
    cases htop : u.scheduler.readings with
    | nil => simp [htop, verdict] at hverdict
    | cons first past => simpa [htop, verdict] using hverdict
  have hcalm : w.scheduler.readings.head? = some true := by
    cases hnow : w.scheduler.readings with
    | nil =>
      rw [hnow] at htold
      simp [List.suffix_nil.mp htold] at halarm
    | cons last rest => simpa [hnow, verdict] using hok
  obtain ⟨past, hlast, hafter⟩ := Relay.heard_after htold hcalm (by simp [halarm])
  have hpast : past ≠ [] := by
    rintro rfl
    simp [List.suffix_nil.mp hafter] at halarm
  obtain ⟨x, tick, y, htake, rfl, hreleases⟩ :=
    released_before hrun hpast (hlast ▸ hpublished)
  exact ⟨halarm, x, tick, y, htake, hafter, hreleases⟩

/-- The robot jumps, and the scheduler is told of it. -/
def jumpRun : List (Event ℚ) :=
  [.check ⟨seconds 1, (0, 0), true, false⟩, .check ⟨seconds 2, (5, 0), true, false⟩,
    .alarmLost, .localizationOk, .publishHeartbeat 0, .heartbeat (seconds 2),
    .fleet (.other (.publishFleetState (seconds 2))), .fleetState (seconds 2) []]

/-- The watchdog ends the alarm, the scheduler is told of that, and a patrol is asked for. -/
def calmRun : List (Event ℚ) :=
  [.check ⟨seconds 8, (5, 0), true, false⟩, .localizationOk, .publishHeartbeat 0,
    .heartbeat (seconds 8), .fleet (.other (.publishFleetState (seconds 8))),
    .fleetState (seconds 8) [], .scheduler (.systemReady true), .scheduler (.dispatchPatrol 0)]

def shippedMachine : Machine (World ℚ) (Event ℚ) := machine {} 0 Fleet.shipped

def jumpedWorld : World ℚ := (shippedMachine.run jumpRun).get (by decide +kernel)

def calmWorld : World ℚ := (shippedMachine.runFrom jumpedWorld calmRun).get (by decide +kernel)

def sentPatrol : Scheduler.Dispatch :=
  (Scheduler.processQueue {} (seconds 9) true calmWorld.scheduler.value.node).2.get
    (by decide +kernel)

theorem dispatch_after_release_patrol : ∃ x tick y,
    shippedMachine.Takes (jumpRun ++ calmRun) x (.check tick) y ∧
      jumpedWorld.scheduler.readings <:+ x.watchdog.published ∧ x.Releases {} tick := by
  have hu : shippedMachine.run jumpRun = some jumpedWorld := (Option.some_get _).symm
  have halarm : jumpedWorld.Alarmed {} := by
    unfold World.Alarmed
    decide +kernel
  have hw : shippedMachine.runFrom jumpedWorld calmRun = some calmWorld :=
    (Option.some_get _).symm
  have hd : calmWorld.Dispatches {} (.scheduler (.processQueue (seconds 9) true)) sentPatrol :=
    ⟨seconds 9, true, rfl, (Option.some_get _).symm⟩
  have hrobot : sentPatrol.robotId = "robot1" := by decide +kernel
  exact (dispatch_after_release (by rfl) hu halarm hw hd hrobot).2

end PatrolFleet.Localization
