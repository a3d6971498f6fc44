import PatrolFleet.Fleet.Dropout
import PatrolFleet.Safety.EmergencyStop

/-!
The fleet manager with the gates of the robots: the e-stop of a robot that stays
offline, until an operator releases it.
-/

set_option autoImplicit false

namespace PatrolFleet.AutoEstop

open Fleet (Callback Sent)

/-- The fleet manager, the gates, and the latest time the fleet manager has read. -/
structure World where
  manager : Fleet.State
  gates : Safety.World
  clock : Time

inductive Event where
  | manager (e : Callback)
  | gate (e : Safety.Event)

/-- An `estop` message goes into the subscription of the robot's gate. -/
def deliver (m : Sent) (gates : Safety.World) : Safety.World :=
  match m with
  | .estop robotId active => { gates with
      estop := Function.update gates.estop robotId
        (Safety.keepLast 1 (gates.estop robotId) active) }
  | _ => gates

/-- The clock is positive and never goes back; `estop` is published by the fleet
manager only. -/
def World.step (cfg : Fleet.Config) (launched : List String) (w : World) : Event → Option World
  | .manager e =>
    if e.time.all fun now => decide (0 < now ∧ w.clock ≤ now) then
      let manager := w.manager.call cfg e
      some {
        manager
        gates := (Fleet.sentSince w.manager manager).foldr deliver w.gates
        clock := e.time.getD w.clock }
    else none
  | .gate (.sendEstop ..) => none
  | .gate e => (w.gates.step launched e).map fun gates => { w with gates }

def machine (cfg : Fleet.Config) (launched : List String) (fleet : Fleet.State) :
    Machine World Event where
  init := ⟨fleet, {}, 0⟩
  step := World.step cfg launched

/-- A robot that was observed not online at every tick since one at least
`auto_estop_after_offline_seconds_` ago has `true` as the last value published. -/
def World.LostStopped (cfg : Fleet.Config) (now : Time) (w : World) : Prop :=
  ∀ robotId ∈ cfg.robotIds, ∀ message, w.manager.OfflineSince robotId message →
    cfg.autoEstopAfterOffline ≤ now - message.stamp → w.manager.lastEstop robotId = some true

/-- From `w` to `v` no `false` was published for the robot. -/
def World.Unreleased (w v : World) (robotId : String) : Prop :=
  ∃ messages, v.manager.sent = messages ++ w.manager.sent ∧ .estop robotId false ∉ messages

/-- The gate has processed the latest value. -/
structure World.Settled (w : World) (robotId : String) (active : Bool) : Prop where
  latest : w.manager.lastEstop robotId = some active
  processed : w.gates.estop robotId = []

/-- The gate forwards a command while the value is `false`, and emits the zero twist
for it while the value is `true`. -/
def World.Gated (w : World) (robotId : String) (active : Bool) : Prop :=
  ∀ message queue,
    w.gates.cmdVelNav (Safety.safetyGate.resolve robotId "cmd_vel_nav") = message :: queue →
    w.gates.publishes (.navCmdVel robotId) =
      [(Safety.baseTopic robotId, if active then Twist.zero else message)]

/-- When a gate becomes active it emits the zero twist. -/
def World.StopsOnce (w v : World) (e : Safety.Event) : Prop :=
  ∀ robotId, (w.gates.gate robotId).estopActive = false →
    (v.gates.gate robotId).estopActive = true →
    w.gates.publishes e = [(Safety.baseTopic robotId, Twist.zero)]

/-! ### The gates hear the fleet manager -/

/-- The value that waits for the gate, or else the last one it has processed, is the
last one published. -/
def InStep (gates : Safety.World) (sent : List Sent) : Prop :=
  ∀ robotId, (gates.estop robotId).length ≤ 1 ∧
    (gates.estop robotId).head?.or (gates.heard robotId).head? =
      sent.findSome? (Sent.estopOf robotId)

section

variable {cfg : Fleet.Config} {launched : List String} {store : Fleet.MissionStore}
  {fleet : Fleet.State}

theorem inStep_deliver {gates : Safety.World} {sent : List Sent} (h : InStep gates sent)
    (m : Sent) : InStep (deliver m gates) (m :: sent) := by
  intro robotId
  cases m with
  | estop id active =>
    by_cases heq : robotId = id
    · subst heq
      simp [deliver, Safety.keepLast, Sent.estopOf]
    · simpa [deliver, Function.update_of_ne heq, Sent.estopOf, Ne.symm heq] using h robotId
  | _ => exact h robotId

theorem inStep_foldr {gates : Safety.World} {sent : List Sent} (h : InStep gates sent)
    (messages : List Sent) : InStep (messages.foldr deliver gates) (messages ++ sent) := by
  induction messages with
  | nil => exact h
  | cons m messages ih => exact inStep_deliver ih m

theorem gatesHeard_foldr {gates : Safety.World} (h : gates.GatesHeard) (messages : List Sent) :
    (messages.foldr deliver gates).GatesHeard := by
  induction messages with
  | nil => exact h
  | cons m messages ih =>
    cases m with
    | estop robotId active =>
      have hstep : (messages.foldr deliver gates).step [] (.sendEstop robotId active) =
          some (deliver (.estop robotId active) (messages.foldr deliver gates)) := rfl
      exact Safety.gatesHeard_step ih hstep
    | _ => exact ih

/-- What holds in every state of a run. -/
structure World.Inv (cfg : Fleet.Config) (w : World) : Prop where
  tracked : w.manager.Tracked cfg w.clock
  inStep : InStep w.gates w.manager.sent
  heard : w.gates.GatesHeard

theorem manager_step {w v : World} {e : Callback}
    (h : w.step cfg launched (.manager e) = some v) :
    (∀ now, e.time = some now → 0 < now ∧ w.clock ≤ now) ∧
    v = ⟨w.manager.call cfg e,
      (Fleet.sentSince w.manager (w.manager.call cfg e)).foldr deliver w.gates,
      e.time.getD w.clock⟩ := by
  simp only [World.step] at h
  split at h
  · rename_i htime
    cases h
    refine ⟨fun now hnow => ?_, rfl⟩
    simpa [hnow] using htime
  · cases h

theorem gate_step {w v : World} {e : Safety.Event}
    (h : w.step cfg launched (.gate e) = some v) :
    ∃ gates, w.gates.step launched e = some gates ∧ v = { w with gates } ∧
      ∀ ns engage, e ≠ .sendEstop ns engage := by
  cases e with
  | sendEstop ns engage => cases h
  | _ =>
    obtain ⟨gates, hgates, rfl⟩ := Option.map_eq_some_iff.mp h
    exact ⟨gates, hgates, rfl, by simp⟩

theorem inStep_gate {gates gates' : Safety.World} {sent : List Sent} {e : Safety.Event}
    (h : InStep gates sent) (hstep : gates.step launched e = some gates')
    (hnot : ∀ ns engage, e ≠ .sendEstop ns engage) : InStep gates' sent := by
  cases Safety.stepped hstep with
  | quiet _ hestop hheard =>
    intro robotId
    rw [hestop, hheard]
    exact h robotId
  | sent ns engage => exact absurd rfl (hnot ns engage)
  | @processed ns engage queue hqueue =>
    intro robotId
    by_cases heq : robotId = ns
    · subst heq
      obtain ⟨hlen, hlast⟩ := h robotId
      rw [hqueue] at hlen hlast
      have hnil : queue = [] := by simpa using hlen
      subst hnil
      simpa using hlast
    · simpa [Function.update_of_ne heq] using h robotId

theorem inv_init (hinit : Fleet.State.init cfg store = .ok fleet) :
    (machine cfg launched fleet).init.Inv cfg := by
  refine ⟨Fleet.tracked_init hinit, fun robotId => ?_, fun robotId => rfl⟩
  simp [machine, Fleet.init_sent hinit]

theorem inv_step {w v : World} {e : Event} (h : w.Inv cfg)
    (hstep : w.step cfg launched e = some v) : v.Inv cfg := by
  cases e with
  | manager e =>
    obtain ⟨htime, rfl⟩ := manager_step hstep
    have heffect := (Fleet.effect_call cfg e w.manager).sentSince_eq
    refine ⟨Fleet.tracked_call h.tracked htime, ?_, gatesHeard_foldr h.heard _⟩
    rw [heffect.1]
    exact inStep_foldr h.inStep _
  | gate e =>
    obtain ⟨gates, hgates, rfl, hnot⟩ := gate_step hstep
    exact ⟨h.tracked, inStep_gate h.inStep hgates hnot, Safety.gatesHeard_step h.heard hgates⟩

theorem reachable_inv (hinit : Fleet.State.init cfg store = .ok fleet) {w : World}
    (h : (machine cfg launched fleet).Reachable w) : w.Inv cfg :=
  h.invariant (P := World.Inv cfg) (inv_init hinit) fun _ _ _ hs hstep => inv_step hs hstep

/-! ### The three parts -/

theorem World.Inv.lostStopped {w v : World} {now : Time} (h : w.Inv cfg)
    (hauto : 0 < cfg.autoEstopAfterOffline)
    (hstep : w.step cfg launched (.manager (.other (.publishFleetState now))) = some v) :
    v.LostStopped cfg now := by
  obtain ⟨htime, rfl⟩ := manager_step hstep
  obtain ⟨hpos, hle⟩ := htime now rfl
  intro robotId hmem message hm hlast
  obtain ⟨record, _, htracks, hset⟩ := Fleet.tick_robot h.tracked hle hpos hmem
  exact htracks.estopped (hset message hm hauto hlast)

theorem unreleased_step {w v : World} {e : Event} {robotId : String}
    (hstep : w.step cfg launched e = some v) (he : e ≠ .manager (.other .estopReleaseAll)) :
    w.Unreleased v robotId := by
  cases e with
  | manager e =>
    obtain ⟨_, rfl⟩ := manager_step hstep
    obtain ⟨hsent, hsends⟩ := (Fleet.effect_call cfg e w.manager).sentSince_eq
    refine ⟨_, hsent, fun hm => ?_⟩
    have hfalse := hsends _ hm
    unfold Callback.sends at hfalse
    split at hfalse <;> simp_all
  | gate e =>
    obtain ⟨gates, _, rfl, _⟩ := gate_step hstep
    exact ⟨[], rfl, by simp⟩

theorem World.Unreleased.trans {u v w : World} {robotId : String} (h : u.Unreleased v robotId)
    (h' : v.Unreleased w robotId) : u.Unreleased w robotId := by
  obtain ⟨messages, hsent, hnot⟩ := h
  obtain ⟨messages', hsent', hnot'⟩ := h'
  refine ⟨messages' ++ messages, by rw [hsent', hsent, List.append_assoc], ?_⟩
  simp [hnot, hnot']

theorem unreleased_run {w v : World} {es : List Event} {robotId : String}
    (hrun : (machine cfg launched fleet).runFrom w es = some v)
    (hes : .manager (.other .estopReleaseAll) ∉ es) : w.Unreleased v robotId := by
  induction es generalizing w with
  | nil =>
    cases hrun
    exact ⟨[], rfl, by simp⟩
  | cons e es ih =>
    obtain ⟨u, hu, hrun⟩ := Option.bind_eq_some_iff.mp hrun
    rw [List.mem_cons, not_or] at hes
    exact (unreleased_step hu (Ne.symm hes.1)).trans (ih hrun hes.2)

theorem World.Inv.gated {w : World} {robotId : String} {active : Bool} (h : w.Inv cfg)
    (hs : w.Settled robotId active) : w.Gated robotId active := by
  have hheard : (w.gates.heard robotId).head? = some active := by
    obtain ⟨_, hlast⟩ := h.inStep robotId
    rw [hs.processed] at hlast
    exact hlast.trans hs.latest
  have hactive : (w.gates.gate robotId).estopActive = active := by
    rw [h.heard robotId, hheard]
    rfl
  intro message queue hqueue
  simp only [Safety.World.publishes, hqueue, Safety.navCmdVelCallback, hactive]
  cases active <;> rfl

theorem stopsOnce_step {w v : World} {e : Safety.Event}
    (hstep : w.step cfg launched (.gate e) = some v) : w.StopsOnce v e := by
  obtain ⟨gates, hgates, rfl, hnot⟩ := gate_step hstep
  intro robotId hoff hon
  cases Safety.stepped hgates with
  | quiet hgate => simp [hgate, hoff] at hon
  | sent ns engage => exact absurd rfl (hnot ns engage)
  | @processed ns engage queue hqueue =>
    by_cases heq : robotId = ns
    · subst heq
      have hengage : engage = true := by simpa using hon
      simp [Safety.World.publishes, hqueue, Safety.estopCallback, hoff, hengage,
        Safety.publishZero]
    · simp [Function.update_of_ne heq, hoff] at hon

end

theorem auto_estop_guarantee {cfg : Fleet.Config} {store : Fleet.MissionStore} {fleet : Fleet.State}
    (hinit : Fleet.State.init cfg store = .ok fleet) (hauto : 0 < cfg.autoEstopAfterOffline)
    (launched : List String) :
    (∀ es w now v,
      (machine cfg launched fleet).Takes es w (.manager (.other (.publishFleetState now))) v →
      v.LostStopped cfg now) ∧
    (∀ w es v robotId, (machine cfg launched fleet).Reachable w →
      (machine cfg launched fleet).runFrom w es = some v →
      .manager (.other .estopReleaseAll) ∉ es → w.Unreleased v robotId) ∧
    (∀ w robotId active, (machine cfg launched fleet).Reachable w → w.Settled robotId active →
      w.Gated robotId active) ∧
    ∀ es w e v, (machine cfg launched fleet).Takes es w (.gate e) v → w.StopsOnce v e := by
  refine ⟨?_, ?_, ?_, ?_⟩
  · intro es w now v htake
    have hstep : w.step cfg launched (.manager (.other (.publishFleetState now))) = some v :=
      htake.step_eq
    exact (reachable_inv hinit htake.visits.reachable).lostStopped hauto hstep
  · intro w es v robotId _ hrun hes
    exact unreleased_run hrun hes
  · intro w robotId active hw hs
    exact (reachable_inv hinit hw).gated hs
  · intro es w e v htake
    exact stopsOnce_step htake.step_eq

def shortGrace : Fleet.Config := { autoEstopAfterOffline := seconds 5 }

def shortGraceFleet : Fleet.State := (Fleet.State.init shortGrace {}).toOption.get (by decide)

/-- No robot is ever heard, and the operator releases too early. -/
def lostRun : List Event :=
  [.manager (.other (.publishFleetState (seconds 1))),
    .manager (.other (.publishFleetState (seconds 7))), .manager (.other .estopReleaseAll),
    .manager (.other (.publishFleetState (seconds 8)))]

def silentTick (now : Time) : FleetState :=
  ⟨now, shortGrace.robotIds.map fun robotId =>
    (Fleet.RobotRecord.report shortGrace now { robotId })⟩

theorem auto_estop_lost : ∃ v, (machine shortGrace Safety.robotIds shortGraceFleet).run lostRun =
    some v ∧ v.manager.lastEstop "robot1" = some true := by
  have hinit : Fleet.State.init shortGrace {} = .ok shortGraceFleet := rfl
  have hguarantee := auto_estop_guarantee hinit (by decide) Safety.robotIds
  refine ⟨_, rfl, hguarantee.1 lostRun _ (seconds 8) _ ⟨lostRun.take 3, List.prefix_rfl, rfl, rfl⟩
    "robot1" (by decide) (silentTick (seconds 1))
    ⟨[silentTick (seconds 8), silentTick (seconds 7)], ⟨[], rfl⟩, ?_⟩ (by decide)⟩
  simp [Fleet.ShowsOffline, silentTick, shortGrace, Fleet.RobotRecord.report,
    Fleet.RobotRecord.isOnline]

end PatrolFleet.AutoEstop
