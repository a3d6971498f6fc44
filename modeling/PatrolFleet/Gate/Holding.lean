import PatrolFleet.Execution.Readings
import PatrolFleet.Fleet.Gate
import PatrolFleet.Gate.System

/-!
The gate of `/system/ready`: a node that holds the system for not ready sends nothing
that needs it, before the supervisor has found every robot ready anew.
-/

set_option autoImplicit false

namespace PatrolFleet.Gate

/-- What has been heard on the way from the supervisor to a node, and that the node and
the messages for it repeat the latest of it. -/
structure Subscription.Linked (published : List Bool) (ready : Bool) (s : Subscription) :
    Prop where
  ordered : (s.heard :: (s.queue.map (·.readings) ++ [published])).Pairwise (· <:+ ·)
  queue : ∀ m ∈ s.queue, m.readings.head? = some m.value
  ready : ready = s.heard.headD false

structure World.Linked (w : World) : Prop where
  remembers : w.supervisor.Remembers
  subscription : ∀ node,
    (w.subscription node).Linked w.supervisor.ready (systemReady w.coordination node)

/-! ### The two nodes -/

section

variable {cfg : Scheduler.Config} {fcfg : Fleet.Config} {c c' : Coordination.World}
  {e : Coordination.Event} {node : Subscriber}

theorem systemReady_step (he : isSystemReady e = false) (h : c.step cfg fcfg e = some c') :
    systemReady c' = systemReady c := by
  funext node
  cases Coordination.step_cases h with
  | scheduler _ hu =>
    cases node with
    | scheduler =>
      have hready := (Scheduler.step_readings hu).1
      rw [Option.not_isSome_iff_eq_none.mp (Bool.eq_false_iff.mp he)] at hready
      exact hready
    | fleetManager => rfl
  | fleet e =>
    cases node with
    | scheduler => rfl
    | fleetManager =>
      refine Fleet.systemReady_call (e := .other e) ?_ c.fleet
      cases e <;> first | rfl | cases he
  | @assignMission d serviceIsReady now _ _ hhandled =>
    cases node with
    | scheduler => rfl
    | fleetManager =>
      subst hhandled
      exact Fleet.systemReady_call (e := .assignMission d.request serviceIsReady now) rfl c.fleet
  | response _ hu =>
    cases node with
    | scheduler => exact (Scheduler.step_readings hu).1
    | fleetManager => rfl
  | exception hu =>
    cases node with
    | scheduler => exact (Scheduler.step_readings hu).1
    | fleetManager => rfl

theorem systemReady_hears {data : Bool} (h : c.step cfg fcfg (node.hears data) = some c') :
    systemReady c' = Function.update (systemReady c) node data := by
  funext other
  cases node with
  | scheduler =>
    cases h
    cases other <;> rfl
  | fleetManager =>
    cases h
    cases other <;> rfl

theorem sends_ready (h : c.step cfg fcfg e = some c') (hsends : Sends c c' node) :
    systemReady c node = true := by
  cases node with
  | scheduler =>
    obtain ⟨d, hd⟩ := hsends
    cases Coordination.step_cases h with
    | scheduler _ hu => exact Scheduler.sends_ready hu hd
    | response _ hu => exact Scheduler.sends_ready hu hd
    | exception hu => exact Scheduler.sends_ready hu hd
    | fleet e => exact absurd hd.symm (List.cons_ne_self _ _)
    | assignMission => exact absurd hd.symm (List.cons_ne_self _ _)
  | fleetManager =>
    obtain ⟨robotId, missionId, missionType, request, hsent⟩ := hsends
    cases Coordination.step_cases h with
    | fleet e => exact Fleet.start_call (e := .other e) hsent
    | assignMission _ hhandled =>
      subst hhandled
      exact Fleet.start_assignMission hsent
    | scheduler => exact absurd hsent.symm (List.cons_ne_self _ _)
    | response => exact absurd hsent.symm (List.cons_ne_self _ _)
    | exception => exact absurd hsent.symm (List.cons_ne_self _ _)

end

/-! ### The steps -/

section

variable {cfg : Config} {w v : World} {e : Event}

theorem World.Linked.replace (h : w.Linked) {node : Subscriber} {subscription : Subscription}
    {coordination : Coordination.World}
    (hnode : subscription.Linked w.supervisor.ready (systemReady coordination node))
    (hothers : ∀ other ≠ node, systemReady coordination other = systemReady w.coordination other) :
    World.Linked { w with
      coordination
      subscription := Function.update w.subscription node subscription } := by
  refine ⟨h.remembers, fun other => ?_⟩
  by_cases hother : other = node
  · subst hother
    dsimp only
    rw [Function.update_self]
    exact hnode
  · dsimp only
    rw [Function.update_of_ne hother, hothers other hother]
    exact h.subscription other

theorem World.Linked.supervisor (h : w.Linked) {e : Supervisor.Event}
    (hstep : w.step cfg (.supervisor e) = some v) : v.Linked := by
  obtain ⟨supervisor, hsupervisor, rfl⟩ := Option.map_eq_some_iff.mp hstep
  obtain ⟨hremembers, hnote⟩ := Supervisor.step_note h.remembers hsupervisor
  have hgrown : w.supervisor.ready <:+ supervisor.ready := by
    rw [hnote]
    cases w.supervisor.finds cfg.supervisor e with
    | none => exact List.suffix_rfl
    | some b => exact Changes.suffix_note b _
  refine ⟨hremembers, fun node => ⟨?_, fun m hm => ?_, (h.subscription node).ready⟩⟩
  · have hordered := Relay.announce_ordered [(w.subscription node).heard]
      (w.subscription node).queue w.supervisor.ready
      (supervisor.ready.take (supervisor.ready.length - w.supervisor.ready.length))
      (h.subscription node).ordered
    rw [Relay.take_append hgrown] at hordered
    exact hordered
  · rcases List.mem_append.mp hm with hm | hm
    · exact (h.subscription node).queue m hm
    · exact Relay.announce_value m hm

theorem linked_step (h : w.Linked) (hstep : w.step cfg e = some v) : v.Linked := by
  cases e with
  | supervisor e => exact h.supervisor hstep
  | systemReady node =>
    simp only [World.step] at hstep
    split at hstep
    · cases hstep
    · rename_i m queue hqueue
      obtain ⟨coordination, hhears, rfl⟩ := Option.map_eq_some_iff.mp hstep
      obtain ⟨hordered, hvalue, _⟩ := h.subscription node
      rw [hqueue] at hordered hvalue
      have hready := systemReady_hears hhears
      refine h.replace ⟨?_, fun m' hm' => hvalue m' (.tail m hm'), ?_⟩ fun other hother => ?_
      · exact Relay.deliver Relay.Resting.readings [] [w.supervisor.ready] hordered
      · rw [hready, Function.update_self, List.headD_eq_head?_getD, hvalue m (.head queue)]
        rfl
      · rw [hready, Function.update_of_ne hother]
  | lost node =>
    obtain ⟨kept, hkept, rfl⟩ := Option.map_eq_some_iff.mp hstep
    have hsublist := Execution.overrun_sublist hkept
    obtain ⟨hordered, hvalue, hready⟩ := h.subscription node
    refine h.replace ⟨?_, fun m hm => hvalue m (hsublist.subset hm), hready⟩ fun _ _ => rfl
    exact Relay.lose Relay.Resting.readings [(w.subscription node).heard] [w.supervisor.ready]
      hsublist hordered
  | coordination e =>
    simp only [World.step] at hstep
    split at hstep
    · cases hstep
    · rename_i hother
      obtain ⟨coordination, hcoordination, rfl⟩ := Option.map_eq_some_iff.mp hstep
      refine { h with subscription := fun node => ?_ }
      dsimp only
      rw [systemReady_step (Bool.eq_false_iff.mpr hother) hcoordination]
      exact h.subscription node

theorem step_heard (h : w.Linked) (hstep : w.step cfg e = some v) (node : Subscriber) :
    (w.subscription node).heard <:+ (v.subscription node).heard := by
  cases e with
  | supervisor e =>
    obtain ⟨supervisor, _, rfl⟩ := Option.map_eq_some_iff.mp hstep
    exact List.suffix_rfl
  | systemReady other =>
    simp only [World.step] at hstep
    split at hstep
    · cases hstep
    · rename_i m queue hqueue
      obtain ⟨coordination, _, rfl⟩ := Option.map_eq_some_iff.mp hstep
      by_cases hnode : node = other
      · subst hnode
        have hordered := (h.subscription node).ordered
        rw [hqueue] at hordered
        simpa using (List.pairwise_cons.mp hordered).1 m.readings (by simp)
      · simp [Function.update_of_ne hnode]
  | lost other =>
    obtain ⟨kept, _, rfl⟩ := Option.map_eq_some_iff.mp hstep
    by_cases hnode : node = other
    · subst hnode
      simp
    · simp [Function.update_of_ne hnode]
  | coordination e =>
    simp only [World.step] at hstep
    split at hstep
    · cases hstep
    · obtain ⟨coordination, _, rfl⟩ := Option.map_eq_some_iff.mp hstep
      exact List.suffix_rfl

theorem step_sends {node : Subscriber} (hstep : w.step cfg e = some v)
    (hsends : Sends w.coordination v.coordination node) :
    systemReady w.coordination node = true := by
  have hquiet : ¬ Sends w.coordination w.coordination node := by
    cases node with
    | scheduler => exact fun ⟨d, hd⟩ => List.cons_ne_self _ _ hd.symm
    | fleetManager => exact fun ⟨_, _, _, _, hd⟩ => List.cons_ne_self _ _ hd.symm
  cases e with
  | supervisor e =>
    obtain ⟨supervisor, _, rfl⟩ := Option.map_eq_some_iff.mp hstep
    exact absurd hsends hquiet
  | lost other =>
    obtain ⟨kept, _, rfl⟩ := Option.map_eq_some_iff.mp hstep
    exact absurd hsends hquiet
  | systemReady other =>
    simp only [World.step] at hstep
    split at hstep
    · cases hstep
    · obtain ⟨coordination, hhears, rfl⟩ := Option.map_eq_some_iff.mp hstep
      exact sends_ready hhears hsends
  | coordination e =>
    simp only [World.step] at hstep
    split at hstep
    · cases hstep
    · obtain ⟨coordination, hcoordination, rfl⟩ := Option.map_eq_some_iff.mp hstep
      exact sends_ready hcoordination hsends

/-- A message that the system is ready is new only at a tick that finds so. -/
theorem step_announces (h : w.Linked) (hstep : w.step cfg e = some v) {past : List Bool}
    (hbefore : ¬ true :: past <:+ w.supervisor.ready)
    (hafter : true :: past <:+ v.supervisor.ready) :
    ∃ now visits, e = .supervisor (.tick now visits) ∧ w.supervisor.ready = past ∧
      w.supervisor.finds cfg.supervisor (.tick now visits) = some true := by
  cases e with
  | supervisor e =>
    obtain ⟨supervisor, hsupervisor, rfl⟩ := Option.map_eq_some_iff.mp hstep
    obtain ⟨_, hnote⟩ := Supervisor.step_note h.remembers hsupervisor
    dsimp only at hafter
    rw [hnote] at hafter
    cases hfinds : w.supervisor.finds cfg.supervisor e with
    | none =>
      rw [hfinds] at hafter
      exact absurd hafter hbefore
    | some b =>
      rw [hfinds, Option.elim_some] at hafter
      unfold Changes.note at hafter
      split at hafter
      · exact absurd hafter hbefore
      · rcases List.suffix_cons_iff.mp hafter with heq | hsuffix
        · cases heq
          cases e with
          | tick now visits => exact ⟨now, visits, rfl, rfl, hfinds⟩
          | _ => cases hfinds
        · exact absurd hsuffix hbefore
  | systemReady | coordination =>
    simp only [World.step] at hstep
    split at hstep
    · cases hstep
    · obtain ⟨coordination, _, rfl⟩ := Option.map_eq_some_iff.mp hstep
      exact absurd hafter hbefore
  | lost =>
    obtain ⟨kept, _, rfl⟩ := Option.map_eq_some_iff.mp hstep
    exact absurd hafter hbefore

end

/-! ### Runs -/

section

variable {cfg : Config} {startedAt : Time} {store : Fleet.MissionStore} {fleet : Fleet.State}
  {es : List Event} {w : World}

theorem reachable_linked (hinit : Fleet.State.init cfg.fleet store = .ok fleet)
    (h : (machine cfg startedAt fleet).Reachable w) : w.Linked := by
  refine h.invariant (P := World.Linked) ?_ fun s e t hs hstep => linked_step hs hstep
  refine ⟨Supervisor.remembers_init cfg.supervisor, fun node => ⟨?_, ?_, ?_⟩⟩
  · simp [machine, Supervisor.State.init, Supervisor.publishReady]
  · simp [machine]
  · cases node with
    | scheduler => rfl
    | fleetManager => exact Fleet.init_systemReady hinit

/-- A message that the system is ready, later than those of `past`, was published at a tick
that finds so. -/
theorem found_before (hinit : Fleet.State.init cfg.fleet store = .ok fleet)
    (h : (machine cfg startedAt fleet).run es = some w) {past : List Bool}
    (hready : true :: past <:+ w.supervisor.ready) :
    ∃ x now visits y, (machine cfg startedAt fleet).Takes es x (.supervisor (.tick now visits)) y ∧
      x.supervisor.ready = past ∧
      x.supervisor.finds cfg.supervisor (.tick now visits) = some true := by
  have hfirst : ¬ true :: past <:+ (machine cfg startedAt fleet).init.supervisor.ready := by
    intro hsuffix
    have hone : true :: past <:+ [false] := hsuffix
    rcases List.suffix_cons_iff.mp hone with heq | hnil
    · cases heq
    · cases List.suffix_nil.mp hnil
  obtain ⟨x, e, y, htake, hbefore, hafter⟩ := Machine.brought_about
    (P := fun v : World => true :: past <:+ v.supervisor.ready) hfirst h hready
  have hlinked := reachable_linked hinit htake.visits.reachable
  obtain ⟨now, visits, rfl, hpast, hfinds⟩ :=
    step_announces hlinked htake.step_eq hbefore hafter
  exact ⟨x, now, visits, y, htake, hpast, hfinds⟩

end

/-- A node that holds the system for not ready sends nothing that needs it before a tick of
the supervisor has found every robot ready, after all that the node had heard. -/
theorem held_until_ready {cfg : Config} {startedAt : Time} {store : Fleet.MissionStore}
    {fleet : Fleet.State}
    (hinit : Fleet.State.init cfg.fleet store = .ok fleet) {es later : List Event} {u w v : World}
    {e : Event} {node : Subscriber} (hu : (machine cfg startedAt fleet).run es = some u)
    (hheld : systemReady u.coordination node = false)
    (hw : (machine cfg startedAt fleet).runFrom u later = some w)
    (hstep : w.step cfg e = some v) (hsends : Sends w.coordination v.coordination node) :
    ∃ x now visits y,
      (machine cfg startedAt fleet).Takes (es ++ later) x (.supervisor (.tick now visits)) y ∧
      (u.subscription node).heard <:+ x.supervisor.ready ∧
      x.supervisor.finds cfg.supervisor (.tick now visits) = some true := by
  have hlinked := reachable_linked hinit ⟨es, hu⟩
  have hrun := (machine cfg startedAt fleet).run_append hu hw
  have hlinked' := reachable_linked hinit ⟨es ++ later, hrun⟩
  have hheard : (u.subscription node).heard <:+ (w.subscription node).heard :=
    Machine.Reachable.kept
      (P := fun v => (u.subscription node).heard <:+ (v.subscription node).heard)
      (fun v e v' hv hsuffix hstep =>
        hsuffix.trans (step_heard (reachable_linked hinit hv) hstep node))
      ⟨es, hu⟩ List.suffix_rfl hw
  have hready : systemReady w.coordination node = true := step_sends hstep hsends
  rw [(hlinked.subscription node).ready] at hheld
  rw [(hlinked'.subscription node).ready] at hready
  have hlast : (w.subscription node).heard.head? = some true := by
    cases hnow : (w.subscription node).heard with
    | nil => simp [hnow] at hready
    | cons last rest => simpa [hnow] using hready
  obtain ⟨past, hnow, hafter⟩ := Relay.heard_after hheard hlast fun htrue => by
    simp [htrue] at hheld
  have hpublished : (w.subscription node).heard <:+ w.supervisor.ready :=
    (List.pairwise_cons.mp (hlinked'.subscription node).ordered).1 _ (by simp)
  obtain ⟨x, now, visits, y, htake, rfl, hfinds⟩ :=
    found_before hinit hrun (hnow ▸ hpublished)
  exact ⟨x, now, visits, y, htake, hafter, hfinds⟩

/-- The fleet manager hears that the system is not ready. -/
def closedRun : List Event := [.systemReady .fleetManager]

/-- The robot becomes ready, the fleet manager hears of that, and the robot is online. -/
def openedRun : List Event :=
  Supervisor.confirmedRun.map .supervisor ++
    [.supervisor (.tick (seconds 3) [("robot1", Supervisor.allServices)]),
      .systemReady .fleetManager,
      .coordination (.fleet (.heartbeat "robot1" ⟨"robot1", 0, 0, 100, "", true⟩ (seconds 4)))]

def oneRobot : Config := { supervisor := Supervisor.oneRobot }

def oneRobotMachine : Machine World Event := machine oneRobot 0 Fleet.shipped

def closedWorld : World := (oneRobotMachine.run closedRun).get (by decide +kernel)

def openedWorld : World := (oneRobotMachine.runFrom closedWorld openedRun).get (by decide +kernel)

def patrolWorld : World :=
  (openedWorld.step oneRobot
    (.coordination (.fleet (.dispatchPatrol true (seconds 4))))).get (by decide +kernel)

theorem held_until_ready_patrol : ∃ x now visits y,
    oneRobotMachine.Takes (closedRun ++ openedRun) x (.supervisor (.tick now visits)) y ∧
      (closedWorld.subscription .fleetManager).heard <:+ x.supervisor.ready ∧
      x.supervisor.finds Supervisor.oneRobot (.tick now visits) = some true := by
  have hu : oneRobotMachine.run closedRun = some closedWorld := (Option.some_get _).symm
  have hheld : systemReady closedWorld.coordination .fleetManager = false := by decide +kernel
  have hw : oneRobotMachine.runFrom closedWorld openedRun = some openedWorld :=
    (Option.some_get _).symm
  have hstep : openedWorld.step oneRobot
      (.coordination (.fleet (.dispatchPatrol true (seconds 4)))) = some patrolWorld :=
    (Option.some_get _).symm
  have hsends : Sends openedWorld.coordination patrolWorld.coordination .fleetManager :=
    ⟨"robot1", "manual-dispatch", "patrol", ⟨StartMission.missionPatrol, {}, false⟩,
      by decide +kernel⟩
  exact held_until_ready (by rfl) hu hheld hw hstep hsends

end PatrolFleet.Gate
