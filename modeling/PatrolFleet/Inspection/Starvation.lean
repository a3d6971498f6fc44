import PatrolFleet.Inspection.Unserved
import PatrolFleet.Scheduler.Starvation

/-!
An inspection that is never started holds up the missions of a lower priority.
-/

set_option autoImplicit false

namespace PatrolFleet.Inspection

open Scheduler (QueuedMission)

/-- The inspections wait with the priority that the fleet manager asks for. -/
def World.Ranked (fcfg : Fleet.Config) (w : World) : Prop :=
  ∀ p ∈ w.inspections, ∀ queued ∈ w.coordination.scheduler.node.missionQueue,
    queued.missionId = p.2 → queued.priority = fcfg.incidentAutoDispatchPriority

section

variable {cfg : Scheduler.Config} {fcfg : Fleet.Config} {startedAt : Time}
  {store : Fleet.MissionStore} {fleet : Fleet.State} {w v : World} {e : Event}

theorem ranked_back {old : Fleet.MissionStore} (h : (w.since old).Unserved fcfg)
    (hranked : w.Ranked fcfg)
    {c : Coordination.World} {e : Coordination.Event}
    (hc : w.coordination.step cfg fcfg e = some c) :
    ∀ p ∈ w.inspections, ∀ queued ∈ c.scheduler.node.missionQueue,
      queued.missionId = p.2 → queued.priority = fcfg.incidentAutoDispatchPriority := by
  intro p hp queued hq hid
  have hscheduler := (@Coordination.scheduler_projection cfg fcfg 0 w.coordination.fleet).step
    w.coordination e c hc
  rcases hscheduler with hsame | ⟨e', hstep⟩
  · exact hranked p hp queued (hsame ▸ hq) hid
  · rcases Scheduler.queued_step (Scheduler.step_cases hstep) hq with hold | hnew
    · exact hranked p hp queued hold hid
    · exact absurd (hid ▸ (h.untargeted p hp).waits.issued) hnew

theorem ranked_step {old : Fleet.MissionStore} (h : (w.since old).Unserved fcfg)
    (hinv : w.coordination.scheduler.Inv)
    (hranked : w.Ranked fcfg) (hstep : w.step cfg fcfg e = some v) : v.Ranked fcfg := by
  cases step_cases hstep with
  | coordination _ hc => exact ranked_back h hranked hc
  | @queueMission incidentId request now response c hm hresponse hc =>
    have hback := ranked_back h hranked hc
    unfold World.Ranked
    dsimp only
    split
    · rename_i haccepted
      refine List.forall_mem_cons.mpr ⟨fun queued hq hid => ?_, hback⟩
      subst hresponse
      obtain ⟨_, hfresh, _, hqueue⟩ := Scheduler.queueMission_accepted haccepted
      have hnode : c.scheduler.node =
          (Scheduler.handleQueueMission request now w.coordination.scheduler.node).2 := by
        cases Coordination.step_cases hc with
        | scheduler _ hu =>
          cases hu
          rfl
      rw [hnode] at hq
      rcases List.mem_cons.mp (hqueue.subset hq) with rfl | hold
      · rw [h.numbered.requests incidentId request (h.requests _ hm)]
        rfl
      · have hissued := Scheduler.queued_issued hinv hold
        rw [hid, hfresh] at hissued
        exact absurd hissued (Scheduler.not_issued_fresh _)
    · exact hback
  | queueResponse _ hc => exact ranked_back h hranked hc

theorem reachable_ranked (hinit : Fleet.State.init fcfg store = .ok fleet)
    (h : (machine cfg fcfg startedAt fleet).Reachable w) : w.Ranked fcfg := by
  refine h.induction (P := World.Ranked fcfg) (by simp [World.Ranked, machine]) ?_
  intro u e v hu hranked hstep
  have hinv := Scheduler.reachable_inv (scheduler_projection.reachable hu)
  exact ranked_step (reachable_unserved hinit hu) hinv hranked hstep

/-- The inspection was cancelled, or the mission is starved by it. -/
def World.HeldUp (w : World) (p : String × String) (mission : QueuedMission) : Prop :=
  p ∈ w.inspections ∧ (.cancelled p.2 ∈ w.coordination.scheduler.node.history ∨
    w.coordination.scheduler.Starved mission)

theorem inspections_step (hstep : w.step cfg fcfg e = some v) : w.inspections ⊆ v.inspections := by
  cases step_cases hstep with
  | coordination => exact List.Subset.refl _
  | queueMission =>
    dsimp only
    split
    · exact List.subset_cons_self ..
    · exact List.Subset.refl _
  | queueResponse => exact List.Subset.refl _

theorem heldUp_step (hinit : Fleet.State.init fcfg store = .ok fleet)
    (hw : (machine cfg fcfg startedAt fleet).Reachable w) {p : String × String}
    {mission : QueuedMission} (hlow : mission.priority < fcfg.incidentAutoDispatchPriority)
    (h : w.HeldUp p mission) (hstep : w.step cfg fcfg e = some v) : v.HeldUp p mission := by
  refine ⟨inspections_step hstep h.1, ?_⟩
  have hnode := (@scheduler_projection cfg fcfg startedAt fleet).step w e v hstep
  rcases hnode with hsame | ⟨e', hu⟩
  · rw [hsame]
    exact h.2
  · have hturn : Scheduler.Turn cfg w.coordination.scheduler e' v.coordination.scheduler :=
      Scheduler.step_turn hu
    have hgrows := (Scheduler.history_step hturn).subset
    rcases h.2 with hcancelled | hstarved
    · exact .inl (hgrows hcancelled)
    · rcases ((reachable_unserved hinit hw).untargeted p h.1).waits.waits with hqueued | hcancelled
      · obtain ⟨ahead, hahead, hid⟩ := List.mem_map.mp hqueued
        have hrank := reachable_ranked hinit hw p h.1 ahead hahead hid
        have hordered := Scheduler.reachable_ordered (scheduler_projection.reachable hw)
        exact .inr (Scheduler.starved_step hordered hstarved hahead (hrank ▸ hlow) hu)
      · exact .inl (hgrows hcancelled)

end

/-- As long as an inspection is queued for an incident, no mission of a lower priority is
dispatched. -/
theorem inspections_starve {cfg : Scheduler.Config} {fcfg : Fleet.Config} {startedAt : Time}
    {store : Fleet.MissionStore} {fleet : Fleet.State}
    (hinit : Fleet.State.init fcfg store = .ok fleet) {w v : World}
    {es : List Event} (hw : (machine cfg fcfg startedAt fleet).Reachable w)
    (hrun : (machine cfg fcfg startedAt fleet).runFrom w es = some v)
    {p : String × String} (hp : p ∈ w.inspections)
    (hstill : .cancelled p.2 ∉ v.coordination.scheduler.node.history)
    {mission : QueuedMission} (hm : mission ∈ w.coordination.scheduler.node.missionQueue)
    (hlow : mission.priority < fcfg.incidentAutoDispatchPriority)
    (hfree : ∀ d ∈ w.coordination.scheduler.calls, d.missionId ≠ mission.missionId) :
    (∀ d ∈ v.coordination.scheduler.calls, d.missionId ≠ mission.missionId) ∧
    mission.missionId ∉ v.coordination.scheduler.node.activeIds ∧
    (mission ∈ v.coordination.scheduler.node.missionQueue ∨
      .cancelled mission.missionId ∈ v.coordination.scheduler.node.history) := by
  have hinv := Scheduler.reachable_inv (scheduler_projection.reachable hw)
  have hheld : v.HeldUp p mission :=
    hw.kept (P := fun w => w.HeldUp p mission)
      (fun u e t hu hheld hstep => heldUp_step hinit hu hlow hheld hstep)
      ⟨hp, .inr (Scheduler.starved_of_queued hinv hm hfree)⟩ hrun
  have hstarved := hheld.2.resolve_left hstill
  exact ⟨hstarved.uncalled, hstarved.waits.inactive, hstarved.queued⟩

/-- A patrol is queued after the inspection for a fire. -/
def patrolWorld : World :=
  (fireMachine.run (fireRun.take 6 ++
    [.coordination (.scheduler (.dispatchPatrol (seconds 2)))])).get (by decide +kernel)

/-- The inspection is dispatched, refused and dispatched again. -/
def refusedRun : List Event :=
  fireRun.drop 6 ++
    [.coordination (.response ⟨"mission-1", "inspect", 100, {}, false, 0, "robot1", 1⟩
        ⟨false, "mission_type 'inspect' requires a target_pose"⟩ (seconds 3)),
      .coordination (.scheduler (.processQueue (seconds 4) true))]

def refusedWorld : World := (fireMachine.runFrom patrolWorld refusedRun).get (by decide +kernel)

theorem inspections_starve_patrol :
    (refusedWorld.coordination.scheduler.calls.map fun d => (d.missionId, d.generation)) =
      [("mission-1", 2)] ∧
    ⟨"mission-2", "patrol", 0, 1, {}, false, 0⟩ ∈
      refusedWorld.coordination.scheduler.node.missionQueue := by
  have hm : ⟨"mission-2", "patrol", 0, 1, {}, false, 0⟩ ∈
      patrolWorld.coordination.scheduler.node.missionQueue := by decide +kernel
  have hstarved := inspections_starve (by rfl) (fireMachine.reachable_get _)
    (Option.some_get _).symm (v := refusedWorld) (p := ("incident-1", "mission-1"))
    (by decide +kernel) (by decide +kernel) hm (by decide) (by decide +kernel)
  exact ⟨by decide +kernel, hstarved.2.2.resolve_right (by decide +kernel)⟩

end PatrolFleet.Inspection
