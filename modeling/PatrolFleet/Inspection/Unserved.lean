import PatrolFleet.Coordination.Refusal
import PatrolFleet.Inspection.System

/-!
The inspections that are queued for severe incidents carry no target, so the fleet
manager refuses them: none of them is ever started.
-/

set_option autoImplicit false

namespace PatrolFleet.Inspection

/-- The rows of the audit trail for the inspections that were queued. -/
def autoQueued (s : Fleet.State) : List Fleet.MissionEvent :=
  s.missionStore.missionEvents.filter (·.status = "AUTO_QUEUED_FROM_INCIDENT")

/-- Each inspection goes back to a request, each request to an incident, and none of the
missions was started. -/
structure World.Unserved (fcfg : Fleet.Config) (w : World) : Prop where
  numbered : w.coordination.fleet.Numbered fcfg
  requests : ∀ p ∈ w.requests, .queueMission p.1 p.2 ∈ w.coordination.fleet.sent
  traced : List.Subperm (w.inspections.map Prod.fst ++ w.requests.map Prod.fst)
    w.coordination.fleet.inspections
  responses : ∀ p ∈ w.responses, p.2.accepted = true → (p.1, p.2.missionId) ∈ w.inspections
  rows : ∀ row ∈ autoQueued w.coordination.fleet, (row.detail, row.missionId) ∈ w.inspections
  untargeted : ∀ p ∈ w.inspections, w.coordination.Untargeted p.2 "inspect" {}

/-! ### The fleet manager -/

section

variable {cfg : Scheduler.Config} {fcfg : Fleet.Config} {c c' : Coordination.World}
  {e : Coordination.Event} {s : Fleet.State}

/-- A step of the two nodes is a callback of the fleet manager, or it leaves it alone. -/
theorem step_call (he : isQueueResponse e = false) (h : c.step cfg fcfg e = some c') :
    c'.fleet = c.fleet ∨ ∃ callback : Fleet.Callback,
      (∀ incidentId response, callback ≠ .other (.queueResponse incidentId response)) ∧
      c'.fleet = c.fleet.call fcfg callback := by
  cases Coordination.step_cases h with
  | fleet e =>
    refine .inr ⟨.other e, fun incidentId response heq => ?_, rfl⟩
    cases heq
    cases he
  | @assignMission d serviceIsReady now handled _ hhandled =>
    subst hhandled
    exact .inr ⟨.assignMission d.request serviceIsReady now, fun _ _ => nofun, rfl⟩
  | scheduler => exact .inl rfl
  | response => exact .inl rfl
  | exception => exact .inl rfl

theorem autoQueued_record {event : Fleet.MissionEvent}
    (h : event.status ≠ "AUTO_QUEUED_FROM_INCIDENT") :
    autoQueued (Fleet.recordMissionEvent event s) = autoQueued s := by
  unfold autoQueued
  rw [Fleet.missionEvents_recordMissionEvent, List.filter_append]
  unfold Fleet.MissionStore.insertable
  split <;> simp [h]

theorem autoQueued_call {callback : Fleet.Callback}
    (h : ∀ incidentId response, callback ≠ .other (.queueResponse incidentId response)) :
    autoQueued (s.call fcfg callback) = autoQueued s := by
  cases hresponse : callback.isResponse with
  | false =>
    refine (Fleet.noted_call hresponse s).filter ?_
    rintro row (hrow | hrow) <;> simp [hrow]
  | true =>
    cases callback with
    | assignMission => cases hresponse
    | other e =>
      cases e with
      | startResponse robotId missionId missionType answer =>
        exact autoQueued_record answer.status_ne
      | stopResponse robotId missionId answer => exact autoQueued_record answer.status_ne
      | queueResponse incidentId response => exact absurd rfl (h incidentId response)
      | _ => cases hresponse

theorem asked_inspection (messages : List Fleet.Sent) :
    (messages.filterMap asked).map Prod.fst = messages.filterMap Fleet.Sent.inspection := by
  rw [List.map_filterMap]
  congr 1
  funext m
  cases m <;> rfl

theorem asked_mem {messages : List Fleet.Sent} {p : String × QueueMission.Request}
    (h : p ∈ messages.filterMap asked) : .queueMission p.1 p.2 ∈ messages := by
  obtain ⟨m, hm, hp⟩ := List.mem_filterMap.mp h
  cases m with
  | queueMission incidentId request =>
    cases hp
    exact hm
  | _ => cases hp

end

/-! ### The steps -/

section

variable {cfg : Scheduler.Config} {fcfg : Fleet.Config} {w v : World} {e : Event}

theorem untargeted_all {c : Coordination.World} {e : Coordination.Event} (h : w.Unserved fcfg)
    (hc : w.coordination.step cfg fcfg e = some c) :
    ∀ p ∈ w.inspections, c.Untargeted p.2 "inspect" {} :=
  fun p hp => Coordination.untargeted_step rfl (h.untargeted p hp) hc

theorem World.Unserved.coordination (h : w.Unserved fcfg) {c : Coordination.World}
    {e : Coordination.Event} (he : isQueueResponse e = false)
    (hc : w.coordination.step cfg fcfg e = some c) :
    World.Unserved fcfg { w with
      coordination := c
      requests := (Fleet.sentSince w.coordination.fleet c.fleet).filterMap asked ++
        w.requests } := by
  have huntargeted := untargeted_all h hc
  rcases step_call he hc with hsame | ⟨callback, hcallback, hcall⟩
  · have hnone : Fleet.sentSince w.coordination.fleet c.fleet = [] := by
      simp [Fleet.sentSince, hsame]
    rw [hnone]
    refine ⟨?_, ?_, ?_, h.responses, ?_, huntargeted⟩ <;> dsimp only <;> rw [hsame]
    · exact h.numbered
    · exact h.requests
    · exact h.traced
    · exact h.rows
  · have hsent := (Fleet.effect_call fcfg callback w.coordination.fleet).sentSince_eq.1
    rw [← hcall] at hsent
    refine ⟨?_, fun p hp => ?_, ?_, h.responses, ?_, huntargeted⟩
    · dsimp only
      rw [hcall]
      exact Fleet.numbered_step h.numbered callback
    · dsimp only
      rw [hsent]
      rcases List.mem_append.mp hp with hp | hp
      · exact List.mem_append_left _ (asked_mem hp)
      · exact List.mem_append_right _ (h.requests p hp)
    · have hinspections : c.fleet.inspections = w.coordination.fleet.inspections ++
          ((Fleet.sentSince w.coordination.fleet c.fleet).filterMap
            Fleet.Sent.inspection).reverse := by
        conv_lhs => rw [Fleet.State.inspections, hsent]
        rw [List.filterMap_append, List.reverse_append, Fleet.State.inspections]
      dsimp only
      rw [hinspections, List.map_append, asked_inspection]
      generalize (Fleet.sentSince w.coordination.fleet c.fleet).filterMap
        Fleet.Sent.inspection = fresh
      have hperm : (w.inspections.map Prod.fst ++ (fresh ++ w.requests.map Prod.fst)).Perm
          ((w.inspections.map Prod.fst ++ w.requests.map Prod.fst) ++ fresh.reverse) := by
        rw [List.append_assoc]
        exact (List.perm_append_comm.trans
          ((List.reverse_perm fresh).symm.append_left _)).append_left _
      refine hperm.subperm_right.mpr ?_
      exact (List.subperm_append_right fresh.reverse).mpr h.traced
    · dsimp only
      rw [hcall, autoQueued_call hcallback]
      exact h.rows

theorem World.Unserved.queueMission (h : w.Unserved fcfg) (hinv : w.coordination.scheduler.Inv)
    (hknown : w.coordination.Known) {incidentId : String} {request : QueueMission.Request}
    {now : Time} {response : QueueMission.Response} {c : Coordination.World}
    (hm : (incidentId, request) ∈ w.requests)
    (hresponse :
      (Scheduler.handleQueueMission request now w.coordination.scheduler.node).1 = response)
    (hc : w.coordination.step cfg fcfg (.scheduler (.queueMission request now)) = some c) :
    World.Unserved fcfg
      { coordination := c
        requests := w.requests.erase (incidentId, request)
        responses := (incidentId, response) :: w.responses
        inspections := if response.accepted then
          (incidentId, response.missionId) :: w.inspections else w.inspections } := by
  have hrequest : request = Fleet.inspectionRequest fcfg :=
    h.numbered.requests incidentId request (h.requests _ hm)
  have haccepted : response.accepted = true := by
    rw [← hresponse, hrequest]
    rfl
  have hfleet : c.fleet = w.coordination.fleet := by
    cases Coordination.step_cases hc
    rfl
  have hnew : c.Untargeted response.missionId "inspect" {} := by
    have huntargeted := Coordination.untargeted_queueMission hinv hknown
      (by rw [hresponse, haccepted]) (by rw [hrequest]; rfl) hc
    rw [hresponse, hrequest] at huntargeted
    exact huntargeted
  have huntargeted := untargeted_all h hc
  rw [if_pos haccepted]
  refine ⟨?_, fun p hp => ?_, ?_, fun p hp haccepts => ?_, fun row hrow => ?_, fun p hp => ?_⟩
  · dsimp only
    rw [hfleet]
    exact h.numbered
  · dsimp only
    rw [hfleet]
    exact h.requests p (List.mem_of_mem_erase hp)
  · dsimp only
    rw [hfleet]
    have herase := ((List.perm_cons_erase hm).map Prod.fst).append_left
      (w.inspections.map Prod.fst)
    exact (herase.trans List.perm_middle).symm.subperm.trans h.traced
  · rcases List.mem_cons.mp hp with rfl | hp
    · exact List.mem_cons_self
    · exact List.mem_cons_of_mem _ (h.responses p hp haccepts)
  · dsimp only at hrow
    rw [hfleet] at hrow
    exact List.mem_cons_of_mem _ (h.rows row hrow)
  · rcases List.mem_cons.mp hp with rfl | hp
    · exact hnew
    · exact huntargeted p hp

theorem World.Unserved.queueResponse (h : w.Unserved fcfg) {incidentId : String}
    {response : QueueMission.Response} {c : Coordination.World}
    (hm : (incidentId, response) ∈ w.responses)
    (hc : w.coordination.step cfg fcfg (.fleet (.queueResponse incidentId response)) = some c) :
    World.Unserved fcfg { w with
      coordination := c
      responses := w.responses.erase (incidentId, response) } := by
  have huntargeted := untargeted_all h hc
  have hfleet : c.fleet = w.coordination.fleet.step fcfg (.queueResponse incidentId response) := by
    cases Coordination.step_cases hc
    rfl
  have hsent : c.fleet.sent = w.coordination.fleet.sent := by
    rw [hfleet]
    exact Fleet.response_sends rfl _
  refine ⟨?_, fun p hp => ?_, ?_, fun p hp => h.responses p (List.mem_of_mem_erase hp),
    fun row hrow => ?_, huntargeted⟩
  · dsimp only
    rw [hfleet]
    exact Fleet.numbered_step h.numbered (.other (.queueResponse incidentId response))
  · dsimp only
    rw [hsent]
    exact h.requests p hp
  · dsimp only
    rw [Fleet.State.inspections, hsent]
    exact h.traced
  · dsimp only at hrow
    rw [hfleet] at hrow
    simp only [Fleet.State.step, Fleet.queueResponseCallback] at hrow
    split at hrow
    · rename_i haccepted
      unfold autoQueued at hrow
      rw [Fleet.missionEvents_recordMissionEvent, List.filter_append, List.mem_append] at hrow
      rcases hrow with hrow | hrow
      · exact h.rows row hrow
      · unfold Fleet.MissionStore.insertable at hrow
        split at hrow
        · have hnew := List.mem_singleton.mp (List.mem_of_mem_filter hrow)
          subst hnew
          exact h.responses _ hm haccepted
        · cases hrow
    · exact h.rows row hrow

theorem unserved_step (h : w.Unserved fcfg) (hinv : w.coordination.scheduler.Inv)
    (hknown : w.coordination.Known) (hstep : w.step cfg fcfg e = some v) : v.Unserved fcfg := by
  cases step_cases hstep with
  | coordination he hc => exact h.coordination he hc
  | queueMission hm hresponse hc => exact h.queueMission hinv hknown hm hresponse hc
  | queueResponse hm hc => exact h.queueResponse hm hc

end

/-! ### Runs -/

/-- On any database, by the rows that the run has added to it. -/
theorem reachable_unserved {cfg : Scheduler.Config} {fcfg : Fleet.Config} {startedAt : Time}
    {store : Fleet.MissionStore} {fleet : Fleet.State}
    (hinit : Fleet.State.init fcfg store = .ok fleet) {w : World}
    (h : (machine cfg fcfg startedAt fleet).Reachable w) : (w.since store).Unserved fcfg := by
  obtain ⟨fresh, hfresh, rfl⟩ := Fleet.init_onto hinit
  refine (reachable_since h).induction (P := World.Unserved fcfg) ?_ ?_
  · cases Fleet.init_eq hfresh
    exact ⟨⟨rfl, List.Sublist.refl _, by simp [machine, Coordination.machine]⟩,
      by simp [machine], List.Subperm.refl _, by simp [machine],
      by simp [machine, Coordination.machine, autoQueued], by simp [machine]⟩
  · intro u e v hu hunserved hstep
    have hcoordination := coordination_projection.reachable hu
    have hinv := Scheduler.reachable_inv (Coordination.reachable_scheduler hcoordination)
    exact unserved_step hunserved hinv (Coordination.reachable_known hcoordination) hstep

/-- Each inspection that the run has put down as queued was queued by the scheduler, for a
severe incident of its own; and none that was queued is ever started: every dispatch of it is
refused, and it waits in the queue until it is cancelled. -/
theorem inspections_never_start {cfg : Scheduler.Config} {fcfg : Fleet.Config}
    {startedAt : Time} {store : Fleet.MissionStore} {fleet : Fleet.State}
    (hinit : Fleet.State.init fcfg store = .ok fleet) {w : World}
    (h : (machine cfg fcfg startedAt fleet).Reachable w) :
    (∀ row ∈ autoQueued (w.coordination.fleet.since store),
      (row.detail, row.missionId) ∈ w.inspections) ∧
    (w.inspections.map Prod.fst).Nodup ∧
    ∀ p ∈ w.inspections,
      (∃ message ∈ w.coordination.fleet.reported, message.incidentId = p.1 ∧
        Fleet.isSevere fcfg message = true) ∧
      (∀ answer ∈ w.coordination.responses, answer.1.missionId = p.2 →
        answer.2.success = false) ∧
      (∀ d ∈ w.coordination.started, d.missionId ≠ p.2) ∧
      p.2 ∉ w.coordination.scheduler.node.activeIds ∧
      (p.2 ∈ w.coordination.scheduler.node.queueIds ∨
        .cancelled p.2 ∈ w.coordination.scheduler.node.history) := by
  have hunserved := reachable_unserved hinit h
  have htraced : List.Subperm (w.inspections.map Prod.fst) w.coordination.fleet.inspections :=
    (List.sublist_append_left ..).subperm.trans hunserved.traced
  refine ⟨hunserved.rows, ?_, fun p hp => ⟨?_, (hunserved.untargeted p hp).responses,
    (hunserved.untargeted p hp).started, (hunserved.untargeted p hp).waits.inactive,
    (hunserved.untargeted p hp).waits.waits⟩⟩
  · obtain ⟨traced, hperm, hsub⟩ := htraced
    exact hperm.nodup_iff.mp (hunserved.numbered.nodup.sublist hsub)
  · have hsevere := hunserved.numbered.inspections.subset
      (htraced.subset (List.mem_map_of_mem hp))
    obtain ⟨message, hm, heq⟩ := List.mem_map.mp hsevere
    obtain ⟨hreported, hkind⟩ := List.mem_filter.mp hm
    exact ⟨message, hreported, heq, hkind⟩

/-- A fire is reported, its inspection is queued and sent to a robot, and refused. -/
def fireRun : List Event :=
  [.coordination (.scheduler (.systemReady true)),
    .coordination (.fleet (.systemReady true)),
    .coordination (.fleet (.heartbeat "robot1"
      ⟨"robot1", seconds 1, RobotHeartbeat.stateIdle, 90, "", true⟩ (seconds 1))),
    .coordination (.fleet (.reportIncident
      ⟨"robot1", RobotIncident.severityHigh, "fire", "smoke"⟩ true (seconds 2))),
    .queueMission "incident-1" (Fleet.inspectionRequest {}) (seconds 2),
    .queueResponse "incident-1" ⟨true, "mission-1",
      "Mission 'mission-1' added to the scheduling queue"⟩,
    .coordination (.scheduler (.fleetState ⟨seconds 2, [⟨"robot1", true, false,
      RobotHeartbeat.stateIdle, 90, true, "", seconds 1⟩]⟩ (seconds 2) [])),
    .coordination (.scheduler (.processQueue (seconds 3) true)),
    .coordination (.assignMission ⟨"mission-1", "inspect", 100, {}, false, 0, "robot1", 1⟩ true
      (seconds 3))]

/-- A database in which an earlier process has put down a mission of the same id. -/
def earlierStore : Fleet.MissionStore where
  missionEvents := [⟨"mission-1", "", "inspect", "QUEUE", "AUTO_QUEUED_FROM_INCIDENT",
    "incident-7"⟩]

def fireMachine : Machine World Event :=
  machine {} {} 0 (Coordination.shippedFleet.onto earlierStore)

def fireWorld : World := (fireMachine.run fireRun).get (by decide +kernel)

theorem inspections_never_start_fire : fireWorld.inspections = [("incident-1", "mission-1")] ∧
    (autoQueued fireWorld.coordination.fleet).map (·.detail) = ["incident-7", "incident-1"] ∧
    (fireWorld.coordination.responses.map fun p => p.2.success) = [false] ∧
    "mission-1" ∉ fireWorld.coordination.scheduler.node.activeIds := by
  have hinspections : fireWorld.inspections = [("incident-1", "mission-1")] := by decide +kernel
  have hinit : Fleet.State.init {} earlierStore =
      .ok (Coordination.shippedFleet.onto earlierStore) := by rfl
  have hreachable : fireMachine.Reachable fireWorld := fireMachine.reachable_get _
  have hall := (inspections_never_start hinit hreachable).2.2
  rw [hinspections] at hall
  exact ⟨hinspections, by decide +kernel, by decide +kernel,
    (hall ("incident-1", "mission-1") List.mem_cons_self).2.2.2.1⟩

end PatrolFleet.Inspection
