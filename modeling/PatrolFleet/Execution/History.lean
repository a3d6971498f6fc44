import PatrolFleet.Execution.Invariant
import PatrolFleet.Scheduler.Outcomes

/-!
What a step adds to the log of a robot and to the missions that it has accepted,
and what the scheduler decides in it.
-/

set_option autoImplicit false

namespace PatrolFleet.Execution

/-- The runs of a robot that has accepted the given missions. -/
def runsOf : List (Option String) → List Run
  | [] => [⟨0, none⟩]
  | missionId :: accepted => ⟨accepted.length + 1, missionId⟩ :: runsOf accepted

theorem missionId_mem {accepted : List (Option String)} {run : Run} (h : run ∈ runsOf accepted)
    {missionId : String} (hm : run.missionId = some missionId) : some missionId ∈ accepted := by
  induction accepted with
  | nil =>
    rw [List.mem_singleton.mp h] at hm
    cases hm
  | cons last accepted ih =>
    rcases List.mem_cons.mp h with rfl | h
    · exact hm ▸ List.mem_cons_self ..
    · exact List.mem_cons_of_mem _ (ih h)

theorem number_pos {accepted : List (Option String)} {run : Run} (h : run ∈ runsOf accepted)
    {missionId : String} (hm : run.missionId = some missionId) : 0 < run.number := by
  induction accepted with
  | nil =>
    rw [List.mem_singleton.mp h] at hm
    cases hm
  | cons last accepted ih =>
    rcases List.mem_cons.mp h with rfl | h
    · exact Nat.succ_pos _
    · exact ih h

theorem run_unique {accepted : List (Option String)} {missionId : String}
    (honce : accepted.count (some missionId) ≤ 1) {a b : Run} (ha : a ∈ runsOf accepted)
    (hb : b ∈ runsOf accepted) (hma : a.missionId = some missionId)
    (hmb : b.missionId = some missionId) : a = b := by
  induction accepted with
  | nil =>
    rw [List.mem_singleton.mp ha] at hma
    cases hma
  | cons last accepted ih =>
    have habsent : last = some missionId → some missionId ∉ accepted := by
      rintro rfl hm
      have hpos := List.count_pos_iff.mpr hm
      rw [List.count_cons_self] at honce
      omega
    rcases List.mem_cons.mp ha with rfl | ha <;> rcases List.mem_cons.mp hb with rfl | hb
    · rfl
    · exact absurd (missionId_mem hb hmb) (habsent hma)
    · exact absurd (missionId_mem ha hma) (habsent hmb)
    · refine ih (le_trans ?_ honce) ha hb
      exact (List.sublist_cons_self last accepted).count_le _

/-! ### What a callback adds to the log -/

/-- The robot goes on to have accepted the given missions; what it reports is of the
last one. -/
structure Continues (robot robot' : Robot) (accepted : List (Option String)) : Prop where
  accepted : robot'.accepted = accepted
  log : ∃ reports, robot'.log = reports ++ robot.log ∧
    ∀ report ∈ reports, report.run = robot'.current

section

variable {cfg : Patrol.Config} {libm : Patrol.Libm} {robot robot' : Robot}
  {missionId : Option String} {e : Patrol.Event}

theorem current_mem_runs (robot : Robot) : robot.current ∈ runsOf robot.accepted := by
  unfold Robot.current
  cases robot.accepted with
  | nil => exact List.mem_cons_self ..
  | cons last accepted => exact List.mem_cons_self ..

theorem publishes_step {patrol patrol' : Patrol.World}
    (h : patrol.step cfg libm e = some patrol') :
    ∃ statuses, Publishes patrol.node patrol'.node statuses := by
  have hattempt : ∀ attempt, attemptOf e = some attempt →
      ∃ statuses, Publishes patrol.node patrol'.node statuses := by
    intro attempt he
    obtain ⟨hnode, _⟩ := attempt_step he h
    rw [hnode]
    cases ha : accepts cfg libm patrol.node e with
    | true => exact ⟨_, publishes_executeMission (accepts_ok he ha)⟩
    | false => exact ⟨[], [], by rw [refuses_state he ha]; rfl, rfl⟩
  cases Patrol.step_cases h with
  | start request serverAvailable now => exact hattempt _ rfl
  | autostart serverAvailable now => exact hattempt _ rfl
  | stop =>
    rcases publishes_handleStop patrol.node with ⟨hsilent, _⟩ | ⟨hcancels, _, _⟩
    · exact ⟨_, hsilent⟩
    · exact ⟨_, hcancels⟩
  | accepted => exact ⟨_, [.status "active"], rfl, rfl⟩
  | rejected => exact ⟨_, [.status "rejected"], rfl, rfl⟩
  | result result => exact ⟨_, [.status (Patrol.terminalStatus result)], rfl, rfl⟩

theorem Robot.Tidy.publishes (h : robot.Tidy) {patrol' : Patrol.World}
    (hstep : robot.patrol.step cfg libm e = some patrol') :
    Publishes robot.patrol.node patrol'.node [] ∨ robot.runOf e = robot.current := by
  cases Patrol.step_cases hstep with
  | start request serverAvailable now => exact .inr rfl
  | autostart serverAvailable now => exact .inr rfl
  | stop =>
    rcases publishes_handleStop robot.patrol.node with ⟨hsilent, _⟩ | ⟨_, hactive, _⟩
    · exact .inl hsilent
    · exact .inr (h.runOf_stop hactive)
  | accepted hm => exact .inr (h.owned _ _ hm)
  | rejected hm => exact .inr (h.owned _ _ hm)
  | result _ hm => exact .inr (h.owned _ _ hm)

theorem step_continues (h : robot.Tidy) (hstep : robot.step cfg libm missionId e = some robot') :
    Continues robot robot' (if accepts cfg libm robot.patrol.node e then
      missionId :: robot.accepted else robot.accepted) := by
  obtain ⟨patrol', hpatrol, rfl⟩ := Option.map_eq_some_iff.mp hstep
  obtain ⟨statuses, hpublishes⟩ := publishes_step hpatrol
  cases ha : accepts cfg libm robot.patrol.node e with
  | true =>
    rw [if_pos rfl, if_pos rfl]
    have hpublishes' : Publishes (robot.begin missionId).patrol.node patrol'.node statuses :=
      hpublishes
    have hafter := after_of_publishes (robot.begin missionId).current hpublishes'
    refine ⟨hafter.accepted, _, hafter.log, fun report hr => ?_⟩
    obtain ⟨status, _, rfl⟩ := List.mem_map.mp hr
    exact hafter.current.symm
  | false =>
    rw [if_neg (by simp), if_neg (by simp)]
    rcases h.publishes hpatrol with hsilent | hrun
    · have hafter := after_of_publishes (robot.runOf e) hsilent
      exact ⟨hafter.accepted, [], hafter.log, by simp⟩
    · have hafter := after_of_publishes (robot.runOf e) hpublishes
      refine ⟨hafter.accepted, _, hafter.log, fun report hr => ?_⟩
      obtain ⟨status, _, rfl⟩ := List.mem_map.mp hr
      rw [hafter.current]
      exact hrun

end

/-! ### What a step of the system changes -/

def Robot.Recorded (robot : Robot) : Prop :=
  ∀ report ∈ robot.log, report.run ∈ runsOf robot.accepted

section

variable {robot robot' : Robot} {accepted : List (Option String)}

theorem Continues.refl (haccepted : robot'.accepted = robot.accepted)
    (hlog : robot'.log = robot.log) : Continues robot robot' robot.accepted :=
  ⟨haccepted, [], hlog, by simp⟩

theorem Continues.log_mem (h : Continues robot robot' accepted) {report : Report}
    (hr : report ∈ robot.log) : report ∈ robot'.log := by
  obtain ⟨reports, hlog, _⟩ := h.log
  rw [hlog]
  exact List.mem_append_right _ hr

theorem Continues.current (h : Continues robot robot' robot.accepted) :
    robot'.current = robot.current := by
  unfold Robot.current
  rw [h.accepted]

theorem Robot.Recorded.continues (h : robot.Recorded) (hc : Continues robot robot' accepted)
    (haccepted : robot.accepted <:+ accepted) : robot'.Recorded := by
  have hruns : ∀ run ∈ runsOf robot.accepted, run ∈ runsOf accepted := by
    obtain ⟨front, rfl⟩ := haccepted
    intro run hrun
    clear hc
    induction front with
    | nil => exact hrun
    | cons missionId front ih => exact List.mem_cons_of_mem _ ih
  intro report hr
  obtain ⟨reports, hlog, hcurrent⟩ := hc.log
  rw [hlog] at hr
  rcases List.mem_append.mp hr with hnew | hold
  · rw [hcurrent report hnew]
    exact current_mem_runs robot'
  · rw [hc.accepted]
    exact hruns _ (h report hold)

end

section

variable {cfg : Config} {w v : World} {e : Event}

theorem RobotTurn.continues {robotId : String} {missionId : Option String}
    {call : Option Patrol.Event} {robot robot' : Robot}
    (h : RobotTurn cfg robotId missionId call robot robot') (ht : robot.Tidy) :
    (∃ call', call = some call' ∧
      accepts (cfg.patrol robotId) cfg.libm robot.patrol.node call' = true ∧
      Continues robot robot' (missionId :: robot.accepted)) ∨
    Continues robot robot' robot.accepted := by
  cases h with
  | @called _ call' hcall hstep =>
    have hc := step_continues ht hstep
    cases ha : accepts (cfg.patrol robotId) cfg.libm robot.patrol.node call' with
    | true =>
      rw [ha, if_pos rfl] at hc
      exact .inl ⟨call', hcall, ha, hc⟩
    | false =>
      rw [ha, if_neg (by simp)] at hc
      exact .inr hc
  | status _ hstep =>
    unfold Robot.receiveStatus at hstep
    split at hstep <;> cases hstep
    exact .inr (.refl rfl rfl)
  | missionType _ hstep =>
    unfold Robot.receiveMissionType at hstep
    split at hstep <;> cases hstep
    exact .inr (.refl rfl rfl)
  | localizationOk data _ => exact .inr (.refl rfl rfl)
  | heartbeat now _ => exact .inr (.refl rfl rfl)
  | lost _ _ _ => exact .inr (.refl rfl rfl)

theorem Turn.continues (h : w.Inv) (hturn : Turn cfg w e v) (robotId : String) :
    (w.Begins cfg e robotId ∧
      Continues (w.robots robotId) (v.robots robotId)
        (e.missionId :: (w.robots robotId).accepted)) ∨
    Continues (w.robots robotId) (v.robots robotId) (w.robots robotId).accepted := by
  cases hturn with
  | coordination _ _ => exact .inr (.refl (by rw [advance_robots]) (by rw [advance_robots]))
  | fleetState _ _ => exact .inr (.refl rfl rfl)
  | @heartbeat id now m queue _ =>
    by_cases heq : robotId = id
    · subst heq
      simp only [World.setRobot, Function.update_self]
      exact .inr (.refl rfl rfl)
    · simp only [World.setRobot, Function.update_of_ne heq]
      exact .inr (.refl rfl rfl)
  | @robot _ id robot' commands _ _ _ hrobot =>
    by_cases heq : robotId = id
    · subst heq
      simp only [World.setRobot, Function.update_self]
      rcases hrobot.continues (h.tidy robotId) with ⟨call, hcall, ha, hc⟩ | hc
      · exact .inl ⟨⟨call, hcall, ha⟩, hc⟩
      · exact .inr hc
    · simp only [World.setRobot, Function.update_of_ne heq]
      exact .inr (.refl rfl rfl)
  | lost _ => exact .inr (.refl rfl rfl)

theorem recorded_step (h : w.Inv) (hrecorded : ∀ robotId, (w.robots robotId).Recorded)
    (hturn : Turn cfg w e v) (robotId : String) : (v.robots robotId).Recorded := by
  rcases hturn.continues h robotId with ⟨_, hc⟩ | hc
  · exact (hrecorded robotId).continues hc (List.suffix_cons _ _)
  · exact (hrecorded robotId).continues hc List.suffix_rfl

/-- What a step does to the active missions and to what the scheduler has seen. -/
inductive Decides (cfg : Config) (w : World) (e : Event) (v : World) : Prop where
  | aside : Scheduler.Aside w.coordination.scheduler.node v.coordination.scheduler.node →
      v.observed = w.observed → Decides cfg w e v
  | reconcile {now : Time} {visit : List (Sigma fun _ : String => Scheduler.ActiveMission)}
      {snapshot : Snapshot} : e = .fleetState now visit →
      w.fleetStates.head? = some snapshot →
      w.coordination.scheduler.node.activeMissions.VisitOrder visit →
      v.coordination.scheduler.node = Scheduler.fleetStateCallback cfg.scheduler snapshot.message
        now visit w.coordination.scheduler.node →
      v.observed = snapshot.seen → v.robots = w.robots → Decides cfg w e v

theorem coordination_aside {scfg : Scheduler.Config} {fcfg : Fleet.Config}
    {u c : Coordination.World} {e : Coordination.Event} (h : u.step scfg fcfg e = some c)
    (he : fromSubscription e = false) : Scheduler.Aside u.scheduler.node c.scheduler.node := by
  have hsame : Scheduler.Aside u.scheduler.node u.scheduler.node :=
    Scheduler.aside_of_eq rfl (.inl rfl)
  cases Coordination.step_cases h with
  | scheduler _ hs =>
    refine Scheduler.aside_step hs fun message now visit heq => ?_
    rw [heq] at he
    cases he
  | fleet e => exact hsame
  | assignMission _ _ => exact hsame
  | response _ hs => exact Scheduler.aside_step hs fun _ _ _ heq => by cases heq
  | exception hs => exact Scheduler.aside_step hs fun _ _ _ heq => by cases heq

theorem Turn.decides (hturn : Turn cfg w e v) : Decides cfg w e v := by
  have hsame : Scheduler.Aside w.coordination.scheduler.node w.coordination.scheduler.node :=
    Scheduler.aside_of_eq rfl (.inl rfl)
  cases hturn with
  | @coordination e c he hc =>
    have hrouted := routed_foldr (Fleet.sentSince w.coordination.fleet c.fleet)
      { w with coordination := c }
    refine .aside ?_ hrouted.observed
    unfold World.advance
    rw [hrouted.coordination]
    exact coordination_aside hc he
  | @fleetState now visit snapshot queue scheduler hqueue hs =>
    simp only [Scheduler.World.step] at hs
    split at hs
    · rename_i hvisit
      cases hs
      exact .reconcile rfl (by rw [hqueue]; rfl) hvisit rfl rfl rfl
    · cases hs
  | heartbeat _ => exact .aside hsame rfl
  | robot => exact .aside hsame rfl
  | lost _ => exact .aside hsame rfl

end

end PatrolFleet.Execution
