import PatrolFleet.Execution.Completion
import PatrolFleet.Execution.Orders

/-!
Every goal that a robot is sent to is the goal of a request that somebody made.
-/

set_option autoImplicit false

namespace PatrolFleet.Execution

open Scheduler (Dispatch Payload)

/-- The goal is what the robot makes of a request for the mission. -/
def Due (cfg : Config) (Asked : String → Payload → Prop) (u : Scheduler.World) (robotId : String)
    (missionId : Option String) (goal : Patrol.FollowWaypoints.Goal) : Prop :=
  ∃ request now, Commissioned Asked u missionId request ∧
    Patrol.missionGoal (cfg.patrol robotId) cfg.libm request.missionType request.targetPose
      request.hasTarget now = .ok goal

structure World.Traced (cfg : Config) (Asked : String → Payload → Prop) (w : World) : Prop where
  inv : w.coordination.scheduler.Inv
  accounted : w.coordination.scheduler.Accounted cfg.scheduler Asked
  requests : ∀ d ∈ w.coordination.requests,
    w.coordination.scheduler.Traces Asked d.missionId d.payload
  commands : ∀ robotId missionId missionType request,
    .start robotId missionId missionType request ∈ w.commands →
      Commissioned Asked w.coordination.scheduler (some missionId) request
  goals : ∀ robotId, (w.robots robotId).Owns (Due cfg Asked w.coordination.scheduler robotId)

section

variable {cfg : Config} {Asked : String → Payload → Prop} {w v : World} {e : Event}

theorem World.Traced.congr (h : w.Traced cfg Asked)
    (hscheduler : v.coordination.scheduler = w.coordination.scheduler)
    (hrequests : v.coordination.requests ⊆ w.coordination.requests)
    (hcommands : v.commands ⊆ w.commands)
    (hrobots : ∀ robotId, (v.robots robotId).patrol = (w.robots robotId).patrol ∧
      (v.robots robotId).owner = (w.robots robotId).owner) : v.Traced cfg Asked := by
  refine ⟨?_, ?_, ?_, ?_, ?_⟩ <;> rw [hscheduler]
  · exact h.inv
  · exact h.accounted
  · exact fun d hd => h.requests d (hrequests hd)
  · exact fun robotId missionId missionType request hm =>
      h.commands robotId missionId missionType request (hcommands hm)
  · exact fun robotId => (h.goals robotId).congr (hrobots robotId).1 (hrobots robotId).2

/-! ### The scheduler -/

theorem sentSince_calls {u u' : Scheduler.World} {e : Scheduler.Event} {d : Dispatch}
    (hturn : Scheduler.Turn cfg.scheduler u e u') (hd : d ∈ Coordination.sentSince u u') :
    u'.calls = d :: u.calls := by
  unfold Coordination.sentSince at hd
  cases hturn with
  | parts => simp at hd
  | cleared => simp at hd
  | sent =>
    simp only [List.length_cons, Nat.add_sub_cancel_left, List.take_succ_cons, List.take_zero,
      List.mem_singleton] at hd
    rw [hd]
  | @answered other answer now hmem =>
    have hle := (List.erase_sublist (a := other) (l := u.calls)).length_le
    rw [Nat.sub_eq_zero_of_le hle, List.take_zero] at hd
    cases hd

theorem World.Traced.scheduler (h : w.Traced cfg Asked) {e : Scheduler.Event} {u : Scheduler.World}
    (hu : w.coordination.scheduler.step cfg.scheduler e = some u)
    (hasked : ∀ payload, e.asks cfg.scheduler = some payload →
      Asked (Scheduler.missionIdOf (w.coordination.scheduler.node.missionCounter + 1)) payload) :
    World.Traced cfg Asked { w with coordination := { w.coordination with
      scheduler := u
      requests := Coordination.sentSince w.coordination.scheduler u ++
        w.coordination.requests } } := by
  have hturn := Scheduler.step_turn hu
  refine ⟨Scheduler.inv_step h.inv (Scheduler.step_cases hu),
    Scheduler.accounted_step h.inv h.accounted hturn hasked, fun d hd => ?_, ?_, ?_⟩
  · rcases List.mem_append.mp hd with hd | hd
    · exact Scheduler.traces_of_sent h.inv h.accounted hturn (sentSince_calls hturn hd)
    · exact Scheduler.traces_step (h.requests d hd) hturn
  · intro robotId missionId missionType request hm
    exact (h.commands robotId missionId missionType request hm).step hturn
  · refine fun robotId => (h.goals robotId).mono fun missionId goal hdue => ?_
    obtain ⟨request, now, hcommissioned, hgoal⟩ := hdue
    exact ⟨request, now, hcommissioned.step hturn, hgoal⟩

/-! ### The fleet manager -/

theorem commands_foldr (messages : List Fleet.Sent) (w : World) :
    (messages.foldr World.route w).commands ⊆ messages ++ w.commands := by
  induction messages with
  | nil => exact List.Subset.refl _
  | cons m messages ih =>
    rw [List.foldr_cons, List.cons_append]
    have hrest := List.subset_cons_of_subset m ih
    cases m with
    | start => exact List.cons_subset_cons _ ih
    | stop => exact List.cons_subset_cons _ ih
    | _ => exact hrest

theorem World.Traced.advance {c : Coordination.World}
    (h : World.Traced cfg Asked { w with coordination := c })
    (hsent : ∀ robotId missionId missionType request,
      .start robotId missionId missionType request ∈ Fleet.sentSince w.coordination.fleet c.fleet →
        Commissioned Asked c.scheduler (some missionId) request) :
    (w.advance c).Traced cfg Asked := by
  have hrouted := routed_foldr (Fleet.sentSince w.coordination.fleet c.fleet)
    { w with coordination := c }
  have hcoordination : (w.advance c).coordination = c := hrouted.coordination
  have hcommands := commands_foldr (Fleet.sentSince w.coordination.fleet c.fleet)
    { w with coordination := c }
  refine ⟨?_, ?_, ?_, ?_, ?_⟩ <;> rw [hcoordination]
  · exact h.inv
  · exact h.accounted
  · exact h.requests
  · intro robotId missionId missionType request hm
    rcases List.mem_append.mp (hcommands hm) with hnew | hold
    · exact hsent robotId missionId missionType request hnew
    · exact h.commands robotId missionId missionType request hold
  · rw [advance_robots]
    exact h.goals

theorem World.Traced.coordination (h : w.Traced cfg Asked) {e : Coordination.Event}
    {c : Coordination.World}
    (hc : w.coordination.step cfg.scheduler cfg.fleet e = some c)
    (hasked : ∀ e' payload, e = .scheduler e' → e'.asks cfg.scheduler = some payload →
      Asked (Scheduler.missionIdOf (w.coordination.scheduler.node.missionCounter + 1)) payload) :
    World.Traced cfg Asked { w with coordination := c } ∧
      ∀ robotId missionId missionType request, .start robotId missionId missionType request ∈
        Fleet.sentSince w.coordination.fleet c.fleet →
          Commissioned Asked c.scheduler (some missionId) request := by
  have hnothing : ∀ m, m ∉ Fleet.sentSince w.coordination.fleet w.coordination.fleet := by
    simp [Fleet.sentSince]
  cases Coordination.step_cases hc with
  | scheduler _ hu =>
    exact ⟨h.scheduler hu fun payload => hasked _ payload rfl,
      fun _ _ _ _ hm => absurd hm (hnothing _)⟩
  | fleet e =>
    exact ⟨h.congr rfl (List.Subset.refl _) (List.Subset.refl _) fun _ => ⟨rfl, rfl⟩,
      fun _ _ _ _ hm => commissioned_step hm⟩
  | assignMission hd hhandled =>
    subst hhandled
    exact ⟨h.congr rfl List.erase_subset (List.Subset.refl _) fun _ => ⟨rfl, rfl⟩,
      fun _ _ _ _ hm => commissioned_assignMission (h.requests _ hd) hm⟩
  | response _ hu =>
    have hscheduler := h.scheduler hu fun _ heq => by cases heq
    exact ⟨hscheduler.congr rfl (List.subset_append_right ..) (List.Subset.refl _)
      fun _ => ⟨rfl, rfl⟩, fun _ _ _ _ hm => absurd hm (hnothing _)⟩
  | exception hu =>
    have hscheduler := h.scheduler hu fun _ heq => by cases heq
    exact ⟨hscheduler.congr rfl (List.subset_append_right ..) (List.Subset.refl _)
      fun _ => ⟨rfl, rfl⟩, fun _ _ _ _ hm => absurd hm (hnothing _)⟩

/-! ### The robots -/

theorem World.Traced.setRobot (h : w.Traced cfg Asked) {robotId : String} {robot : Robot}
    (howns : robot.Owns (Due cfg Asked w.coordination.scheduler robotId)) :
    (w.setRobot robotId robot).Traced cfg Asked := by
  refine ⟨h.inv, h.accounted, h.requests, h.commands, fun id => ?_⟩
  by_cases hid : id = robotId
  · subst hid
    simpa only [World.setRobot, Function.update_self] using howns
  · simpa only [World.setRobot, Function.update_of_ne hid] using h.goals id

/-- A goal that a callback of the patrol manager may send is due. -/
theorem World.Traced.due (h : w.Traced cfg Asked) (hprompts : w.Prompts e) {robotId : String}
    {call : Patrol.Event} (hcall : e.calls robotId = some call) {attempt : Attempt}
    {goal : Patrol.FollowWaypoints.Goal} (hattempt : attemptOf call = some attempt)
    (hgoal : Patrol.missionGoal (cfg.patrol robotId) cfg.libm attempt.missionType
      attempt.targetPose attempt.hasTarget attempt.now = .ok goal) :
    Due cfg Asked w.coordination.scheduler robotId e.missionId goal := by
  cases e with
  | start id missionId missionType request serverAvailable now =>
    obtain ⟨rfl, hstart⟩ := Option.ite_none_right_eq_some.mp hcall
    cases hstart
    cases hattempt
    exact ⟨request, now, h.commands id missionId missionType request
      (hprompts.onItsWay _ rfl), hgoal⟩
  | stop id missionId =>
    obtain ⟨rfl, hstop⟩ := Option.ite_none_right_eq_some.mp hcall
    cases hstop
    cases hattempt
  | patrol id e =>
    obtain ⟨rfl, he⟩ := Option.ite_none_right_eq_some.mp hcall
    cases he
    have hitself := hprompts.byItself _ _ rfl
    cases call with
    | autostart serverAvailable now =>
      cases hattempt
      exact ⟨plainPatrol, now, .timer, hgoal⟩
    | start => cases hitself
    | _ => cases hattempt
  | _ => cases hcall

theorem owns_turn (h : w.Traced cfg Asked) (hprompts : w.Prompts e) {robotId : String}
    {robot' : Robot} (hturn : RobotTurn cfg robotId e.missionId (e.calls robotId)
      (w.robots robotId) robot') :
    robot'.Owns (Due cfg Asked w.coordination.scheduler robotId) := by
  have howns := h.goals robotId
  cases hturn with
  | called hcall hstep =>
    exact owns_step howns hstep fun attempt goal hattempt hgoal =>
      h.due hprompts hcall hattempt hgoal
  | status _ hstep =>
    unfold Robot.receiveStatus at hstep
    split at hstep <;> cases hstep
    exact howns.congr rfl rfl
  | missionType _ hstep =>
    unfold Robot.receiveMissionType at hstep
    split at hstep <;> cases hstep
    exact howns.congr rfl rfl
  | localizationOk => exact howns.congr rfl rfl
  | heartbeat => exact howns.congr rfl rfl
  | lost => exact howns.congr rfl rfl

theorem traced_step (h : w.Traced cfg Asked)
    (hasked : ∀ e' payload, e = .coordination (.scheduler e') →
      e'.asks cfg.scheduler = some payload →
      Asked (Scheduler.missionIdOf (w.coordination.scheduler.node.missionCounter + 1)) payload)
    (hstep : w.step cfg e = some v) : v.Traced cfg Asked := by
  cases step_turn hstep with
  | coordination _ hc =>
    obtain ⟨hkept, hsent⟩ := h.coordination hc fun e' payload heq =>
      hasked e' payload (by rw [heq])
    exact hkept.advance hsent
  | fleetState _ hs =>
    have hkept := h.scheduler hs fun payload ha => by cases ha
    exact hkept.congr rfl (List.Subset.refl _) (List.Subset.refl _) fun _ => ⟨rfl, rfl⟩
  | @heartbeat robotId now m queue _ =>
    have haside : World.Traced cfg Asked (w.setRobot robotId
        { w.robots robotId with heartbeats := queue }) :=
      h.setRobot ((h.goals robotId).congr rfl rfl)
    exact haside.congr rfl (List.Subset.refl _) (List.Subset.refl _) fun _ => ⟨rfl, rfl⟩
  | robot hprompts hcommands _ hrobot =>
    exact (h.setRobot (owns_turn h hprompts hrobot)).congr rfl (List.Subset.refl _) hcommands
      fun _ => ⟨rfl, rfl⟩
  | lost => exact h.congr rfl (List.Subset.refl _) (List.Subset.refl _) fun _ => ⟨rfl, rfl⟩

end

/-! ### Runs -/

/-- In the run of `es` the mission was queued for what a client asked for, as a patrol for
the operator, or as a recurring patrol by the timer of the scheduler. -/
inductive Requested (cfg : Config) (startedAt : Time) (fleet : Fleet.State) (es : List Event) :
    String → Payload → Prop where
  | queueMission {u v : World} {request : QueueMission.Request} {now : Time} :
      (machine cfg startedAt fleet).Takes es u
        (.coordination (.scheduler (.queueMission request now))) v →
      isSupportedMissionType request.missionType = true →
      Requested cfg startedAt fleet es
        (Scheduler.missionIdOf (u.coordination.scheduler.node.missionCounter + 1))
        ⟨request.missionType, request.priority, request.targetPose, request.hasTarget⟩
  | dispatchPatrol {u v : World} {now : Time} :
      (machine cfg startedAt fleet).Takes es u
        (.coordination (.scheduler (.dispatchPatrol now))) v →
      Requested cfg startedAt fleet es
        (Scheduler.missionIdOf (u.coordination.scheduler.node.missionCounter + 1))
        ⟨"patrol", 0, {}, false⟩
  | recurringPatrol {u v : World} {now : Time} :
      (machine cfg startedAt fleet).Takes es u
        (.coordination (.scheduler (.recurringPatrol now))) v →
      Requested cfg startedAt fleet es
        (Scheduler.missionIdOf (u.coordination.scheduler.node.missionCounter + 1))
        ⟨"patrol", cfg.scheduler.recurringPatrolPriority, {}, false⟩

section

variable {cfg : Config} {startedAt : Time} {fleet : Fleet.State} {es : List Event} {w : World}

end

/-- A client has the robot go to a place. -/
def visit : QueueMission.Request := ⟨"go_to", 5, { frameId := "map", position := ⟨2, 3, 0⟩ }, true⟩

end PatrolFleet.Execution
