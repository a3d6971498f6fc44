import PatrolFleet.Coordination.System
import PatrolFleet.Scheduler.Order
import PatrolFleet.Scheduler.Unaccepted

/-!
A mission that the fleet manager refuses for want of a target is refused whenever it is
dispatched: no START is sent for it, and it stays in the queue.
-/

set_option autoImplicit false

namespace PatrolFleet.Coordination

open Scheduler (Dispatch)

/-- The mission is of the type, has no target and has not been started; all its answers
on their way are refusals. -/
structure World.Untargeted (w : World) (missionId missionType : String)
    (targetPose : PoseStamped) : Prop where
  carries : w.scheduler.Carries missionId missionType targetPose false
  waits : w.scheduler.Unaccepted missionId
  requests : ∀ d ∈ w.requests, d.missionId = missionId →
    d.missionType = missionType ∧ d.hasTarget = false
  responses : ∀ p ∈ w.responses, p.1.missionId = missionId → p.2.success = false
  started : ∀ d ∈ w.started, d.missionId ≠ missionId

section

variable {cfg : Scheduler.Config} {fcfg : Fleet.Config} {w v : World} {e : Event}
  {missionId missionType : String} {targetPose : PoseStamped}

theorem World.Untargeted.scheduler (h : w.Untargeted missionId missionType targetPose)
    {u : Scheduler.World} {e : Scheduler.Event} (he : e.isAnswer = false)
    (hu : w.scheduler.step cfg e = some u) :
    World.Untargeted { w with scheduler := u, requests := sentSince w.scheduler u ++ w.requests }
      missionId missionType targetPose := by
  have hcarries := Scheduler.carries_step h.carries (Scheduler.step_cases hu)
  refine { h with carries := hcarries, waits := ?_, requests := fun d hd hid => ?_ }
  · refine Scheduler.unaccepted_step h.waits (Scheduler.step_turn hu) ?_
    rintro d answer now rfl
    cases he
  · rcases List.mem_append.mp hd with hd | hd
    · obtain ⟨htype, _, htarget⟩ := hcarries.called d (List.mem_of_mem_take hd) hid
      exact ⟨htype, htarget⟩
    · exact h.requests d hd hid

theorem World.Untargeted.answered (h : w.Untargeted missionId missionType targetPose)
    {u : Scheduler.World} {d : Dispatch} {answer : Scheduler.Answer} {now : Time}
    (hu : w.scheduler.step cfg (.assignResponse d answer now) = some u)
    (hanswer : d.missionId = missionId → answer.accepts = false)
    {responses : List (Dispatch × AssignMission.Response)} (hsub : responses ⊆ w.responses) :
    World.Untargeted { w with scheduler := u, responses } missionId missionType targetPose := by
  refine { h with
    carries := Scheduler.carries_step h.carries (Scheduler.step_cases hu)
    waits := ?_
    responses := fun p hp => h.responses p (hsub hp) }
  refine Scheduler.unaccepted_step h.waits (Scheduler.step_turn hu) ?_
  rintro d' answer' now' heq hid
  cases heq
  exact hanswer hid

theorem untargeted_step (hrequires : Fleet.missionTypeRequiresTarget missionType = true)
    (h : w.Untargeted missionId missionType targetPose) (hstep : w.step cfg fcfg e = some v) :
    v.Untargeted missionId missionType targetPose := by
  cases step_cases hstep with
  | scheduler he hu => exact h.scheduler he hu
  | fleet e => exact { h with }
  | @assignMission d serviceIsReady now handled hd hhandled =>
    subst hhandled
    have hrefused : d.missionId = missionId →
        (Fleet.handleAssignMission fcfg d.request serviceIsReady now w.fleet).1.success = false ∧
        (Fleet.handleAssignMission fcfg d.request serviceIsReady now w.fleet).2.sent =
          w.fleet.sent := by
      intro hid
      obtain ⟨htype, htarget⟩ := h.requests d hd hid
      refine Fleet.assignMission_refuses rfl fun hassignable => ?_
      have hneeded : Fleet.missionTypeRequiresTarget d.missionType = true → d.hasTarget = true :=
        hassignable.target
      rw [htype, htarget] at hneeded
      cases hneeded hrequires
    refine { h with
      requests := fun d' hd' => h.requests d' (List.mem_of_mem_erase hd')
      responses := fun p hp hid => ?_
      started := fun d' hd' hid => ?_ }
    · rcases List.mem_cons.mp hp with rfl | hp
      · exact (hrefused hid).1
      · exact h.responses p hp hid
    · dsimp only at hd'
      split at hd'
      · rename_i hsent
        rcases List.mem_cons.mp hd' with rfl | hd'
        · rw [(hrefused hid).2] at hsent
          exact Nat.lt_irrefl _ hsent
        · exact h.started d' hd' hid
      · exact h.started d' hd' hid
  | @response d response now u hd hu =>
    exact h.answered hu (h.responses _ hd) List.erase_subset
  | exception hu => exact h.answered hu (fun _ => rfl) (List.Subset.refl _)

/-! ### The missions that are on their way -/

/-- Requests, responses and STARTs are for missions that the scheduler has made. -/
structure World.Known (w : World) : Prop where
  requests : ∀ d ∈ w.requests, Scheduler.Issued w.scheduler.node.missionCounter d.missionId
  responses : ∀ p ∈ w.responses, Scheduler.Issued w.scheduler.node.missionCounter p.1.missionId
  started : ∀ d ∈ w.started, Scheduler.Issued w.scheduler.node.missionCounter d.missionId

theorem World.Known.scheduler (h : w.Known) {u : Scheduler.World} {e : Scheduler.Event}
    (hu : w.scheduler.step cfg e = some u) : World.Known { w with scheduler := u } := by
  have hcounter := Scheduler.counter_step (Scheduler.step_cases hu)
  exact ⟨fun d hd => (h.requests d hd).mono hcounter,
    fun p hp => (h.responses p hp).mono hcounter, fun d hd => (h.started d hd).mono hcounter⟩

theorem known_step (hinv : w.scheduler.Inv) (h : w.Known)
    (hstep : w.step cfg fcfg e = some v) : v.Known := by
  cases step_cases hstep with
  | @scheduler e u he hu =>
    have hinv' := Scheduler.inv_step hinv (Scheduler.step_cases hu)
    refine { h.scheduler hu with requests := fun d hd => ?_ }
    rcases List.mem_append.mp hd with hd | hd
    · exact hinv'.issued d (List.mem_of_mem_take hd)
    · exact (h.scheduler hu).requests d hd
  | fleet e => exact { h with }
  | @assignMission d serviceIsReady now handled hd hhandled =>
    refine ⟨fun d' hd' => h.requests d' (List.mem_of_mem_erase hd'), fun p hp => ?_,
      fun d' hd' => ?_⟩
    · rcases List.mem_cons.mp hp with rfl | hp
      · exact h.requests d hd
      · exact h.responses p hp
    · dsimp only at hd'
      split at hd'
      · rcases List.mem_cons.mp hd' with rfl | hd'
        · exact h.requests _ hd
        · exact h.started d' hd'
      · exact h.started d' hd'
  | response _ hu =>
    have hknown := h.scheduler hu
    exact { hknown with responses := fun p hp => hknown.responses p (List.mem_of_mem_erase hp) }
  | exception hu => exact h.scheduler hu

theorem untargeted_queueMission (hinv : w.scheduler.Inv) (h : w.Known)
    {request : QueueMission.Request} {now : Time}
    (haccepted : (Scheduler.handleQueueMission request now w.scheduler.node).1.accepted = true)
    (htarget : request.hasTarget = false)
    (hstep : w.step cfg fcfg (.scheduler (.queueMission request now)) = some v) :
    v.Untargeted (Scheduler.handleQueueMission request now w.scheduler.node).1.missionId
      request.missionType request.targetPose := by
  have hcarries := Scheduler.carries_of_queueMission hinv haccepted
  have hwaits := Scheduler.unaccepted_of_queueMission hinv haccepted
  obtain ⟨_, hid, _, _⟩ := Scheduler.queueMission_accepted haccepted
  have hnew : ∀ missionId, Scheduler.Issued w.scheduler.node.missionCounter missionId →
      missionId ≠ (Scheduler.handleQueueMission request now w.scheduler.node).1.missionId := by
    intro missionId hissued heq
    rw [heq, hid] at hissued
    exact Scheduler.not_issued_fresh _ hissued
  rw [htarget] at hcarries
  cases step_cases hstep with
  | scheduler _ hu =>
    cases hu
    have hnone : sentSince w.scheduler
        ⟨(Scheduler.handleQueueMission request now w.scheduler.node).2, w.scheduler.calls⟩ =
          [] := by simp [sentSince]
    rw [hnone, List.nil_append]
    exact ⟨hcarries, hwaits, fun d hd heq => absurd heq (hnew _ (h.requests d hd)),
      fun p hp heq => absurd heq (hnew _ (h.responses p hp)),
      fun d hd => hnew _ (h.started d hd)⟩

end

theorem reachable_known {cfg : Scheduler.Config} {fcfg : Fleet.Config} {startedAt : Time}
    {fleet : Fleet.State} {w : World} (h : (machine cfg fcfg startedAt fleet).Reachable w) :
    w.Known := by
  refine h.induction (P := World.Known) (by constructor <;> simp [machine]) ?_
  intro u e v hu hknown hstep
  exact known_step (Scheduler.reachable_inv (reachable_scheduler hu)) hknown hstep

end PatrolFleet.Coordination
