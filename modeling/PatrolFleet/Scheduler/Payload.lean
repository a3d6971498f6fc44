import PatrolFleet.Scheduler.Invariant

/-!
What a mission is asked to do is what its requests to the fleet manager ask.
-/

set_option autoImplicit false

namespace PatrolFleet.Scheduler

/-- The queue and the outstanding requests ask for the mission as it was queued. -/
structure World.Carries (w : World) (missionId missionType : String)
    (targetPose : PoseStamped) (hasTarget : Bool) : Prop where
  issued : Issued w.node.missionCounter missionId
  queued : ∀ mission ∈ w.node.missionQueue, mission.missionId = missionId →
    mission.missionType = missionType ∧ mission.targetPose = targetPose ∧
      mission.hasTarget = hasTarget
  called : ∀ d ∈ w.calls, d.missionId = missionId →
    d.missionType = missionType ∧ d.targetPose = targetPose ∧ d.hasTarget = hasTarget

section

variable {w : World} {missionId missionType : String} {targetPose : PoseStamped}
  {hasTarget : Bool}

theorem World.Carries.congr (h : w.Carries missionId missionType targetPose hasTarget)
    {t : State} {calls : List Dispatch} (hq : t.missionQueue ⊆ w.node.missionQueue)
    (hc : t.missionCounter = w.node.missionCounter) (hcalls : calls ⊆ w.calls) :
    World.Carries ⟨t, calls⟩ missionId missionType targetPose hasTarget where
  issued := hc ▸ h.issued
  queued mission hm := h.queued mission (hq hm)
  called d hd := h.called d (hcalls hd)

theorem World.Carries.moves (h : w.Carries missionId missionType targetPose hasTarget)
    {node : State} (hm : Moves w.node [] node []) :
    World.Carries ⟨node, w.calls⟩ missionId missionType targetPose hasTarget where
  issued := h.issued.mono hm.counter
  queued mission hmission hid := by
    cases hm.records mission hmission with
    | inl hold => exact h.queued mission hold hid
    | inr hnew => exact absurd (hid ▸ h.issued) hnew
  called := h.called

theorem World.Carries.cleared (h : w.Carries missionId missionType targetPose hasTarget)
    {cfg : Config} {now : Time} {t : State} (ht : Cleared cfg now w.node t) :
    World.Carries ⟨t, w.calls⟩ missionId missionType targetPose hasTarget := by
  cases ht with
  | same => exact h
  | overdue =>
    have hr := reclaim_change w.node
    exact h.congr (by simp [hr.missionQueue]) hr.missionCounter (List.Subset.refl _)

theorem World.Carries.sent (h : w.Carries missionId missionType targetPose hasTarget)
    {mission : QueuedMission} (hm : getNextMission w.node = some mission)
    (robot : CandidateRobot) (now : Time) :
    World.Carries ⟨(sendDispatch mission robot now w.node).1,
      (sendDispatch mission robot now w.node).2 :: w.calls⟩ missionId missionType targetPose
        hasTarget where
  issued := h.issued
  queued := h.queued
  called d hd hid := by
    cases List.mem_cons.mp hd with
    | inl heq =>
      subst heq
      exact h.queued mission (List.mem_of_mem_head? hm) hid
    | inr hd => exact h.called d hd hid

theorem World.Carries.answered (h : w.Carries missionId missionType targetPose hasTarget)
    (d : Dispatch) (answer : Answer) (now : Time) :
    World.Carries ⟨assignResponseCallback d answer now w.node, w.calls.erase d⟩ missionId
      missionType targetPose hasTarget := by
  by_cases hg : d.generation = w.node.dispatchGeneration
  · cases ha : answer.accepts with
    | true =>
      have hc := assignResponse_accepted hg ha now
      refine h.congr ?_ hc.missionCounter List.erase_subset
      rw [hc.missionQueue]
      exact List.filter_subset_self _
    | false =>
      have hc := assignResponse_refused hg ha now
      exact h.congr (by simp [hc.missionQueue]) hc.missionCounter List.erase_subset
  · rw [assignResponse_stale hg]
    exact h.congr (List.Subset.refl _) rfl List.erase_subset

theorem carries_step {cfg : Config} {v : World} {e : Event}
    (h : w.Carries missionId missionType targetPose hasTarget) (hs : StepCase cfg w e v) :
    v.Carries missionId missionType targetPose hasTarget := by
  cases hs with
  | moves hm => exact h.moves hm
  | cleared now ready ht => exact h.cleared ht
  | sent now ready ht _ hm _ => exact (h.cleared ht).sent hm _ now
  | answered answer now hd => exact h.answered _ answer now

end

theorem queueMission_accepted {request : QueueMission.Request} {now : Time} {s : State}
    (h : (handleQueueMission request now s).1.accepted = true) :
    isSupportedMissionType request.missionType = true ∧
    (handleQueueMission request now s).1.missionId = missionIdOf (s.missionCounter + 1) ∧
    (handleQueueMission request now s).2.missionCounter = s.missionCounter + 1 ∧
    (handleQueueMission request now s).2.missionQueue.Perm
      (⟨missionIdOf (s.missionCounter + 1), request.missionType, request.priority,
        s.nextSequence, request.targetPose, request.hasTarget, 0⟩ :: s.missionQueue) := by
  unfold handleQueueMission at h ⊢
  split at h
  · simp at h
  · rename_i hs
    rw [if_neg hs]
    exact ⟨by simpa using hs, rfl, rfl, missionQueue_enqueueMission ..⟩

theorem carries_of_queueMission {w : World} (hw : w.Inv) {request : QueueMission.Request}
    {now : Time} (h : (handleQueueMission request now w.node).1.accepted = true) :
    World.Carries ⟨(handleQueueMission request now w.node).2, w.calls⟩
      (handleQueueMission request now w.node).1.missionId request.missionType
      request.targetPose request.hasTarget := by
  obtain ⟨_, hid, hcounter, hqueue⟩ := queueMission_accepted h
  have hfresh := not_issued_fresh w.node.missionCounter
  rw [hid]
  constructor
  · simp only [hcounter]
    exact issued_fresh _
  · intro mission hm heq
    cases List.mem_cons.mp (hqueue.subset hm) with
    | inl hnew => simp [hnew]
    | inr hold =>
      have hissued := Ledger.Tracks.names_issued hw.tracks mission.missionId
        (mem_members_of_queued (List.mem_map_of_mem hold))
      exact absurd (heq ▸ hissued) hfresh
  · intro d hd heq
    exact absurd (heq ▸ hw.issued d hd) hfresh

end PatrolFleet.Scheduler
