import PatrolFleet.Scheduler.Order
import PatrolFleet.Scheduler.Unaccepted

/-!
A mission of a lower priority than one that stays in the queue is not dispatched.
-/

set_option autoImplicit false

namespace PatrolFleet.Scheduler

/-- The mission waits as it was queued, with no request outstanding. -/
structure World.Starved (w : World) (mission : QueuedMission) : Prop where
  waits : w.Unaccepted mission.missionId
  record : ∀ queued ∈ w.node.missionQueue, queued.missionId = mission.missionId → queued = mission
  uncalled : ∀ d ∈ w.calls, d.missionId ≠ mission.missionId

section

variable {cfg : Config} {w v : World} {e : Event} {mission ahead : QueuedMission}

theorem Cleared.suffix {now : Time} {s t : State} (h : Cleared cfg now s t) :
    s.history <:+ t.history := by
  rcases h.history with heq | heq
  · exact ⟨[], heq.symm⟩
  · exact ⟨[_], heq.symm⟩

theorem history_step (hturn : Turn cfg w e v) : w.node.history <:+ v.node.history := by
  cases hturn with
  | parts hparts =>
    obtain ⟨new, hnew, _⟩ := Parts.history hparts
    exact ⟨new, hnew.symm⟩
  | cleared now ready hc => exact hc.suffix
  | sent now ready hc => exact hc.suffix.trans (List.suffix_cons ..)
  | @answered d answer now hd =>
    rcases history_answered d answer now w.node with heq | heq | heq
    · exact ⟨[], heq.symm⟩
    · exact ⟨[_], heq.symm⟩
    · exact ⟨[_], heq.symm⟩

theorem starved_of_queued (hw : w.Inv) (hm : mission ∈ w.node.missionQueue)
    (hfree : ∀ d ∈ w.calls, d.missionId ≠ mission.missionId) : w.Starved mission := by
  refine ⟨⟨queued_issued hw hm, fun hactive => ?_, .inl (List.mem_map_of_mem hm)⟩,
    fun queued hq hid => queued_unique hw hq hm hid, hfree⟩
  have hnodup : (w.node.queueIds ++ w.node.activeIds).Nodup := Ledger.Tracks.names_nodup hw.tracks
  exact (List.nodup_append.mp hnodup).2.2 _ (List.mem_map_of_mem hm) _ hactive rfl

theorem starved_step (hordered : w.node.Ordered) (h : w.Starved mission)
    (hahead : ahead ∈ w.node.missionQueue) (hlow : mission.priority < ahead.priority)
    (hstep : w.step cfg e = some v) : v.Starved mission := by
  have hcalled : ∀ d answer now, e = .assignResponse d answer now → d ∈ w.calls := by
    rintro d answer now rfl
    by_contra hd
    simp [World.step, hd] at hstep
  have hturn : Turn cfg w e v := step_turn hstep
  refine ⟨?_, fun queued hq hid => ?_, ?_⟩
  · refine unaccepted_step h.waits hturn fun d answer now he hid => ?_
    exact absurd hid (h.uncalled d (hcalled d answer now he))
  · rcases queued_step (step_cases hstep) hq with hold | hnew
    · exact h.record queued hold hid
    · exact absurd (hid ▸ h.waits.issued) hnew
  · cases hturn with
    | parts => exact h.uncalled
    | cleared => exact h.uncalled
    | sent now ready hc hp hready hm hr =>
      intro d hd hid
      rcases List.mem_cons.mp hd with rfl | hd
      · obtain ⟨first, hfirst, hsame, _, hbefore⟩ :=
          (sent_foremost hordered hc hp hready hm hr).mission
        have heq := h.record first hfirst (hsame.symm.trans hid)
        exact hbefore ahead hahead (.inl (heq ▸ hlow))
      · exact h.uncalled d hd hid
    | answered => exact fun d hd => h.uncalled d (List.mem_of_mem_erase hd)

theorem World.Starved.queued (h : w.Starved mission) :
    mission ∈ w.node.missionQueue ∨ .cancelled mission.missionId ∈ w.node.history := by
  refine h.waits.waits.imp (fun hq => ?_) id
  obtain ⟨queued, hmem, hid⟩ := List.mem_map.mp hq
  exact h.record queued hmem hid ▸ hmem

end

end PatrolFleet.Scheduler
