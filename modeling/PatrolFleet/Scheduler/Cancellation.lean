import PatrolFleet.Scheduler.Invariant

/-!
When a cancelled mission stays cancelled: exactly when no request for it holds
the dispatch slot at the time of the cancel.
-/

set_option autoImplicit false

namespace PatrolFleet.Scheduler

/-- In `w` and in every later state, the mission is neither in the queue nor on a
robot, and nothing was ever re-queued from it. -/
def StaysCancelled (cfg : Config) (startedAt : Time) (missionId : String) (w : World) : Prop :=
  ∀ es u, (machine cfg startedAt).runFrom w es = some u →
    missionId ∉ u.node.members ∧ ∀ link ∈ u.node.ledger.links, link.1 ≠ missionId

/-- An id that was issued and can come back on no path: not from the queue, not
from a robot, and not with the answer to a request that holds the slot. -/
structure Gone (missionId : String) (w : World) : Prop where
  issued : Issued w.node.missionCounter missionId
  offRecord : missionId ∉ w.node.members
  unretried : ∀ link ∈ w.node.ledger.links, link.1 ≠ missionId
  unsent : ∀ d ∈ w.calls, d.missionId = missionId → d.generation ≠ w.node.dispatchGeneration

section

variable {missionId : String} {w : World}

theorem Gone.moves (h : Gone missionId w) {node : State} (hm : Moves w.node [] node []) :
    Gone missionId ⟨node, w.calls⟩ where
  issued := h.issued.mono hm.counter
  offRecord hmem := by
    cases hm.arrivals missionId hmem with
    | inl hold => exact h.offRecord hold
    | inr hnew => exact hnew h.issued
  unretried link hl heq := by
    rcases hm.retried link hl with hold | hold | hnew
    · exact h.unretried link hold heq
    · exact h.offRecord (heq ▸ hold)
    · exact hnew (heq ▸ h.issued)
  unsent d hd hid := hm.generation ▸ h.unsent d hd hid

/-- A change of the slot that puts nothing on record, and whose generation no
outstanding request for the mission has. -/
theorem Gone.congr (h : Gone missionId w) {t : State} {calls : List Dispatch}
    (hm : ∀ other ∈ t.members, other ∈ w.node.members ∨ other ≠ missionId)
    (hl : t.ledger = w.node.ledger) (hc : t.missionCounter = w.node.missionCounter)
    (hu : ∀ d ∈ calls, d.missionId = missionId → d.generation ≠ t.dispatchGeneration) :
    Gone missionId ⟨t, calls⟩ where
  issued := hc ▸ h.issued
  offRecord hmem := by
    cases hm missionId hmem with
    | inl hold => exact h.offRecord hold
    | inr hne => exact hne rfl
  unretried link hlink := h.unretried link (hl ▸ hlink)
  unsent := hu

theorem Gone.cleared (h : Gone missionId w) (hw : w.Inv) {cfg : Config} {now : Time} {t : State}
    (ht : Cleared cfg now w.node t) : Gone missionId ⟨t, w.calls⟩ := by
  cases ht with
  | same => exact h
  | overdue =>
    have hr := reclaim_change w.node
    refine h.congr ?_ hr.ledger hr.missionCounter ?_
    · rw [members_congr hr.missionQueue hr.activeMissions]
      exact fun other ho => Or.inl ho
    · intro d hd _
      have := hw.generation_le d hd
      rw [hr.dispatchGeneration]
      omega

theorem Gone.sent (h : Gone missionId w) (hw : w.Inv) {mission : QueuedMission}
    (hm : getNextMission w.node = some mission) (robot : CandidateRobot) (now : Time) :
    Gone missionId ⟨(sendDispatch mission robot now w.node).1,
      (sendDispatch mission robot now w.node).2 :: w.calls⟩ := by
  have hc := sendDispatch_change mission robot now w.node
  refine h.congr ?_ ?_ hc.missionCounter ?_
  · rw [members_congr hc.missionQueue hc.activeMissions]
    exact fun other ho => Or.inl ho
  · simp [State.ledger, hc.history, ledgerOf]
  · intro d hd hid
    cases List.mem_cons.mp hd with
    | inl heq =>
      subst heq
      have hqueued : mission.missionId ∈ w.node.queueIds :=
        List.mem_map_of_mem (List.mem_of_mem_head? hm)
      exact absurd (hid ▸ mem_members_of_queued hqueued) h.offRecord
    | inr hd =>
      have := hw.generation_le d hd
      rw [hc.dispatchGeneration]
      omega

theorem Gone.answered (h : Gone missionId w) {d : Dispatch} (hd : d ∈ w.calls)
    (answer : Answer) (now : Time) :
    Gone missionId ⟨assignResponseCallback d answer now w.node, w.calls.erase d⟩ := by
  have hunsent : ∀ other ∈ w.calls.erase d, other.missionId = missionId →
      other.generation ≠ w.node.dispatchGeneration :=
    fun other ho => h.unsent other (List.mem_of_mem_erase ho)
  by_cases hg : d.generation = w.node.dispatchGeneration
  · have hne : d.missionId ≠ missionId := fun heq => h.unsent d hd heq hg
    cases ha : answer.accepts with
    | true =>
      have hc := assignResponse_accepted hg ha now
      refine h.congr ?_ (ledger_answered d answer now w.node) hc.missionCounter
        (hc.dispatchGeneration ▸ hunsent)
      rw [members_accepted hc.missionQueue hc.activeMissions]
      intro other ho
      rcases List.mem_append.mp ho with ho | ho
      · exact Or.inl (mem_members_of_queued (List.mem_filter.mp ho).1)
      rcases List.mem_cons.mp ho with rfl | ho
      · exact Or.inr hne
      · exact Or.inl (mem_members_of_active ((kerase_ids_sublist w.node d.robotId).subset ho))
    | false =>
      have hc := assignResponse_refused hg ha now
      refine h.congr ?_ (ledger_answered d answer now w.node) hc.missionCounter
        (hc.dispatchGeneration ▸ hunsent)
      rw [members_congr hc.missionQueue hc.activeMissions]
      exact fun other ho => Or.inl ho
  · rw [assignResponse_stale hg]
    exact ⟨h.issued, h.offRecord, h.unretried, hunsent⟩

end

theorem gone_step {cfg : Config} {missionId : String} {w v : World} {e : Event} (hw : w.Inv)
    (h : Gone missionId w) (hs : StepCase cfg w e v) : Gone missionId v := by
  cases hs with
  | moves hm => exact h.moves hm
  | cleared now ready ht => exact h.cleared hw ht
  | sent now ready ht _ hm _ => exact (h.cleared hw ht).sent (hw.cleared ht) hm _ now
  | answered answer now hd => exact h.answered hd answer now

theorem gone_stays {cfg : Config} {startedAt : Time} {missionId : String} {w : World}
    (hw : w.Inv) (h : Gone missionId w) : StaysCancelled cfg startedAt missionId w := by
  intro es u hrun
  have hu : u.Inv ∧ Gone missionId u := by
    refine Machine.runFrom_invariant (P := fun w => w.Inv ∧ Gone missionId w) ?_ ⟨hw, h⟩ hrun
    intro s e t hs hstep
    have hcase := step_cases (w := s) (e := e) hstep
    exact ⟨inv_step hs.1 hcase, gone_step hs.1 hs.2 hcase⟩
  exact ⟨hu.2.offRecord, hu.2.unretried⟩

/-- What a cancel that succeeds does. -/
theorem cancel_succeeds {missionId : String} {now : Time} {s : State}
    (h : (handleCancelMission missionId now s).1.success = true) :
    missionId ∈ s.queueIds ∧
    (missionId :: (handleCancelMission missionId now s).2.members).Perm s.members ∧
    (handleCancelMission missionId now s).2.dispatchGeneration = s.dispatchGeneration ∧
    (handleCancelMission missionId now s).2.ledger.links = s.ledger.links := by
  unfold handleCancelMission at h ⊢
  split at h
  · simp at h
  rename_i hid
  rw [if_neg hid]
  split at h
  · rename_i hany
    rw [if_pos hany]
    have hperm := map_eraseP_perm hany
    exact ⟨hperm.subset List.mem_cons_self, hperm.append_right s.activeIds, rfl, rfl⟩
  · simp at h

theorem gone_of_cancel {w : World} (hw : w.Inv) {missionId : String} {now : Time}
    (hok : (handleCancelMission missionId now w.node).1.success = true)
    (hfree : ∀ d ∈ w.calls, d.missionId = missionId →
      d.generation ≠ w.node.dispatchGeneration) :
    Gone missionId ⟨(handleCancelMission missionId now w.node).2, w.calls⟩ := by
  obtain ⟨hqueued, hperm, hg, hl⟩ := cancel_succeeds hok
  have hmem := mem_members_of_queued hqueued
  have hparts : Parts {} none _ _ := parts_cancelMission missionId now w.node
  have hcounter := hparts.moves.counter
  refine ⟨(Ledger.Tracks.names_issued hw.tracks missionId hmem).mono hcounter, ?_, ?_, ?_⟩
  · have hnodup := hperm.nodup_iff.mpr (Ledger.Tracks.names_nodup hw.tracks)
    exact (List.nodup_cons.mp hnodup).1
  · intro link hlink heq
    exact hw.retired link (hl ▸ hlink) (heq ▸ hmem)
  · exact fun d hd hid => hg ▸ hfree d hd hid

theorem accepted_returns {s : State} {d : Dispatch}
    (hg : d.generation = s.dispatchGeneration) {answer : Answer}
    (ha : answer.accepts = true) (now : Time) :
    d.missionId ∈ (assignResponseCallback d answer now s).members := by
  have hc := assignResponse_accepted hg ha now
  rw [members_accepted hc.missionQueue hc.activeMissions]
  simp

theorem cancel_final_iff {cfg : Config} {startedAt : Time} {w v : World} {missionId : String}
    {now : Time} (h : (machine cfg startedAt).Reachable w)
    (hok : (handleCancelMission missionId now w.node).1.success = true)
    (hstep : (machine cfg startedAt).step w (.cancelMission missionId now) = some v) :
    StaysCancelled cfg startedAt missionId v ↔
      ∀ d ∈ w.calls, d.missionId = missionId → d.generation ≠ w.node.dispatchGeneration := by
  have hw := reachable_inv h
  have hv := reachable_inv (h.step hstep)
  cases hstep
  constructor
  · intro hstays d hd hid hg
    obtain ⟨_, _, hgen, _⟩ := cancel_succeeds hok
    set cancelled := (handleCancelMission missionId now w.node).2
    have hrun : (machine cfg startedAt).runFrom ⟨cancelled, w.calls⟩
        [.assignResponse d (.response ⟨true, ""⟩) now] =
          some ⟨assignResponseCallback d (.response ⟨true, ""⟩) now cancelled,
            w.calls.erase d⟩ := by
      simp [machine, World.step, hd]
    have haccepts : (Answer.response ⟨true, ""⟩).accepts = true := rfl
    have hback := accepted_returns (hg.trans hgen.symm) haccepts now
    exact (hstays _ _ hrun).1 (hid ▸ hback)
  · intro hfree
    exact gone_stays hv (gone_of_cancel hw hok hfree)

/-- The dispatch of the first mission is in flight while the second one waits. -/
def inFlightRun : List Event :=
  [.systemReady true,
    .dispatchPatrol (seconds 1),
    .dispatchPatrol (seconds 1),
    .fleetState ⟨seconds 2, [⟨"robot1", true, false, RobotHeartbeat.stateIdle, 90, true, "",
      seconds 2⟩]⟩ (seconds 2) [],
    .processQueue (seconds 3) true]

def inFlightWorld : World := ((machine {} 0).run inFlightRun).get (by decide)

def inFlightDispatch : Dispatch := ⟨"mission-1", "patrol", 0, {}, false, 0, "robot1", 1⟩

def cancelled (missionId : String) : World :=
  ⟨(handleCancelMission missionId (seconds 4) inFlightWorld.node).2, inFlightWorld.calls⟩

theorem cancel_final_waiting : StaysCancelled {} 0 "mission-2" (cancelled "mission-2") :=
  (cancel_final_iff ((machine {} 0).reachable_get _)
    (by decide : (handleCancelMission "mission-2" (seconds 4) inFlightWorld.node).1.success = true)
    rfl).mpr (by decide)

theorem cancel_not_final : ¬ ∀ w v missionId now, (machine {} 0).Reachable w →
    (handleCancelMission missionId now w.node).1.success = true →
    (machine {} 0).step w (.cancelMission missionId now) = some v →
    StaysCancelled {} 0 missionId v := by
  intro h
  have hstays := h inFlightWorld (cancelled "mission-1") "mission-1" (seconds 4)
    ((machine {} 0).reachable_get _) (by decide) rfl
  have hback := hstays [.assignResponse inFlightDispatch (.response ⟨true, "Mission started"⟩)
    (seconds 5)] _ rfl
  revert hback
  decide

end PatrolFleet.Scheduler
