import PatrolFleet.Scheduler.Payload

/-!
A mission of which no dispatch is accepted waits in the queue until it is cancelled.
-/

set_option autoImplicit false

namespace PatrolFleet.Scheduler

/-- The mission is queued and on no robot, or it was cancelled. -/
structure World.Unaccepted (w : World) (missionId : String) : Prop where
  issued : Issued w.node.missionCounter missionId
  inactive : missionId ∉ w.node.activeIds
  waits : missionId ∈ w.node.queueIds ∨ .cancelled missionId ∈ w.node.history

/-- The same while a callback has taken entries off the active missions. -/
structure UnacceptedAt (missionId : String) (p : State × List Entry) : Prop where
  inactive : missionId ∉ p.1.activeIds ++ entryIds p.2
  waits : missionId ∈ p.1.queueIds ∨ .cancelled missionId ∈ p.1.history

section

variable {cfg : Config} {missionId : String} {w v : World} {e : Event}

theorem UnacceptedAt.edits {s t : State} {hand hand' : List Entry} {active : UnorderedMap String _}
    {queue : List QueuedMission} {ids : Nat} {new : List Happening}
    (h : UnacceptedAt missionId (s, hand)) (hedits : Edits s t queue active ids new)
    (hqueue : missionId ∈ s.queueIds → missionId ∈ queue.map (·.missionId))
    (hactive : t.activeIds ++ entryIds hand' ⊆ s.activeIds ++ entryIds hand) :
    UnacceptedAt missionId (t, hand') where
  inactive hmem := h.inactive (hactive hmem)
  waits := by
    rcases h.waits with hqueued | hcancelled
    · left
      rw [State.queueIds, hedits.missionQueue]
      exact hqueue hqueued
    · right
      rw [hedits.history]
      exact List.mem_append_right _ hcancelled

theorem queueIds_enlarged {s : State} {payload : Payload} {attemptCount : Nat}
    (h : missionId ∈ s.queueIds) :
    missionId ∈ (s.enlarged payload attemptCount).map (·.missionId) := by
  have hperm := (enlarged_perm s payload attemptCount).map (·.missionId)
  exact hperm.symm.subset (List.mem_cons_of_mem _ h)

theorem entryIds_tail {s t : State} {queue : List QueuedMission} {ids : Nat}
    {new : List Happening} (hedits : Edits s t queue s.activeMissions ids new) (e : Entry)
    (hand : List Entry) :
    t.activeIds ++ entryIds hand ⊆ s.activeIds ++ entryIds (e :: hand) := by
  rw [hedits.activeIds]
  intro id hid
  rcases List.mem_append.mp hid with hid | hid
  · exact List.mem_append_left _ hid
  · exact List.mem_append_right _ (List.mem_cons_of_mem _ hid)

theorem entryIds_taken {s t : State} {verdict : String → ActiveMission → Verdict}
    {visit : List Entry} (hvisit : s.activeMissions.VisitOrder visit)
    (hedits : Edits s t s.missionQueue
      (s.activeMissions.filterMapVal fun r a => (verdict r a).apply a) 0 []) :
    t.activeIds ++ entryIds ((visit.filter fun e => verdict e.1 e.2 = .complete) ++
      visit.filter fun e => verdict e.1 e.2 = .fail) ⊆ s.activeIds ++ entryIds [] := by
  have hc : (entryIds (visit.filter fun e => verdict e.1 e.2 = .complete)).Perm
      (entryIds (s.activeMissions.entries.filter fun e => verdict e.1 e.2 = .complete)) :=
    (List.Perm.filter _ hvisit).map _
  have hf : (entryIds (visit.filter fun e => verdict e.1 e.2 = .fail)).Perm
      (entryIds (s.activeMissions.entries.filter fun e => verdict e.1 e.2 = .fail)) :=
    (List.Perm.filter _ hvisit).map _
  have hperm := (hc.append (hf.append_right _)).trans
    (entryIds_judged verdict s.activeMissions.entries)
  intro id hid
  have hmem : id ∈ entryIds (s.activeMissions.entries.filterMap fun e =>
      ((verdict e.1 e.2).apply e.2).map (Sigma.mk e.1)) ++
        (entryIds (visit.filter fun e => verdict e.1 e.2 = .complete) ++
          entryIds (visit.filter fun e => verdict e.1 e.2 = .fail)) := by
    rw [State.activeIds, hedits.activeMissions] at hid
    rw [entryIds, entryIds, entryIds, ← List.map_append]
    exact hid
  refine List.mem_append_left _ (hperm.subset ?_)
  simp only [List.mem_append] at hmem ⊢
  tauto

theorem unacceptedAt_part {asked : Option (String × Payload)} {p q : State × List Entry}
    (hpart : Part cfg asked p q) (h : UnacceptedAt missionId p) : UnacceptedAt missionId q := by
  cases hpart with
  | quiet hand hedits =>
    exact h.edits hedits (fun hq => hq) (by rw [hedits.activeIds]; exact List.Subset.refl _)
  | taken verdict hvisit hedits =>
    exact h.edits hedits (fun hq => hq) (entryIds_taken hvisit hedits)
  | completed e hand hedits => exact h.edits hedits (fun hq => hq) (entryIds_tail hedits e hand)
  | dropped e hand hedits => exact h.edits hedits (fun hq => hq) (entryIds_tail hedits e hand)
  | requeued e hand _ hedits => exact h.edits hedits queueIds_enlarged (entryIds_tail hedits e hand)
  | enqueued _ hedits =>
    exact h.edits hedits queueIds_enlarged (by rw [hedits.activeIds]; exact List.Subset.refl _)
  | @cancelled s t cancelledId hany hedits =>
    by_cases hid : missionId = cancelledId
    · subst hid
      refine ⟨?_, .inr ?_⟩
      · have hactive : t.activeIds = s.activeIds := hedits.activeIds
        rw [hactive]
        exact h.inactive
      · rw [hedits.history]
        exact List.mem_cons_self
    · refine h.edits hedits (fun hq => ?_) (by rw [hedits.activeIds]; exact List.Subset.refl _)
      have hperm := map_eraseP_perm hany
      exact (List.mem_cons.mp (hperm.symm.subset hq)).resolve_left hid

theorem unacceptedAt_parts {asked : Option (String × Payload)} {p q : State × List Entry}
    (hparts : Parts cfg asked p q) (h : UnacceptedAt missionId p) : UnacceptedAt missionId q := by
  induction hparts with
  | refl => exact h
  | tail _ hpart ih => exact unacceptedAt_part hpart ih

theorem World.Unaccepted.congr (h : w.Unaccepted missionId) {t : State} {calls : List Dispatch}
    {queue : List QueuedMission} {active : UnorderedMap String ActiveMission}
    {happening : Happening} {generation : Nat} {inProgress : Bool}
    (hchange : SlotChange w.node t queue active happening generation inProgress)
    (hqueue : missionId ∈ w.node.queueIds → missionId ∈ t.queueIds)
    (hactive : missionId ∉ t.activeIds) : World.Unaccepted ⟨t, calls⟩ missionId where
  issued := hchange.missionCounter ▸ h.issued
  inactive := hactive
  waits := by
    rcases h.waits with hqueued | hcancelled
    · exact .inl (hqueue hqueued)
    · right
      rw [hchange.history]
      exact List.mem_cons_of_mem _ hcancelled

theorem World.Unaccepted.cleared (h : w.Unaccepted missionId) {now : Time} {t : State}
    (ht : Cleared cfg now w.node t) : World.Unaccepted ⟨t, w.calls⟩ missionId := by
  cases ht with
  | same => exact h
  | overdue =>
    have hr := reclaim_change w.node
    refine h.congr hr (fun hq => ?_) ?_
    · rw [State.queueIds, hr.missionQueue]
      exact hq
    · rw [State.activeIds, hr.activeMissions]
      exact h.inactive

theorem World.Unaccepted.answered (h : w.Unaccepted missionId) {d : Dispatch} {answer : Answer}
    (hanswer : d.missionId = missionId → answer.accepts = false) (now : Time) :
    World.Unaccepted ⟨assignResponseCallback d answer now w.node, w.calls.erase d⟩ missionId := by
  by_cases hg : d.generation = w.node.dispatchGeneration
  · cases ha : answer.accepts with
    | true =>
      have hc := assignResponse_accepted hg ha now
      have hne : missionId ≠ d.missionId := fun heq => by
        simp [hanswer heq.symm] at ha
      refine h.congr hc (fun hq => ?_) ?_
      · obtain ⟨mission, hm, rfl⟩ := List.mem_map.mp hq
        rw [State.queueIds, hc.missionQueue]
        exact List.mem_map_of_mem (List.mem_filter.mpr ⟨hm, by simpa using hne⟩)
      · rw [State.activeIds, hc.activeMissions, AList.entries_insert, List.map_cons,
          List.mem_cons, not_or]
        exact ⟨hne, fun hkept => h.inactive ((kerase_ids_sublist w.node d.robotId).subset hkept)⟩
    | false =>
      have hc := assignResponse_refused hg ha now
      refine h.congr hc (fun hq => ?_) ?_
      · rw [State.queueIds, hc.missionQueue]
        exact hq
      · rw [State.activeIds, hc.activeMissions]
        exact h.inactive
  · rw [assignResponse_stale hg]
    exact ⟨h.issued, h.inactive, h.waits⟩

theorem unaccepted_step (h : w.Unaccepted missionId) (hturn : Turn cfg w e v)
    (hanswer : ∀ d answer now, e = .assignResponse d answer now → d.missionId = missionId →
      answer.accepts = false) : v.Unaccepted missionId := by
  cases hturn with
  | @parts e node hparts =>
    have hstart : UnacceptedAt missionId (w.node, []) :=
      ⟨by simpa [entryIds] using h.inactive, h.waits⟩
    have hend : UnacceptedAt missionId (node, []) := unacceptedAt_parts hparts hstart
    have hcounter := (Parts.moves hparts).counter
    exact ⟨h.issued.mono hcounter, by simpa [entryIds] using hend.inactive, hend.waits⟩
  | cleared now ready ht => exact h.cleared ht
  | sent now ready ht _ _ hm _ =>
    have hcleared := h.cleared ht
    exact ⟨hcleared.issued, hcleared.inactive, hcleared.waits.imp id (List.mem_cons_of_mem _)⟩
  | answered answer now hd =>
    exact h.answered (hanswer _ answer now rfl) now

theorem unaccepted_of_queueMission (hw : w.Inv) {request : QueueMission.Request} {now : Time}
    (h : (handleQueueMission request now w.node).1.accepted = true) :
    World.Unaccepted ⟨(handleQueueMission request now w.node).2, w.calls⟩
      (handleQueueMission request now w.node).1.missionId := by
  have hcarries := carries_of_queueMission hw h
  obtain ⟨hsupported, hid, _, hqueue⟩ := queueMission_accepted h
  refine ⟨hcarries.issued, fun hactive => ?_, .inl ?_⟩
  · have hsame : (handleQueueMission request now w.node).2.activeIds = w.node.activeIds := by
      unfold handleQueueMission
      split <;> rfl
    rw [hsame, hid] at hactive
    have hissued := Ledger.Tracks.names_issued hw.tracks _ (mem_members_of_active hactive)
    exact not_issued_fresh w.node.missionCounter hissued
  · rw [hid]
    exact List.mem_map_of_mem (hqueue.symm.subset List.mem_cons_self)

end

end PatrolFleet.Scheduler
