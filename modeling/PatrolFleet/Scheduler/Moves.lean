import PatrolFleet.Scheduler.System

/-!
What the callbacks do to the missions on record. While `reconcile` works on its
list of failed missions, these are neither in the queue nor on a robot: the list
`hand` holds the missions that a callback has taken off and not yet put back.
-/

set_option autoImplicit false

namespace PatrolFleet.Scheduler

def State.Tracks (s : State) (hand : List String) : Prop :=
  s.ledger.Tracks (Issued s.missionCounter) (hand ++ s.members)

/-- A mission that was re-queued is off the record itself. -/
def State.Retired (s : State) (hand : List String) : Prop :=
  ∀ link ∈ s.ledger.links, link.1 ∉ hand ++ s.members

/-- A mission that may be on its way to a robot: it is on no robot yet, it was
not re-queued, and the queue holds nothing of its lineage but itself. -/
structure State.Secludes (s : State) (hand : List String) (missionId : String) : Prop where
  issued : Issued s.missionCounter missionId
  offRobots : ∀ other ∈ hand ++ s.activeIds, s.lineage other ≠ s.lineage missionId
  queued : ∀ other ∈ s.queueIds, s.lineage other = s.lineage missionId → other = missionId
  unretried : ∀ link ∈ s.ledger.links, link.1 ≠ missionId

/-- The change that a part of a callback makes when it leaves the dispatch slot
alone. Reflexive and transitive, so that a callback is the chain of its parts. -/
structure Moves (s : State) (hand : List String) (t : State) (left : List String) : Prop where
  counter : s.missionCounter ≤ t.missionCounter
  generation : t.dispatchGeneration = s.dispatchGeneration
  inProgress : t.dispatchInProgress = s.dispatchInProgress
  tracks : s.Tracks hand → t.Tracks left
  secludes : s.Tracks hand → ∀ missionId, s.Secludes hand missionId → t.Secludes left missionId
  conserved : s.Tracks hand → s.ledger.Conserved (hand ++ s.members) →
    t.ledger.Conserved (left ++ t.members)
  retired : s.Tracks hand → s.Retired hand → t.Retired left
  arrivals : ∀ missionId ∈ left ++ t.members,
    missionId ∈ hand ++ s.members ∨ ¬ Issued s.missionCounter missionId
  retried : ∀ link ∈ t.ledger.links, link ∈ s.ledger.links ∨ link.1 ∈ hand ++ s.members ∨
    ¬ Issued s.missionCounter link.1
  records : ∀ mission ∈ t.missionQueue,
    mission ∈ s.missionQueue ∨ ¬ Issued s.missionCounter mission.missionId
  slots : t.slotHistory = s.slotHistory

theorem Moves.refl (s : State) (hand : List String) : Moves s hand s hand :=
  ⟨Nat.le_refl _, rfl, rfl, id, fun _ _ => id, fun _ => id, fun _ => id, fun _ => Or.inl,
    fun _ => Or.inl, fun _ => Or.inl, rfl⟩

theorem Moves.trans {s t u : State} {hand mid left : List String} (h : Moves s hand t mid)
    (k : Moves t mid u left) : Moves s hand u left where
  counter := Nat.le_trans h.counter k.counter
  generation := k.generation.trans h.generation
  inProgress := k.inProgress.trans h.inProgress
  tracks ht := k.tracks (h.tracks ht)
  secludes ht missionId hs := k.secludes (h.tracks ht) missionId (h.secludes ht missionId hs)
  conserved ht hc := k.conserved (h.tracks ht) (h.conserved ht hc)
  retired ht hr := k.retired (h.tracks ht) (h.retired ht hr)
  arrivals missionId hm := by
    rcases k.arrivals missionId hm with hmid | hnew
    · exact h.arrivals missionId hmid
    · exact Or.inr fun hi => hnew (hi.mono h.counter)
  retried link hl := by
    rcases k.retried link hl with hmid | hmid | hnew
    · exact h.retried link hmid
    · rcases h.arrivals link.1 hmid with hold | hnew
      · exact Or.inr (Or.inl hold)
      · exact Or.inr (Or.inr hnew)
    · exact Or.inr (Or.inr fun hi => hnew (hi.mono h.counter))
  records mission hm := by
    cases k.records mission hm with
    | inl hmid => exact h.records mission hmid
    | inr hnew => exact Or.inr fun hi => hnew (hi.mono h.counter)
  slots := k.slots.trans h.slots

theorem Moves.rearrange {s t : State} {hand left : List String}
    (hqueue : t.missionQueue = s.missionQueue)
    (hr : (left ++ t.activeIds).Perm (hand ++ s.activeIds))
    (hl : t.ledger = s.ledger) (hc : t.missionCounter = s.missionCounter)
    (hg : t.dispatchGeneration = s.dispatchGeneration)
    (hp : t.dispatchInProgress = s.dispatchInProgress) (hslots : t.slotHistory = s.slotHistory) :
    Moves s hand t left := by
  have hq : t.queueIds = s.queueIds := by simp [State.queueIds, hqueue]
  have hm : (left ++ t.members).Perm (hand ++ s.members) := by
    unfold State.members
    rw [hq]
    calc left ++ (s.queueIds ++ t.activeIds)
        _ = left ++ s.queueIds ++ t.activeIds := (List.append_assoc _ _ _).symm
        _ |>.Perm (s.queueIds ++ left ++ t.activeIds) := List.perm_append_comm.append_right _
        _ = s.queueIds ++ (left ++ t.activeIds) := List.append_assoc _ _ _
        _ |>.Perm (s.queueIds ++ (hand ++ s.activeIds)) := hr.append_left _
        _ = s.queueIds ++ hand ++ s.activeIds := (List.append_assoc _ _ _).symm
        _ |>.Perm (hand ++ s.queueIds ++ s.activeIds) := List.perm_append_comm.append_right _
        _ = hand ++ (s.queueIds ++ s.activeIds) := List.append_assoc _ _ _
  refine ⟨hc.ge, hg, hp, ?_, ?_, ?_, ?_, ?_, ?_, ?_, hslots⟩
  · intro ht
    unfold State.Tracks
    rw [hl, hc]
    exact Ledger.Tracks.subperm ht hm.subperm
  · intro _ missionId hs
    refine ⟨hc ▸ hs.issued, ?_, ?_, hl ▸ hs.unretried⟩ <;> unfold State.lineage <;> rw [hl]
    · exact fun other ho => hs.offRobots other (hr.subset ho)
    · exact fun other ho => hs.queued other (hq ▸ ho)
  · intro _ hk
    rw [hl]
    exact hk.mono hm.symm.subset
  · exact fun _ hret link hk hmem => hret link (hl ▸ hk) (hm.subset hmem)
  · exact fun missionId hi => Or.inl (hm.subset hi)
  · exact fun link hk => Or.inl (hl ▸ hk)
  · exact fun mission hmission => Or.inl (hqueue ▸ hmission)

theorem Moves.quiet {s t : State} (hand : List String)
    (hqueue : t.missionQueue = s.missionQueue)
    (ha : t.activeIds = s.activeIds) (hl : t.ledger = s.ledger)
    (hc : t.missionCounter = s.missionCounter)
    (hg : t.dispatchGeneration = s.dispatchGeneration)
    (hp : t.dispatchInProgress = s.dispatchInProgress) (hslots : t.slotHistory = s.slotHistory) :
    Moves s hand t hand :=
  Moves.rearrange hqueue (by rw [ha]) hl hc hg hp hslots

theorem Moves.close {s t : State} {hand left : List String} {missionId : String}
    (hm : (missionId :: (left ++ t.members)).Perm (hand ++ s.members))
    (hqueue : t.missionQueue ⊆ s.missionQueue) (hr : left ++ t.activeIds ⊆ hand ++ s.activeIds)
    (hl : t.ledger = s.ledger.close missionId) (hc : t.missionCounter = s.missionCounter)
    (hg : t.dispatchGeneration = s.dispatchGeneration)
    (hp : t.dispatchInProgress = s.dispatchInProgress) (hslots : t.slotHistory = s.slotHistory) :
    Moves s hand t left := by
  have hq : t.queueIds ⊆ s.queueIds := List.map_subset _ hqueue
  have hsub : left ++ t.members ⊆ hand ++ s.members :=
    fun other ho => hm.subset (List.mem_cons_of_mem _ ho)
  have hlinks : t.ledger.links = s.ledger.links := by rw [hl]; rfl
  refine ⟨hc.ge, hg, hp, ?_, ?_, ?_, ?_, ?_, ?_, ?_, hslots⟩
  · intro ht
    have hi : Issued s.missionCounter missionId :=
      Ledger.Tracks.names_issued ht missionId (hm.subset List.mem_cons_self)
    unfold State.Tracks
    rw [hl, hc]
    refine Ledger.Tracks.subperm (Ledger.Tracks.close ht hi) ?_
    exact (List.sublist_cons_self missionId _).subperm.trans hm.subperm
  · intro _ other hs
    refine ⟨hc ▸ hs.issued, ?_, ?_, hlinks ▸ hs.unretried⟩ <;> unfold State.lineage <;> rw [hl]
    · exact fun name hn => hs.offRobots name (hr hn)
    · exact fun name hn => hs.queued name (hq hn)
  · intro _ hk
    rw [hl]
    exact Ledger.Conserved.close (hk.mono hm.symm.subset)
  · exact fun _ hret link hk hmem => hret link (hlinks ▸ hk) (hsub hmem)
  · exact fun other ho => Or.inl (hsub ho)
  · exact fun link hk => Or.inl (hlinks ▸ hk)
  · exact fun mission hmission => Or.inl (hqueue hmission)

theorem queueIds_cons {s t : State} {mission : QueuedMission} {missionId : String}
    (hqueue : t.missionQueue.Perm (mission :: s.missionQueue))
    (hid : mission.missionId = missionId) : t.queueIds.Perm (missionId :: s.queueIds) :=
  hid ▸ hqueue.map fun mission : QueuedMission => mission.missionId

theorem records_cons {s t : State} {mission : QueuedMission}
    (hqueue : t.missionQueue.Perm (mission :: s.missionQueue))
    (hid : mission.missionId = missionIdOf (s.missionCounter + 1)) :
    ∀ other ∈ t.missionQueue,
      other ∈ s.missionQueue ∨ ¬ Issued s.missionCounter other.missionId := by
  intro other ho
  cases List.mem_cons.mp (hqueue.subset ho) with
  | inl heq => exact Or.inr (by rw [heq, hid]; exact not_issued_fresh s.missionCounter)
  | inr hold => exact Or.inl hold

theorem members_cons {s t : State} {missionId : String} (hand : List String)
    (hq : t.queueIds.Perm (missionId :: s.queueIds)) (ha : t.activeIds = s.activeIds) :
    (hand ++ t.members).Perm (missionId :: (hand ++ s.members)) := by
  unfold State.members
  rw [ha]
  refine List.Perm.trans ((hq.append_right s.activeIds).append_left hand) ?_
  exact List.perm_middle

/-- A mission that is put back under a fresh id shares its lineage with no mission that
is kept apart from it. -/
theorem secludes_retry {s t : State} {left : List String} {missionId other : String}
    (hq : t.queueIds ⊆ missionIdOf (s.missionCounter + 1) :: s.queueIds)
    (ha : t.activeIds = s.activeIds)
    (hl : t.ledger = s.ledger.retry missionId (missionIdOf (s.missionCounter + 1)))
    (hc : t.missionCounter = s.missionCounter + 1) (ht : s.Tracks (missionId :: left))
    (hs : s.Secludes (missionId :: left) other) : t.Secludes left other := by
  have hsame : ∀ name, Issued s.missionCounter name → t.lineage name = s.lineage name := by
    intro name hn
    unfold State.lineage
    rw [hl]
    exact s.ledger.origin_retry_issued missionId (not_issued_fresh s.missionCounter) hn
  have hmember : ∀ name ∈ left ++ s.members, Issued s.missionCounter name := fun name hn =>
    Ledger.Tracks.names_issued ht name (List.mem_cons_of_mem _ hn)
  refine ⟨hc ▸ hs.issued.mono (Nat.le_succ _), ?_, ?_, ?_⟩
  · intro name hn
    rw [ha] at hn
    have hn' : name ∈ left ++ s.members := by
      rcases List.mem_append.mp hn with hl | hr
      · exact List.mem_append_left _ hl
      · exact List.mem_append_right _ (List.mem_append_right _ hr)
    rw [hsame name (hmember name hn'), hsame other hs.issued]
    exact hs.offRobots name (List.mem_cons_of_mem _ hn)
  · intro name hn heq
    rw [hsame other hs.issued] at heq
    rcases List.mem_cons.mp (hq hn) with rfl | hn
    · have hchild : t.lineage (missionIdOf (s.missionCounter + 1)) = s.lineage missionId := by
        unfold State.lineage
        rw [hl]
        exact s.ledger.origin_retry_child missionId _
      rw [hchild] at heq
      exact absurd heq (hs.offRobots missionId List.mem_cons_self)
    · have hn' : name ∈ left ++ s.members :=
        List.mem_append_right _ (List.mem_append_left _ hn)
      rw [hsame name (hmember name hn')] at heq
      exact hs.queued name hn heq
  · intro link hk
    rw [hl] at hk
    rcases List.mem_cons.mp hk with rfl | hk
    · rintro rfl
      exact hs.offRobots _ List.mem_cons_self rfl
    · exact hs.unretried link hk

theorem Moves.submit {s t : State} (hand : List String) {mission : QueuedMission}
    (hqueue : t.missionQueue.Perm (mission :: s.missionQueue))
    (hid : mission.missionId = missionIdOf (s.missionCounter + 1))
    (ha : t.activeIds = s.activeIds)
    (hl : t.ledger = s.ledger.submit (missionIdOf (s.missionCounter + 1)))
    (hc : t.missionCounter = s.missionCounter + 1)
    (hg : t.dispatchGeneration = s.dispatchGeneration)
    (hp : t.dispatchInProgress = s.dispatchInProgress) (hslots : t.slotHistory = s.slotHistory) :
    Moves s hand t hand := by
  have hq := queueIds_cons hqueue hid
  have hf := not_issued_fresh s.missionCounter
  have hi : ∀ name, Issued s.missionCounter name → Issued (s.missionCounter + 1) name :=
    fun name hn => hn.mono (Nat.le_succ _)
  have hm := members_cons hand hq ha
  have hlinks : t.ledger.links = s.ledger.links := by rw [hl]; rfl
  refine ⟨by omega, hg, hp, ?_, ?_, ?_, ?_, ?_, ?_, ?_, hslots⟩
  · intro ht
    unfold State.Tracks
    rw [hl, hc]
    exact Ledger.Tracks.subperm (Ledger.Tracks.submit ht hi (issued_fresh _) hf) hm.subperm
  · intro ht missionId hs
    refine ⟨hc ▸ hi _ hs.issued, ?_, ?_, hlinks ▸ hs.unretried⟩ <;>
      unfold State.lineage <;> rw [hl]
    · rw [ha]
      exact hs.offRobots
    · intro other ho heq
      rcases List.mem_cons.mp (hq.subset ho) with rfl | ho
      · have horigin : s.ledger.origin (missionIdOf (s.missionCounter + 1)) = _ :=
          Ledger.Tracks.origin_fresh ht hf
        have hissued := Ledger.Tracks.origin_issued ht hs.issued
        rw [Ledger.origin_submit, Ledger.origin_submit, horigin] at heq
        exact absurd (heq ▸ hissued) hf
      · exact hs.queued other ho heq
  · intro ht hk
    rw [hl]
    have horigin := Ledger.Tracks.origin_fresh ht hf
    exact (Ledger.Conserved.submit hk horigin).mono hm.symm.subset
  · intro ht hret link hk hmem
    rw [hlinks] at hk
    rcases List.mem_cons.mp (hm.subset hmem) with heq | hmem
    · exact hf (heq ▸ Ledger.Tracks.parent_issued ht link hk)
    · exact hret link hk hmem
  · intro other ho
    rcases List.mem_cons.mp (hm.subset ho) with rfl | ho
    · exact Or.inr hf
    · exact Or.inl ho
  · exact fun link hk => Or.inl (hlinks ▸ hk)
  · exact records_cons hqueue hid

theorem Moves.retry {s t : State} {left : List String} {missionId : String}
    {mission : QueuedMission} (hqueue : t.missionQueue.Perm (mission :: s.missionQueue))
    (hid : mission.missionId = missionIdOf (s.missionCounter + 1))
    (ha : t.activeIds = s.activeIds)
    (hl : t.ledger = s.ledger.retry missionId (missionIdOf (s.missionCounter + 1)))
    (hc : t.missionCounter = s.missionCounter + 1)
    (hg : t.dispatchGeneration = s.dispatchGeneration)
    (hp : t.dispatchInProgress = s.dispatchInProgress) (hslots : t.slotHistory = s.slotHistory) :
    Moves s (missionId :: left) t left := by
  have hq := queueIds_cons hqueue hid
  have hf := not_issued_fresh s.missionCounter
  have hi : ∀ name, Issued s.missionCounter name → Issued (s.missionCounter + 1) name :=
    fun name hn => hn.mono (Nat.le_succ _)
  have hm := members_cons left hq ha
  refine ⟨by omega, hg, hp, ?_, ?_, ?_, ?_, ?_, ?_, ?_, hslots⟩
  · intro ht
    unfold State.Tracks
    rw [hl, hc]
    exact Ledger.Tracks.subperm (Ledger.Tracks.retry ht hi (issued_fresh _) hf) hm.subperm
  · exact fun ht other hs => secludes_retry hq.subset ha hl hc ht hs
  · intro ht hk
    rw [hl]
    exact (Ledger.Conserved.retry hk ht hf).mono hm.symm.subset
  · intro ht hret link hk hmem
    rw [hl] at hk
    have hnodup := List.nodup_cons.mp (Ledger.Tracks.names_nodup ht)
    rcases List.mem_cons.mp hk with rfl | hk
    · rcases List.mem_cons.mp (hm.subset hmem) with heq | hmem
      · exact hf (heq ▸ Ledger.Tracks.names_issued ht missionId List.mem_cons_self)
      · exact hnodup.1 hmem
    · rcases List.mem_cons.mp (hm.subset hmem) with heq | hmem
      · exact hf (heq ▸ Ledger.Tracks.parent_issued ht link hk)
      · exact hret link hk (List.mem_cons_of_mem _ hmem)
  · intro other ho
    rcases List.mem_cons.mp (hm.subset ho) with rfl | ho
    · exact Or.inr hf
    · exact Or.inl (List.mem_cons_of_mem _ ho)
  · intro link hk
    rw [hl] at hk
    rcases List.mem_cons.mp hk with rfl | hk
    · exact Or.inr (Or.inl List.mem_cons_self)
    · exact Or.inl hk
  · exact records_cons hqueue hid

end PatrolFleet.Scheduler
