import PatrolFleet.Scheduler.Callbacks

/-!
The invariant of the scheduler with its outstanding requests, over every order
of callbacks and responses.
-/

set_option autoImplicit false

namespace PatrolFleet.Scheduler

structure World.Inv (w : World) : Prop where
  tracks : w.node.Tracks []
  retired : w.node.Retired []
  issued : ∀ d ∈ w.calls, Issued w.node.missionCounter d.missionId
  generation_le : ∀ d ∈ w.calls, d.generation ≤ w.node.dispatchGeneration
  generations : (w.calls.map (·.generation)).Nodup
  inProgress : ∀ d ∈ w.calls, d.generation = w.node.dispatchGeneration →
    w.node.dispatchInProgress = true
  secludes : ∀ d ∈ w.calls, d.generation = w.node.dispatchGeneration →
    w.node.Secludes [] d.missionId

/-- The steps of the system, by what they do to the dispatch slot. -/
inductive StepCase (cfg : Config) (w : World) : Event → World → Prop where
  | moves {e : Event} {node : State} : Moves w.node [] node [] →
      StepCase cfg w e ⟨node, w.calls⟩
  | cleared {node : State} (now : Time) (ready : Bool) : Cleared cfg now w.node node →
      StepCase cfg w (.processQueue now ready) ⟨node, w.calls⟩
  | sent {t : State} {mission : QueuedMission} {robot : CandidateRobot} (now : Time)
      (ready : Bool) : Cleared cfg now w.node t → t.dispatchInProgress = false →
      getNextMission t = some mission → selectRobot cfg t = some robot →
      StepCase cfg w (.processQueue now ready)
        ⟨(sendDispatch mission robot now t).1, (sendDispatch mission robot now t).2 :: w.calls⟩
  | answered {d : Dispatch} (answer : Answer) (now : Time) : d ∈ w.calls →
      StepCase cfg w (.assignResponse d answer now)
        ⟨assignResponseCallback d answer now w.node, w.calls.erase d⟩

theorem step_cases {cfg : Config} {w v : World} {e : Event} (h : w.step cfg e = some v) :
    StepCase cfg w e v := by
  cases step_turn h with
  | parts hparts => exact .moves hparts.moves
  | cleared now ready ht => exact .cleared now ready ht
  | sent now ready ht hp _ hm hr => exact .sent now ready ht hp hm hr
  | answered answer now hd => exact .answered answer now hd

theorem inv_init (startedAt : Time) : World.Inv ⟨State.init startedAt, []⟩ where
  tracks := Ledger.tracks_empty _
  retired := by simp [State.Retired, State.ledger, State.init, publishQueueState, ledgerOf,
    Ledger.empty]
  issued := by simp
  generation_le := by simp
  generations := by simp
  inProgress := by simp
  secludes := by simp

theorem World.Inv.moves {w : World} {node : State} (h : w.Inv) (hm : Moves w.node [] node []) :
    World.Inv ⟨node, w.calls⟩ where
  tracks := hm.tracks h.tracks
  retired := hm.retired h.tracks h.retired
  issued d hd := (h.issued d hd).mono hm.counter
  generation_le d hd := hm.generation ▸ h.generation_le d hd
  generations := h.generations
  inProgress d hd hg := hm.inProgress.trans (h.inProgress d hd (hg.trans hm.generation))
  secludes d hd hg :=
    hm.secludes h.tracks d.missionId (h.secludes d hd (hg.trans hm.generation))

theorem members_congr {s t : State} (hq : t.missionQueue = s.missionQueue)
    (ha : t.activeMissions = s.activeMissions) : t.members = s.members := by
  simp [State.members, State.queueIds, State.activeIds, hq, ha]

theorem retired_congr {s t : State} (hq : t.missionQueue = s.missionQueue)
    (ha : t.activeMissions = s.activeMissions) (hl : t.ledger = s.ledger)
    (h : s.Retired []) : t.Retired [] := by
  unfold State.Retired at h ⊢
  rw [members_congr hq ha, hl]
  exact h

theorem tracks_congr {s t : State} (hq : t.missionQueue = s.missionQueue)
    (ha : t.activeMissions = s.activeMissions) (hc : t.missionCounter = s.missionCounter)
    (hl : t.ledger = s.ledger) (h : s.Tracks []) : t.Tracks [] := by
  unfold State.Tracks at h ⊢
  rw [members_congr hq ha, hc, hl]
  exact h

theorem World.Inv.cleared {cfg : Config} {now : Time} {w : World} {t : State} (h : w.Inv)
    (ht : Cleared cfg now w.node t) : World.Inv ⟨t, w.calls⟩ := by
  cases ht with
  | same => exact h
  | overdue =>
    have hr := reclaim_change w.node
    have hcurrent : ∀ d ∈ w.calls, d.generation ≠ (reclaim w.node).dispatchGeneration := by
      intro d hd heq
      have := h.generation_le d hd
      rw [hr.dispatchGeneration] at heq
      omega
    have hl : (reclaim w.node).ledger = w.node.ledger := hr.ledger
    refine ⟨?_, ?_, ?_, ?_, h.generations, ?_, ?_⟩
    · exact tracks_congr hr.missionQueue hr.activeMissions hr.missionCounter hl h.tracks
    · exact retired_congr hr.missionQueue hr.activeMissions hl h.retired
    · exact fun d hd => hr.missionCounter ▸ h.issued d hd
    · intro d hd
      have := h.generation_le d hd
      change d.generation ≤ (reclaim w.node).dispatchGeneration
      rw [hr.dispatchGeneration]
      omega
    · exact fun d hd heq => absurd heq (hcurrent d hd)
    · exact fun d hd heq => absurd heq (hcurrent d hd)

theorem mem_members_of_queued {s : State} {missionId : String} (h : missionId ∈ s.queueIds) :
    missionId ∈ s.members := List.mem_append_left _ h

theorem mem_members_of_active {s : State} {missionId : String} (h : missionId ∈ s.activeIds) :
    missionId ∈ s.members := List.mem_append_right _ h

theorem secludes_queued {s : State} (h : s.Tracks []) (hret : s.Retired []) {missionId : String}
    (hm : missionId ∈ s.queueIds) : s.Secludes [] missionId where
  issued := Ledger.Tracks.names_issued h missionId (mem_members_of_queued hm)
  offRobots other ho heq := by
    have hnodup : (s.queueIds.map s.lineage ++ s.activeIds.map s.lineage).Nodup := by
      rw [← List.map_append]
      exact Ledger.Tracks.lineages h
    have hdisjoint := List.disjoint_of_nodup_append hnodup
    exact hdisjoint (List.mem_map_of_mem hm) (heq ▸ List.mem_map_of_mem ho)
  queued other ho heq :=
    List.inj_on_of_nodup_map (Ledger.Tracks.lineages h) (mem_members_of_queued ho)
      (mem_members_of_queued hm) heq
  unretried link hl heq := hret link hl (heq ▸ mem_members_of_queued hm)

theorem World.Inv.sent {w : World} (h : w.Inv) {mission : QueuedMission}
    (hm : getNextMission w.node = some mission) (robot : CandidateRobot) (now : Time) :
    World.Inv ⟨(sendDispatch mission robot now w.node).1,
      (sendDispatch mission robot now w.node).2 :: w.calls⟩ := by
  have hqueued : mission.missionId ∈ w.node.queueIds :=
    List.mem_map_of_mem (List.mem_of_mem_head? hm)
  have hsec := secludes_queued h.tracks h.retired hqueued
  have hold : ∀ d ∈ w.calls, d.generation ≠ w.node.dispatchGeneration + 1 := by
    intro d hd heq
    have := h.generation_le d hd
    omega
  refine ⟨h.tracks, h.retired, ?_, ?_, ?_, ?_, ?_⟩
  · intro d hd
    rcases List.mem_cons.mp hd with rfl | hd
    · exact hsec.issued
    · exact h.issued d hd
  · intro d hd
    rcases List.mem_cons.mp hd with rfl | hd
    · exact Nat.le_refl _
    · exact Nat.le_succ_of_le (h.generation_le d hd)
  · refine List.nodup_cons.mpr ⟨?_, h.generations⟩
    intro hmem
    obtain ⟨d, hd, heq⟩ := List.mem_map.mp hmem
    exact hold d hd heq
  · exact fun _ _ _ => rfl
  · intro d hd heq
    rcases List.mem_cons.mp hd with rfl | hd
    · exact ⟨hsec.issued, hsec.offRobots, hsec.queued, hsec.unretried⟩
    · exact absurd heq (hold d hd)

theorem erase_generation_ne {calls : List Dispatch} (h : (calls.map (·.generation)).Nodup)
    {d other : Dispatch} (hd : d ∈ calls) (ho : other ∈ calls.erase d) :
    other.generation ≠ d.generation := by
  intro heq
  have hsame := List.inj_on_of_nodup_map h (List.mem_of_mem_erase ho) hd heq
  subst hsame
  exact (h.of_map _).not_mem_erase ho

theorem World.Inv.withdraw {w : World} (h : w.Inv) (d : Dispatch) :
    World.Inv ⟨w.node, w.calls.erase d⟩ where
  tracks := h.tracks
  retired := h.retired
  issued other ho := h.issued other (List.mem_of_mem_erase ho)
  generation_le other ho := h.generation_le other (List.mem_of_mem_erase ho)
  generations := h.generations.sublist ((List.erase_sublist).map _)
  inProgress other ho := h.inProgress other (List.mem_of_mem_erase ho)
  secludes other ho := h.secludes other (List.mem_of_mem_erase ho)

/-- After the answer to the request that holds the slot, no outstanding request
holds it. -/
theorem World.Inv.released {w : World} (h : w.Inv) {d : Dispatch} (hd : d ∈ w.calls)
    (hg : d.generation = w.node.dispatchGeneration) {t : State} (ht : t.Tracks [])
    (hret : t.Retired []) (hc : t.missionCounter = w.node.missionCounter)
    (hgen : t.dispatchGeneration = w.node.dispatchGeneration) :
    World.Inv ⟨t, w.calls.erase d⟩ := by
  have hw := h.withdraw d
  have hcurrent : ∀ other ∈ w.calls.erase d, other.generation ≠ t.dispatchGeneration := by
    intro other ho heq
    exact erase_generation_ne h.generations hd ho (heq.trans (hgen.trans hg.symm))
  refine ⟨ht, hret, ?_, ?_, hw.generations, ?_, ?_⟩
  · exact fun other ho => hc ▸ hw.issued other ho
  · exact fun other ho => hgen ▸ hw.generation_le other ho
  · exact fun other ho heq => absurd heq (hcurrent other ho)
  · exact fun other ho heq => absurd heq (hcurrent other ho)

section

variable {s t : State} {d : Dispatch} {now : Time}

theorem members_accepted
    (hq : t.missionQueue = s.missionQueue.filter (·.missionId ≠ d.missionId))
    (ha : t.activeMissions = s.activeMissions.insert d.robotId (d.activated now)) :
    t.members = s.queueIds.filter (· ≠ d.missionId) ++
      d.missionId :: entryIds (s.activeMissions.entries.kerase d.robotId) := by
  unfold State.members State.queueIds State.activeIds
  rw [hq, ha, AList.entries_insert, List.filter_map]
  rfl

theorem kerase_ids_sublist (s : State) (robotId : String) :
    (entryIds (s.activeMissions.entries.kerase robotId)).Sublist s.activeIds :=
  (List.kerase_sublist robotId s.activeMissions.entries).map _

theorem tracks_accepted (h : s.Tracks []) (hs : s.Secludes [] d.missionId)
    (hq : t.missionQueue = s.missionQueue.filter (·.missionId ≠ d.missionId))
    (ha : t.activeMissions = s.activeMissions.insert d.robotId (d.activated now))
    (hc : t.missionCounter = s.missionCounter) (hl : t.ledger = s.ledger) : t.Tracks [] := by
  set kept := s.queueIds.filter (· ≠ d.missionId)
  set others := entryIds (s.activeMissions.entries.kerase d.robotId)
  have hsub : (kept ++ others).Sublist s.members :=
    List.Sublist.append List.filter_sublist (kerase_ids_sublist s d.robotId)
  have hrest : s.ledger.Tracks (Issued s.missionCounter) (kept ++ others) :=
    Ledger.Tracks.subperm h hsub.subperm
  have hfresh : s.lineage d.missionId ∉ (kept ++ others).map s.lineage := by
    intro hmem
    obtain ⟨other, ho, heq⟩ := List.mem_map.mp hmem
    rcases List.mem_append.mp ho with ho | ho
    · obtain ⟨hin, hne⟩ := List.mem_filter.mp ho
      exact absurd (hs.queued other hin heq) (by simpa using hne)
    · exact hs.offRobots other ((kerase_ids_sublist s d.robotId).subset ho) heq
  unfold State.Tracks
  rw [members_accepted hq ha, hc, hl]
  have hfront : s.ledger.Tracks (Issued s.missionCounter) (d.missionId :: (kept ++ others)) := by
    refine ⟨?_, hrest.parent_issued, hrest.child_issued, hrest.closed_issued, ?_⟩
    · simp only [List.forall_mem_cons]
      exact ⟨hs.issued, hrest.names_issued⟩
    · exact List.nodup_cons.mpr ⟨hfresh, hrest.lineages⟩
  exact hfront.subperm List.perm_middle.subperm

theorem retired_accepted (h : s.Retired []) (hs : s.Secludes [] d.missionId)
    (hq : t.missionQueue = s.missionQueue.filter (·.missionId ≠ d.missionId))
    (ha : t.activeMissions = s.activeMissions.insert d.robotId (d.activated now))
    (hl : t.ledger = s.ledger) : t.Retired [] := by
  intro link hk hmem
  rw [hl] at hk
  rw [List.nil_append, members_accepted hq ha] at hmem
  rcases List.mem_append.mp hmem with hmem | hmem
  · exact h link hk (mem_members_of_queued (List.mem_filter.mp hmem).1)
  rcases List.mem_cons.mp hmem with heq | hmem
  · exact hs.unretried link hk heq
  · exact h link hk (mem_members_of_active ((kerase_ids_sublist s d.robotId).subset hmem))

end

theorem World.Inv.answered {w : World} (h : w.Inv) {d : Dispatch} (hd : d ∈ w.calls)
    (answer : Answer) (now : Time) :
    World.Inv ⟨assignResponseCallback d answer now w.node, w.calls.erase d⟩ := by
  by_cases hg : d.generation = w.node.dispatchGeneration
  · by_cases ha : answer.accepts = true
    · have hchange := assignResponse_accepted hg ha now
      have hl := ledger_answered d answer now w.node
      have hs := h.secludes d hd hg
      refine h.released hd hg ?_ ?_ hchange.missionCounter hchange.dispatchGeneration
      · exact tracks_accepted h.tracks hs hchange.missionQueue hchange.activeMissions
          hchange.missionCounter hl
      · exact retired_accepted h.retired hs hchange.missionQueue hchange.activeMissions hl
    · have hchange := assignResponse_refused hg (by simpa using ha) now
      have hl := ledger_answered d answer now w.node
      refine h.released hd hg ?_ ?_ hchange.missionCounter hchange.dispatchGeneration
      · exact tracks_congr hchange.missionQueue hchange.activeMissions hchange.missionCounter hl
          h.tracks
      · exact retired_congr hchange.missionQueue hchange.activeMissions hl h.retired
  · rw [assignResponse_stale hg]
    exact h.withdraw d

theorem inv_step {cfg : Config} {w v : World} {e : Event} (h : w.Inv)
    (hs : StepCase cfg w e v) : v.Inv := by
  cases hs with
  | moves hm => exact h.moves hm
  | cleared now ready ht => exact h.cleared ht
  | sent now ready ht _ hm _ => exact (h.cleared ht).sent hm _ now
  | answered answer now hd => exact h.answered hd answer now

theorem reachable_inv {cfg : Config} {startedAt : Time} {w : World}
    (h : (machine cfg startedAt).Reachable w) : w.Inv :=
  Machine.Reachable.invariant (P := World.Inv) (inv_init startedAt)
    (fun u e _ hu hstep => inv_step hu (step_cases (w := u) (e := e) hstep)) h

end PatrolFleet.Scheduler
