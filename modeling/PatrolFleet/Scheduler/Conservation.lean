import PatrolFleet.Scheduler.Invariant

/-!
No mission is lost, as long as no dispatch is accepted for a robot that still
has a mission on record.
-/

set_option autoImplicit false

namespace PatrolFleet.Scheduler

/-- A dispatch that the step accepts is for a robot without an active mission. -/
def AcceptsFree (w : World) : Event → Prop
  | .assignResponse d answer _ => d.generation = w.node.dispatchGeneration →
      answer.accepts = true → w.node.activeMissions.lookup d.robotId = none
  | _ => True

/-- The answer to a dispatch overwrites no entry of `active_missions_`. -/
def KeepsEntries (w : World) (e : Event) (v : World) : Prop :=
  ∀ d answer now, e = .assignResponse d answer now → ∀ robotId active,
    w.node.activeMissions.lookup robotId = some active →
    v.node.activeMissions.lookup robotId = some active

theorem queueIds_accepted {s : State} (missionId : String) :
    s.queueIds ⊆ missionId :: s.queueIds.filter (· ≠ missionId) := by
  intro other ho
  by_cases h : other = missionId
  · simp [h]
  · simp [h, ho]

theorem members_accepted_free {s t : State} {d : Dispatch} {now : Time}
    (hq : t.missionQueue = s.missionQueue.filter (·.missionId ≠ d.missionId))
    (ha : t.activeMissions = s.activeMissions.insert d.robotId (d.activated now))
    (hfree : s.activeMissions.lookup d.robotId = none) : s.members ⊆ t.members := by
  rw [members_accepted hq ha, UnorderedMap.kerase_of_lookup_none hfree]
  intro other ho
  rcases List.mem_append.mp ho with ho | ho
  · have hkept := queueIds_accepted d.missionId ho
    simp at hkept ⊢
    cases hkept with
    | inl heq => simp [heq]
    | inr hk => simp [hk]
  · exact List.mem_append_right _ (List.mem_cons_of_mem _ ho)

section

variable {w : World} {d : Dispatch} {answer : Answer} {now : Time}

theorem members_answered (hfree : AcceptsFree w (.assignResponse d answer now)) :
    w.node.members ⊆ (assignResponseCallback d answer now w.node).members := by
  by_cases hg : d.generation = w.node.dispatchGeneration
  · cases ha : answer.accepts with
    | true =>
      have hchange := assignResponse_accepted hg ha now
      exact members_accepted_free hchange.missionQueue hchange.activeMissions (hfree hg ha)
    | false =>
      have hchange := assignResponse_refused hg ha now
      rw [members_congr hchange.missionQueue hchange.activeMissions]
      exact List.Subset.refl _
  · rw [assignResponse_stale hg]
    exact List.Subset.refl _

theorem entries_answered (hfree : AcceptsFree w (.assignResponse d answer now))
    {robotId : String} {active : ActiveMission}
    (hl : w.node.activeMissions.lookup robotId = some active) :
    (assignResponseCallback d answer now w.node).activeMissions.lookup robotId = some active := by
  by_cases hg : d.generation = w.node.dispatchGeneration
  · cases ha : answer.accepts with
    | true =>
      have hne : robotId ≠ d.robotId := by
        rintro rfl
        simp [hfree hg ha] at hl
      rw [(assignResponse_accepted hg ha now).activeMissions, AList.lookup_insert_ne hne]
      exact hl
    | false =>
      rw [(assignResponse_refused hg ha now).activeMissions]
      exact hl
  · rw [assignResponse_stale hg]
    exact hl

end

theorem conserved_cleared {cfg : Config} {now : Time} {s t : State} (h : Cleared cfg now s t)
    (hk : s.NoMissionLost) : t.NoMissionLost := by
  cases h with
  | same => exact hk
  | overdue =>
    have hr := reclaim_change s
    unfold State.NoMissionLost at hk ⊢
    rw [members_congr hr.missionQueue hr.activeMissions, hr.ledger]
    exact hk

theorem conserved_step {cfg : Config} {w v : World} {e : Event} (h : w.Inv)
    (hk : w.node.NoMissionLost) (hfree : AcceptsFree w e) (hs : StepCase cfg w e v) :
    v.node.NoMissionLost := by
  cases hs with
  | moves hm => exact hm.conserved h.tracks hk
  | cleared now ready ht => exact conserved_cleared ht hk
  | sent now ready ht _ _ _ => exact (conserved_cleared ht hk : State.NoMissionLost _)
  | answered answer now hd =>
    unfold State.NoMissionLost
    rw [ledger_answered]
    exact Ledger.Conserved.mono hk (members_answered hfree)

theorem overwrite_loses {w : World} (h : w.Inv) {d : Dispatch} (hd : d ∈ w.calls)
    (hg : d.generation = w.node.dispatchGeneration) {answer : Answer}
    (ha : answer.accepts = true) (now : Time) {active : ActiveMission}
    (hl : w.node.activeMissions.lookup d.robotId = some active)
    (hsub : w.node.lineage active.missionId ∈ w.node.ledger.submitted)
    (hopen : ¬ w.node.ledger.Closed (w.node.lineage active.missionId)) :
    ¬ (assignResponseCallback d answer now w.node).NoMissionLost := by
  have hchange := assignResponse_accepted hg ha now
  have hs := h.secludes d hd hg
  set others := entryIds (w.node.activeMissions.entries.kerase d.robotId)
  set kept := w.node.queueIds.filter (· ≠ d.missionId)
  have hactive : (active.missionId :: others).Perm w.node.activeIds :=
    (UnorderedMap.perm_kerase hl).map fun e : Sigma fun _ : String => ActiveMission =>
      e.2.missionId
  have hrest : (kept ++ active.missionId :: others).Subperm w.node.members :=
    List.filter_sublist.subperm.append hactive.subperm
  have htracks : w.node.ledger.Tracks (Issued w.node.missionCounter)
      (active.missionId :: (kept ++ others)) :=
    (Ledger.Tracks.subperm h.tracks hrest).subperm List.perm_middle.symm.subperm
  have hfresh := (List.nodup_cons.mp htracks.lineages).1
  unfold State.NoMissionLost
  rw [ledger_answered, members_accepted hchange.missionQueue hchange.activeMissions]
  intro hk
  obtain ⟨name, hn, heq⟩ := hk _ hsub hopen
  rcases List.mem_append.mp hn with hn | hn
  · exact hfresh (List.mem_map.mpr ⟨name, List.mem_append_left _ hn, heq⟩)
  rcases List.mem_cons.mp hn with rfl | hn
  · exact hs.offRobots active.missionId (hactive.subset List.mem_cons_self) heq.symm
  · exact hfresh (List.mem_map.mpr ⟨name, List.mem_append_right _ hn, heq⟩)

/-- The accepted mission is none of those on the robots, so that it cannot stand
in for the entry it replaces. -/
theorem overwrite_not_kept (cfg : Config) {w v : World} (h : w.Inv) {d : Dispatch}
    {answer : Answer} {now : Time}
    (hstep : w.step cfg (.assignResponse d answer now) = some v)
    (hg : d.generation = w.node.dispatchGeneration) (ha : answer.accepts = true)
    {active : ActiveMission} (hl : w.node.activeMissions.lookup d.robotId = some active) :
    ¬ KeepsEntries w (.assignResponse d answer now) v := by
  intro hkeeps
  have hv := hkeeps d answer now rfl d.robotId active hl
  simp only [World.step] at hstep
  split at hstep
  · rename_i hd
    cases hstep
    rw [(assignResponse_accepted hg ha now).activeMissions, AList.lookup_insert] at hv
    have hid : d.missionId = active.missionId := by
      rw [← Option.some.inj hv]
      rfl
    have hmem : active.missionId ∈ w.node.activeIds :=
      List.mem_map.mpr ⟨_, UnorderedMap.lookup_eq_some_iff.mp hl, rfl⟩
    exact (h.secludes d hd hg).offRobots active.missionId hmem (by rw [hid])
  · cases hstep

theorem no_mission_lost_iff (cfg : Config) (startedAt : Time) (es : List Event) :
    ((∀ w, (machine cfg startedAt).Visits es w → w.node.NoMissionLost) ∧
      ∀ w e v, (machine cfg startedAt).Takes es w e v → KeepsEntries w e v) ↔
    ∀ w e v, (machine cfg startedAt).Takes es w e v → AcceptsFree w e := by
  constructor
  · rintro ⟨_, hkeeps⟩ w e v htake
    unfold AcceptsFree
    split
    · rename_i d answer now
      intro hg ha
      cases hl : w.node.activeMissions.lookup d.robotId with
      | none => rfl
      | some active =>
        have hw := reachable_inv htake.visits.reachable
        exact absurd (hkeeps w _ v htake) (overwrite_not_kept cfg hw htake.step_eq hg ha hl)
    · trivial
  · intro hfree
    constructor
    · intro w hw
      have hboth : w.Inv ∧ w.node.NoMissionLost := by
        refine Machine.visits_invariant (P := fun w => w.Inv ∧ w.node.NoMissionLost) ?_ ?_ hfree hw
        · exact ⟨inv_init startedAt, Ledger.conserved_empty⟩
        · intro u e v hu hfree hstep
          have hcase := step_cases (w := u) (e := e) hstep
          exact ⟨inv_step hu.1 hcase, conserved_step hu.1 hu.2 hfree hcase⟩
      exact hboth.2
    · intro w e v htake d answer now he robotId active hl
      subst he
      have hstep := htake.step_eq
      simp only [machine, World.step] at hstep
      split at hstep
      · cases hstep
        exact entries_answered (hfree _ _ _ htake) hl
      · cases hstep

/-- A robot that starts late is given a second mission: its reservation is over
10 s after the first one, which may still be started within 15 s. -/
def overwritingRun : List Event :=
  let robot (at_ : Time) : FleetRobotState :=
    ⟨"robot1", true, false, RobotHeartbeat.stateIdle, 90, true, "", at_⟩
  let patrol (missionId : String) (generation : Nat) : Dispatch :=
    ⟨missionId, "patrol", 0, {}, false, 0, "robot1", generation⟩
  [.systemReady true,
    .dispatchPatrol (seconds 1),
    .dispatchPatrol (seconds 1),
    .fleetState ⟨seconds 2, [robot (seconds 2)]⟩ (seconds 2) [],
    .processQueue (seconds 3) true,
    .assignResponse (patrol "mission-1" 1) (.response ⟨true, "Mission started"⟩) (seconds 4),
    .fleetState ⟨seconds 14, [robot (seconds 14)]⟩ (seconds 14)
      [⟨"robot1", (patrol "mission-1" 1).activated (seconds 4)⟩],
    .processQueue (seconds 15) true,
    .assignResponse (patrol "mission-2" 2) (.response ⟨true, "Mission started"⟩) (seconds 16)]

def overwrittenWorld : World := ((machine {} 0).run overwritingRun).get (by decide)

theorem mission_lost : ¬ ∀ w, (machine {} 0).Reachable w → w.node.NoMissionLost := by
  intro h
  have hkept := h overwrittenWorld ((machine {} 0).reachable_get _)
  revert hkept
  decide

end PatrolFleet.Scheduler
