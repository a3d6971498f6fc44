import PatrolFleet.Scheduler.Accounting

/-!
Retries over whole runs: each record asks for what its lineage was queued for, and
its attempts are the failures of the lineage.
-/

set_option autoImplicit false

namespace PatrolFleet.Scheduler

structure World.Accounted (cfg : Config) (Asked : String → Payload → Prop) (w : World) : Prop where
  balanced : Balanced cfg Asked w.node []
  called : ∀ d ∈ w.calls, d.generation = w.node.dispatchGeneration →
    InOrder cfg Asked w.node d.account 0

section

variable {cfg : Config} {Asked : String → Payload → Prop} {w v : World}

theorem World.Accounted.cleared (h : w.Accounted cfg Asked) (hw : w.Inv) {now : Time} {t : State}
    (hc : Cleared cfg now w.node t) : World.Accounted cfg Asked ⟨t, w.calls⟩ := by
  cases hc with
  | same => exact h
  | overdue =>
    have hr := reclaim_change w.node
    refine ⟨hr.balanced rfl hw.tracks h.balanced, fun d hd heq => ?_⟩
    have hle := hw.generation_le d hd
    simp only [hr.dispatchGeneration] at heq
    omega

theorem World.Accounted.sent (h : w.Accounted cfg Asked) (hw : w.Inv) {mission : QueuedMission}
    (hm : getNextMission w.node = some mission) (robot : CandidateRobot) (now : Time) :
    World.Accounted cfg Asked ⟨(sendDispatch mission robot now w.node).1,
      (sendDispatch mission robot now w.node).2 :: w.calls⟩ := by
  have hc := sendDispatch_change mission robot now w.node
  have hqueued : mission ∈ w.node.missionQueue := List.mem_of_mem_head? hm
  refine ⟨hc.balanced rfl hw.tracks h.balanced, fun d hd heq => ?_⟩
  rcases List.mem_cons.mp hd with rfl | hd
  · have hadds : Adds w.node (sendDispatch mission robot now w.node).1 [] [] := hc.adds
    have hissued := queued_issued_hand [] hw.tracks hqueued
    exact (h.balanced.queued mission hqueued).transfer hadds h.balanced hissued (by simp) (by simp)
  · have hle := hw.generation_le d hd
    simp only [hc.dispatchGeneration] at heq
    omega

theorem World.Accounted.answered (h : w.Accounted cfg Asked) (hw : w.Inv) {d : Dispatch}
    (hd : d ∈ w.calls) (answer : Answer) (now : Time) :
    World.Accounted cfg Asked ⟨assignResponseCallback d answer now w.node, w.calls.erase d⟩ := by
  by_cases hg : d.generation = w.node.dispatchGeneration
  · have hother : ∀ {t : State}, t.dispatchGeneration = w.node.dispatchGeneration →
        ∀ other ∈ w.calls.erase d, other.generation ≠ t.dispatchGeneration := by
      intro t hgen other ho heq
      exact erase_generation_ne hw.generations hd ho (heq.trans (hgen.trans hg.symm))
    cases ha : answer.accepts with
    | true =>
      have hc := assignResponse_accepted hg ha now
      refine ⟨?_, fun other ho heq => absurd heq (hother hc.dispatchGeneration other ho)⟩
      exact balanced_accepted hc hw.tracks (hw.secludes d hd hg) h.balanced (h.called d hd hg)
    | false =>
      have hc := assignResponse_refused hg ha now
      refine ⟨?_, fun other ho heq => absurd heq (hother hc.dispatchGeneration other ho)⟩
      refine hc.balanced ?_ hw.tracks h.balanced
      cases answer <;> rfl
  · rw [assignResponse_stale hg]
    exact ⟨h.balanced, fun other ho => h.called other (List.mem_of_mem_erase ho)⟩

theorem World.Accounted.parts (h : w.Accounted cfg Asked) (hw : w.Inv)
    {asked : Option (String × Payload)} {node : State}
    (hasked : ∀ name payload, asked = some (name, payload) → Asked name payload)
    (hparts : Parts cfg asked (w.node, []) (node, [])) :
    World.Accounted cfg Asked ⟨node, w.calls⟩ := by
  have hkept : Balanced cfg Asked node [] ∧ ∀ d ∈ w.calls,
      d.generation = w.node.dispatchGeneration →
        node.Secludes [] d.missionId ∧ InOrder cfg Asked node d.account 0 := by
    refine Parts.invariant (P := fun p => Balanced cfg Asked p.1 p.2 ∧ ∀ d ∈ w.calls,
      d.generation = w.node.dispatchGeneration →
        p.1.Secludes (entryIds p.2) d.missionId ∧ InOrder cfg Asked p.1 d.account 0) ?_ hparts
      hw.tracks ⟨h.balanced, fun d hd hg => ⟨hw.secludes d hd hg, h.called d hd hg⟩⟩
    intro p q hpart ht hp
    refine ⟨part_balanced hasked hpart ht hp.1, fun d hd hg => ?_⟩
    obtain ⟨hs, hx⟩ := hp.2 d hd hg
    exact ⟨hpart.moves.secludes ht _ hs, part_inOrder hpart ht hp.1 hs hx⟩
  have hgen : node.dispatchGeneration = w.node.dispatchGeneration :=
    (Parts.moves hparts).generation
  exact ⟨hkept.1, fun d hd hg => (hkept.2 d hd (hg.trans hgen)).2⟩

theorem accounted_step {e : Event} (hw : w.Inv)
    (h : w.Accounted cfg Asked) (ht : Turn cfg w e v)
    (hasked : ∀ payload, e.asks cfg = some payload →
      Asked (missionIdOf (w.node.missionCounter + 1)) payload) : v.Accounted cfg Asked := by
  cases ht with
  | parts hparts =>
    refine h.parts hw ?_ hparts
    intro name payload heq
    obtain ⟨payload', ha, hpair⟩ := Option.map_eq_some_iff.mp heq
    cases hpair
    exact hasked payload ha
  | cleared now ready hc => exact h.cleared hw hc
  | sent now ready hc _ _ hm _ => exact (h.cleared hw hc).sent (hw.cleared hc) hm _ now
  | answered answer now hd => exact h.answered hw hd answer now

theorem adds_cleared {now : Time} {s t : State} (hc : Cleared cfg now s t) : Adds s t [] [] := by
  cases hc with
  | same => exact Adds.refl s
  | overdue => exact (reclaim_change s).adds

theorem adds_step {e : Event} (ht : Turn cfg w e v) :
    ∃ failed accepted, Adds w.node v.node failed accepted := by
  cases ht with
  | parts hparts =>
    obtain ⟨failed, hadds⟩ := Parts.adds hparts
    exact ⟨failed, [], hadds⟩
  | cleared now ready hc => exact ⟨[], [], adds_cleared hc⟩
  | @sent t mission robot now ready hc _ _ _ _ =>
    exact ⟨_, _, (adds_cleared hc).trans (sendDispatch_change mission robot now t).adds⟩
  | @answered d answer now hd =>
    by_cases hg : d.generation = w.node.dispatchGeneration
    · cases ha : answer.accepts with
      | true => exact ⟨_, _, (assignResponse_accepted hg ha now).adds⟩
      | false => exact ⟨_, _, (assignResponse_refused hg ha now).adds⟩
    · rw [assignResponse_stale hg]
      exact ⟨[], [], Adds.refl _⟩

/-! ### What a step logs -/

/-- The missions that an event makes fail: those that `reconcile` judges so. -/
def failedBy (cfg : Config) : Event → List String
  | .fleetState message now visit =>
    (entryIds (visit.filter fun e => judge cfg now message.robots e.1 e.2 = .fail)).reverse
  | _ => []

theorem failedIds_retryFailed (s : State) (e : Entry) :
    failedIds (retryFailed cfg s e).history = e.2.missionId :: failedIds s.history := by
  rcases retryFailed_cases cfg s e with h | ⟨_, h⟩ <;> rw [h.history] <;> rfl

theorem failedIds_fleetState {message : FleetState} {now : Time} {visit : List Entry} {s : State}
    (hv : s.activeMissions.VisitOrder visit) :
    failedIds (fleetStateCallback cfg message now visit s).history =
      failedBy cfg (.fleetState message now visit) ++ failedIds s.history := by
  set updated := updateRobotReservationsLocked cfg now
    { s with latestFleetState := message, receivedFleetState := true }
  refine reconcile_rule (s := updated)
    (P := fun t _ failed =>
      failedIds t.history = (entryIds failed).reverse ++ failedIds s.history)
    (Q := fun t => failedIds t.history =
      failedBy cfg (.fleetState message now visit) ++ failedIds s.history) (fun hidle => ?_) rfl
    (fun _ _ _ ht => ht) (fun t _ failed e ht => ?_) (fun _ ht _ => ht) fun _ ht => ht
  · have hnil : s.activeMissions.entries = [] := hidle
    have hvisit : visit = [] := List.perm_nil.mp (hnil ▸ hv)
    subst hvisit
    rfl
  · rw [failedIds_retryFailed, ht]
    simp [entryIds]

theorem failedIds_step {e : Event} (h : w.step cfg e = some v) :
    failedIds v.node.history = failedBy cfg e ++ failedIds w.node.history := by
  cases e with
  | systemReady data =>
    cases h
    rfl
  | fleetState message now visit =>
    simp only [World.step] at h
    split at h
    · rename_i hv
      cases h
      exact failedIds_fleetState hv
    · cases h
  | queueMission request now =>
    cases h
    unfold handleQueueMission
    split <;> rfl
  | cancelMission missionId now =>
    cases h
    unfold handleCancelMission
    split
    · rfl
    split <;> rfl
  | dispatchPatrol now =>
    cases h
    rfl
  | recurringPatrol now =>
    simp only [World.step] at h
    split at h
    · cases h
      rfl
    · cases h
  | processQueue now ready =>
    simp only [World.step, Option.some.injEq] at h
    obtain ⟨t, ht, hnone | ⟨mission, robot, _, _, _, _, _, hsend⟩⟩ :=
      processQueue_cases cfg now ready w.node
    · rw [hnone] at h
      subst h
      exact (adds_cleared ht).failed
    · rw [hsend] at h
      subst h
      exact ((adds_cleared ht).trans (sendDispatch_change mission robot now t).adds).failed
  | assignResponse d answer now =>
    simp only [World.step] at h
    split at h
    · cases h
      change failedIds (assignResponseCallback d answer now w.node).history = _
      rcases history_answered d answer now w.node with heq | heq | heq <;> rw [heq]
      · rfl
      · rfl
      · cases answer <;> rfl
    · cases h

theorem asks_enqueues {e : Event} {payload : Payload} (h : w.step cfg e = some v)
    (ha : e.asks cfg = some payload) : v.node.history =
      .enqueued (missionIdOf (w.node.missionCounter + 1)) :: w.node.history := by
  cases e with
  | queueMission request now =>
    cases h
    unfold handleQueueMission
    split
    · rename_i hs
      simp only [Event.asks] at ha
      rw [if_neg (by simpa using hs)] at ha
      cases ha
    · rfl
  | dispatchPatrol now =>
    cases h
    rfl
  | recurringPatrol now =>
    simp only [World.step] at h
    split at h
    · cases h
      rfl
    · cases h
  | systemReady data => cases ha
  | fleetState message now visit => cases ha
  | cancelMission missionId now => cases ha
  | processQueue now ready => cases ha
  | assignResponse d answer now => cases ha

variable {startedAt : Time} {es : List Event}

/-- In the run of `es`, the mission `missionId` was queued on a request for `payload`. -/
def Requested (cfg : Config) (startedAt : Time) (es : List Event) (missionId : String)
    (payload : Payload) : Prop :=
  ∃ u e v, (machine cfg startedAt).Takes es u e v ∧ e.asks cfg = some payload ∧
    v.node.history = .enqueued missionId :: u.node.history

theorem accounted_init :
    World.Accounted cfg Asked (machine cfg startedAt).init where
  balanced := by
    refine ⟨?_, ?_, ?_, ?_, List.nodup_nil, fun lineage => ?_⟩
    · simp [machine, State.init, publishQueueState]
    · exact fun e he => absurd he List.not_mem_nil
    · simp [machine, State.init, publishQueueState, failedIds]
    · simp [machine, State.init, publishQueueState, acceptedIds]
    · have hzero : (machine cfg startedAt).init.node.acceptances lineage = 0 := rfl
      rw [hzero]
      exact le_max_of_le_left (by decide)
  called := by simp [machine]

theorem visits_accounted (hw : (machine cfg startedAt).Visits es w) :
    w.Accounted cfg (Requested cfg startedAt es) := by
  have hboth : w.Inv ∧ w.Accounted cfg (Requested cfg startedAt es) := by
    refine Machine.visits_invariant (m := machine cfg startedAt)
      (P := fun w => w.Inv ∧ w.Accounted cfg (Requested cfg startedAt es))
      (C := fun u e t => ∀ payload, e.asks cfg = some payload →
        Requested cfg startedAt es (missionIdOf (u.node.missionCounter + 1)) payload)
      ⟨inv_init startedAt, accounted_init⟩ ?_ ?_ hw
    · intro u e t hu hC hstep
      exact ⟨inv_step hu.1 (step_cases (w := u) (e := e) hstep),
        accounted_step hu.1 hu.2 (step_turn (w := u) (e := e) hstep) hC⟩
    · exact fun u e t htake payload ha =>
        ⟨u, e, t, htake, ha, asks_enqueues htake.step_eq ha⟩
  exact hboth.2

theorem World.Accounted.account (h : w.Accounted cfg Asked) {x : Account}
    (hx : x ∈ w.node.accounts) : ∃ running, InOrder cfg Asked w.node x running := by
  rcases List.mem_append.mp hx with hq | ha
  · obtain ⟨m, hm, rfl⟩ := List.mem_map.mp hq
    exact ⟨0, h.balanced.queued m hm⟩
  · obtain ⟨e, he, rfl⟩ := List.mem_map.mp ha
    exact ⟨1, h.balanced.active e he⟩

/-- A step changes the attempts of a lineage by the missions of it that fail. -/
theorem attempts_step {e : Event} (hstep : w.step cfg e = some v) (hw : w.Inv)
    (h : w.Accounted cfg Asked) (k : v.Accounted cfg Asked) {x y : Account}
    (hx : x ∈ w.node.accounts) (hy : y ∈ v.node.accounts)
    (hxy : v.node.lineage x.missionId = v.node.lineage y.missionId) :
    y.attemptCount = x.attemptCount +
      (failedBy cfg e).countP (v.node.lineage · = v.node.lineage y.missionId) := by
  obtain ⟨_, hxorder⟩ := h.account hx
  obtain ⟨_, hyorder⟩ := k.account hy
  obtain ⟨failed, accepted, hadds⟩ := adds_step (step_turn hstep)
  have hfailed : failed = failedBy cfg e :=
    List.append_cancel_right (hadds.failed.symm.trans (failedIds_step hstep))
  have hissued : Issued w.node.missionCounter x.missionId := by
    refine Ledger.Tracks.names_issued hw.tracks _ ?_
    rcases List.mem_append.mp hx with hq | ha
    · obtain ⟨m, hm, rfl⟩ := List.mem_map.mp hq
      exact mem_members_of_queued (List.mem_map_of_mem hm)
    · obtain ⟨entry, he, rfl⟩ := List.mem_map.mp ha
      exact mem_members_of_active (List.mem_map_of_mem he)
  have hlineage := hadds.lineage x.missionId hissued
  rw [hyorder.attempts, hxorder.attempts, ← hlineage, hxy,
    hadds.failures h.balanced.failed_issued, hfailed]
  exact Nat.add_comm _ _

theorem faithful_retries (hpos : 1 ≤ cfg.maxMissionAttempts)
    (hrun : (machine cfg startedAt).run es = some w) :
    (∀ x ∈ w.node.accounts,
      Requested cfg startedAt es (w.node.lineage x.missionId) x.payload ∧
      x.attemptCount = w.node.failures (w.node.lineage x.missionId) ∧
      (x.attemptCount : Int) < cfg.maxMissionAttempts) ∧
    (failedIds w.node.history).Nodup ∧
    (∀ u e v, (machine cfg startedAt).Takes es u e v →
      failedIds v.node.history = failedBy cfg e ++ failedIds u.node.history ∧
      ∀ x ∈ u.node.accounts, ∀ y ∈ v.node.accounts,
        v.node.lineage x.missionId = v.node.lineage y.missionId →
        y.attemptCount = x.attemptCount +
          (failedBy cfg e).countP (v.node.lineage · = v.node.lineage y.missionId)) ∧
    ∀ lineage, (w.node.acceptances lineage : Int) ≤ cfg.maxMissionAttempts := by
  have hw := visits_accounted ⟨es, List.prefix_refl es, hrun⟩
  refine ⟨fun x hx => ?_, hw.balanced.failed_nodup, fun u e v htake => ?_, fun lineage =>
    (hw.balanced.accepted_le lineage).trans (attemptLimit_le hpos)⟩
  · obtain ⟨_, horder⟩ := hw.account hx
    exact ⟨horder.asked, horder.attempts, horder.bounded.trans_le (attemptLimit_le hpos)⟩
  · have hu := visits_accounted htake.visits
    have hv := visits_accounted htake.visits_next
    refine ⟨failedIds_step htake.step_eq, fun x hx y hy hxy => ?_⟩
    exact attempts_step htake.step_eq (reachable_inv htake.visits.reachable) hu hv hx hy hxy

end

/-- A mission that is accepted by a robot, fails there and is queued again. -/
def retriedRun : List Event :=
  let robot (state : UInt8) (stamp : Time) : FleetRobotState :=
    ⟨"robot1", true, false, state, 90, true, "", stamp⟩
  let d : Dispatch := ⟨"mission-1", "inspect", 7, {}, true, 0, "robot1", 1⟩
  [.systemReady true,
    .queueMission ⟨"inspect", 7, {}, true⟩ (seconds 1),
    .fleetState ⟨seconds 2, [robot RobotHeartbeat.stateIdle (seconds 2)]⟩ (seconds 2) [],
    .processQueue (seconds 3) true,
    .assignResponse d (.response ⟨true, ""⟩) (seconds 4),
    .fleetState ⟨seconds 5, [robot RobotHeartbeat.stateError (seconds 5)]⟩ (seconds 5)
      [⟨"robot1", d.activated (seconds 4)⟩]]

def retriedWorld : World := ((machine {} 0).run retriedRun).get (by decide)

theorem faithful_retries_retried :
    ∃ x ∈ retriedWorld.node.accounts, x.attemptCount = 1 ∧
      Requested {} 0 retriedRun "mission-1" x.payload ∧
      x.attemptCount = retriedWorld.node.failures "mission-1" ∧ (x.attemptCount : Int) < 3 := by
  have hrun : (machine {} 0).run retriedRun = some retriedWorld := rfl
  have hpos : 1 ≤ (({} : Config)).maxMissionAttempts := by decide
  have hmem : (⟨"mission-2", ⟨"inspect", 7, {}, true⟩, 1⟩ : Account) ∈ retriedWorld.node.accounts :=
    List.mem_cons_self
  have hlineage : retriedWorld.node.lineage "mission-2" = "mission-1" := by decide
  obtain ⟨hrequested, hfailures, hbound⟩ := (faithful_retries hpos hrun).1 _ hmem
  rw [hlineage] at hrequested hfailures
  exact ⟨_, hmem, rfl, hrequested, hfailures, hbound⟩

end PatrolFleet.Scheduler
