import Mathlib.Data.Finset.Card
import PatrolFleet.Coordination.System

/-!
How often the fleet manager sends a START for one mission: once, and once more
for each dispatch of the mission that the scheduler has given up.
-/

set_option autoImplicit false

namespace PatrolFleet.Coordination

open Scheduler (Dispatch Happening)

/-- Each request is handled once, each START goes back to one dispatch, and a
dispatch that was rejected was not started. -/
structure World.Inv (w : World) : Prop where
  requested : ∀ d ∈ w.requests,
    .dispatched d.missionId d.robotId d.generation ∈ w.scheduler.node.slotHistory
  responded : ∀ p ∈ w.responses,
    .dispatched p.1.missionId p.1.robotId p.1.generation ∈ w.scheduler.node.slotHistory
  started : ∀ d ∈ w.started,
    .dispatched d.missionId d.robotId d.generation ∈ w.scheduler.node.slotHistory
  inFlight : (w.requests.map (·.generation) ++ w.responses.map (·.1.generation)).Nodup
  startedOnce : (w.started.map (·.generation)).Nodup
  unhandled : ∀ d ∈ w.requests, ∀ s ∈ w.started, s.generation ≠ d.generation
  refused : ∀ p ∈ w.responses, p.2.success = false →
    ∀ s ∈ w.started, s.generation ≠ p.1.generation
  rejected : ∀ g, .rejected g ∈ w.scheduler.node.slotHistory →
    (∀ s ∈ w.started, s.generation ≠ g) ∧ ∀ d ∈ w.requests, d.generation ≠ g

section

variable {cfg : Scheduler.Config} {fcfg : Fleet.Config} {w v : World}

theorem World.Inv.fleet (h : w.Inv) (fleet : Fleet.State) : World.Inv { w with fleet } :=
  ⟨h.requested, h.responded, h.started, h.inFlight, h.startedOnce, h.unhandled, h.refused,
    h.rejected⟩

theorem World.Inv.scheduler (h : w.Inv) (hslots : w.scheduler.Slots) {u : Scheduler.World}
    {e : Scheduler.Event} (hs : Scheduler.StepCase cfg w.scheduler e u)
    (he : e.isAnswer = false) :
    World.Inv { w with scheduler := u, requests := sentSince w.scheduler u ++ w.requests } := by
  have hkept := Scheduler.slotHistory_kept hs
  have hrejected : ∀ g, .rejected g ∈ u.node.slotHistory →
      .rejected g ∈ w.scheduler.node.slotHistory := by
    intro g hg
    rcases Scheduler.rejected_step hs hg with hold | ⟨d, response, now, rfl, _, _⟩
    · exact hold
    · simp [Scheduler.Event.isAnswer] at he
  have hle : ∀ m r g, .dispatched m r g ∈ w.scheduler.node.slotHistory →
      g ≤ w.scheduler.node.dispatchGeneration := hslots.dispatched_le
  rcases Scheduler.calls_step hs he with hcalls | ⟨d, hcalls, hnew, hd⟩
  · have hnone : sentSince w.scheduler u = [] := by simp [sentSince, hcalls]
    rw [hnone, List.nil_append]
    exact ⟨fun d hd => hkept (h.requested d hd), fun p hp => hkept (h.responded p hp),
      fun d hd => hkept (h.started d hd), h.inFlight, h.startedOnce, h.unhandled, h.refused,
      fun g hg => h.rejected g (hrejected g hg)⟩
  · have hone : sentSince w.scheduler u = [d] := by simp [sentSince, hcalls]
    have hstarted : ∀ s ∈ w.started, s.generation ≠ d.generation := by
      intro s hs heq
      have := hle _ _ _ (h.started s hs)
      omega
    rw [hone, List.singleton_append]
    refine ⟨?_, fun p hp => hkept (h.responded p hp), fun s hs => hkept (h.started s hs), ?_,
      h.startedOnce, ?_, h.refused, ?_⟩
    · simp only [List.forall_mem_cons]
      exact ⟨hd, fun other ho => hkept (h.requested other ho)⟩
    · rw [List.map_cons, List.cons_append, List.nodup_cons]
      refine ⟨?_, h.inFlight⟩
      simp only [List.mem_append, List.mem_map, not_or, not_exists, not_and]
      constructor
      · intro other ho heq
        have := hle _ _ _ (h.requested other ho)
        omega
      · intro p hp heq
        have := hle _ _ _ (h.responded p hp)
        omega
    · simp only [List.forall_mem_cons]
      exact ⟨hstarted, h.unhandled⟩
    · intro g hg
      have hold := hrejected g hg
      refine ⟨(h.rejected g hold).1, ?_⟩
      simp only [List.forall_mem_cons]
      refine ⟨?_, (h.rejected g hold).2⟩
      have := hslots.rejected_le g hold
      omega

theorem World.Inv.assignMission (h : w.Inv) {d : Dispatch} (hd : d ∈ w.requests)
    {response : AssignMission.Response} (fleet : Fleet.State) {started : List Dispatch}
    (hhow : response.success = true ∧ started = d :: w.started ∨
      response.success = false ∧ started = w.started) :
    World.Inv { w with
      fleet
      requests := w.requests.erase d
      responses := (d, response) :: w.responses
      started } := by
  have hfree := h.unhandled d hd
  have hperm : ((w.requests.erase d).map (·.generation) ++
      ((d, response) :: w.responses).map (·.1.generation)).Perm
      (w.requests.map (·.generation) ++ w.responses.map (·.1.generation)) := by
    have herase := (List.perm_cons_erase hd).map (·.generation)
    simp only [List.map_cons] at herase ⊢
    exact List.perm_middle.trans (herase.symm.append_right _)
  have hflight := hperm.nodup_iff.mpr h.inFlight
  have hrest : ∀ other ∈ w.requests.erase d, other.generation ≠ d.generation := by
    intro other ho heq
    have hdisjoint := List.disjoint_of_nodup_append hflight
    exact hdisjoint (List.mem_map_of_mem ho) (by simp [heq])
  have hrequests : ∀ other ∈ w.requests.erase d, other ∈ w.requests :=
    fun other ho => List.mem_of_mem_erase ho
  refine ⟨fun other ho => h.requested other (hrequests other ho), ?_, ?_, hflight, ?_, ?_, ?_, ?_⟩
  · simp only [List.forall_mem_cons]
    exact ⟨h.requested d hd, h.responded⟩
  · rcases hhow with ⟨_, rfl⟩ | ⟨_, rfl⟩
    · simp only [List.forall_mem_cons]
      exact ⟨h.requested d hd, h.started⟩
    · exact h.started
  · rcases hhow with ⟨_, rfl⟩ | ⟨_, rfl⟩
    · refine List.nodup_cons.mpr ⟨?_, h.startedOnce⟩
      intro hmem
      obtain ⟨s, hs, heq⟩ := List.mem_map.mp hmem
      exact hfree s hs heq
    · exact h.startedOnce
  · intro other ho
    rcases hhow with ⟨_, rfl⟩ | ⟨_, rfl⟩
    · simp only [List.forall_mem_cons]
      exact ⟨(hrest other ho).symm, h.unhandled other (hrequests other ho)⟩
    · exact h.unhandled other (hrequests other ho)
  · rcases hhow with ⟨hok, rfl⟩ | ⟨_, rfl⟩
    · intro p hp hno
      have hp' : p ∈ w.responses := by
        cases List.mem_cons.mp hp with
        | inl heq => simp [heq, hok] at hno
        | inr hp => exact hp
      simp only [List.forall_mem_cons]
      refine ⟨?_, h.refused p hp' hno⟩
      have hnodup := (List.nodup_append.mp h.inFlight).2.2
      exact hnodup _ (List.mem_map_of_mem hd) _ (List.mem_map.mpr ⟨p, hp', rfl⟩)
    · simp only [List.forall_mem_cons]
      exact ⟨fun _ => hfree, h.refused⟩
  · intro g hg
    obtain ⟨hs, hr⟩ := h.rejected g hg
    refine ⟨?_, fun other ho => hr other (hrequests other ho)⟩
    rcases hhow with ⟨_, rfl⟩ | ⟨_, rfl⟩
    · simp only [List.forall_mem_cons]
      exact ⟨hr d hd, hs⟩
    · exact hs

/-- The scheduler processes an answer. -/
theorem World.Inv.answered (h : w.Inv) {u : Scheduler.World} {d : Dispatch}
    {answer : Scheduler.Answer} {now : Time}
    (hs : Scheduler.StepCase cfg w.scheduler (.assignResponse d answer now) u)
    {responses : List (Dispatch × AssignMission.Response)} (hsub : responses.Sublist w.responses)
    (hanswer : ∀ r, answer = .response r → (d, r) ∈ w.responses) :
    World.Inv { w with scheduler := u, responses } := by
  have hkept := Scheduler.slotHistory_kept hs
  refine ⟨fun other ho => hkept (h.requested other ho),
    fun p hp => hkept (h.responded p (hsub.subset hp)), fun s hs => hkept (h.started s hs),
    ?_, h.startedOnce, h.unhandled, fun p hp => h.refused p (hsub.subset hp), ?_⟩
  · exact h.inFlight.sublist ((List.Sublist.refl _).append (hsub.map _))
  · intro g hg
    rcases Scheduler.rejected_step hs hg with hold | ⟨other, r, t, heq, hno, rfl⟩
    · exact h.rejected g hold
    · cases heq
      have hmem := hanswer r rfl
      refine ⟨h.refused _ hmem hno, ?_⟩
      intro request hrequest
      have hnodup := (List.nodup_append.mp h.inFlight).2.2
      exact hnodup _ (List.mem_map_of_mem hrequest) _ (List.mem_map.mpr ⟨_, hmem, rfl⟩)

theorem inv_step (h : w.Inv) (hslots : w.scheduler.Slots) {e : Event}
    (hs : w.step cfg fcfg e = some v) : v.Inv := by
  cases step_cases hs with
  | scheduler he hu => exact h.scheduler hslots (Scheduler.step_cases hu) he
  | fleet e => exact h.fleet _
  | @assignMission d serviceIsReady now handled hd hhandled =>
    subst hhandled
    refine h.assignMission hd _ ?_
    by_cases ha : Fleet.Assignable fcfg d.request serviceIsReady now w.fleet
    · obtain ⟨hok, hsent⟩ := Fleet.assignMission_accepts rfl ha
      exact Or.inl ⟨hok, by simp [hsent]⟩
    · obtain ⟨hno, hsent⟩ := Fleet.assignMission_refuses rfl ha
      exact Or.inr ⟨hno, by simp [hsent]⟩
  | response hd hu =>
    refine h.answered (Scheduler.step_cases hu) List.erase_sublist ?_
    intro r hr
    cases hr
    exact hd
  | exception hu =>
    exact h.answered (Scheduler.step_cases hu) (List.Sublist.refl _) (by simp)

end

theorem reachable_inv {cfg : Scheduler.Config} {fcfg : Fleet.Config} {startedAt : Time}
    {fleet : Fleet.State} {w : World} (h : (machine cfg fcfg startedAt fleet).Reachable w) :
    w.Inv := by
  refine h.induction (P := World.Inv) ?_ ?_
  · constructor <;> simp [machine, Scheduler.State.slotHistory, Scheduler.State.init,
      Scheduler.publishQueueState]
  · intro u e v hu hinv hstep
    exact inv_step hinv (Scheduler.reachable_slots (reachable_scheduler hu)) hstep

/-- The generations of the dispatches of a mission that were started. -/
def World.startsOf (w : World) (missionId : String) : List Nat :=
  (w.started.filter (·.missionId = missionId)).map (·.generation)

theorem startsOf_length (w : World) (missionId : String) :
    (w.startsOf missionId).length = w.started.countP (·.missionId = missionId) := by
  simp [World.startsOf, List.countP_eq_length_filter]

theorem mem_startsOf {w : World} (h : w.Inv) {missionId : String} {g : Nat}
    (hg : g ∈ w.startsOf missionId) :
    (∃ r, .dispatched missionId r g ∈ w.scheduler.node.slotHistory) ∧
      .rejected g ∉ w.scheduler.node.slotHistory := by
  obtain ⟨d, hd, rfl⟩ := List.mem_map.mp hg
  obtain ⟨hmem, hid⟩ := List.mem_filter.mp hd
  have hmission : d.missionId = missionId := by simpa using hid
  refine ⟨⟨d.robotId, hmission ▸ h.started d hmem⟩, ?_⟩
  exact fun hrejected => (h.rejected _ hrejected).1 d hmem rfl

theorem started_standing_eq {w : World} (h : w.Inv) (hslots : w.scheduler.Slots)
    {missionId : String} {g g' : Nat} (hg : g ∈ w.startsOf missionId)
    (hg' : g' ∈ w.startsOf missionId) (hstanding : ¬ w.scheduler.node.GivenUp g)
    (hstanding' : ¬ w.scheduler.node.GivenUp g') : g = g' := by
  obtain ⟨⟨r, hd⟩, hrej⟩ := mem_startsOf h hg
  obtain ⟨⟨r', hd'⟩, hrej'⟩ := mem_startsOf h hg'
  exact hslots.standing_unique hd hd' hstanding hstanding' hrej hrej'

theorem starts_le_given_up {cfg : Scheduler.Config} {fcfg : Fleet.Config} {startedAt : Time}
    {fleet : Fleet.State} {w : World} (h : (machine cfg fcfg startedAt fleet).Reachable w)
    (missionId : String) :
    w.started.countP (·.missionId = missionId) ≤
      (w.scheduler.node.dispatchesGivenUp missionId).length + 1 ∧
    (w.scheduler.node.dispatchesGivenUp missionId = [] → ∀ d ∈ w.started, ∀ e ∈ w.started,
      d.missionId = missionId → e.missionId = missionId → d = e) := by
  have hw := reachable_inv h
  have hslots := Scheduler.reachable_slots (reachable_scheduler h)
  set s := w.scheduler.node
  have hup : ∀ g ∈ w.startsOf missionId, s.GivenUp g → g ∈ s.dispatchesGivenUp missionId := by
    intro g hg hgiven
    obtain ⟨⟨r, hd⟩, _⟩ := mem_startsOf hw hg
    exact Scheduler.mem_dispatchesGivenUp hd hgiven
  constructor
  · have hnodup : (w.startsOf missionId).Nodup :=
      hw.startedOnce.sublist (List.filter_sublist.map _)
    have hgiven : ((w.startsOf missionId).filter fun g => s.GivenUp g).length ≤
        (s.dispatchesGivenUp missionId).length := by
      refine ((hnodup.filter _).subperm ?_).length_le
      intro g hg
      obtain ⟨hmem, hgiven⟩ := List.mem_filter.mp hg
      exact hup g hmem (by simpa using hgiven)
    have hstanding : ((w.startsOf missionId).filter fun g => ¬ s.GivenUp g).length ≤ 1 := by
      rw [← List.toFinset_card_of_nodup (hnodup.filter _), Finset.card_le_one]
      intro a ha b hb
      rw [List.mem_toFinset] at ha hb
      obtain ⟨hmem, hstand⟩ := List.mem_filter.mp ha
      obtain ⟨hmem', hstand'⟩ := List.mem_filter.mp hb
      exact started_standing_eq hw hslots hmem hmem' (by simpa using hstand)
        (by simpa using hstand')
    have hsplit := List.length_eq_length_filter_add (l := w.startsOf missionId)
      fun g => decide (s.GivenUp g)
    rw [← startsOf_length]
    simp only [decide_not] at hstanding
    omega
  · intro hnone d hd e he hid hid'
    have hmem : ∀ x ∈ w.started, x.missionId = missionId → x.generation ∈ w.startsOf missionId :=
      fun x hx hx' => List.mem_map_of_mem (List.mem_filter.mpr ⟨hx, by simpa using hx'⟩)
    have hstand : ∀ g ∈ w.startsOf missionId, ¬ s.GivenUp g := by
      intro g hg hgiven
      have := hup g hg hgiven
      simp [hnone] at this
    have hsame := started_standing_eq hw hslots (hmem d hd hid) (hmem e he hid')
      (hstand _ (hmem d hd hid)) (hstand _ (hmem e he hid'))
    exact List.inj_on_of_nodup_map hw.startedOnce hd he hsame

/-- The answer to the first dispatch is late: the slot is taken back, and the
mission goes to a second robot. -/
def lateAnswerRun : List Event :=
  let heartbeat (robotId : String) (at_ : Time) : RobotHeartbeat :=
    ⟨robotId, at_, RobotHeartbeat.stateIdle, 90, "", true⟩
  let robot (robotId : String) (state : UInt8) (at_ : Time) : FleetRobotState :=
    ⟨robotId, true, false, state, 90, true, "", at_⟩
  let patrol (robotId : String) (generation : Nat) : Dispatch :=
    ⟨"mission-1", "patrol", 0, {}, false, 0, robotId, generation⟩
  [.scheduler (.systemReady true),
    .fleet (.systemReady true),
    .fleet (.heartbeat "robot1" (heartbeat "robot1" (seconds 2)) (seconds 2)),
    .scheduler (.dispatchPatrol (seconds 2)),
    .scheduler (.fleetState ⟨seconds 2, [robot "robot1" RobotHeartbeat.stateIdle (seconds 2)]⟩
      (seconds 2) []),
    .scheduler (.processQueue (seconds 3) true),
    .assignMission (patrol "robot1" 1) true (seconds 3),
    .fleet (.heartbeat "robot2" (heartbeat "robot2" (seconds 17)) (seconds 17)),
    .scheduler (.fleetState ⟨seconds 17, [
      robot "robot1" RobotHeartbeat.statePatrolling (seconds 17),
      robot "robot2" RobotHeartbeat.stateIdle (seconds 17)]⟩ (seconds 17) []),
    .scheduler (.processQueue (seconds 18) true),
    .assignMission (patrol "robot2" 3) true (seconds 18)]

def startedTwice : World := ((machine {} {} 0 shippedFleet).run lateAnswerRun).get (by decide)

theorem starts_le_given_up_late : startedTwice.started.countP (·.missionId = "mission-1") ≤
    (startedTwice.scheduler.node.dispatchesGivenUp "mission-1").length + 1 :=
  (starts_le_given_up ((machine {} {} 0 shippedFleet).reachable_get _) "mission-1").1

theorem started_on_two_robots : ¬ ∀ w, (machine {} {} 0 shippedFleet).Reachable w →
    ∀ missionId, w.started.countP (·.missionId = missionId) ≤ 1 ∧
      ∀ d ∈ w.started, ∀ e ∈ w.started, d.missionId = missionId → e.missionId = missionId →
        d.robotId = e.robotId := by
  intro h
  have honce := h startedTwice ((machine {} {} 0 shippedFleet).reachable_get _) "mission-1"
  revert honce
  decide

end PatrolFleet.Coordination
