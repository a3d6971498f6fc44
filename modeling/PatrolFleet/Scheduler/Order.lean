import Mathlib.Algebra.Order.Ring.Unbundled.Rat
import PatrolFleet.Scheduler.Progress

/-!
The order in which missions are sent and accepted: by priority, and among
missions of one priority first come, first served.
-/

set_option autoImplicit false

namespace PatrolFleet.Scheduler

/-! ### The queue is sorted -/

theorem comesBefore_iff {left right : QueuedMission} : comesBefore left right = true ↔
    left.priority > right.priority ∨
      (left.priority = right.priority ∧ left.sequence < right.sequence) := by
  unfold comesBefore
  split
  · rename_i hne
    simp [hne]
  · rename_i heq
    have heq : left.priority = right.priority := not_not.mp heq
    simp [heq]

/-- The ids that `enqueue_mission` gave out, the first one first. -/
def enqueueOrder (history : List Happening) : List String :=
  (history.filterMap fun
    | .enqueued missionId => some missionId
    | .requeued _ fresh => some fresh
    | _ => none).reverse

structure State.Ordered (s : State) : Prop where
  sorted : s.missionQueue.Pairwise fun left right => left.priority > right.priority ∨
    (left.priority = right.priority ∧ left.sequence < right.sequence)
  sequences : ∀ mission ∈ s.missionQueue, mission.sequence < s.nextSequence ∧
    mission.missionId = missionIdOf (mission.sequence + 1)
  counter : s.nextSequence = s.missionCounter
  enqueued : enqueueOrder s.history =
    (List.range s.nextSequence).map fun n => missionIdOf (n + 1)

theorem sortQueueLocked_pairwise (queue : List QueuedMission) :
    (sortQueueLocked queue).Pairwise fun left right => ¬ comesBefore right left := by
  have htotal : Std.Total fun left right : QueuedMission => ¬ comesBefore right left :=
    ⟨fun left right => by simp only [comesBefore_iff]; omega⟩
  have htrans : IsTrans QueuedMission fun left right => ¬ comesBefore right left :=
    ⟨fun a b c => by simp only [comesBefore_iff]; omega⟩
  exact List.pairwise_insertionSort _ queue

theorem State.Ordered.distinct {s : State} (h : s.Ordered) {hand : List String}
    (ht : s.Tracks hand) : (s.missionQueue.map (·.sequence)).Nodup := by
  have hids : s.queueIds.Nodup := by
    have hnodup := Ledger.Tracks.names_nodup ht
    exact hnodup.sublist ((List.sublist_append_left _ _).trans (List.sublist_append_right _ _))
  have hmap : s.queueIds = (s.missionQueue.map (·.sequence)).map fun n => missionIdOf (n + 1) := by
    rw [List.map_map]
    exact List.map_congr_left fun mission hm => (h.sequences mission hm).2
  exact (hmap ▸ hids).of_map _

theorem enlarged_sorted {s : State} (h : s.Ordered) {hand : List String} (ht : s.Tracks hand)
    (payload : Payload) (attemptCount : Nat) :
    (s.enlarged payload attemptCount).Pairwise fun left right => left.priority > right.priority ∨
      (left.priority = right.priority ∧ left.sequence < right.sequence) := by
  have hperm := enlarged_perm s payload attemptCount
  have hfresh : s.nextSequence ∉ s.missionQueue.map (·.sequence) := by
    intro hmem
    obtain ⟨mission, hm, heq⟩ := List.mem_map.mp hmem
    have hlt := (h.sequences mission hm).1
    omega
  have hnodup : ((s.enlarged payload attemptCount).map (·.sequence)).Nodup :=
    (hperm.map _).nodup_iff.mpr (List.nodup_cons.mpr ⟨hfresh, h.distinct ht⟩)
  have hsorted : (s.enlarged payload attemptCount).Pairwise
      fun left right => ¬ comesBefore right left := sortQueueLocked_pairwise _
  refine (hsorted.and (List.pairwise_map.mp hnodup)).imp ?_
  intro left right hlr
  have hback := hlr.1
  have hne := hlr.2
  rw [comesBefore_iff] at hback
  omega

section

variable {s t : State} {active : UnorderedMap String ActiveMission} {new : List Happening}

theorem Edits.ordered_shrunk {queue : List QueuedMission} (he : Edits s t queue active 0 new)
    (h : s.Ordered) (hq : queue.Sublist s.missionQueue)
    (hn : enqueueOrder (new ++ s.history) = enqueueOrder s.history) : t.Ordered where
  sorted := by
    rw [he.missionQueue]
    exact h.sorted.sublist hq
  sequences := by
    rw [he.missionQueue, he.nextSequence]
    exact fun mission hm => h.sequences mission (hq.subset hm)
  counter := by rw [he.nextSequence, he.missionCounter, h.counter]
  enqueued := by
    rw [he.history, he.nextSequence, hn]
    exact h.enqueued

theorem Edits.ordered_enlarged {payload : Payload} {attemptCount : Nat} {hand : List String}
    (he : Edits s t (s.enlarged payload attemptCount) active 1 new) (h : s.Ordered)
    (ht : s.Tracks hand) (hn : enqueueOrder (new ++ s.history) =
      enqueueOrder s.history ++ [missionIdOf (s.missionCounter + 1)]) : t.Ordered where
  sorted := by
    rw [he.missionQueue]
    exact enlarged_sorted h ht payload attemptCount
  sequences := by
    rw [he.missionQueue, he.nextSequence]
    intro mission hm
    rcases List.mem_cons.mp ((enlarged_perm s payload attemptCount).subset hm) with rfl | hm
    · exact ⟨Nat.lt_succ_self _, by simp [State.newRecord, h.counter]⟩
    · exact ⟨Nat.lt_succ_of_lt (h.sequences mission hm).1, (h.sequences mission hm).2⟩
  counter := by rw [he.nextSequence, he.missionCounter, h.counter]
  enqueued := by
    rw [he.history, he.nextSequence, hn, h.enqueued, List.range_succ, List.map_append, h.counter]
    rfl

end

theorem part_ordered {cfg : Config} {asked : Option (String × Payload)} {p q : State × List Entry}
    (hp : Part cfg asked p q) (ht : p.1.Tracks (entryIds p.2)) (h : p.1.Ordered) :
    q.1.Ordered := by
  cases hp with
  | quiet hand he => exact he.ordered_shrunk h (List.Sublist.refl _) rfl
  | taken verdict hv he => exact he.ordered_shrunk h (List.Sublist.refl _) rfl
  | completed e hand he => exact he.ordered_shrunk h (List.Sublist.refl _) rfl
  | dropped e hand he => exact he.ordered_shrunk h (List.Sublist.refl _) rfl
  | requeued e hand hlt he => exact he.ordered_enlarged h ht (by simp [enqueueOrder])
  | enqueued ha he => exact he.ordered_enlarged h ht (by simp [enqueueOrder])
  | cancelled hany he => exact he.ordered_shrunk h List.eraseP_sublist rfl

theorem SlotChange.ordered {s t : State} {queue : List QueuedMission}
    {active : UnorderedMap String ActiveMission} {happening : Happening} {generation : Nat}
    {inProgress : Bool} (hc : SlotChange s t queue active happening generation inProgress)
    (h : s.Ordered) (hq : queue.Sublist s.missionQueue) : t.Ordered where
  sorted := by
    rw [hc.missionQueue]
    exact h.sorted.sublist hq
  sequences := by
    rw [hc.missionQueue, hc.nextSequence]
    exact fun mission hm => h.sequences mission (hq.subset hm)
  counter := by rw [hc.nextSequence, hc.missionCounter, h.counter]
  enqueued := by
    have hslot := hc.ofSlot
    rw [hc.history, hc.nextSequence, ← h.enqueued]
    cases happening <;> simp [Happening.ofSlot] at hslot <;> rfl

theorem ordered_cleared {cfg : Config} {now : Time} {s t : State} (h : s.Ordered)
    (ht : Cleared cfg now s t) : t.Ordered := by
  cases ht with
  | same => exact h
  | overdue => exact (reclaim_change s).ordered h (List.Sublist.refl _)

theorem ordered_answered {s : State} (h : s.Ordered) (d : Dispatch) (answer : Answer)
    (now : Time) : (assignResponseCallback d answer now s).Ordered := by
  by_cases hg : d.generation = s.dispatchGeneration
  · cases ha : answer.accepts with
    | true => exact (assignResponse_accepted hg ha now).ordered h List.filter_sublist
    | false => exact (assignResponse_refused hg ha now).ordered h (List.Sublist.refl _)
  · rw [assignResponse_stale hg]
    exact h

theorem ordered_step {cfg : Config} {w v : World} {e : Event} (hw : w.Inv)
    (h : w.node.Ordered) (ht : Turn cfg w e v) : v.node.Ordered := by
  cases ht with
  | parts hparts =>
    exact Parts.invariant (P := fun p => p.1.Ordered) (fun _ _ => part_ordered) hparts
      hw.tracks h
  | cleared now ready hc => exact ordered_cleared h hc
  | @sent t mission robot now ready hc _ _ _ _ =>
    exact (sendDispatch_change mission robot now t).ordered (ordered_cleared h hc)
      (List.Sublist.refl _)
  | answered answer now hd => exact ordered_answered h _ answer now

theorem reachable_ordered {cfg : Config} {startedAt : Time} {w : World}
    (h : (machine cfg startedAt).Reachable w) : w.node.Ordered := by
  have hboth : w.Inv ∧ w.node.Ordered := by
    refine Machine.Reachable.invariant (P := fun w => w.Inv ∧ w.node.Ordered) ?_ ?_ h
    · exact ⟨inv_init startedAt, List.Pairwise.nil,
        by simp [machine, State.init, publishQueueState],
        rfl, rfl⟩
    · intro u e v hu hstep
      have hturn := step_turn (w := u) (e := e) hstep
      exact ⟨inv_step hu.1 (step_cases (w := u) (e := e) hstep), ordered_step hu.1 hu.2 hturn⟩
  exact hboth.2

/-! ### What is sent, and to whom -/

theorem foldl_best (rest : List CandidateRobot) (first : CandidateRobot) :
    let best := rest.foldl (fun best robot =>
      if best.batteryPercentage < robot.batteryPercentage then robot else best) first
    (best = first ∧ ∀ other ∈ rest, other.batteryPercentage ≤ best.batteryPercentage) ∨
      ∃ before after, rest = before ++ best :: after ∧
        first.batteryPercentage < best.batteryPercentage ∧
        (∀ other ∈ before, other.batteryPercentage < best.batteryPercentage) ∧
        ∀ other ∈ after, other.batteryPercentage ≤ best.batteryPercentage := by
  induction rest generalizing first with
  | nil => exact Or.inl ⟨rfl, by simp⟩
  | cons robot rest ih =>
    intro best
    by_cases hlt : first.batteryPercentage < robot.batteryPercentage
    · have hbest : best = rest.foldl (fun best robot =>
          if best.batteryPercentage < robot.batteryPercentage then robot else best) robot := by
        simp [best, hlt]
      rcases ih robot with ⟨heq, hle⟩ | ⟨before, after, hsplit, hfirst, hb, ha⟩
      · rw [← hbest] at heq hle
        refine Or.inr ⟨[], rest, by simp [heq], heq ▸ hlt, by simp, hle⟩
      · rw [← hbest] at hsplit hfirst hb ha
        refine Or.inr ⟨robot :: before, after, by simp [← hsplit], hlt.trans hfirst, ?_, ha⟩
        exact List.forall_mem_cons.mpr ⟨hfirst, hb⟩
    · have hbest : best = rest.foldl (fun best robot =>
          if best.batteryPercentage < robot.batteryPercentage then robot else best) first := by
        simp [best, hlt]
      have hle' := not_lt.mp hlt
      rcases ih first with ⟨heq, hle⟩ | ⟨before, after, hsplit, hfirst, hb, ha⟩
      · rw [← hbest] at heq hle
        exact Or.inl ⟨heq, List.forall_mem_cons.mpr ⟨heq ▸ hle', hle⟩⟩
      · rw [← hbest] at hsplit hfirst hb ha
        refine Or.inr ⟨robot :: before, after, by simp [← hsplit], hfirst, ?_, ha⟩
        exact List.forall_mem_cons.mpr ⟨lt_of_le_of_lt hle' hfirst, hb⟩

/-- `std::max_element` finds the first of the elements with the largest battery. -/
theorem maxElement_split {candidates : List CandidateRobot} {best : CandidateRobot}
    (h : maxElement candidates = some best) : ∃ before after,
      candidates = before ++ best :: after ∧
      (∀ other ∈ before, other.batteryPercentage < best.batteryPercentage) ∧
      ∀ other ∈ after, other.batteryPercentage ≤ best.batteryPercentage := by
  cases candidates with
  | nil => cases h
  | cons first rest =>
    simp only [maxElement, Option.some.injEq] at h
    rcases foldl_best rest first with ⟨heq, hle⟩ | ⟨before, after, hsplit, hfirst, hb, ha⟩
    · rw [h] at heq hle
      exact ⟨[], rest, by simp [heq], by simp, hle⟩
    · rw [h] at hsplit hfirst hb ha
      refine ⟨first :: before, after, by simp [← hsplit], ?_, ha⟩
      exact List.forall_mem_cons.mpr ⟨hfirst, hb⟩

/-- `robotId` is the first robot of the message with the largest battery of all
that are candidates in the state `s`. -/
def BestRobot (cfg : Config) (s : State) (robotId : String) : Prop :=
  ∃ before robot after, s.latestFleetState.robots = before ++ robot :: after ∧
    robot.robotId = robotId ∧ isCandidate cfg s robot = true ∧
    (∀ other ∈ before, isCandidate cfg s other = true →
      other.batteryPercentage < robot.batteryPercentage) ∧
    ∀ other ∈ after, isCandidate cfg s other = true →
      other.batteryPercentage ≤ robot.batteryPercentage

theorem selectRobot_best {cfg : Config} {s : State} {robot : CandidateRobot}
    (h : selectRobot cfg s = some robot) : BestRobot cfg s robot.robotId := by
  unfold selectRobot at h
  split at h
  · cases h
  obtain ⟨before, after, hsplit, hb, ha⟩ := maxElement_split h
  obtain ⟨kept, rest, hfilter, hkept, hrest⟩ := List.map_eq_append_iff.mp hsplit
  obtain ⟨chosen, others, hcons, hchosen, hothers⟩ := List.map_eq_cons_iff.mp hrest
  obtain ⟨front, back, hrobots, hfront, hback⟩ := List.filter_eq_append_iff.mp hfilter
  rw [hcons] at hback
  obtain ⟨skipped, tail, htail, hskip, hc, hafter⟩ := List.filter_eq_cons_iff.mp hback
  subst hchosen
  refine ⟨front ++ skipped, chosen, tail, by simp [hrobots, htail], rfl, hc, ?_, ?_⟩
  · intro other ho hother
    rcases List.mem_append.mp ho with ho | ho
    · apply hb ⟨other.robotId, other.batteryPercentage⟩
      rw [← hkept, ← hfront]
      exact List.mem_map_of_mem (List.mem_filter.mpr ⟨ho, hother⟩)
    · exact absurd hother (hskip other ho)
  · intro other ho hother
    apply ha ⟨other.robotId, other.batteryPercentage⟩
    rw [← hothers, ← hafter]
    exact List.mem_map_of_mem (List.mem_filter.mpr ⟨ho, hother⟩)

/-- The request `d`, sent in the state `s`, is for the first mission of the queue and
for the best robot. -/
structure Foremost (cfg : Config) (now : Time) (s : State) (d : Dispatch) : Prop where
  systemReady : s.systemReady = true
  mission : ∃ mission ∈ s.missionQueue, d.missionId = mission.missionId ∧
    d.payload = mission.payload ∧ ∀ other ∈ s.missionQueue, ¬ (other.priority > mission.priority ∨
      (other.priority = mission.priority ∧ other.sequence < mission.sequence))
  robot : ∃ t, reclaimDispatch cfg now s = some t ∧ t.latestFleetState = s.latestFleetState ∧
    BestRobot cfg t d.robotId

theorem Cleared.reclaimDispatch {cfg : Config} {now : Time} {s t : State}
    (h : Cleared cfg now s t) (hp : t.dispatchInProgress = false) :
    reclaimDispatch cfg now s = some t := by
  cases h with
  | same => simp [Scheduler.reclaimDispatch, hp]
  | overdue _ hbusy hover => simp [Scheduler.reclaimDispatch, hbusy, not_lt.mpr hover]

theorem sent_foremost {cfg : Config} {now : Time} {s t : State} {mission : QueuedMission}
    {robot : CandidateRobot} (h : s.Ordered) (hc : Cleared cfg now s t)
    (hp : t.dispatchInProgress = false) (hready : s.systemReady = true)
    (hm : getNextMission t = some mission) (hr : selectRobot cfg t = some robot) :
    Foremost cfg now s (sendDispatch mission robot now t).2 where
  systemReady := hready
  mission := by
    unfold getNextMission at hm
    rw [hc.freed.missionQueue] at hm
    refine ⟨mission, List.mem_of_mem_head? hm, rfl, rfl, ?_⟩
    have hsorted := h.sorted
    obtain ⟨rest, hqueue⟩ := List.head?_eq_some_iff.mp hm
    rw [hqueue] at hsorted ⊢
    intro other ho
    rcases List.mem_cons.mp ho with rfl | ho
    · omega
    · have hafter := List.rel_of_pairwise_cons hsorted ho
      omega
  robot := ⟨t, hc.reclaimDispatch hp, hc.freed.latestFleetState, selectRobot_best hr⟩

theorem foremost_step {cfg : Config} {w v : World} {e : Event} {d : Dispatch}
    (h : w.node.Ordered) (ht : Turn cfg w e v) (hd : v.calls = d :: w.calls) :
    ∃ now ready, e = .processQueue now ready ∧ Foremost cfg now w.node d := by
  have hlength := congrArg List.length hd
  cases ht with
  | parts hparts => simp at hlength
  | cleared now ready hc => simp at hlength
  | sent now ready hc hp hready hm hr =>
    refine ⟨now, ready, rfl, ?_⟩
    rw [← (List.cons.inj hd).1]
    exact sent_foremost h hc hp hready hm hr
  | @answered other answer now hmem =>
    have hle := (List.erase_sublist (a := other) (l := w.calls)).length_le
    simp only [List.length_cons] at hlength
    omega

/-! ### A mission that waits is sent before those behind it -/

/-- The mission has left the queue. -/
def Departed (missionId : String) (history : List Happening) : Prop :=
  .cancelled missionId ∈ history ∨ ∃ r g, .accepted missionId r g ∈ history

theorem Departed.append {missionId : String} {history : List Happening}
    (h : Departed missionId history) (new : List Happening) :
    Departed missionId (new ++ history) := by
  rcases h with hc | ⟨r, g, ha⟩
  · exact Or.inl (List.mem_append_right new hc)
  · exact Or.inr ⟨r, g, List.mem_append_right new ha⟩

theorem Edits.waits {s t : State} {queue : List QueuedMission}
    {active : UnorderedMap String ActiveMission} {ids : Nat} {new : List Happening}
    (he : Edits s t queue active ids new) {mission : QueuedMission}
    (hq : mission ∈ s.missionQueue → mission ∈ queue ∨ .cancelled mission.missionId ∈ new)
    (h : mission ∈ s.missionQueue ∨ Departed mission.missionId s.history) :
    mission ∈ t.missionQueue ∨ Departed mission.missionId t.history := by
  rw [he.missionQueue, he.history]
  rcases h with hm | hd
  · exact (hq hm).imp id fun hc => Or.inl (List.mem_append_left _ hc)
  · exact Or.inr (hd.append new)

theorem part_waits {cfg : Config} {asked : Option (String × Payload)} {p q : State × List Entry}
    {mission : QueuedMission} (hp : Part cfg asked p q)
    (h : mission ∈ p.1.missionQueue ∨ Departed mission.missionId p.1.history) :
    mission ∈ q.1.missionQueue ∨ Departed mission.missionId q.1.history := by
  cases hp with
  | quiet hand he => exact he.waits Or.inl h
  | taken verdict hv he => exact he.waits Or.inl h
  | completed e hand he => exact he.waits Or.inl h
  | dropped e hand he => exact he.waits Or.inl h
  | requeued e hand hlt he =>
    refine he.waits (fun hm => Or.inl ?_) h
    exact (enlarged_perm ..).mem_iff.mpr (List.mem_cons_of_mem _ hm)
  | enqueued ha he =>
    refine he.waits (fun hm => Or.inl ?_) h
    exact (enlarged_perm ..).mem_iff.mpr (List.mem_cons_of_mem _ hm)
  | @cancelled s t missionId hany he =>
    refine he.waits (fun hm => ?_) h
    by_cases hid : mission.missionId = missionId
    · exact Or.inr (by simp [hid])
    · exact Or.inl ((List.mem_eraseP_of_neg (by simpa using hid)).mpr hm)

theorem waits_answered {mission : QueuedMission} {s : State} (d : Dispatch) (answer : Answer)
    (now : Time) (hm : mission ∈ s.missionQueue) :
    mission ∈ (assignResponseCallback d answer now s).missionQueue ∨
      Departed mission.missionId (assignResponseCallback d answer now s).history := by
  by_cases hg : d.generation = s.dispatchGeneration
  · cases ha : answer.accepts with
    | true =>
      have hc := assignResponse_accepted hg ha now
      by_cases hid : mission.missionId = d.missionId
      · exact Or.inr (Or.inr ⟨d.robotId, d.generation, by rw [hc.history, hid]; simp⟩)
      · refine Or.inl ?_
        rw [hc.missionQueue]
        exact List.mem_filter.mpr ⟨hm, by simpa using hid⟩
    | false =>
      refine Or.inl ?_
      rw [(assignResponse_refused hg ha now).missionQueue]
      exact hm
  · rw [assignResponse_stale hg]
    exact Or.inl hm

/-! ### The history only grows -/

theorem Parts.history {cfg : Config} {asked : Option (String × Payload)} {p q : State × List Entry}
    (h : Parts cfg asked p q) :
    ∃ new, q.1.history = new ++ p.1.history ∧ ∀ happening ∈ new, happening.ofSlot = false := by
  induction h with
  | refl => exact ⟨[], rfl, by simp⟩
  | tail _ hpart ih =>
    obtain ⟨new, hnew, hslot⟩ := ih
    have hone : ∀ {s t : State} {queue active ids more}, Edits s t queue active ids more →
        s.history = new ++ p.1.history → (∀ happening ∈ more, happening.ofSlot = false) →
        ∃ new, t.history = new ++ p.1.history ∧ ∀ happening ∈ new, happening.ofSlot = false := by
      intro s t queue active ids more he hs hmore
      refine ⟨more ++ new, by rw [he.history, hs, List.append_assoc], ?_⟩
      exact List.forall_mem_append.mpr ⟨hmore, hslot⟩
    cases hpart with
    | quiet hand he => exact hone he hnew (by simp)
    | taken verdict hv he => exact hone he hnew (by simp)
    | completed e hand he => exact hone he hnew (by simp [Happening.ofSlot])
    | dropped e hand he => exact hone he hnew (by simp [Happening.ofSlot])
    | requeued e hand hlt he => exact hone he hnew (by simp [Happening.ofSlot])
    | enqueued ha he => exact hone he hnew (by simp [Happening.ofSlot])
    | cancelled hany he => exact hone he hnew (by simp [Happening.ofSlot])

theorem Cleared.history {cfg : Config} {now : Time} {s t : State} (h : Cleared cfg now s t) :
    t.history = s.history ∨ t.history = .reclaimed s.dispatchGeneration :: s.history := by
  cases h with
  | same => exact Or.inl rfl
  | overdue => exact Or.inr (reclaim_change s).history

theorem history_answered (d : Dispatch) (answer : Answer) (now : Time) (s : State) :
    (assignResponseCallback d answer now s).history = s.history ∨
    (assignResponseCallback d answer now s).history =
      .accepted d.missionId d.robotId d.generation :: s.history ∨
    (assignResponseCallback d answer now s).history =
      answer.refusal d.generation :: s.history := by
  by_cases hg : d.generation = s.dispatchGeneration
  · cases ha : answer.accepts with
    | true => exact Or.inr (Or.inl (assignResponse_accepted hg ha now).history)
    | false => exact Or.inr (Or.inr (assignResponse_refused hg ha now).history)
  · rw [assignResponse_stale hg]
    exact Or.inl rfl

/-! ### Acceptance in the order of the queue -/

/-- Whenever `b` was accepted, `a` had departed before. -/
def DepartsFirst (a b : String) : List Happening → Prop
  | [] => True
  | happening :: past =>
    (∀ r g, happening = .accepted b r g → Departed a past) ∧ DepartsFirst a b past

section

variable {a b : String}

theorem DepartsFirst.append {past : List Happening} (h : DepartsFirst a b past)
    {new : List Happening} (hn : ∀ happening ∈ new, happening.ofSlot = false) :
    DepartsFirst a b (new ++ past) := by
  induction new with
  | nil => exact h
  | cons happening new ih =>
    obtain ⟨hhead, htail⟩ := List.forall_mem_cons.mp hn
    refine ⟨fun r g heq => ?_, ih htail⟩
    subst heq
    simp [Happening.ofSlot] at hhead

theorem DepartsFirst.older {newer older : List Happening} {r : String} {g : Nat}
    (h : DepartsFirst a b (newer ++ .accepted b r g :: older)) : Departed a older := by
  induction newer with
  | nil => exact h.1 r g rfl
  | cons happening newer ih => exact ih h.2

/-- `a` has departed when a request for `b` is outstanding or was accepted. -/
structure World.Precedes (w : World) (a b : String) : Prop where
  history : DepartsFirst a b w.node.history
  called : ∀ d ∈ w.calls, d.missionId = b → Departed a w.node.history

theorem precedes_step {cfg : Config} {w v : World} {e : Event} (h : w.Precedes a b)
    (ht : Turn cfg w e v)
    (hsent : ∀ d, v.calls = d :: w.calls → d.missionId = b → Departed a w.node.history) :
    v.Precedes a b := by
  cases ht with
  | parts hparts =>
    obtain ⟨new, hnew, hslot⟩ := Parts.history hparts
    dsimp only at hnew
    refine ⟨?_, fun d hd hid => ?_⟩
    · rw [hnew]
      exact h.history.append hslot
    · rw [hnew]
      exact (h.called d hd hid).append new
  | cleared now ready hc =>
    rcases hc.history with heq | heq
    · refine ⟨heq ▸ h.history, fun d hd hid => heq ▸ h.called d hd hid⟩
    · refine ⟨?_, fun d hd hid => ?_⟩ <;> rw [heq]
      · exact ⟨by simp, h.history⟩
      · exact (h.called d hd hid).append [_]
  | @sent t mission robot now ready hc _ _ _ _ =>
    have hhistory := (sendDispatch_change mission robot now t).history
    have hbase : DepartsFirst a b t.history ∧ ∀ d ∈ w.calls, d.missionId = b →
        Departed a t.history := by
      rcases hc.history with heq | heq <;> rw [heq]
      · exact ⟨h.history, h.called⟩
      · exact ⟨⟨by simp, h.history⟩, fun d hd hid => (h.called d hd hid).append [_]⟩
    refine ⟨?_, fun d hd hid => ?_⟩ <;> rw [hhistory]
    · exact ⟨by simp, hbase.1⟩
    · rcases List.mem_cons.mp hd with heq | hd
      · have hleft := hsent d (by rw [heq]) hid
        rcases hc.history with hsame | hmore
        · rw [hsame]
          exact hleft.append [_]
        · rw [hmore]
          exact hleft.append [_, _]
      · exact (hbase.2 d hd hid).append [_]
  | @answered d answer now hd =>
    have hcalls : ∀ other ∈ w.calls.erase d, other.missionId = b → Departed a w.node.history :=
      fun other ho => h.called other (List.mem_of_mem_erase ho)
    rcases history_answered d answer now w.node with heq | heq | heq
    · exact ⟨heq ▸ h.history, heq ▸ hcalls⟩
    · refine ⟨?_, fun other ho hid => ?_⟩ <;> rw [heq]
      · refine ⟨fun r g hacc => ?_, h.history⟩
        injection hacc with hid
        exact h.called d hd hid
      · exact (hcalls other ho hid).append [_]
    · refine ⟨?_, fun other ho hid => ?_⟩ <;> rw [heq]
      · refine ⟨fun r g hacc => ?_, h.history⟩
        cases answer <;> cases hacc
      · exact (hcalls other ho hid).append [_]

end

/-! ### Records of one run -/

section

variable {cfg : Config} {startedAt : Time} {w v : World} {mission : QueuedMission}

theorem queued_step {e : Event} (hs : StepCase cfg w e v) (hm : mission ∈ v.node.missionQueue) :
    mission ∈ w.node.missionQueue ∨ ¬ Issued w.node.missionCounter mission.missionId := by
  cases hs with
  | moves h => exact h.records mission hm
  | cleared now ready hc => exact Or.inl (hc.freed.missionQueue ▸ hm)
  | sent now ready hc _ _ _ => exact Or.inl (hc.freed.missionQueue ▸ hm)
  | @answered d answer now hd =>
    refine Or.inl ?_
    by_cases hg : d.generation = w.node.dispatchGeneration
    · cases ha : answer.accepts with
      | true =>
        rw [(assignResponse_accepted hg ha now).missionQueue] at hm
        exact (List.mem_filter.mp hm).1
      | false => exact (assignResponse_refused hg ha now).missionQueue ▸ hm
    · rwa [assignResponse_stale hg] at hm

theorem counter_step {e : Event} (hs : StepCase cfg w e v) :
    w.node.missionCounter ≤ v.node.missionCounter := by
  cases hs with
  | moves h => exact h.counter
  | cleared now ready hc =>
    cases hc with
    | same => exact Nat.le_refl _
    | overdue => exact (reclaim_change w.node).missionCounter.ge
  | @sent t mission robot now ready hc _ _ _ =>
    cases hc with
    | same => exact Nat.le_refl _
    | overdue => exact (reclaim_change w.node).missionCounter.ge
  | @answered d answer now hd =>
    by_cases hg : d.generation = w.node.dispatchGeneration
    · cases ha : answer.accepts with
      | true => exact (assignResponse_accepted hg ha now).missionCounter.ge
      | false => exact (assignResponse_refused hg ha now).missionCounter.ge
    · rw [assignResponse_stale hg]

theorem queued_back {es : List Event} (h : (machine cfg startedAt).runFrom w es = some v)
    (hm : mission ∈ v.node.missionQueue) (hi : Issued w.node.missionCounter mission.missionId) :
    mission ∈ w.node.missionQueue := by
  induction es generalizing w with
  | nil =>
    cases h
    exact hm
  | cons e es ih =>
    obtain ⟨u, hu, hv⟩ := Option.bind_eq_some_iff.mp h
    have hs : StepCase cfg w e u := step_cases hu
    rcases queued_step hs (ih hv (hi.mono (counter_step hs))) with hq | hn
    · exact hq
    · exact absurd hi hn

theorem waits_step {e : Event} (hw : w.Inv) (ht : Turn cfg w e v)
    (h : mission ∈ w.node.missionQueue ∨ Departed mission.missionId w.node.history) :
    mission ∈ v.node.missionQueue ∨ Departed mission.missionId v.node.history := by
  have hcleared : ∀ {now t}, Cleared cfg now w.node t →
      mission ∈ t.missionQueue ∨ Departed mission.missionId t.history := by
    intro now t hc
    rw [hc.freed.missionQueue]
    rcases hc.history with heq | heq <;> rw [heq]
    · exact h
    · exact h.imp id fun hd => hd.append [_]
  cases ht with
  | parts hparts =>
    exact Parts.invariant (P := fun p => mission ∈ p.1.missionQueue ∨
      Departed mission.missionId p.1.history) (fun _ _ hp _ => part_waits hp) hparts hw.tracks h
  | cleared now ready hc => exact hcleared hc
  | @sent t mission' robot now ready hc _ _ _ _ =>
    exact (hcleared hc).imp id fun hd => hd.append [_]
  | @answered d answer now hd =>
    rcases h with hq | hleft
    · exact waits_answered d answer now hq
    · refine Or.inr ?_
      rcases history_answered d answer now w.node with heq | heq | heq <;> rw [heq]
      · exact hleft
      · exact hleft.append [_]
      · exact hleft.append [_]

theorem waits_run {es : List Event} (hw : w.Inv)
    (h : (machine cfg startedAt).runFrom w es = some v) (hm : mission ∈ w.node.missionQueue) :
    mission ∈ v.node.missionQueue ∨ Departed mission.missionId v.node.history := by
  have hboth : v.Inv ∧
      (mission ∈ v.node.missionQueue ∨ Departed mission.missionId v.node.history) := by
    refine Machine.runFrom_invariant (P := fun w : World => w.Inv ∧
      (mission ∈ w.node.missionQueue ∨ Departed mission.missionId w.node.history)) ?_
      ⟨hw, Or.inl hm⟩ h
    intro u e t hu hstep
    have hturn := step_turn (w := u) (e := e) hstep
    exact ⟨inv_step hu.1 (step_cases (w := u) (e := e) hstep), waits_step hu.1 hturn hu.2⟩
  exact hboth.2

theorem queued_issued (hw : w.Inv) (hm : mission ∈ w.node.missionQueue) :
    Issued w.node.missionCounter mission.missionId :=
  Ledger.Tracks.names_issued hw.tracks _ (mem_members_of_queued (List.mem_map_of_mem hm))

theorem queued_unique (hw : w.Inv) {other : QueuedMission} (hm : mission ∈ w.node.missionQueue)
    (ho : other ∈ w.node.missionQueue) (hid : mission.missionId = other.missionId) :
    mission = other := by
  have hnodup : w.node.queueIds.Nodup :=
    (Ledger.Tracks.names_nodup hw.tracks).sublist (List.sublist_append_left _ _)
  exact List.inj_on_of_nodup_map hnodup hm ho hid

variable {es : List Event}

theorem record_unique {other : QueuedMission} (hw : (machine cfg startedAt).Visits es w)
    (hv : (machine cfg startedAt).Visits es v) (hm : mission ∈ w.node.missionQueue)
    (ho : other ∈ v.node.missionQueue) (hid : mission.missionId = other.missionId) :
    mission = other := by
  have hinvw := reachable_inv hw.reachable
  have hinvv := reachable_inv hv.reachable
  rcases hw.between hv with ⟨mid, hrun⟩ | ⟨mid, hrun⟩
  · have hback := queued_back hrun ho (hid ▸ queued_issued hinvw hm)
    exact queued_unique hinvw hm hback hid
  · have hback := queued_back hrun hm (hid ▸ queued_issued hinvv ho)
    exact queued_unique hinvv hback ho hid

theorem departed_before_sent {a b : QueuedMission} {x y u t : World} {e : Event} {d : Dispatch}
    (hx : (machine cfg startedAt).Visits es x) (ha : a ∈ x.node.missionQueue)
    (hy : (machine cfg startedAt).Visits es y) (hb : b ∈ y.node.missionQueue)
    (hpriority : a.priority = b.priority) (hsequence : a.sequence < b.sequence)
    (htake : (machine cfg startedAt).Takes es u e t) (hd : t.calls = d :: u.calls)
    (hid : d.missionId = b.missionId) : Departed a.missionId u.node.history := by
  have hu := htake.visits
  have hinv := reachable_inv hu.reachable
  have hordered := reachable_ordered hu.reachable
  have hturn : Turn cfg u e t := step_turn htake.step_eq
  obtain ⟨now, ready, _, hforemost⟩ := foremost_step hordered hturn hd
  obtain ⟨mission, hm, hmid, _, hfirst⟩ := hforemost.mission
  have hmb : mission = b := record_unique hu hy hm hb (hmid.symm.trans hid)
  subst hmb
  have hwaits : a ∈ u.node.missionQueue ∨ Departed a.missionId u.node.history := by
    rcases hx.between hu with ⟨mid, hrun⟩ | ⟨mid, hrun⟩
    · exact waits_run (reachable_inv hx.reachable) hrun ha
    · have haid := ((reachable_ordered hx.reachable).sequences a ha).2
      have hlt := (hordered.sequences mission hm).1
      have hcounter := hordered.counter
      exact Or.inl (queued_back hrun ha ⟨a.sequence, by omega, haid⟩)
  rcases hwaits with hq | hleft
  · exact absurd (Or.inr ⟨hpriority, hsequence⟩) (hfirst a hq)
  · exact hleft

end

theorem priority_fifo_order {cfg : Config} {startedAt : Time} {es : List Event} {w : World}
    (h : (machine cfg startedAt).run es = some w) :
    (∀ u, (machine cfg startedAt).Visits es u → u.node.Ordered) ∧
    (∀ u e v d, (machine cfg startedAt).Takes es u e v → v.calls = d :: u.calls →
      ∃ now ready, e = .processQueue now ready ∧ Foremost cfg now u.node d) ∧
    (∀ (a b : QueuedMission) (x y : World),
      (machine cfg startedAt).Visits es x → a ∈ x.node.missionQueue →
      (machine cfg startedAt).Visits es y → b ∈ y.node.missionQueue →
      a.priority = b.priority → a.sequence < b.sequence →
      .cancelled a.missionId ∉ w.node.history → ∀ newer older r g,
      w.node.history = newer ++ .accepted b.missionId r g :: older →
      ∃ r' g', .accepted a.missionId r' g' ∈ older) := by
  refine ⟨fun u hu => reachable_ordered hu.reachable, ?_, ?_⟩
  · intro u e v d htake hd
    exact foremost_step (reachable_ordered htake.visits.reachable) (step_turn htake.step_eq) hd
  · intro a b x y hx ha hy hb hpriority hsequence hkept newer older r g hhistory
    have hprecedes : w.Precedes a.missionId b.missionId := by
      refine Machine.visits_invariant (m := machine cfg startedAt)
        (P := fun w : World => w.Precedes a.missionId b.missionId)
        (C := fun u _ t => ∀ d, t.calls = d :: u.calls → d.missionId = b.missionId →
          Departed a.missionId u.node.history) ?_ ?_ ?_ ⟨es, List.prefix_refl es, h⟩
      · exact ⟨trivial, by simp [machine]⟩
      · exact fun u e t hu hC hstep => precedes_step hu (step_turn hstep) hC
      · intro u e t htake d hd hid
        exact departed_before_sent hx ha hy hb hpriority hsequence htake hd hid
    rcases (hhistory ▸ hprecedes.history).older with hc | hacc
    · refine absurd ?_ hkept
      rw [hhistory]
      exact List.mem_append_right _ (List.mem_cons_of_mem _ hc)
    · exact hacc

/-- Two missions of one priority, each accepted by a robot. -/
def queuedRun : List Event :=
  let robot (robotId : String) (batteryPercentage : Rat) : FleetRobotState :=
    ⟨robotId, true, false, RobotHeartbeat.stateIdle, batteryPercentage, true, "", seconds 2⟩
  [.systemReady true,
    .dispatchPatrol (seconds 1),
    .queueMission ⟨"charge", 0, {}, false⟩ (seconds 1),
    .fleetState ⟨seconds 2, [robot "robot1" 60, robot "robot2" 90]⟩ (seconds 2) []]

def acceptedRun : List Event :=
  queuedRun ++
  [.processQueue (seconds 3) true,
    .assignResponse ⟨"mission-1", "patrol", 0, {}, false, 0, "robot2", 1⟩ (.response ⟨true, ""⟩)
      (seconds 4),
    .processQueue (seconds 5) true,
    .assignResponse ⟨"mission-2", "charge", 0, {}, false, 0, "robot1", 2⟩ (.response ⟨true, ""⟩)
      (seconds 6)]

def queuedWorld : World := ((machine {} 0).run queuedRun).get (by decide)

def acceptedWorld : World := ((machine {} 0).run acceptedRun).get (by decide)

theorem priority_fifo_order_accepted :
    (∃ r g, .accepted "mission-1" r g ∈ acceptedWorld.node.history.tail) ∧
      acceptedWorld.node.Ordered := by
  have hrun : (machine {} 0).run acceptedRun = some acceptedWorld := rfl
  obtain ⟨hordered, _, hfifo⟩ := priority_fifo_order hrun
  have hqueued : (machine {} 0).Visits acceptedRun queuedWorld :=
    ⟨queuedRun, List.prefix_append .., rfl⟩
  refine ⟨?_, hordered acceptedWorld ⟨acceptedRun, List.prefix_refl _, rfl⟩⟩
  exact hfifo ⟨"mission-1", "patrol", 0, 0, {}, false, 0⟩
    ⟨"mission-2", "charge", 0, 1, {}, false, 0⟩
    queuedWorld queuedWorld hqueued (by decide) hqueued (by decide) rfl (by decide) (by decide)
    [] acceptedWorld.node.history.tail "robot1" 2 (by decide)

end PatrolFleet.Scheduler
