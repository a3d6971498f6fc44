import PatrolFleet.Scheduler.Invariant

/-!
What becomes of a dispatch: it is given up, rejected or accepted, or it holds
the slot. An accepted mission is never dispatched again.
-/

set_option autoImplicit false

namespace PatrolFleet.Scheduler

/-- The scheduler has stopped waiting for the answer to the dispatch, or could not
read it. -/
def State.GivenUp (s : State) (generation : Nat) : Prop :=
  .reclaimed generation ∈ s.slotHistory ∨ .raised generation ∈ s.slotHistory

instance (s : State) (generation : Nat) : Decidable (s.GivenUp generation) :=
  inferInstanceAs (Decidable (_ ∨ _))

/-- The dispatches of a mission that were given up. -/
def State.dispatchesGivenUp (s : State) (missionId : String) : List Nat :=
  s.slotHistory.filterMap fun
    | .dispatched m _ g => if m = missionId ∧ s.GivenUp g then some g else none
    | _ => none

structure World.Slots (w : World) : Prop where
  called : ∀ d ∈ w.calls,
    .dispatched d.missionId d.robotId d.generation ∈ w.node.slotHistory
  dispatched_le : ∀ m r g, .dispatched m r g ∈ w.node.slotHistory →
    g ≤ w.node.dispatchGeneration
  dispatched_unique : ∀ m r m' r' g, .dispatched m r g ∈ w.node.slotHistory →
    .dispatched m' r' g ∈ w.node.slotHistory → m = m' ∧ r = r'
  fate : ∀ m r g, .dispatched m r g ∈ w.node.slotHistory →
    w.node.GivenUp g ∨ .rejected g ∈ w.node.slotHistory ∨
      .accepted m r g ∈ w.node.slotHistory ∨
      (g = w.node.dispatchGeneration ∧ w.node.dispatchInProgress = true)
  accepted_once : ∀ m r g r' g', .accepted m r g ∈ w.node.slotHistory →
    .accepted m r' g' ∈ w.node.slotHistory → g = g'
  accepted_done : ∀ m r g, .accepted m r g ∈ w.node.slotHistory →
    Issued w.node.missionCounter m ∧ m ∉ w.node.queueIds
  rejected_le : ∀ g, .rejected g ∈ w.node.slotHistory → g ≤ w.node.dispatchGeneration
  holder_open : ∀ m r, .dispatched m r w.node.dispatchGeneration ∈ w.node.slotHistory →
    w.node.dispatchInProgress = true → ∀ r' g, .accepted m r' g ∉ w.node.slotHistory

theorem slots_init (startedAt : Time) : World.Slots ⟨State.init startedAt, []⟩ := by
  have hnone : (State.init startedAt).slotHistory = [] := rfl
  constructor <;> simp [hnone]

section

variable {w : World}

theorem World.Slots.moves (h : w.Slots) {node : State} (hm : Moves w.node [] node []) :
    World.Slots ⟨node, w.calls⟩ := by
  have hgiven : ∀ g, w.node.GivenUp g → node.GivenUp g := by
    intro g hg
    unfold State.GivenUp
    rwa [hm.slots]
  constructor
  · simpa [hm.slots] using h.called
  · simpa [hm.slots, hm.generation] using h.dispatched_le
  · simpa [hm.slots] using h.dispatched_unique
  · intro m r g hd
    simp only [hm.slots, hm.generation, hm.inProgress] at hd ⊢
    exact (h.fate m r g hd).imp_left (hgiven g)
  · simpa [hm.slots] using h.accepted_once
  · intro m r g ha
    obtain ⟨hi, hq⟩ := h.accepted_done m r g (hm.slots ▸ ha)
    refine ⟨hi.mono hm.counter, ?_⟩
    intro hmem
    obtain ⟨mission, hmission, rfl⟩ := List.mem_map.mp hmem
    cases hm.records mission hmission with
    | inl hold => exact hq (List.mem_map_of_mem hold)
    | inr hnew => exact hnew hi
  · simpa [hm.slots, hm.generation] using h.rejected_le
  · intro m r hd hp
    simp only [hm.slots, hm.generation, hm.inProgress] at hd hp ⊢
    exact h.holder_open m r hd hp

theorem World.Slots.withdraw (h : w.Slots) (d : Dispatch) :
    World.Slots ⟨w.node, w.calls.erase d⟩ :=
  ⟨fun other ho => h.called other (List.mem_of_mem_erase ho), h.dispatched_le,
    h.dispatched_unique, h.fate, h.accepted_once, h.accepted_done, h.rejected_le, h.holder_open⟩

theorem World.Slots.freed (h : w.Slots) {t : State} {calls : List Dispatch}
    {happening : Happening} {generation : Nat}
    (hcalls : calls ⊆ w.calls)
    (hc : SlotChange w.node t w.node.missionQueue w.node.activeMissions happening generation
      false)
    (hg : w.node.dispatchGeneration ≤ generation)
    (hhow : happening = .reclaimed w.node.dispatchGeneration ∨
      happening = .raised w.node.dispatchGeneration ∨
      happening = .rejected w.node.dispatchGeneration) : World.Slots ⟨t, calls⟩ := by
  have hslots : t.slotHistory = happening :: w.node.slotHistory := hc.slotHistory
  have hold : ∀ m r g, .dispatched m r g ∈ t.slotHistory →
      .dispatched m r g ∈ w.node.slotHistory := by
    intro m r g
    rw [hslots]
    rcases hhow with rfl | rfl | rfl <;> simp
  have haccepted : ∀ m r g, .accepted m r g ∈ t.slotHistory →
      .accepted m r g ∈ w.node.slotHistory := by
    intro m r g
    rw [hslots]
    rcases hhow with rfl | rfl | rfl <;> simp
  have hkept : ∀ x ∈ w.node.slotHistory, x ∈ t.slotHistory := by
    intro x hx
    rw [hslots]
    exact List.mem_cons_of_mem _ hx
  constructor
  · exact fun d hd => hkept _ (h.called d (hcalls hd))
  · intro m r g hd
    have := h.dispatched_le m r g (hold m r g hd)
    simp only [hc.dispatchGeneration]
    omega
  · exact fun m r m' r' g hd hd' => h.dispatched_unique m r m' r' g (hold _ _ _ hd) (hold _ _ _ hd')
  · intro m r g hd
    rcases h.fate m r g (hold m r g hd) with hgiven | hrejected | ha | ⟨rfl, _⟩
    · exact Or.inl (hgiven.imp (hkept _) (hkept _))
    · exact Or.inr (Or.inl (hkept _ hrejected))
    · exact Or.inr (Or.inr (Or.inl (hkept _ ha)))
    · have hhead : happening ∈ t.slotHistory := by simp [hslots]
      rcases hhow with rfl | rfl | rfl
      · exact Or.inl (Or.inl hhead)
      · exact Or.inl (Or.inr hhead)
      · exact Or.inr (Or.inl hhead)
  · exact fun m r g r' g' ha ha' => h.accepted_once m r g r' g' (haccepted _ _ _ ha)
      (haccepted _ _ _ ha')
  · intro m r g ha
    have hdone := h.accepted_done m r g (haccepted m r g ha)
    simpa [State.queueIds, hc.missionQueue, hc.missionCounter] using hdone
  · intro g hrejected
    have hg' : g ≤ w.node.dispatchGeneration := by
      rw [hslots] at hrejected
      rcases hhow with rfl | rfl | rfl <;> simp at hrejected
      · exact h.rejected_le g hrejected
      · exact h.rejected_le g hrejected
      · cases hrejected with
        | inl heq => omega
        | inr hold => exact h.rejected_le g hold
    simp only [hc.dispatchGeneration]
    omega
  · simp [hc.dispatchInProgress]

theorem World.Slots.cleared (h : w.Slots) {cfg : Config} {now : Time} {t : State}
    (ht : Cleared cfg now w.node t) : World.Slots ⟨t, w.calls⟩ := by
  cases ht with
  | same => exact h
  | overdue =>
    exact h.freed (List.Subset.refl _) (reclaim_change w.node) (Nat.le_succ _) (Or.inl rfl)

theorem World.Slots.sent (h : w.Slots) (hp : w.node.dispatchInProgress = false)
    {mission : QueuedMission} (hm : getNextMission w.node = some mission)
    (robot : CandidateRobot) (now : Time) :
    World.Slots ⟨(sendDispatch mission robot now w.node).1,
      (sendDispatch mission robot now w.node).2 :: w.calls⟩ := by
  have hc := sendDispatch_change mission robot now w.node
  have hslots := hc.slotHistory
  have hqueued : mission.missionId ∈ w.node.queueIds :=
    List.mem_map_of_mem (List.mem_of_mem_head? hm)
  have hnew : ∀ m r g, .dispatched m r g ∈ w.node.slotHistory →
      g ≠ w.node.dispatchGeneration + 1 := by
    intro m r g hd
    have := h.dispatched_le m r g hd
    omega
  have hkept : ∀ x ∈ w.node.slotHistory,
      x ∈ (sendDispatch mission robot now w.node).1.slotHistory := by
    intro x hx
    rw [hslots]
    exact List.mem_cons_of_mem _ hx
  constructor
  · intro d hd
    cases List.mem_cons.mp hd with
    | inl heq =>
      subst heq
      simp only [hslots]
      exact List.mem_cons_self
    | inr hd => exact hkept _ (h.called d hd)
  · intro m r g hd
    simp only [hslots, List.mem_cons, Happening.dispatched.injEq] at hd
    simp only [hc.dispatchGeneration]
    rcases hd with ⟨_, _, rfl⟩ | hd
    · omega
    · have := h.dispatched_le m r g hd
      omega
  · intro m r m' r' g hd hd'
    simp only [hslots, List.mem_cons, Happening.dispatched.injEq] at hd hd'
    rcases hd with ⟨rfl, rfl, rfl⟩ | hd <;> rcases hd' with ⟨rfl, rfl, hg⟩ | hd'
    · exact ⟨rfl, rfl⟩
    · exact absurd rfl (hnew m' r' _ hd')
    · exact absurd hg (hnew m r g hd)
    · exact h.dispatched_unique m r m' r' g hd hd'
  · intro m r g hd
    simp only [hslots, List.mem_cons, Happening.dispatched.injEq] at hd
    rcases hd with ⟨_, _, rfl⟩ | hd
    · exact Or.inr (Or.inr (Or.inr ⟨hc.dispatchGeneration.symm, hc.dispatchInProgress⟩))
    · rcases h.fate m r g hd with hgiven | hrejected | ha | ⟨_, hbusy⟩
      · exact Or.inl (hgiven.imp (hkept _) (hkept _))
      · exact Or.inr (Or.inl (hkept _ hrejected))
      · exact Or.inr (Or.inr (Or.inl (hkept _ ha)))
      · simp [hp] at hbusy
  · intro m r g r' g' ha ha'
    simp only [hslots, List.mem_cons, reduceCtorEq, false_or] at ha ha'
    exact h.accepted_once m r g r' g' ha ha'
  · intro m r g ha
    simp only [hslots, List.mem_cons, reduceCtorEq, false_or] at ha
    exact h.accepted_done m r g ha
  · intro g hrejected
    simp only [hslots, List.mem_cons, reduceCtorEq, false_or] at hrejected
    exact Nat.le_succ_of_le (h.rejected_le g hrejected)
  · intro m r hd _ r' g ha
    simp only [hslots, hc.dispatchGeneration, List.mem_cons, Happening.dispatched.injEq,
      reduceCtorEq, false_or] at hd ha
    rcases hd with ⟨rfl, _, _⟩ | hd
    · exact (h.accepted_done _ r' g ha).2 hqueued
    · exact hnew m r _ hd rfl

theorem World.Slots.answered (h : w.Slots) (hw : w.Inv) {d : Dispatch} (hd : d ∈ w.calls)
    (answer : Answer) (now : Time) :
    World.Slots ⟨assignResponseCallback d answer now w.node, w.calls.erase d⟩ := by
  by_cases hg : d.generation = w.node.dispatchGeneration
  · cases ha : answer.accepts with
    | false =>
      have hc := assignResponse_refused hg ha now
      refine h.freed List.erase_subset hc (Nat.le_refl _) ?_
      cases answer <;> simp [Answer.refusal, hg]
    | true =>
      have hc := assignResponse_accepted hg ha now
      have hslots := hc.slotHistory
      have hcalled := h.called d hd
      have hbusy := hw.inProgress d hd hg
      have hopen := h.holder_open d.missionId d.robotId (hg ▸ hcalled) hbusy
      have hkept : ∀ x ∈ w.node.slotHistory,
          x ∈ (assignResponseCallback d answer now w.node).slotHistory := by
        intro x hx
        rw [hslots]
        exact List.mem_cons_of_mem _ hx
      constructor
      · exact fun other ho => hkept _ (h.called other (List.mem_of_mem_erase ho))
      · simpa [hslots, hc.dispatchGeneration] using h.dispatched_le
      · simpa [hslots] using h.dispatched_unique
      · intro m r g hdis
        simp only [hslots, List.mem_cons, reduceCtorEq, false_or] at hdis
        rcases h.fate m r g hdis with hgiven | hrejected | haccepted | ⟨rfl, _⟩
        · exact Or.inl (hgiven.imp (hkept _) (hkept _))
        · exact Or.inr (Or.inl (hkept _ hrejected))
        · exact Or.inr (Or.inr (Or.inl (hkept _ haccepted)))
        · obtain ⟨rfl, rfl⟩ := h.dispatched_unique _ _ _ _ _ hdis (hg ▸ hcalled)
          refine Or.inr (Or.inr (Or.inl ?_))
          simp [hslots, hg]
      · intro m r g r' g' ha ha'
        simp only [hslots, List.mem_cons, Happening.accepted.injEq] at ha ha'
        rcases ha with ⟨rfl, _, rfl⟩ | ha <;> rcases ha' with ⟨hm, _, hg'⟩ | ha'
        · exact hg'.symm
        · exact absurd ha' (hopen _ _)
        · exact absurd (hm ▸ ha) (hopen _ _)
        · exact h.accepted_once m r g r' g' ha ha'
      · intro m r g ha
        simp only [hslots, List.mem_cons, Happening.accepted.injEq] at ha
        simp only [State.queueIds, hc.missionQueue, hc.missionCounter]
        rcases ha with ⟨rfl, _, _⟩ | ha
        · exact ⟨hw.issued d hd, by simp⟩
        · obtain ⟨hi, hq⟩ := h.accepted_done m r g ha
          exact ⟨hi, fun hmem => hq (List.map_subset _ (List.filter_subset_self _) hmem)⟩
      · simpa [hslots, hc.dispatchGeneration] using h.rejected_le
      · simp [hc.dispatchInProgress]
  · rw [assignResponse_stale hg]
    exact h.withdraw d

end

theorem slots_step {cfg : Config} {w v : World} {e : Event} (hw : w.Inv) (h : w.Slots)
    (hs : StepCase cfg w e v) : v.Slots := by
  cases hs with
  | moves hm => exact h.moves hm
  | cleared now ready ht => exact h.cleared ht
  | sent now ready ht hp hm _ => exact (h.cleared ht).sent hp hm _ now
  | answered answer now hd => exact h.answered hw hd answer now

theorem reachable_slots {cfg : Config} {startedAt : Time} {w : World}
    (h : (machine cfg startedAt).Reachable w) : w.Slots := by
  have hboth : w.Inv ∧ w.Slots := by
    refine Machine.Reachable.invariant (P := fun w => w.Inv ∧ w.Slots) ?_ ?_ h
    · exact ⟨inv_init startedAt, slots_init startedAt⟩
    · intro u e v hu hstep
      have hcase := step_cases (w := u) (e := e) hstep
      exact ⟨inv_step hu.1 hcase, slots_step hu.1 hu.2 hcase⟩
  exact hboth.2

theorem mem_dispatchesGivenUp {s : State} {m r : String} {g : Nat}
    (hd : .dispatched m r g ∈ s.slotHistory) (hg : s.GivenUp g) : g ∈ s.dispatchesGivenUp m :=
  List.mem_filterMap.mpr ⟨_, hd, by simp [hg]⟩

/-- Of the dispatches of one mission that were neither given up nor rejected there
is only one: the accepted one, or the one that holds the slot. -/
theorem World.Slots.standing_unique {w : World} (h : w.Slots) {m r r' : String} {g g' : Nat}
    (hd : .dispatched m r g ∈ w.node.slotHistory) (hd' : .dispatched m r' g' ∈ w.node.slotHistory)
    (hgiven : ¬ w.node.GivenUp g) (hgiven' : ¬ w.node.GivenUp g')
    (hrej : .rejected g ∉ w.node.slotHistory) (hrej' : .rejected g' ∉ w.node.slotHistory) :
    g = g' := by
  rcases h.fate m r g hd with hx | hx | ha | ⟨rfl, hp⟩
  · exact absurd hx hgiven
  · exact absurd hx hrej
  · rcases h.fate m r' g' hd' with hx | hx | ha' | ⟨rfl, hp'⟩
    · exact absurd hx hgiven'
    · exact absurd hx hrej'
    · exact h.accepted_once m r g r' g' ha ha'
    · exact absurd ha (h.holder_open m r' hd' hp' r g)
  · rcases h.fate m r' g' hd' with hx | hx | ha' | ⟨rfl, _⟩
    · exact absurd hx hgiven'
    · exact absurd hx hrej'
    · exact absurd ha' (h.holder_open m r hd hp r' g')
    · rfl

/-! ### What a step adds to the history of the slot -/

def Event.isAnswer : Event → Bool
  | .assignResponse _ _ _ => true
  | _ => false

section

variable {cfg : Config} {w v : World} {e : Event}

theorem slotHistory_answered (d : Dispatch) (answer : Answer) (now : Time) (s : State) :
    (assignResponseCallback d answer now s).slotHistory = s.slotHistory ∨
    (assignResponseCallback d answer now s).slotHistory =
      .accepted d.missionId d.robotId d.generation :: s.slotHistory ∨
    (answer.accepts = false ∧ (assignResponseCallback d answer now s).slotHistory =
      answer.refusal d.generation :: s.slotHistory) := by
  by_cases hg : d.generation = s.dispatchGeneration
  · cases ha : answer.accepts with
    | true => exact Or.inr (Or.inl (assignResponse_accepted hg ha now).slotHistory)
    | false => exact Or.inr (Or.inr ⟨rfl, (assignResponse_refused hg ha now).slotHistory⟩)
  · rw [assignResponse_stale hg]
    exact Or.inl rfl

theorem slotHistory_cleared {now : Time} {s t : State} (h : Cleared cfg now s t) :
    t.slotHistory = s.slotHistory ∨
      t.slotHistory = .reclaimed s.dispatchGeneration :: s.slotHistory := by
  cases h with
  | same => exact Or.inl rfl
  | overdue => exact Or.inr (reclaim_change s).slotHistory

theorem slotHistory_kept (hs : StepCase cfg w e v) : w.node.slotHistory ⊆ v.node.slotHistory := by
  cases hs with
  | moves hm => simp [hm.slots]
  | cleared now ready ht => rcases slotHistory_cleared ht with heq | heq <;> simp [heq]
  | sent now ready ht _ _ _ =>
    rw [(sendDispatch_change _ _ now _).slotHistory]
    rcases slotHistory_cleared ht with heq | heq <;> simp [heq]
  | @answered d answer now hd =>
    rcases slotHistory_answered d answer now w.node with heq | heq | ⟨_, heq⟩ <;> simp [heq]

theorem rejected_step (hs : StepCase cfg w e v) {g : Nat}
    (hg : .rejected g ∈ v.node.slotHistory) : .rejected g ∈ w.node.slotHistory ∨
      ∃ d response now, e = .assignResponse d (.response response) now ∧
        response.success = false ∧ g = d.generation := by
  cases hs with
  | moves hm => exact Or.inl (by simpa [hm.slots] using hg)
  | cleared now ready ht =>
    rcases slotHistory_cleared ht with heq | heq <;> exact Or.inl (by simpa [heq] using hg)
  | sent now ready ht _ _ _ =>
    simp only [(sendDispatch_change _ _ now _).slotHistory] at hg
    rcases slotHistory_cleared ht with heq | heq <;> exact Or.inl (by simpa [heq] using hg)
  | @answered d answer now hd =>
    rcases slotHistory_answered d answer now w.node with heq | heq | ⟨ha, heq⟩
    · exact Or.inl (by simpa [heq] using hg)
    · exact Or.inl (by simpa [heq] using hg)
    · simp only [heq, List.mem_cons] at hg
      cases hg with
      | inr hold => exact Or.inl hold
      | inl hnew =>
        cases answer with
        | exception what => cases hnew
        | response r =>
          cases hnew
          exact Or.inr ⟨d, r, now, rfl, ha, rfl⟩

theorem calls_step (hs : StepCase cfg w e v) (he : e.isAnswer = false) :
    v.calls = w.calls ∨ ∃ d, v.calls = d :: w.calls ∧
      w.node.dispatchGeneration < d.generation ∧
      .dispatched d.missionId d.robotId d.generation ∈ v.node.slotHistory := by
  cases hs with
  | moves hm => exact Or.inl rfl
  | cleared now ready ht => exact Or.inl rfl
  | @sent t mission robot now ready ht _ _ _ =>
    have hc := sendDispatch_change mission robot now t
    refine Or.inr ⟨(sendDispatch mission robot now t).2, rfl, ?_, ?_⟩
    · have hle : w.node.dispatchGeneration ≤ t.dispatchGeneration := by
        cases ht with
        | same => exact Nat.le_refl _
        | overdue =>
          rw [(reclaim_change w.node).dispatchGeneration]
          exact Nat.le_succ _
      exact Nat.lt_succ_of_le hle
    · simp only [hc.slotHistory]
      exact List.mem_cons_self
  | answered answer now hd => simp [Event.isAnswer] at he

end

end PatrolFleet.Scheduler
