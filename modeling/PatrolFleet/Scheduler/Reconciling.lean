import PatrolFleet.Scheduler.Callbacks

/-!
The loops of `reconcile_active_missions_locked` as one rule: what they make of a
state follows from what each turn of them does.
-/

set_option autoImplicit false

namespace PatrolFleet.Scheduler

/-! ### The fields of the slot -/

/-- The fields of the slot and the reservations. -/
structure SameSlot (s t : State) : Prop where
  reservedRobots : t.reservedRobots = s.reservedRobots
  reservationTimes : t.reservationTimes = s.reservationTimes
  dispatchInProgress : t.dispatchInProgress = s.dispatchInProgress
  dispatchStartedAt : t.dispatchStartedAt = s.dispatchStartedAt
  dispatchGeneration : t.dispatchGeneration = s.dispatchGeneration
  dispatchRobotId : t.dispatchRobotId = s.dispatchRobotId

/-- The fields that the queue and the active missions have no part in. -/
structure KeepsSlot (s t : State) : Prop extends SameSlot s t where
  systemReady : t.systemReady = s.systemReady
  latestFleetState : t.latestFleetState = s.latestFleetState
  receivedFleetState : t.receivedFleetState = s.receivedFleetState

section

variable {cfg : Config} {now : Time} {visit : List Entry} {s t u : State}

theorem KeepsSlot.refl (s : State) : KeepsSlot s s :=
  ⟨⟨rfl, rfl, rfl, rfl, rfl, rfl⟩, rfl, rfl, rfl⟩

theorem KeepsSlot.trans (h : KeepsSlot s t) (k : KeepsSlot t u) : KeepsSlot s u where
  reservedRobots := k.reservedRobots.trans h.reservedRobots
  reservationTimes := k.reservationTimes.trans h.reservationTimes
  dispatchInProgress := k.dispatchInProgress.trans h.dispatchInProgress
  dispatchStartedAt := k.dispatchStartedAt.trans h.dispatchStartedAt
  dispatchGeneration := k.dispatchGeneration.trans h.dispatchGeneration
  dispatchRobotId := k.dispatchRobotId.trans h.dispatchRobotId
  systemReady := k.systemReady.trans h.systemReady
  latestFleetState := k.latestFleetState.trans h.latestFleetState
  receivedFleetState := k.receivedFleetState.trans h.receivedFleetState

theorem keepsSlot_retryFailed (cfg : Config) (s : State) (e : Entry) :
    KeepsSlot s (retryFailed cfg s e) := by
  unfold retryFailed
  dsimp only
  split <;> exact ⟨⟨rfl, rfl, rfl, rfl, rfl, rfl⟩, rfl, rfl, rfl⟩

/-! ### The loops -/

/-- The rule for a loop: what holds of the entries that it has been through. -/
theorem foldl_rule {σ α : Type} {f : σ → α → σ} {P : σ → List α → Prop} {s : σ} (h : P s [])
    (hturn : ∀ t done a, P t done → P (f t a) (done ++ [a])) (entries : List α) :
    P (entries.foldl f s) entries := by
  induction entries using List.reverseRecOn with
  | nil => exact h
  | append_singleton entries a ih =>
    rw [List.foldl_append]
    exact hturn _ entries a ih

/-- The missions are judged, the completed ones logged and the failed ones retried; if
any has failed, the queue is published. -/
theorem reconcile_rule {P : State → List Entry → List Entry → Prop} {Q : State → Prop}
    (hidle : s.activeMissions.entries = [] → Q s)
    (htaken : P { s with activeMissions := s.activeMissions.filterMapVal fun r a =>
      (judge cfg now s.latestFleetState.robots r a).apply a } [] [])
    (hcompleted : ∀ t done e, P t done [] → P (logCompleted t e) (done ++ [e]) [])
    (hfailed : ∀ t done failed e, P t done failed → P (retryFailed cfg t e) done (failed ++ [e]))
    (hquiet : ∀ t,
      P t (visit.filter fun e => judge cfg now s.latestFleetState.robots e.1 e.2 = .complete)
        (visit.filter fun e => judge cfg now s.latestFleetState.robots e.1 e.2 = .fail) →
      (visit.filter fun e => judge cfg now s.latestFleetState.robots e.1 e.2 = .fail) = [] → Q t)
    (hpublish : ∀ t,
      P t (visit.filter fun e => judge cfg now s.latestFleetState.robots e.1 e.2 = .complete)
        (visit.filter fun e => judge cfg now s.latestFleetState.robots e.1 e.2 = .fail) →
      Q (publishQueueState now t)) :
    Q (reconcileActiveMissionsLocked cfg now visit s) := by
  unfold reconcileActiveMissionsLocked
  split
  · rename_i hempty
    exact hidle (List.isEmpty_iff.mp hempty)
  have hlogged := foldl_rule (P := fun t done => P t done []) htaken hcompleted
    (visit.filter fun e => judge cfg now s.latestFleetState.robots e.1 e.2 = .complete)
  have hretried := foldl_rule (P := fun t failed => P t _ failed) hlogged
    (fun t failed e => hfailed t _ failed e)
    (visit.filter fun e => judge cfg now s.latestFleetState.robots e.1 e.2 = .fail)
  dsimp only
  split
  · rename_i hnone
    exact hquiet _ hretried (List.isEmpty_iff.mp hnone)
  · exact hpublish _ hretried

/-- The rule for what does not depend on the entries. -/
theorem reconcile_kept {P : State → Prop} (h : P s)
    (htaken : ∀ active, P { s with activeMissions := active })
    (hcompleted : ∀ t e, P t → P (logCompleted t e))
    (hfailed : ∀ t e, P t → P (retryFailed cfg t e))
    (hpublish : ∀ t, P t → P (publishQueueState now t)) :
    P (reconcileActiveMissionsLocked cfg now visit s) :=
  reconcile_rule (P := fun t _ _ => P t) (fun _ => h) (htaken _) (fun t _ e => hcompleted t e)
    (fun t _ _ e => hfailed t e) (fun _ ht _ => ht) hpublish

theorem keepsSlot_reconcile (cfg : Config) (now : Time) (visit : List Entry) (s : State) :
    KeepsSlot s (reconcileActiveMissionsLocked cfg now visit s) := by
  refine reconcile_kept (KeepsSlot.refl s) (fun active => ?_) (fun t e ht => ?_) (fun t e ht => ?_)
    fun t ht => ?_
  · exact ⟨⟨rfl, rfl, rfl, rfl, rfl, rfl⟩, rfl, rfl, rfl⟩
  · exact ht.trans ⟨⟨rfl, rfl, rfl, rfl, rfl, rfl⟩, rfl, rfl, rfl⟩
  · exact ht.trans (keepsSlot_retryFailed cfg t e)
  · exact ht.trans ⟨⟨rfl, rfl, rfl, rfl, rfl, rfl⟩, rfl, rfl, rfl⟩

theorem missionQueue_reconcile (cfg : Config) (now : Time) (visit : List Entry) (s : State) :
    s.missionQueue ⊆ (reconcileActiveMissionsLocked cfg now visit s).missionQueue := by
  refine reconcile_kept (P := fun t => s.missionQueue ⊆ t.missionQueue) (List.Subset.refl _)
    (fun _ => List.Subset.refl _) (fun _ _ ht => ht) (fun t e ht => List.Subset.trans ht ?_)
    fun _ ht => ht
  rcases retryFailed_cases cfg t e with h | ⟨_, h⟩
  · rw [h.missionQueue]
    exact List.Subset.refl _
  · rw [h.missionQueue]
    exact fun mission hm => (enlarged_perm ..).mem_iff.mpr (List.mem_cons_of_mem _ hm)

end

end PatrolFleet.Scheduler
