import Mathlib.Logic.Relation
import PatrolFleet.Scheduler.Moves

/-!
The parts that the callbacks are made of, the dispatch slot apart: what one part
does to the queue, the active missions and the history. `reconcile` works on a
list of entries that it has taken off `active_missions_`; they are at hand.
-/

set_option autoImplicit false

namespace PatrolFleet.Scheduler

abbrev Entry := Sigma fun _ : String => ActiveMission

def entryIds (entries : List (Sigma fun _ : String => ActiveMission)) : List String :=
  entries.map (·.2.missionId)

theorem map_judged {β : Type} (f : (Sigma fun _ : String => ActiveMission) → β)
    (hf : ∀ robotId active, f ⟨robotId, { active with robotConfirmedActive := true }⟩ =
      f ⟨robotId, active⟩) (verdict : String → ActiveMission → Verdict)
    (entries : List (Sigma fun _ : String => ActiveMission)) :
    ((entries.filter fun e => verdict e.1 e.2 = .complete).map f ++
      ((entries.filter fun e => verdict e.1 e.2 = .fail).map f ++
        (entries.filterMap fun e =>
          ((verdict e.1 e.2).apply e.2).map (Sigma.mk e.1)).map f)).Perm (entries.map f) := by
  induction entries with
  | nil => exact List.Perm.refl _
  | cons e entries ih =>
    cases hv : verdict e.1 e.2 with
    | keep =>
      simp only [hv, List.filter_cons, List.filterMap_cons, Verdict.apply, Option.map_some,
        List.map_cons, reduceCtorEq, decide_false, Bool.false_eq_true, if_false]
      exact ((List.perm_middle.append_left _).trans List.perm_middle).trans (ih.cons _)
    | confirm =>
      simp only [hv, List.filter_cons, List.filterMap_cons, Verdict.apply, Option.map_some,
        List.map_cons, reduceCtorEq, decide_false, Bool.false_eq_true, if_false, hf]
      exact ((List.perm_middle.append_left _).trans List.perm_middle).trans (ih.cons _)
    | complete =>
      simp only [hv, List.filter_cons, List.filterMap_cons, Verdict.apply, Option.map_none,
        List.map_cons, reduceCtorEq, decide_false, decide_true, Bool.false_eq_true, if_false,
        if_true, List.cons_append]
      exact ih.cons _
    | fail =>
      simp only [hv, List.filter_cons, List.filterMap_cons, Verdict.apply, Option.map_none,
        List.map_cons, reduceCtorEq, decide_false, decide_true, Bool.false_eq_true, if_false,
        if_true, List.cons_append]
      exact List.perm_middle.trans (ih.cons _)

theorem entryIds_judged (verdict : String → ActiveMission → Verdict)
    (entries : List (Sigma fun _ : String => ActiveMission)) :
    (entryIds (entries.filter fun e => verdict e.1 e.2 = .complete) ++
      (entryIds (entries.filter fun e => verdict e.1 e.2 = .fail) ++
        entryIds (entries.filterMap fun e =>
          ((verdict e.1 e.2).apply e.2).map (Sigma.mk e.1)))).Perm (entryIds entries) :=
  map_judged (·.2.missionId) (fun _ _ => rfl) verdict entries

theorem missionQueue_enqueueMission (missionType : String) (priority : Int)
    (targetPose : PoseStamped) (hasTarget : Bool) (attemptCount : Nat) (s : State) :
    (enqueueMission missionType priority targetPose hasTarget attemptCount s).2.missionQueue.Perm
      (⟨missionIdOf (s.missionCounter + 1), missionType, priority, s.nextSequence, targetPose,
        hasTarget, attemptCount⟩ :: s.missionQueue) := by
  have hsort := List.perm_insertionSort
    (fun left right : QueuedMission => ¬ comesBefore right left)
    (s.missionQueue ++ [⟨missionIdOf (s.missionCounter + 1), missionType, priority,
      s.nextSequence, targetPose, hasTarget, attemptCount⟩])
  exact hsort.trans (List.perm_append_singleton _ _)

/-- What a mission asks a robot to do, and how urgent it is. -/
structure Payload where
  missionType : String
  priority : Int
  targetPose : PoseStamped
  hasTarget : Bool
  deriving DecidableEq

def QueuedMission.payload (m : QueuedMission) : Payload :=
  ⟨m.missionType, m.priority, m.targetPose, m.hasTarget⟩

def ActiveMission.payload (m : ActiveMission) : Payload :=
  ⟨m.missionType, m.priority, m.targetPose, m.hasTarget⟩

def Dispatch.payload (d : Dispatch) : Payload :=
  ⟨d.missionType, d.priority, d.targetPose, d.hasTarget⟩

/-- What an event asks the scheduler to put on its queue. -/
def Event.asks (cfg : Config) : Event → Option Payload
  | .queueMission request _ =>
    if isSupportedMissionType request.missionType then
      some ⟨request.missionType, request.priority, request.targetPose, request.hasTarget⟩
    else none
  | .dispatchPatrol _ => some ⟨"patrol", 0, {}, false⟩
  | .recurringPatrol _ => some ⟨"patrol", cfg.recurringPatrolPriority, {}, false⟩
  | _ => none

/-- What an event asks for, and the id that the state `s` has for it. -/
def Event.asksOf (cfg : Config) (s : State) (e : Event) : Option (String × Payload) :=
  (e.asks cfg).map (Prod.mk (missionIdOf (s.missionCounter + 1)))

/-- The record that `enqueue_mission` makes in the state `s`. -/
def State.newRecord (s : State) (payload : Payload) (attemptCount : Nat) : QueuedMission where
  missionId := missionIdOf (s.missionCounter + 1)
  missionType := payload.missionType
  priority := payload.priority
  sequence := s.nextSequence
  targetPose := payload.targetPose
  hasTarget := payload.hasTarget
  attemptCount := attemptCount

def State.enlarged (s : State) (payload : Payload) (attemptCount : Nat) : List QueuedMission :=
  sortQueueLocked (s.missionQueue ++ [s.newRecord payload attemptCount])

theorem enlarged_perm (s : State) (payload : Payload) (attemptCount : Nat) :
    (s.enlarged payload attemptCount).Perm (s.newRecord payload attemptCount :: s.missionQueue) :=
  missionQueue_enqueueMission ..

/-- `next_attempt_count` of a mission that failed. -/
def ActiveMission.nextAttemptCount (m : ActiveMission) : Nat :=
  (m.attemptCount + 1) % UInt32.size

/-- The change from `s` to `t`: the new queue and active missions, how many ids were
issued, and what was written to the history. -/
structure Edits (s t : State) (queue : List QueuedMission)
    (active : UnorderedMap String ActiveMission) (ids : Nat) (new : List Happening) : Prop where
  missionQueue : t.missionQueue = queue
  activeMissions : t.activeMissions = active
  nextSequence : t.nextSequence = s.nextSequence + ids
  missionCounter : t.missionCounter = s.missionCounter + ids
  history : t.history = new ++ s.history
  dispatchGeneration : t.dispatchGeneration = s.dispatchGeneration
  dispatchInProgress : t.dispatchInProgress = s.dispatchInProgress

/-- `asked` is what the event asks for, and the id it is queued under. -/
inductive Part (cfg : Config) (asked : Option (String × Payload)) :
    State × List Entry → State × List Entry → Prop where
  | quiet {s t : State} (hand : List Entry) : Edits s t s.missionQueue s.activeMissions 0 [] →
      Part cfg asked (s, hand) (t, hand)
  | taken {s t : State} (verdict : String → ActiveMission → Verdict) {visit : List Entry} :
      s.activeMissions.VisitOrder visit →
      Edits s t s.missionQueue
        (s.activeMissions.filterMapVal fun r a => (verdict r a).apply a) 0 [] →
      Part cfg asked (s, []) (t, (visit.filter fun e => verdict e.1 e.2 = .complete) ++
        visit.filter fun e => verdict e.1 e.2 = .fail)
  | completed {s t : State} (e : Entry) (hand : List Entry) :
      Edits s t s.missionQueue s.activeMissions 0 [.completed e.2.missionId e.1] →
      Part cfg asked (s, e :: hand) (t, hand)
  | dropped {s t : State} (e : Entry) (hand : List Entry) :
      Edits s t s.missionQueue s.activeMissions 0
        [.dropped e.2.missionId, .failed e.2.missionId e.1] →
      Part cfg asked (s, e :: hand) (t, hand)
  | requeued {s t : State} (e : Entry) (hand : List Entry) :
      (e.2.nextAttemptCount : Int) < cfg.maxMissionAttempts % UInt32.size →
      Edits s t (s.enlarged e.2.payload e.2.nextAttemptCount) s.activeMissions 1
        [.requeued e.2.missionId (missionIdOf (s.missionCounter + 1)),
          .failed e.2.missionId e.1] →
      Part cfg asked (s, e :: hand) (t, hand)
  | enqueued {s t : State} {payload : Payload} :
      asked = some (missionIdOf (s.missionCounter + 1), payload) →
      Edits s t (s.enlarged payload 0) s.activeMissions 1
        [.enqueued (missionIdOf (s.missionCounter + 1))] →
      Part cfg asked (s, []) (t, [])
  | cancelled {s t : State} {missionId : String} :
      s.missionQueue.any (·.missionId = missionId) = true →
      Edits s t (s.missionQueue.eraseP (·.missionId = missionId)) s.activeMissions 0
        [.cancelled missionId] →
      Part cfg asked (s, []) (t, [])

/-- A callback is a chain of parts. -/
abbrev Parts (cfg : Config) (asked : Option (String × Payload)) :
    State × List Entry → State × List Entry → Prop :=
  Relation.ReflTransGen (Part cfg asked)

section

variable {s t : State} {queue : List QueuedMission}
  {active : UnorderedMap String ActiveMission} {ids : Nat} {new : List Happening}

theorem Edits.ledger (h : Edits s t queue active ids new) :
    t.ledger = ledgerOf (new ++ s.history) := by
  unfold State.ledger
  rw [h.history]

theorem Edits.slotHistory (h : Edits s t queue active ids new)
    (hn : new.filter (·.ofSlot) = []) : t.slotHistory = s.slotHistory := by
  unfold State.slotHistory
  rw [h.history, List.filter_append, hn, List.nil_append]

theorem Edits.activeIds (h : Edits s t queue s.activeMissions ids new) :
    t.activeIds = s.activeIds := by
  simp [State.activeIds, h.activeMissions]

theorem Edits.members (h : Edits s t s.missionQueue s.activeMissions ids new) :
    t.members = s.members := by
  simp [State.members, State.queueIds, State.activeIds, h.missionQueue, h.activeMissions]

theorem Edits.moves_close (h : Edits s t s.missionQueue s.activeMissions 0 new)
    (missionId : String) (left : List String)
    (hl : ledgerOf (new ++ s.history) = s.ledger.close missionId)
    (hn : new.filter (·.ofSlot) = []) : Moves s (missionId :: left) t left := by
  refine Moves.close ?_ ?_ ?_ (h.ledger.trans hl) h.missionCounter h.dispatchGeneration
    h.dispatchInProgress (h.slotHistory hn)
  · rw [h.members]
    exact List.Perm.refl _
  · rw [h.missionQueue]
    exact List.Subset.refl _
  · rw [h.activeIds]
    exact fun other ho => List.mem_cons_of_mem _ ho

end

theorem map_eraseP_perm {queue : List QueuedMission} {missionId : String}
    (h : queue.any (·.missionId = missionId) = true) :
    (missionId :: (queue.eraseP (·.missionId = missionId)).map (·.missionId)).Perm
      (queue.map (·.missionId)) := by
  induction queue with
  | nil => simp at h
  | cons m queue ih =>
    by_cases hm : m.missionId = missionId
    · simp [hm]
    · have hrest : queue.any (·.missionId = missionId) = true := by simpa [hm] using h
      rw [List.eraseP_cons_of_neg (by simpa using hm), List.map_cons, List.map_cons]
      exact (List.Perm.swap ..).trans ((ih hrest).cons _)

theorem Part.moves {cfg : Config} {asked : Option (String × Payload)} {p q : State × List Entry}
    (h : Part cfg asked p q) : Moves p.1 (entryIds p.2) q.1 (entryIds q.2) := by
  cases h with
  | quiet hand h =>
    exact Moves.quiet _ h.missionQueue h.activeIds h.ledger h.missionCounter
      h.dispatchGeneration h.dispatchInProgress (h.slotHistory rfl)
  | @taken s t verdict visit hv h =>
    refine Moves.rearrange h.missionQueue ?_ h.ledger h.missionCounter h.dispatchGeneration
      h.dispatchInProgress (h.slotHistory rfl)
    have hc : (entryIds (visit.filter fun e => verdict e.1 e.2 = .complete)).Perm
        (entryIds (s.activeMissions.entries.filter fun e => verdict e.1 e.2 = .complete)) :=
      (List.Perm.filter _ hv).map _
    have hf : (entryIds (visit.filter fun e => verdict e.1 e.2 = .fail)).Perm
        (entryIds (s.activeMissions.entries.filter fun e => verdict e.1 e.2 = .fail)) :=
      (List.Perm.filter _ hv).map _
    simp only [entryIds, List.map_append, List.append_assoc, State.activeIds, h.activeMissions]
    exact (hc.append (hf.append_right _)).trans
      (entryIds_judged verdict s.activeMissions.entries)
  | completed e hand h => exact h.moves_close e.2.missionId _ rfl rfl
  | dropped e hand h => exact h.moves_close e.2.missionId _ rfl rfl
  | @requeued s t e hand _ h =>
    have hqueue := h.missionQueue ▸ enlarged_perm s e.2.payload e.2.nextAttemptCount
    exact Moves.retry hqueue rfl h.activeIds h.ledger h.missionCounter h.dispatchGeneration
      h.dispatchInProgress (h.slotHistory rfl)
  | @enqueued s t payload _ h =>
    have hqueue := h.missionQueue ▸ enlarged_perm s payload 0
    exact Moves.submit _ hqueue rfl h.activeIds h.ledger h.missionCounter h.dispatchGeneration
      h.dispatchInProgress (h.slotHistory rfl)
  | @cancelled s t missionId hany h =>
    refine Moves.close ?_ ?_ ?_ h.ledger h.missionCounter h.dispatchGeneration
      h.dispatchInProgress (h.slotHistory rfl)
    · have hperm := (map_eraseP_perm hany).append_right s.activeIds
      simpa [State.members, State.queueIds, State.activeIds, h.missionQueue, h.activeMissions,
        entryIds] using hperm
    · rw [h.missionQueue]
      exact List.eraseP_subset
    · rw [h.activeIds]
      exact List.Subset.refl _

theorem Parts.moves {cfg : Config} {asked : Option (String × Payload)} {p q : State × List Entry}
    (h : Parts cfg asked p q) : Moves p.1 (entryIds p.2) q.1 (entryIds q.2) := by
  induction h with
  | refl => exact Moves.refl _ _
  | tail _ hpart ih => exact ih.trans hpart.moves

/-- The rule for what each part keeps of a state whose ids are in order. -/
theorem Parts.invariant {cfg : Config} {asked : Option (String × Payload)}
    {P : State × List Entry → Prop}
    (hstep : ∀ p q, Part cfg asked p q → p.1.Tracks (entryIds p.2) → P p → P q)
    {p q : State × List Entry} (h : Parts cfg asked p q) (ht : p.1.Tracks (entryIds p.2))
    (hp : P p) : P q := by
  induction h with
  | refl => exact hp
  | tail hchain hpart ih => exact hstep _ _ hpart ((Parts.moves hchain).tracks ht) ih

end PatrolFleet.Scheduler
