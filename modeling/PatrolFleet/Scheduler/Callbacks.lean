import PatrolFleet.Scheduler.Parts

/-!
Each callback as a chain of parts. The callbacks that handle the dispatch slot
are described by what they return.
-/

set_option autoImplicit false

namespace PatrolFleet.Scheduler

variable {cfg : Config} {asked : Option (String × Payload)}

theorem parts_enqueued {payload : Payload} {s : State}
    (h : asked = some (missionIdOf (s.missionCounter + 1), payload)) (now : Time) :
    let r := enqueueMission payload.missionType payload.priority payload.targetPose
      payload.hasTarget 0 s
    Parts cfg asked (s, []) (publishQueueState now (r.2.record (.enqueued r.1)), []) :=
  .single (.enqueued h ⟨rfl, rfl, rfl, rfl, rfl, rfl, rfl⟩)

theorem parts_queueMission (request : QueueMission.Request) (now : Time) (s : State) :
    Parts cfg (Event.asksOf cfg s (.queueMission request now)) (s, [])
      ((handleQueueMission request now s).2, []) := by
  unfold handleQueueMission
  split
  · exact .refl
  · rename_i hs
    have hasked : Event.asksOf cfg s (.queueMission request now) =
        some (missionIdOf (s.missionCounter + 1), ⟨request.missionType, request.priority,
          request.targetPose, request.hasTarget⟩) := by
      simp only [Event.asksOf, Event.asks]
      rw [if_pos (by simpa using hs), Option.map_some]
    exact parts_enqueued hasked now

theorem parts_dispatchPatrol (now : Time) (s : State) :
    Parts cfg (Event.asksOf cfg s (.dispatchPatrol now)) (s, [])
      ((handleDispatchPatrol now s).2, []) :=
  parts_enqueued rfl now

theorem parts_recurringPatrol (now : Time) (s : State) :
    Parts cfg (Event.asksOf cfg s (.recurringPatrol now)) (s, [])
      (enqueueRecurringPatrol cfg now s, []) :=
  parts_enqueued rfl now

theorem parts_cancelMission (missionId : String) (now : Time) (s : State) :
    Parts cfg asked (s, []) ((handleCancelMission missionId now s).2, []) := by
  unfold handleCancelMission
  split
  · exact .refl
  split
  · rename_i hany
    exact .single (.cancelled hany ⟨rfl, rfl, rfl, rfl, rfl, rfl, rfl⟩)
  · exact .refl

/-! ### Reconciling -/

theorem parts_logCompleted (entries hand : List Entry) (s : State) :
    Parts cfg asked (s, entries ++ hand) (entries.foldl logCompleted s, hand) := by
  induction entries generalizing s with
  | nil => exact .refl
  | cons e entries ih =>
    have hone : Part cfg asked (s, e :: (entries ++ hand)) (logCompleted s e, entries ++ hand) :=
      .completed e _ ⟨rfl, rfl, rfl, rfl, rfl, rfl, rfl⟩
    exact .head hone (ih (logCompleted s e))

/-- A mission that failed is dropped, or queued again under a new id. -/
theorem retryFailed_cases (cfg : Config) (s : State) (e : Entry) :
    Edits s (retryFailed cfg s e) s.missionQueue s.activeMissions 0
        [.dropped e.2.missionId, .failed e.2.missionId e.1] ∨
      (e.2.nextAttemptCount : Int) < cfg.maxMissionAttempts % UInt32.size ∧
        Edits s (retryFailed cfg s e) (s.enlarged e.2.payload e.2.nextAttemptCount)
          s.activeMissions 1 [.requeued e.2.missionId (missionIdOf (s.missionCounter + 1)),
            .failed e.2.missionId e.1] := by
  unfold retryFailed
  dsimp only
  split
  · exact Or.inl ⟨rfl, rfl, rfl, rfl, rfl, rfl, rfl⟩
  · rename_i hnext
    exact Or.inr ⟨Int.not_le.mp hnext, rfl, rfl, rfl, rfl, rfl, rfl, rfl⟩

theorem part_retryFailed (s : State) (e : Entry) (hand : List Entry) :
    Part cfg asked (s, e :: hand) (retryFailed cfg s e, hand) := by
  rcases retryFailed_cases cfg s e with h | ⟨hnext, h⟩
  · exact .dropped e hand h
  · exact .requeued e hand hnext h

theorem parts_retryFailed (entries hand : List Entry) (s : State) :
    Parts cfg asked (s, entries ++ hand) (entries.foldl (retryFailed cfg) s, hand) := by
  induction entries generalizing s with
  | nil => exact .refl
  | cons e entries ih => exact .head (part_retryFailed s e _) (ih (retryFailed cfg s e))

theorem parts_reconcile (now : Time) {visit : List Entry} {s : State}
    (hv : s.activeMissions.VisitOrder visit) :
    Parts cfg asked (s, []) (reconcileActiveMissionsLocked cfg now visit s, []) := by
  unfold reconcileActiveMissionsLocked
  split
  · exact .refl
  set verdict := judge cfg now s.latestFleetState.robots
  set completed := visit.filter fun e => verdict e.1 e.2 = .complete
  set failed := visit.filter fun e => verdict e.1 e.2 = .fail
  set taken : State := { s with
    activeMissions := s.activeMissions.filterMapVal fun r a => (verdict r a).apply a }
  have htake : Part cfg asked (s, []) (taken, completed ++ failed) :=
    .taken verdict hv ⟨rfl, rfl, rfl, rfl, rfl, rfl, rfl⟩
  have hlog : Parts cfg asked (taken, completed ++ failed) (_, failed) :=
    parts_logCompleted completed failed taken
  have hretry : Parts cfg asked (completed.foldl logCompleted taken, failed ++ []) (_, []) :=
    parts_retryFailed failed [] (completed.foldl logCompleted taken)
  rw [List.append_nil] at hretry
  have hall := (Relation.ReflTransGen.head htake hlog).trans hretry
  change Parts cfg asked (s, []) (if failed.isEmpty then _ else _, [])
  split
  · exact hall
  · exact hall.tail (.quiet [] ⟨rfl, rfl, rfl, rfl, rfl, rfl, rfl⟩)

theorem parts_fleetState (message : FleetState) (now : Time) {visit : List Entry} {s : State}
    (hv : s.activeMissions.VisitOrder visit) :
    Parts cfg asked (s, []) (fleetStateCallback cfg message now visit s, []) := by
  set updated := updateRobotReservationsLocked cfg now
    { s with latestFleetState := message, receivedFleetState := true }
  have hupdate : Part cfg asked (s, []) (updated, []) :=
    .quiet [] ⟨rfl, rfl, rfl, rfl, rfl, rfl, rfl⟩
  exact .head hupdate (parts_reconcile now hv)

/-! ### The dispatch slot -/

/-- What a change of the dispatch slot leaves in the fields that the missions and
the slot depend on. -/
structure SlotChange (s t : State) (queue : List QueuedMission)
    (active : UnorderedMap String ActiveMission) (happening : Happening) (generation : Nat)
    (inProgress : Bool) : Prop where
  missionQueue : t.missionQueue = queue
  activeMissions : t.activeMissions = active
  nextSequence : t.nextSequence = s.nextSequence
  missionCounter : t.missionCounter = s.missionCounter
  history : t.history = happening :: s.history
  ofSlot : happening.ofSlot = true
  dispatchGeneration : t.dispatchGeneration = generation
  dispatchInProgress : t.dispatchInProgress = inProgress

section

variable {s t : State} {queue : List QueuedMission}
  {active : UnorderedMap String ActiveMission} {happening : Happening} {generation : Nat}
  {inProgress : Bool}

theorem SlotChange.ledger (h : SlotChange s t queue active happening generation inProgress) :
    t.ledger = s.ledger := by
  have hslot := h.ofSlot
  unfold State.ledger
  rw [h.history]
  cases happening <;> simp [Happening.ofSlot] at hslot <;> rfl

theorem SlotChange.slotHistory (h : SlotChange s t queue active happening generation inProgress) :
    t.slotHistory = happening :: s.slotHistory := by
  simp [State.slotHistory, h.history, h.ofSlot]

end

theorem reclaim_change (s : State) :
    SlotChange s (reclaim s) s.missionQueue s.activeMissions (.reclaimed s.dispatchGeneration)
      (s.dispatchGeneration + 1) false := by
  unfold reclaim
  dsimp only
  split <;> exact ⟨rfl, rfl, rfl, rfl, rfl, rfl, rfl, rfl⟩

/-- What `process_queue` has done when it comes to its last block or returns:
nothing, or it has taken back an overdue slot. -/
inductive Cleared (cfg : Config) (now : Time) (s : State) : State → Prop where
  | same : Cleared cfg now s s
  | overdue : s.systemReady = true → s.dispatchInProgress = true →
      cfg.dispatchTimeout ≤ now - s.dispatchStartedAt → Cleared cfg now s (reclaim s)

/-- What taking back the slot leaves alone; of the reservations, that of the robot it was
held for may go. -/
structure Freed (s t : State) : Prop where
  missionQueue : t.missionQueue = s.missionQueue
  queueState : t.queueState = s.queueState
  systemReady : t.systemReady = s.systemReady
  latestFleetState : t.latestFleetState = s.latestFleetState
  receivedFleetState : t.receivedFleetState = s.receivedFleetState
  reservations : t.reservedRobots = s.reservedRobots ∧ t.reservationTimes = s.reservationTimes ∨
    t.reservedRobots = s.reservedRobots.erase s.dispatchRobotId ∧
      t.reservationTimes = s.reservationTimes.erase s.dispatchRobotId

theorem reclaim_freed (s : State) : Freed s (reclaim s) := by
  unfold reclaim
  dsimp only
  split
  · exact ⟨rfl, rfl, rfl, rfl, rfl, Or.inl ⟨rfl, rfl⟩⟩
  · exact ⟨rfl, rfl, rfl, rfl, rfl, Or.inr ⟨rfl, rfl⟩⟩

theorem Cleared.freed {cfg : Config} {now : Time} {s t : State} (h : Cleared cfg now s t) :
    Freed s t := by
  cases h with
  | same => exact ⟨rfl, rfl, rfl, rfl, rfl, Or.inl ⟨rfl, rfl⟩⟩
  | overdue => exact reclaim_freed s

/-- The outcomes of `process_queue`: it sends the head of the queue to the
selected robot, or it sends nothing. -/
theorem processQueue_cases (cfg : Config) (now : Time) (ready : Bool) (s : State) :
    ∃ t, Cleared cfg now s t ∧
      (processQueue cfg now ready s = (t, none) ∨
        ∃ mission robot, s.systemReady = true ∧ ready = true ∧ t.dispatchInProgress = false ∧
          getNextMission t = some mission ∧ selectRobot cfg t = some robot ∧
          processQueue cfg now ready s =
            ((sendDispatch mission robot now t).1, some (sendDispatch mission robot now t).2)) := by
  unfold processQueue
  split
  · exact ⟨s, .same, Or.inl rfl⟩
  rename_i hready
  split
  · exact ⟨s, .same, Or.inl rfl⟩
  rename_i t hr
  have ht : Cleared cfg now s t ∧ t.dispatchInProgress = false := by
    unfold reclaimDispatch at hr
    split at hr
    · rename_i hp
      split at hr
      · cases hr
      · rename_i hover
        cases hr
        exact ⟨.overdue (by simpa using hready) hp (not_lt.mp hover),
          (reclaim_change s).dispatchInProgress⟩
    · rename_i hp
      cases hr
      exact ⟨.same, by simpa using hp⟩
  refine ⟨t, ht.1, ?_⟩
  split
  · exact Or.inl rfl
  rename_i hservice
  split
  · rename_i mission robot hm hrobot
    exact Or.inr ⟨mission, robot, by simpa using hready, by simpa using hservice, ht.2, hm,
      hrobot, rfl⟩
  · exact Or.inl rfl

theorem sendDispatch_change (mission : QueuedMission) (robot : CandidateRobot) (now : Time)
    (s : State) :
    SlotChange s (sendDispatch mission robot now s).1 s.missionQueue s.activeMissions
      (.dispatched mission.missionId robot.robotId (s.dispatchGeneration + 1))
      (s.dispatchGeneration + 1) true := ⟨rfl, rfl, rfl, rfl, rfl, rfl, rfl, rfl⟩

/-- The entry that an accepted dispatch puts into `active_missions_`. -/
def Dispatch.activated (d : Dispatch) (now : Time) : ActiveMission where
  missionId := d.missionId
  missionType := d.missionType
  priority := d.priority
  targetPose := d.targetPose
  hasTarget := d.hasTarget
  robotConfirmedActive := false
  dispatchedAt := now
  attemptCount := d.attemptCount

def Answer.accepts : Answer → Bool
  | .response r => r.success
  | .exception _ => false

theorem assignResponse_stale {d : Dispatch} {s : State}
    (h : d.generation ≠ s.dispatchGeneration) (answer : Answer) (now : Time) :
    assignResponseCallback d answer now s = s := by
  unfold assignResponseCallback
  rw [if_pos h]

theorem assignResponse_accepted {d : Dispatch} {s : State} {answer : Answer}
    (h : d.generation = s.dispatchGeneration) (ha : answer.accepts = true) (now : Time) :
    SlotChange s (assignResponseCallback d answer now s)
      (s.missionQueue.filter (·.missionId ≠ d.missionId))
      (s.activeMissions.insert d.robotId (d.activated now))
      (.accepted d.missionId d.robotId d.generation) s.dispatchGeneration false := by
  unfold assignResponseCallback
  rw [if_neg (not_not.mpr h)]
  cases answer with
  | exception what => simp [Answer.accepts] at ha
  | response r =>
    have hr : r.success = true := ha
    dsimp only
    rw [if_pos hr]
    exact ⟨rfl, rfl, rfl, rfl, rfl, rfl, rfl, rfl⟩

/-- The record of a dispatch that did not come through. -/
def Answer.refusal (generation : Nat) : Answer → Happening
  | .response _ => .rejected generation
  | .exception _ => .raised generation

theorem assignResponse_refused {d : Dispatch} {s : State} {answer : Answer}
    (h : d.generation = s.dispatchGeneration) (ha : answer.accepts = false) (now : Time) :
    SlotChange s (assignResponseCallback d answer now s) s.missionQueue s.activeMissions
      (answer.refusal d.generation) s.dispatchGeneration false := by
  unfold assignResponseCallback
  rw [if_neg (not_not.mpr h)]
  cases answer with
  | exception what => exact ⟨rfl, rfl, rfl, rfl, rfl, rfl, rfl, rfl⟩
  | response r =>
    have hr : r.success = false := ha
    dsimp only
    rw [if_neg (by simp [hr])]
    exact ⟨rfl, rfl, rfl, rfl, rfl, rfl, rfl, rfl⟩

theorem ledger_answered (d : Dispatch) (answer : Answer) (now : Time) (s : State) :
    (assignResponseCallback d answer now s).ledger = s.ledger := by
  by_cases hg : d.generation = s.dispatchGeneration
  · cases ha : answer.accepts with
    | true => exact (assignResponse_accepted hg ha now).ledger
    | false => exact (assignResponse_refused hg ha now).ledger
  · rw [assignResponse_stale hg]

/-! ### The steps of the system -/

/-- The steps of the system: a chain of parts, or what they do to the dispatch slot. -/
inductive Turn (cfg : Config) (w : World) : Event → World → Prop where
  | parts {e : Event} {node : State} : Parts cfg (e.asksOf cfg w.node) (w.node, []) (node, []) →
      Turn cfg w e ⟨node, w.calls⟩
  | cleared {node : State} (now : Time) (ready : Bool) : Cleared cfg now w.node node →
      Turn cfg w (.processQueue now ready) ⟨node, w.calls⟩
  | sent {t : State} {mission : QueuedMission} {robot : CandidateRobot} (now : Time)
      (ready : Bool) : Cleared cfg now w.node t → t.dispatchInProgress = false →
      w.node.systemReady = true → getNextMission t = some mission →
      selectRobot cfg t = some robot →
      Turn cfg w (.processQueue now ready)
        ⟨(sendDispatch mission robot now t).1, (sendDispatch mission robot now t).2 :: w.calls⟩
  | answered {d : Dispatch} (answer : Answer) (now : Time) : d ∈ w.calls →
      Turn cfg w (.assignResponse d answer now)
        ⟨assignResponseCallback d answer now w.node, w.calls.erase d⟩

theorem step_turn {w v : World} {e : Event} (h : w.step cfg e = some v) : Turn cfg w e v := by
  cases e with
  | systemReady data =>
    cases h
    exact .parts (.single (.quiet [] ⟨rfl, rfl, rfl, rfl, rfl, rfl, rfl⟩))
  | fleetState message now visit =>
    simp only [World.step] at h
    split at h
    · rename_i hv
      cases h
      exact .parts (parts_fleetState message now hv)
    · cases h
  | queueMission request now =>
    cases h
    exact .parts (parts_queueMission request now w.node)
  | cancelMission missionId now =>
    cases h
    exact .parts (parts_cancelMission missionId now w.node)
  | dispatchPatrol now =>
    cases h
    exact .parts (parts_dispatchPatrol now w.node)
  | recurringPatrol now =>
    simp only [World.step] at h
    split at h
    · cases h
      exact .parts (parts_recurringPatrol now w.node)
    · cases h
  | processQueue now ready =>
    simp only [World.step, Option.some.injEq] at h
    obtain ⟨t, ht, hnone | ⟨mission, robot, hready, _, hp, hm, hr, hsend⟩⟩ :=
      processQueue_cases cfg now ready w.node
    · rw [hnone] at h
      subst h
      exact .cleared now ready ht
    · rw [hsend] at h
      subst h
      exact .sent now ready ht hp hready hm hr
  | assignResponse d answer now =>
    simp only [World.step] at h
    split at h
    · rename_i hd
      cases h
      exact .answered answer now hd
    · cases h

end PatrolFleet.Scheduler
