import PatrolFleet.Lib.Machine
import PatrolFleet.Lib.Ledger
import PatrolFleet.Lib.Numbering
import PatrolFleet.Scheduler.Node

/-!
The scheduler with the `AssignMission` requests it has sent and not yet had
answered. A response may come at any time, in any order, or never; which
callback runs next is free.
-/

set_option autoImplicit false

namespace PatrolFleet.Scheduler

structure World where
  node : State
  /-- The requests whose response has not been processed. -/
  calls : List Dispatch

inductive Event where
  | systemReady (data : Bool)
  | fleetState (message : FleetState) (now : Time)
      (visit : List (Sigma fun _ : String => ActiveMission))
  | queueMission (request : QueueMission.Request) (now : Time)
  | cancelMission (missionId : String) (now : Time)
  | dispatchPatrol (now : Time)
  | recurringPatrol (now : Time)
  | processQueue (now : Time) (serviceIsReady : Bool)
  | assignResponse (d : Dispatch) (answer : Answer) (now : Time)

def World.step (cfg : Config) (w : World) : Event → Option World
  | .systemReady data => some { w with node := systemReadyCallback data w.node }
  | .fleetState message now visit =>
    if w.node.activeMissions.VisitOrder visit then
      some { w with node := fleetStateCallback cfg message now visit w.node }
    else none
  | .queueMission request now =>
    some { w with node := (handleQueueMission request now w.node).2 }
  | .cancelMission missionId now =>
    some { w with node := (handleCancelMission missionId now w.node).2 }
  | .dispatchPatrol now => some { w with node := (handleDispatchPatrol now w.node).2 }
  | .recurringPatrol now =>
    if cfg.recurringPatrolPeriod > 0 then
      some { w with node := enqueueRecurringPatrol cfg now w.node }
    else none
  | .processQueue now serviceIsReady =>
    let (node, sent) := processQueue cfg now serviceIsReady w.node
    some ⟨node, sent.toList ++ w.calls⟩
  | .assignResponse d answer now =>
    if d ∈ w.calls then
      some ⟨assignResponseCallback d answer now w.node, w.calls.erase d⟩
    else none

def machine (cfg : Config) (startedAt : Time) : Machine World Event where
  init := ⟨State.init startedAt, []⟩
  step := World.step cfg

/-! ### Missions and their lineages -/

def State.queueIds (s : State) : List String := s.missionQueue.map (·.missionId)

def State.activeIds (s : State) : List String := s.activeMissions.entries.map (·.2.missionId)

/-- The missions that the scheduler still has on record. -/
def State.members (s : State) : List String := s.queueIds ++ s.activeIds

/-- The ledger that a history amounts to: a mission accepted by `enqueue_mission`
is submitted, its re-queued copy is a retry, and a cancel, a completion or a
drop closes the lineage. -/
def ledgerOf : List Happening → Ledger String
  | [] => Ledger.empty
  | .enqueued missionId :: past => (ledgerOf past).submit missionId
  | .requeued failed fresh :: past => (ledgerOf past).retry failed fresh
  | .cancelled missionId :: past => (ledgerOf past).close missionId
  | .completed missionId _ :: past => (ledgerOf past).close missionId
  | .dropped missionId :: past => (ledgerOf past).close missionId
  | .dispatched _ _ _ :: past => ledgerOf past
  | .reclaimed _ :: past => ledgerOf past
  | .rejected _ :: past => ledgerOf past
  | .raised _ :: past => ledgerOf past
  | .accepted _ _ _ :: past => ledgerOf past
  | .failed _ _ :: past => ledgerOf past

def State.ledger (s : State) : Ledger String := ledgerOf s.history

/-- Two missions are of one lineage when one is a re-queued copy of the other, or
both are of the same mission. -/
def State.lineage (s : State) (missionId : String) : String := s.ledger.origin missionId

/-- Every lineage that was not cancelled, completed or dropped has a mission in
the queue or on a robot. -/
def State.NoMissionLost (s : State) : Prop := s.ledger.Conserved s.members

instance (s : State) : Decidable s.NoMissionLost :=
  inferInstanceAs (Decidable (s.ledger.Conserved s.members))

/-- What happens to the dispatch slot. -/
def Happening.ofSlot : Happening → Bool
  | .dispatched _ _ _ | .reclaimed _ | .rejected _ | .raised _ | .accepted _ _ _ => true
  | .enqueued _ | .requeued _ _ | .cancelled _ | .completed _ _ | .failed _ _ | .dropped _ => false

def State.slotHistory (s : State) : List Happening := s.history.filter (·.ofSlot)

/-! ### Issued mission ids -/

def Issued (counter : Nat) (missionId : String) : Prop :=
  ∃ n, n < counter ∧ missionId = missionIdOf (n + 1)

theorem missionIdOf_injective {a b : Nat} (h : missionIdOf a = missionIdOf b) : a = b :=
  Numbering.numbered_injective "mission-" h

theorem issued_fresh (counter : Nat) : Issued (counter + 1) (missionIdOf (counter + 1)) :=
  ⟨counter, by omega, rfl⟩

theorem not_issued_fresh (counter : Nat) : ¬ Issued counter (missionIdOf (counter + 1)) := by
  rintro ⟨n, hn, heq⟩
  have := missionIdOf_injective heq
  omega

theorem Issued.mono {a b : Nat} (hab : a ≤ b) {missionId : String} (h : Issued a missionId) :
    Issued b missionId := by
  obtain ⟨n, hn, heq⟩ := h
  exact ⟨n, by omega, heq⟩

end PatrolFleet.Scheduler
