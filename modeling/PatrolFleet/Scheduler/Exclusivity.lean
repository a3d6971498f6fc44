import PatrolFleet.Scheduler.Invariant

/-!
The dispatch slot has at most one holder, and no mission is on record twice.
-/

set_option autoImplicit false

namespace PatrolFleet.Scheduler

theorem holder_unique {w : World} (h : w.Inv) :
    w.calls.countP (·.generation = w.node.dispatchGeneration) ≤ 1 := by
  have hcount := List.nodup_iff_count_le_one.mp h.generations w.node.dispatchGeneration
  rw [List.count, List.countP_map] at hcount
  have hsame : w.calls.countP (·.generation = w.node.dispatchGeneration) =
      w.calls.countP ((· == w.node.dispatchGeneration) ∘ (·.generation)) := by
    apply List.countP_congr
    intro d _
    simp
  exact hsame ▸ hcount

theorem stale_response_ignored {cfg : Config} {w : World} {d : Dispatch} (hd : d ∈ w.calls)
    (hg : d.generation ≠ w.node.dispatchGeneration) (answer : Answer) (now : Time) :
    w.step cfg (.assignResponse d answer now) = some ⟨w.node, w.calls.erase d⟩ := by
  simp only [World.step, if_pos hd, assignResponse_stale hg]

theorem dispatch_exclusive {cfg : Config} {startedAt : Time} {w : World}
    (h : (machine cfg startedAt).Reachable w) :
    w.calls.countP (·.generation = w.node.dispatchGeneration) ≤ 1 ∧
    (∀ d ∈ w.calls, d.generation = w.node.dispatchGeneration →
      w.node.dispatchInProgress = true) ∧
    (∀ d ∈ w.calls, d.generation ≠ w.node.dispatchGeneration → ∀ answer now,
      w.step cfg (.assignResponse d answer now) = some ⟨w.node, w.calls.erase d⟩) ∧
    w.node.members.Nodup ∧ (w.node.members.map w.node.lineage).Nodup := by
  have hw := reachable_inv h
  refine ⟨holder_unique hw, hw.inProgress, ?_, ?_, ?_⟩
  · exact fun d hd hg answer now => stale_response_ignored hd hg answer now
  · exact Ledger.Tracks.names_nodup hw.tracks
  · exact Ledger.Tracks.lineages hw.tracks

/-- A dispatch that is in flight while a second mission waits. -/
def dispatchedRun : List Event :=
  let robot : FleetRobotState :=
    ⟨"robot1", true, false, RobotHeartbeat.stateIdle, 90, true, "", 0⟩
  [.systemReady true,
    .queueMission ⟨"patrol", 10, {}, false⟩ (seconds 1),
    .queueMission ⟨"charge", 5, {}, false⟩ (seconds 1),
    .fleetState ⟨seconds 2, [robot]⟩ (seconds 2) [],
    .processQueue (seconds 3) true]

def dispatchedWorld : World := ((machine {} 0).run dispatchedRun).get (by decide)

theorem dispatch_exclusive_dispatched :
    dispatchedWorld.calls.length = 1 ∧
    dispatchedWorld.calls.countP
      (·.generation = dispatchedWorld.node.dispatchGeneration) ≤ 1 ∧
    dispatchedWorld.node.members.Nodup :=
  have hreach : (machine {} 0).Reachable dispatchedWorld := (machine {} 0).reachable_get _
  have h := dispatch_exclusive hreach
  ⟨by decide, h.1, h.2.2.2.1⟩

end PatrolFleet.Scheduler
