import PatrolFleet.Lib.Changes
import PatrolFleet.Supervisor.Readiness

/-!
The messages of `/system/ready`: what the ticks find, with the repetitions held back.
A tick finds what its visits would find one by one in the state before it.
-/

set_option autoImplicit false

namespace PatrolFleet.Supervisor

/-- The inputs of the visited robot are there, and it is confirmed. -/
def State.readyAt (cfg : Config) (s : State) (visit : String × Observation) : Bool :=
  visit.2.canTransform && hasClients cfg visit.1 && visit.2.manageReady &&
    (s.findRobot visit.1).any fun robot => robot.mapReceived && robot.confirmedActive

/-- What the tick finds of the system. -/
def State.finds (cfg : Config) (s : State) : Event → Option Bool
  | .tick now visits => some (decide (0 < now) && visits.all (s.readyAt cfg))
  | _ => none

/-- The state remembers the newest message. -/
structure State.Remembers (s : State) : Prop where
  published : s.hasPublishedReady = true
  newest : s.ready.head? = some s.lastPublishedReady

section

variable {cfg : Config} {s t : State} {e : Event} {now : Time} {robotId : String}
  {o : Observation}

theorem Silent.remembers (h : Silent s t) (hs : s.Remembers) : t.Remembers := by
  refine ⟨h.hasPublishedReady.trans hs.published, ?_⟩
  rw [h.ready, h.lastPublishedReady]
  exact hs.newest

theorem Spares.readyAt (h : Spares s t) : t.readyAt cfg = s.readyAt cfg := by
  have hany : ∀ (u : State) id, (u.findRobot id).any
      (fun robot => robot.mapReceived && robot.confirmedActive) =
        ((u.findRobot id).map RobotSupervisor.lasting).any fun p => p.1 && p.2.1 := by
    intro u id
    cases u.findRobot id <;> rfl
  funext visit
  unfold State.readyAt
  rw [hany t, h.robots, ← hany s]

/-- A visit lets `all_ready` stand by what was there before it. -/
theorem Visited.readyAt {r : Bool × State} (hv : Visited cfg now robotId o s r) :
    r.1 = s.readyAt cfg (robotId, o) := by
  have hinputs : ∀ robot, s.findRobot robotId = some robot → s.readyAt cfg (robotId, o) =
      ((updateInputReadiness cfg robotId o robot).inputsReady && robot.confirmedActive) := by
    intro robot hr
    simp only [State.readyAt, hr, Option.any_some, RobotSupervisor.inputsReady,
      updateInputReadiness]
    cases robot.mapReceived <;> cases o.canTransform <;> cases hasClients cfg robotId <;>
      cases o.manageReady <;> rfl
  cases hv with
  | absent hnone => simp [State.readyAt, hnone]
  | waiting hr hi => rw [hinputs _ hr, hi, Bool.false_and]
  | busy hr hi => rw [hinputs _ hr, hi, Bool.true_and]
  | resumed hr hi => rw [hinputs _ hr, hi, Bool.true_and]
  | abandoned hr hi => rw [hinputs _ hr, hi, Bool.true_and]

theorem checkRobots_readyAt (visits : List (String × Observation)) (s : State) :
    (checkRobots cfg now visits s).1 = visits.all (s.readyAt cfg) := by
  induction visits generalizing s with
  | nil => rfl
  | cons visit visits ih =>
    have hv := checkRobot_visited cfg now visit.1 visit.2 s
    simp only [checkRobots, List.all_cons, ih, hv.readyAt, hv.spares.readyAt]

/-! ### Publishing -/

theorem publishReady_note (h : s.Remembers) (ready : Bool) :
    (publishReady ready s).Remembers ∧
      (publishReady ready s).ready = Changes.note ready s.ready := by
  have hsame : (s.ready.head? = some ready) ↔ s.lastPublishedReady = ready := by
    rw [h.newest, Option.some.injEq]
  unfold publishReady Changes.note
  rw [h.published, Bool.true_and]
  by_cases hready : s.lastPublishedReady = ready
  · rw [if_pos (beq_iff_eq.mpr hready), if_pos (hsame.mpr hready)]
    exact ⟨h, rfl⟩
  · rw [if_neg (by simpa using hready), if_neg (mt hsame.mp hready)]
    exact ⟨⟨rfl, rfl⟩, rfl⟩

theorem checkReadiness_note (h : s.Remembers) (visits : List (String × Observation)) :
    (checkReadiness cfg now visits s).Remembers ∧
      (checkReadiness cfg now visits s).ready =
        Changes.note (decide (0 < now) && visits.all (s.readyAt cfg)) s.ready := by
  rcases Int.lt_or_le 0 now with hnow | hnow
  · have hspares := @checkRobots_spares cfg now visits s
    have hnote := publishReady_note (hspares.toSilent.remembers h) (checkRobots cfg now visits s).1
    rw [hspares.ready] at hnote
    rw [checkReadiness_of_pos hnow, decide_eq_true hnow, Bool.true_and,
      ← @checkRobots_readyAt cfg now visits s]
    exact hnote
  · rw [checkReadiness_of_nonpos hnow, decide_eq_false (Int.not_lt.mpr hnow), Bool.false_and]
    exact publishReady_note h false

theorem step_note (h : s.Remembers) (hstep : s.step cfg e = some t) :
    t.Remembers ∧ t.ready = (s.finds cfg e).elim s.ready fun b => Changes.note b s.ready := by
  have hsilent : ∀ id, e.robotId = some id → s.finds cfg e = none →
      t.Remembers ∧ t.ready = (s.finds cfg e).elim s.ready fun b => Changes.note b s.ready := by
    intro id he hnone
    have hsilent := step_silent he hstep
    rw [hnone]
    exact ⟨hsilent.remembers h, hsilent.ready⟩
  cases e with
  | map robotId message => exact hsilent robotId rfl rfl
  | stateResponse robotId _ _ _ _ _ => exact hsilent robotId rfl rfl
  | commandResponse robotId _ => exact hsilent robotId rfl rfl
  | tick now visits =>
    cases step_cases hstep with
    | tick => exact checkReadiness_note h visits

end

theorem remembers_init (cfg : Config) : (machine cfg).init.Remembers := ⟨rfl, rfl⟩

theorem reachable_remembers {cfg : Config} {s : State} (h : (machine cfg).Reachable s) :
    s.Remembers :=
  h.invariant (P := State.Remembers) (remembers_init cfg) fun _ _ _ hs hstep =>
    (step_note hs hstep).1

/-- The messages of `/system/ready` are that the system is not ready, and then what the
ticks have found of it, without the repetitions. -/
theorem ready_messages (cfg : Config) {es : List Event} {s : State}
    (h : (machine cfg).run es = some s) :
    s.ready = ((false :: (machine cfg).outputs (State.finds cfg) (machine cfg).init es).destutter
      (· ≠ ·)).reverse :=
  Changes.run_destutter State.ready rfl
    (fun _ _ _ hs hstep => (step_note (reachable_remembers hs) hstep).2) h

/-- The robot is found ready twice, and then without its transform. -/
def transformLostRun : List Event :=
  confirmedRun ++ [.tick (seconds 3) [("robot1", allServices)],
    .tick (seconds 4) [("robot1", allServices)],
    .tick (seconds 5) [("robot1", { allServices with canTransform := false })]]

def transformLostState : State :=
  ((machine oneRobot).run transformLostRun).get (by decide +kernel)

theorem ready_messages_lost : transformLostState.ready = [false, true, false] := by
  have hrun : (machine oneRobot).run transformLostRun = some transformLostState :=
    (Option.some_get _).symm
  rw [ready_messages oneRobot hrun]
  decide +kernel

end PatrolFleet.Supervisor
