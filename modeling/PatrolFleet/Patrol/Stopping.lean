import PatrolFleet.Patrol.OneGoal

/-!
Stopping a mission that was accepted: exactly while its acceptance is the last
answer about a goal that the node has processed.
-/

set_option autoImplicit false

namespace PatrolFleet.Patrol

def Event.isGoalAnswer : Event → Bool
  | .goalResponse .. | .result .. => true
  | _ => false

def lastGoalAnswer (es : List Event) : Option Event := (es.filter Event.isGoalAnswer).getLast?

/-- In the run of `es`, `handle_start` has answered success for the mission whose
goal is `id`. -/
def Mission (cfg : Config) (libm : Libm) (es : List Event) (id : Nat) : Prop :=
  ∃ w request now v, (machine cfg libm).Takes es w (.start request true now) v ∧
    (handleStart cfg libm request true now w.node).1.success = true ∧ w.node.goalCount = id

/-- No terminal status has been published for the mission of the goal. -/
def World.Live (w : World) (id : Nat) : Prop := ∃ phase, (id, phase) ∈ w.goals

/-- Called in `w`, `handle_stop` answers success and asks to cancel the goal. -/
def World.StopCancels (w : World) (id : Nat) : Prop :=
  (handleStop w.node).1.success = true ∧
    (handleStop w.node).2.sent.head? = some (.cancelGoal id)

/-- When `handle_stop` runs, every accepted mission without a terminal status has
the property `P` after the events so far. -/
def AtStops (cfg : Config) (libm : Libm) (es : List Event)
    (P : List Event → World → Nat → Prop) : Prop :=
  ∀ before w id, before ++ [.stop] <+: es → (machine cfg libm).run before = some w →
    Mission cfg libm before id → w.Live id → P before w id

section

variable {cfg : Config} {libm : Libm} {w v : World} {e : Event} {id : Nat}

theorem stopCancels_iff : w.StopCancels id ↔
    w.node.patrolActive = true ∧ w.node.activeGoalHandle = some id := by
  unfold World.StopCancels handleStop
  cases ha : w.node.patrolActive with
  | false => simp
  | true =>
    cases hh : w.node.activeGoalHandle with
    | none => simp
    | some id' => simp [publishStatus, State.send]

theorem step_goal (he : e.isGoalAnswer = false) (h : w.step cfg libm e = some v) :
    v.node.patrolActive = w.node.patrolActive ∧
      v.node.activeGoalHandle = w.node.activeGoalHandle := by
  cases step_cases h with
  | start request serverAvailable now =>
    have hs : Started w.node (handleStart cfg libm request serverAvailable now w.node).2 _ :=
      handleStart_started request serverAvailable now w.node
    exact ⟨hs.patrolActive, hs.activeGoalHandle⟩
  | autostart serverAvailable now =>
    have hs : Started w.node (startPatrol cfg libm serverAvailable now w.node) _ :=
      attempt_started StartMission.missionPatrol {} false serverAvailable now w.node
    exact ⟨hs.patrolActive, hs.activeGoalHandle⟩
  | stop => exact handleStop_goal w.node
  | accepted => cases he
  | rejected => cases he
  | result => cases he

theorem step_answer (he : e.isGoalAnswer = true) (h : w.step cfg libm e = some v) :
    (v.node.patrolActive = true ∧ v.node.activeGoalHandle = some id) ↔
      e = .goalResponse id true := by
  cases step_cases h with
  | start => cases he
  | autostart => cases he
  | stop => cases he
  | accepted => simp [goalResponseCallback, publishStatus, State.send]
  | rejected => simp [goalResponseCallback, publishStatus, State.send]
  | result => simp [resultCallback, publishStatus, State.send]

theorem lastGoalAnswer_concat (es : List Event) (e : Event) : lastGoalAnswer (es ++ [e]) =
    if e.isGoalAnswer then some e else lastGoalAnswer es := by
  unfold lastGoalAnswer
  rw [List.filter_append]
  cases he : e.isGoalAnswer <;> simp [he]

theorem follows_iff {es : List Event} (h : (machine cfg libm).run es = some w) :
    (w.node.patrolActive = true ∧ w.node.activeGoalHandle = some id) ↔
      lastGoalAnswer es = some (.goalResponse id true) := by
  induction es using List.reverseRecOn generalizing w with
  | nil =>
    cases h
    simp [machine, State.init, publishStatus, State.send, lastGoalAnswer]
  | append_singleton es e ih =>
    obtain ⟨u, hu, hstep⟩ := (machine cfg libm).run_concat_inv h
    rw [lastGoalAnswer_concat]
    cases he : e.isGoalAnswer with
    | true =>
      rw [step_answer he hstep]
      simp
    | false =>
      obtain ⟨hactive, hhandle⟩ := step_goal he hstep
      rw [hactive, hhandle, ih hu]
      simp

end

theorem stop_cancels_iff (cfg : Config) (libm : Libm) (es : List Event) :
    AtStops cfg libm es (fun _ w id => w.StopCancels id) ↔
    AtStops cfg libm es fun before _ id =>
      lastGoalAnswer before = some (.goalResponse id true) := by
  have hstop : ∀ before w id, (machine cfg libm).run before = some w →
      (w.StopCancels id ↔ lastGoalAnswer before = some (.goalResponse id true)) := by
    intro before w id hrun
    rw [stopCancels_iff]
    exact follows_iff hrun
  constructor
  · intro h before w id hp hrun hmission hlive
    exact (hstop before w id hrun).mp (h before w id hp hrun hmission hlive)
  · intro h before w id hp hrun hmission hlive
    exact (hstop before w id hrun).mpr (h before w id hp hrun hmission hlive)

/-- The mission is stopped before the server has answered its goal. -/
def earlyStop : List Event := [.start ⟨StartMission.missionGoTo, {}, true⟩ true (seconds 1), .stop]

theorem early_stop_refused : ¬ ∀ cfg libm es,
    AtStops cfg libm es fun _ w id => w.StopCancels id := by
  intro h
  have hsuccess : false = true :=
    (h {} ⟨fun _ => 0, fun _ => 1⟩ earlyStop (earlyStop.take 1) _ 0 List.prefix_rfl rfl
      ⟨_, ⟨StartMission.missionGoTo, {}, true⟩, seconds 1, _, ⟨[], List.prefix_rfl, rfl, rfl⟩,
        rfl, rfl⟩
      ⟨.awaiting, List.mem_singleton.mpr rfl⟩).1
  cases hsuccess

end PatrolFleet.Patrol
