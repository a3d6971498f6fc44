import Mathlib.Data.List.Pairwise
import PatrolFleet.Execution.Robot

/-!
The runs of a robot: the statuses of one mission come together and in order, as
long as no mission is accepted while an earlier goal awaits its answer.
-/

set_option autoImplicit false

namespace PatrolFleet.Execution

def isFailure (status : String) : Bool :=
  status = "aborted" || status = "rejected" || status = "error"

def isTerminal (status : String) : Bool :=
  status = "completed" || status = "canceled" || isFailure status

structure Follows (newer older : Report) : Prop where
  number : older.run.number ≤ newer.run.number
  last : older.run = newer.run → isTerminal older.status = false

/-- A log whose latest run is `run`. -/
structure Logged (run : Run) (log : List Report) : Prop where
  ordered : log.Pairwise Follows
  bound : ∀ report ∈ log, report.run.number ≤ run.number
  agree : ∀ report ∈ log, report.run.number = run.number → report.run = run
  known : ∀ report ∈ log, ∃ state, Heartbeat.statusState report.status = some state
  idle : ∀ report ∈ log, report.status = "idle" → report.run.number = 0

/-- No terminal status of the run is in the log. -/
def Unfinished (run : Run) (log : List Report) : Prop :=
  ∀ report ∈ log, report.run = run → isTerminal report.status = false

section

variable {run run' : Run} {log : List Report}

theorem Logged.begin (h : Logged run log) (hnumber : run.number < run'.number) :
    Logged run' log ∧ Unfinished run' log := by
  have hlt : ∀ report ∈ log, report.run.number < run'.number := fun report hr =>
    (h.bound report hr).trans_lt hnumber
  refine ⟨⟨h.ordered, fun report hr => (hlt report hr).le, fun report hr heq => ?_, h.known,
    h.idle⟩, fun report hr heq => ?_⟩
  · exact absurd heq (hlt report hr).ne
  · exact absurd (congrArg Run.number heq) (hlt report hr).ne

theorem Logged.append (h : Logged run log) (hopen : Unfinished run log) (status : String)
    (hknown : ∃ state, Heartbeat.statusState status = some state) (hidle : status ≠ "idle") :
    Logged run (⟨run, status⟩ :: log) := by
  refine ⟨List.pairwise_cons.mpr ⟨fun older ho => ⟨h.bound older ho, hopen older ho⟩,
    h.ordered⟩, ?_, ?_, ?_, ?_⟩
  · simpa using h.bound
  · intro report hr heq
    rcases List.mem_cons.mp hr with rfl | hr
    · rfl
    · exact h.agree report hr heq
  · intro report hr
    rcases List.mem_cons.mp hr with rfl | hr
    · exact hknown
    · exact h.known report hr
  · intro report hr heq
    rcases List.mem_cons.mp hr with rfl | hr
    · exact absurd heq hidle
    · exact h.idle report hr heq

theorem Unfinished.append (h : Unfinished run log) (status : String)
    (hs : isTerminal status = false) :
    Unfinished run (⟨run, status⟩ :: log) := by
  intro report hr heq
  rcases List.mem_cons.mp hr with rfl | hr
  · exact hs
  · exact h report hr heq

theorem Logged.terminal_unique (h : Logged run log) {a b : Report} (ha : a ∈ log) (hb : b ∈ log)
    (hrun : a.run = b.run) (hta : isTerminal a.status = true) (htb : isTerminal b.status = true) :
    a = b := by
  by_contra hne
  have hpair : Follows a b ∨ Follows b a := by
    have hordered : log.Pairwise fun a b => Follows a b ∨ Follows b a := h.ordered.imp Or.inl
    have : Std.Symm fun a b : Report => Follows a b ∨ Follows b a := ⟨fun _ _ => Or.symm⟩
    exact hordered.forall ha hb hne
  rcases hpair with hfollows | hfollows
  · simp [hfollows.last hrun.symm] at htb
  · simp [hfollows.last hrun] at hta

end

/-! ### What the patrol manager publishes -/

def statusOf : Patrol.Sent → Option String
  | .status data => some data
  | _ => none

/-- From `s` to `t` the statuses were published, the latest first. -/
def Publishes (s t : Patrol.State) (statuses : List String) : Prop :=
  ∃ messages, t.sent = messages ++ s.sent ∧ messages.filterMap statusOf = statuses

section

variable {cfg : Patrol.Config} {libm : Patrol.Libm} {s t : Patrol.State}

theorem publishes_executeMission {missionType : UInt8} {targetPose : PoseStamped}
    {hasTarget serverAvailable : Bool} {now : Time}
    (h : Patrol.executeMission cfg libm missionType targetPose hasTarget serverAvailable now s =
      .ok t) :
    Publishes s t [if serverAvailable then "sending_goal" else "error", "waiting_for_nav2"] := by
  unfold Patrol.executeMission at h
  split at h
  · cases h
  split at h
  · cases h
  · rename_i goal _
    cases h
    cases serverAvailable with
    | false =>
      exact ⟨[.status "error", .status "waiting_for_nav2",
        .missionType (Patrol.missionTypeToString missionType)], rfl, rfl⟩
    | true =>
      exact ⟨[.goal s.goalCount goal, .status "sending_goal", .status "waiting_for_nav2",
        .missionType (Patrol.missionTypeToString missionType)], rfl, rfl⟩

theorem publishes_handleStop (s : Patrol.State) :
    Publishes s (Patrol.handleStop s).2 [] ∧ (Patrol.handleStop s).1.success = false ∨
    Publishes s (Patrol.handleStop s).2 ["canceling"] ∧ s.patrolActive = true ∧
      s.activeGoalHandle.isSome = true := by
  unfold Patrol.handleStop
  cases ha : s.patrolActive with
  | false => exact .inl ⟨⟨[], rfl, rfl⟩, rfl⟩
  | true =>
    cases hh : s.activeGoalHandle with
    | none => exact .inl ⟨⟨[], rfl, rfl⟩, rfl⟩
    | some id => exact .inr ⟨⟨[.cancelGoal id, .status "canceling"], rfl, rfl⟩, rfl, rfl⟩

end

/-! ### The robot after a callback -/

section

variable {robot : Robot} {run : Run} {patrol : Patrol.World}

theorem foldr_publish (run : Run) (messages : List Patrol.Sent) (robot : Robot) :
    (messages.foldr (Robot.publish run) robot).patrol = robot.patrol ∧
    (messages.foldr (Robot.publish run) robot).accepted = robot.accepted ∧
    (messages.foldr (Robot.publish run) robot).owner = robot.owner ∧
    (messages.foldr (Robot.publish run) robot).heartbeat = robot.heartbeat ∧
    (messages.foldr (Robot.publish run) robot).seen = robot.seen ∧
    (messages.foldr (Robot.publish run) robot).heartbeats = robot.heartbeats ∧
    (messages.foldr (Robot.publish run) robot).log =
      (messages.filterMap statusOf).map (Report.mk run) ++ robot.log := by
  induction messages with
  | nil => exact ⟨rfl, rfl, rfl, rfl, rfl, rfl, rfl⟩
  | cons m messages ih =>
    obtain ⟨hpatrol, haccepted, howner, hheartbeat, hseen, hheartbeats, hlog⟩ := ih
    cases m with
    | status data =>
      refine ⟨hpatrol, haccepted, howner, hheartbeat, hseen, hheartbeats, ?_⟩
      simp [Robot.publish, statusOf, hlog]
    | _ => exact ⟨hpatrol, haccepted, howner, hheartbeat, hseen, hheartbeats, hlog⟩

/-- What a callback of the patrol manager leaves of the robot. -/
structure After (robot robot' : Robot) (run : Run) (patrol : Patrol.World)
    (statuses : List String) : Prop where
  patrol : robot'.patrol = patrol
  accepted : robot'.accepted = robot.accepted
  owner : robot'.owner = robot.owner
  log : robot'.log = statuses.map (Report.mk run) ++ robot.log

theorem after_of_publishes (run : Run) {statuses : List String}
    (h : Publishes robot.patrol.node patrol.node statuses) :
    After robot (robot.after run patrol) run patrol statuses := by
  obtain ⟨messages, hsent, hstatuses⟩ := h
  have hnew : patrol.node.sent.take
      (patrol.node.sent.length - robot.patrol.node.sent.length) = messages := by
    rw [hsent, List.length_append, Nat.add_sub_cancel, List.take_left]
  obtain ⟨hpatrol, haccepted, howner, _, _, _, hlog⟩ :=
    foldr_publish run messages { robot with patrol }
  rw [Robot.after, hnew]
  exact ⟨hpatrol, haccepted, howner, by rw [hlog, hstatuses]⟩

theorem After.current {robot' : Robot} {statuses : List String}
    (h : After robot robot' run patrol statuses) : robot'.current = robot.current := by
  unfold Robot.current
  rw [h.accepted]

end

/-! ### One goal, one run -/

structure Robot.Tidy (robot : Robot) : Prop where
  oneGoal : robot.patrol.OneGoal
  owned : ∀ id phase, (id, phase) ∈ robot.patrol.goals → robot.owner id = robot.current
  logged : Logged robot.current robot.log
  live : robot.patrol.goals ≠ [] → Unfinished robot.current robot.log

/-- No goal of the robot awaits its answer. -/
def Robot.Answered (robot : Robot) : Prop := ∀ id, (id, .awaiting) ∉ robot.patrol.goals

section

variable {cfg : Patrol.Config} {libm : Patrol.Libm} {robot robot' : Robot}
  {missionId : Option String} {e : Patrol.Event}

/-- The state after a call of `execute_mission`. -/
def Attempt.state (cfg : Patrol.Config) (libm : Patrol.Libm) (attempt : Attempt)
    (node : Patrol.State) : Patrol.State :=
  match attempt.execute cfg libm node with
  | .ok t => t
  | .error _ => node

theorem handleStart_state (cfg : Patrol.Config) (libm : Patrol.Libm)
    (request : StartMission.Request) (serverAvailable : Bool) (now : Time)
    (node : Patrol.State) :
    (Patrol.handleStart cfg libm request serverAvailable now node).1.success =
      accepts cfg libm node (.start request serverAvailable now) ∧
    (Patrol.handleStart cfg libm request serverAvailable now node).2 =
      Attempt.state cfg libm ⟨request.missionType, request.targetPose, request.hasTarget,
        serverAvailable, now⟩ node := by
  unfold Patrol.handleStart Attempt.state accepts attemptOf Attempt.execute
  dsimp only
  split
  · rename_i t ht
    simp [ht, Except.isOk, Except.toBool]
  · rename_i what hwhat
    simp [hwhat, Except.isOk, Except.toBool]

theorem accepts_ok {attempt : Attempt} {node : Patrol.State} (he : attemptOf e = some attempt)
    (h : accepts cfg libm node e = true) :
    attempt.execute cfg libm node = .ok (attempt.state cfg libm node) := by
  unfold accepts at h
  rw [he] at h
  dsimp only at h
  unfold Attempt.state
  cases hr : attempt.execute cfg libm node with
  | ok t => rfl
  | error what => simp [hr, Except.isOk, Except.toBool] at h

theorem refuses_state {attempt : Attempt} {node : Patrol.State} (he : attemptOf e = some attempt)
    (h : accepts cfg libm node e = false) : attempt.state cfg libm node = node := by
  unfold accepts at h
  rw [he] at h
  dsimp only at h
  unfold Attempt.state
  cases hr : attempt.execute cfg libm node with
  | ok t => simp [hr, Except.isOk, Except.toBool] at h
  | error what => rfl

theorem accepts_attempt {node : Patrol.State} (h : accepts cfg libm node e = true) :
    ∃ attempt, attemptOf e = some attempt := by
  unfold accepts at h
  split at h
  · cases h
  · exact ⟨_, ‹_›⟩

theorem accepts_idle {node : Patrol.State} (h : accepts cfg libm node e = true) :
    node.patrolActive = false := by
  obtain ⟨attempt, he⟩ := accepts_attempt h
  exact (Patrol.executeMission_ok_iff.mp ⟨_, accepts_ok he h⟩).1

/-- A mission that is refused though it is admissible finds another one active. -/
theorem refuses_active {node : Patrol.State} (h : accepts cfg libm node e = false)
    (hs : Patrol.StartsMission cfg e) : node.patrolActive = true := by
  have hadmits : ∃ attempt, attemptOf e = some attempt ∧
      cfg.admits attempt.missionType attempt.hasTarget = true := by
    cases e with
    | start request serverAvailable now => exact ⟨_, rfl, hs.2⟩
    | autostart serverAvailable now => exact ⟨_, rfl, hs.2⟩
    | stop => exact hs.elim
    | goalResponse id accepted => exact hs.elim
    | result id result => exact hs.elim
  obtain ⟨attempt, he, hadmits⟩ := hadmits
  by_contra hidle
  have hok : ∃ t, attempt.execute cfg libm node = .ok t :=
    Patrol.executeMission_ok_iff.mpr ⟨by simpa using hidle, hadmits⟩
  obtain ⟨t, ht⟩ := hok
  unfold accepts at h
  rw [he] at h
  dsimp only at h
  simp [ht, Except.isOk, Except.toBool] at h

theorem Robot.Tidy.free (h : robot.Tidy)
    (hanswered : accepts cfg libm robot.patrol.node e = true → robot.Answered)
    (hs : Patrol.StartsMission cfg e) : robot.Answered := by
  cases ha : accepts cfg libm robot.patrol.node e with
  | true => exact hanswered ha
  | false =>
    intro id hm
    obtain ⟨id', hm'⟩ := h.oneGoal.active.mp (refuses_active ha hs)
    have hone := Patrol.goals_eq h.oneGoal.single hm
    simp [hone] at hm'

theorem attempt_step {attempt : Attempt} {patrol patrol' : Patrol.World}
    (he : attemptOf e = some attempt) (h : patrol.step cfg libm e = some patrol') :
    patrol'.node = attempt.state cfg libm patrol.node ∧
      patrol'.goals = (patrol.after (attempt.state cfg libm patrol.node)).goals := by
  cases Patrol.step_cases h with
  | start request serverAvailable now =>
    cases he
    obtain ⟨_, hstate⟩ := handleStart_state cfg libm request serverAvailable now patrol.node
    exact ⟨hstate, by rw [hstate]⟩
  | autostart serverAvailable now =>
    cases he
    exact ⟨rfl, rfl⟩
  | stop => cases he
  | accepted => cases he
  | rejected => cases he
  | result => cases he

theorem Robot.Tidy.begin {patrol' : Patrol.World} (h : robot.Tidy)
    (hone : patrol'.OneGoal) (ha : accepts cfg libm robot.patrol.node e = true)
    (hanswered : robot.Answered) (hstep : robot.patrol.step cfg libm e = some patrol') :
    ((robot.begin missionId).after (robot.begin missionId).current patrol').Tidy := by
  obtain ⟨attempt, he⟩ := accepts_attempt ha
  have hok := accepts_ok he ha
  obtain ⟨hnode, hgoals⟩ := attempt_step he hstep
  have hnone : robot.patrol.goals = [] := h.oneGoal.idle (accepts_idle ha) hanswered
  have hcount := Patrol.executeMission_started hok
  have hpublishes : Publishes (robot.begin missionId).patrol.node patrol'.node _ :=
    hnode ▸ publishes_executeMission hok
  have hafter := after_of_publishes (robot.begin missionId).current hpublishes
  have hnumber : robot.current.number < (robot.begin missionId).current.number :=
    Nat.lt_succ_self _
  obtain ⟨hlogged, hopen⟩ := h.logged.begin hnumber
  have hwaiting := hlogged.append hopen "waiting_for_nav2" ⟨_, rfl⟩ (by decide)
  have hopen' := hopen.append "waiting_for_nav2" (by decide)
  have hcurrent := hafter.current
  refine ⟨by rw [hafter.patrol]; exact hone, ?_, ?_, ?_⟩
  · intro id phase hm
    rw [hafter.patrol, hgoals, Patrol.World.after, hnone] at hm
    rw [hafter.owner, hcurrent]
    split at hm
    · simp only [List.mem_singleton, Prod.mk.injEq] at hm
      rw [hm.1]
      exact Function.update_self ..
    · simp at hm
  · rw [hcurrent, hafter.log]
    cases attempt.serverAvailable with
    | false => exact hwaiting.append hopen' "error" ⟨_, rfl⟩ (by decide)
    | true => exact hwaiting.append hopen' "sending_goal" ⟨_, rfl⟩ (by decide)
  · intro hgoals'
    rw [hcurrent, hafter.log]
    cases hserver : attempt.serverAvailable with
    | false =>
      rw [hafter.patrol, hgoals, Patrol.World.after, hnone,
        if_neg (by simp [hcount.unsent (by simp [hserver])])] at hgoals'
      exact absurd rfl hgoals'
    | true => exact hopen'.append "sending_goal" (by decide)

theorem Robot.Tidy.runOf_stop (h : robot.Tidy) (hactive : robot.patrol.node.patrolActive = true) :
    robot.runOf .stop = robot.current := by
  obtain ⟨id, hm⟩ := h.oneGoal.active.mp hactive
  unfold Robot.runOf
  rw [h.oneGoal.handle id hm]
  exact h.owned id _ hm

theorem Robot.Tidy.silent {run : Run} {patrol' : Patrol.World} (h : robot.Tidy)
    (hone : patrol'.OneGoal) (hpublishes : Publishes robot.patrol.node patrol'.node [])
    (hgoals : patrol'.goals = robot.patrol.goals) : (robot.after run patrol').Tidy := by
  have hafter := after_of_publishes run hpublishes
  have hcurrent := hafter.current
  have hlog : (robot.after run patrol').log = robot.log := hafter.log
  refine ⟨by rw [hafter.patrol]; exact hone, ?_, ?_, ?_⟩
  · rw [hafter.patrol, hafter.owner, hcurrent, hgoals]
    exact h.owned
  · rw [hcurrent, hlog]
    exact h.logged
  · rw [hafter.patrol, hcurrent, hlog, hgoals]
    exact h.live

theorem Robot.Tidy.report {run : Run} {patrol' : Patrol.World} (h : robot.Tidy)
    (hone : patrol'.OneGoal) (hrun : run = robot.current) (hlive : robot.patrol.goals ≠ [])
    (hgoals : ∀ id phase, (id, phase) ∈ patrol'.goals → ∃ phase, (id, phase) ∈ robot.patrol.goals)
    {status : String} (hpublishes : Publishes robot.patrol.node patrol'.node [status])
    (hknown : ∃ state, Heartbeat.statusState status = some state) (hidle : status ≠ "idle")
    (hend : patrol'.goals ≠ [] → isTerminal status = false) :
    (robot.after run patrol').Tidy := by
  subst hrun
  have hafter := after_of_publishes robot.current hpublishes
  have hcurrent := hafter.current
  have hopen := h.live hlive
  refine ⟨by rw [hafter.patrol]; exact hone, ?_, ?_, ?_⟩
  · intro id phase hm
    rw [hafter.patrol] at hm
    obtain ⟨phase', hm'⟩ := hgoals id phase hm
    rw [hafter.owner, hcurrent]
    exact h.owned id phase' hm'
  · rw [hcurrent, hafter.log]
    exact h.logged.append hopen status hknown hidle
  · intro hgoals'
    rw [hafter.patrol] at hgoals'
    rw [hcurrent, hafter.log]
    exact hopen.append status (hend hgoals')

theorem terminalStatus_cases (result : Patrol.FollowWaypoints.WrappedResult) :
    Patrol.terminalStatus result = "completed" ∨ Patrol.terminalStatus result = "aborted" ∨
      Patrol.terminalStatus result = "canceled" ∨ Patrol.terminalStatus result = "error" := by
  unfold Patrol.terminalStatus
  split
  · split
    · exact .inr (.inl rfl)
    · exact .inl rfl
  · exact .inr (.inl rfl)
  · exact .inr (.inr (.inl rfl))
  · exact .inr (.inr (.inr rfl))

/-- The robot stays tidy if no mission is accepted while a goal awaits its answer. -/
theorem tidy_step (h : robot.Tidy)
    (hanswered : accepts cfg libm robot.patrol.node e = true → robot.Answered)
    (hstep : robot.step cfg libm missionId e = some robot') : robot'.Tidy := by
  obtain ⟨patrol', hpatrol, rfl⟩ := Option.map_eq_some_iff.mp hstep
  have hone : patrol'.OneGoal := Patrol.oneGoal_step h.oneGoal (h.free hanswered) hpatrol
  cases ha : accepts cfg libm robot.patrol.node e with
  | true =>
    rw [if_pos rfl]
    exact h.begin hone ha (hanswered ha) hpatrol
  | false =>
    rw [if_neg (by simp)]
    cases Patrol.step_cases hpatrol with
    | start request serverAvailable now =>
      obtain ⟨hnode, hgoals⟩ := attempt_step rfl hpatrol
      rw [refuses_state rfl ha] at hnode hgoals
      exact h.silent hone ⟨[], by rw [hnode]; rfl, rfl⟩
        (hgoals.trans (by simp [Patrol.World.after]))
    | autostart serverAvailable now =>
      obtain ⟨hnode, hgoals⟩ := attempt_step rfl hpatrol
      rw [refuses_state rfl ha] at hnode hgoals
      exact h.silent hone ⟨[], by rw [hnode]; rfl, rfl⟩
        (hgoals.trans (by simp [Patrol.World.after]))
    | stop =>
      rcases publishes_handleStop robot.patrol.node with ⟨hsilent, _⟩ | ⟨hcancels, hactive, hhandle⟩
      · exact h.silent hone hsilent rfl
      · obtain ⟨id, hm⟩ := h.oneGoal.active.mp hactive
        exact h.report hone (h.runOf_stop hactive) (List.ne_nil_of_mem hm)
          (fun id phase hm => ⟨phase, hm⟩) hcancels
          ⟨_, rfl⟩ (by decide) fun _ => by decide
    | @accepted id hm =>
      have hsingle := Patrol.goals_eq h.oneGoal.single hm
      have hrun : robot.runOf (.goalResponse id true) = robot.current := h.owned id _ hm
      refine h.report hone hrun (List.ne_nil_of_mem hm) ?_ ⟨[.status "active"], rfl, rfl⟩
        ⟨_, rfl⟩ (by decide) fun _ => by decide
      intro id' phase hm'
      simp only [hsingle, List.erase_cons_head, List.mem_singleton, Prod.mk.injEq] at hm'
      exact ⟨.awaiting, by rw [hm'.1]; exact hm⟩
    | @rejected id hm =>
      have hsingle := Patrol.goals_eq h.oneGoal.single hm
      have hrun : robot.runOf (.goalResponse id false) = robot.current := h.owned id _ hm
      refine h.report hone hrun (List.ne_nil_of_mem hm)
        (fun id' phase hm' => ⟨phase, List.mem_of_mem_erase hm'⟩)
        ⟨[.status "rejected"], rfl, rfl⟩
        ⟨_, rfl⟩ (by decide) fun hgoals => ?_
      simp [hsingle] at hgoals
    | @result id result hm =>
      have hsingle := Patrol.goals_eq h.oneGoal.single hm
      have hrun : robot.runOf (.result id result) = robot.current := h.owned id _ hm
      refine h.report hone hrun (List.ne_nil_of_mem hm)
        (fun id' phase hm' => ⟨phase, List.mem_of_mem_erase hm'⟩)
        ⟨[.status (Patrol.terminalStatus result)], rfl, rfl⟩ ?_ ?_ fun hgoals => ?_
      · rcases terminalStatus_cases result with heq | heq | heq | heq <;> rw [heq] <;>
          exact ⟨_, rfl⟩
      · rcases terminalStatus_cases result with heq | heq | heq | heq <;> rw [heq] <;> decide
      · simp [hsingle] at hgoals

theorem tidy_init (cfg : Patrol.Config) (libm : Patrol.Libm) (hcfg : Heartbeat.Config) :
    (Robot.init cfg libm hcfg).Tidy := by
  refine ⟨Patrol.oneGoal_init cfg libm, ?_, ⟨?_, ?_, ?_, ?_, ?_⟩, ?_⟩
  · intro id phase hm
    simp [Robot.init, Patrol.machine] at hm
  · exact List.pairwise_singleton ..
  · simp [Robot.init]
  · simp [Robot.init, Robot.current]
  · intro report hr
    rw [List.mem_singleton.mp hr]
    exact ⟨_, rfl⟩
  · simp [Robot.init]
  · simp [Robot.init, Patrol.machine]

end

end PatrolFleet.Execution
