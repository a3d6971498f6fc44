import PatrolFleet.Heartbeat.Node
import PatrolFleet.Patrol.OneGoal

/-!
The mission label of the heartbeats, over every order in which the two topics of
the patrol manager can be delivered: it is fixed exactly when the last status is
one of a robot at rest, or when every mission started is a patrol.
-/

set_option autoImplicit false

namespace PatrolFleet.Heartbeat

open Patrol (Sent Libm World Event machine executeMission missionTypeToString)

/-- What the patrol manager publishes on `patrol/status` and `patrol/mission_type`. -/
inductive Message where
  | status (data : String)
  | missionType (data : String)
  deriving DecidableEq

def statuses (messages : List Message) : List String :=
  messages.filterMap fun
    | .status data => some data
    | .missionType _ => none

def types (messages : List Message) : List String :=
  messages.filterMap fun
    | .status _ => none
    | .missionType data => some data

/-- The messages among what was sent, the oldest first. -/
def messages (sent : List Sent) : List Message :=
  sent.reverse.filterMap fun
    | .status data => some (.status data)
    | .missionType data => some (.missionType data)
    | .goal .. | .cancelGoal _ => none

def State.receive (s : State) : Message → State
  | .status data => patrolStatusCallback data s
  | .missionType data => missionTypeCallback data s

def State.after (cfg : Config) (delivered : List Message) : State :=
  delivered.foldl State.receive (State.init cfg)

/-- In order, and with the last message, as a queue of depth one delivers a topic. -/
structure Thinned (delivered published : List String) : Prop where
  order : delivered.Sublist published
  last : delivered.getLast? = published.getLast?

structure Delivery (published delivered : List Message) : Prop where
  statuses : Thinned (statuses delivered) (statuses published)
  types : Thinned (types delivered) (types published)

/-- The type that is published when `execute_mission` goes through. -/
def missionStarted (cfg : Patrol.Config) (libm : Libm) (w : World) : Event → Option String
  | .start request serverAvailable now =>
    match executeMission cfg libm request.missionType request.targetPose request.hasTarget
        serverAvailable now w.node with
    | .ok _ => some (missionTypeToString request.missionType)
    | .error _ => none
  | .autostart serverAvailable now =>
    match executeMission cfg libm StartMission.missionPatrol {} false serverAvailable now
        w.node with
    | .ok _ => some (missionTypeToString StartMission.missionPatrol)
    | .error _ => none
  | .stop | .goalResponse .. | .result .. => none

/-- The types of the missions that the events have started, in their order. -/
def missionsStarted (cfg : Patrol.Config) (libm : Libm) (es : List Event) : List String :=
  (machine cfg libm).outputs (missionStarted cfg libm) (machine cfg libm).init es

/-- The state and the label are the same after every delivery, and the label of a
robot that is not at rest is the last of the missions. -/
structure TimingFree (cfg : Config) (published : List Message) (missions : List String) :
    Prop where
  same : ∀ d e, Delivery published d → Delivery published e →
    (State.after cfg d).state = (State.after cfg e).state ∧
      (State.after cfg d).currentMission = (State.after cfg e).currentMission
  label : ∀ d, Delivery published d →
    ((State.after cfg d).state = RobotHeartbeat.statePatrolling ∨
      (State.after cfg d).state = RobotHeartbeat.stateError) →
    missions.getLast? = some (State.after cfg d).currentMission

/-! ### What is published -/

section

variable {a b : List Message}

@[simp] theorem statuses_append : statuses (a ++ b) = statuses a ++ statuses b := by
  simp [statuses]

@[simp] theorem types_append : types (a ++ b) = types a ++ types b := by
  simp [types]

@[simp] theorem statuses_status (x : String) : statuses (.status x :: a) = x :: statuses a := rfl

@[simp] theorem statuses_type (x : String) : statuses (.missionType x :: a) = statuses a := rfl

@[simp] theorem types_status (x : String) : types (.status x :: a) = types a := rfl

@[simp] theorem types_type (x : String) : types (.missionType x :: a) = x :: types a := rfl

@[simp] theorem statuses_nil : statuses [] = [] := rfl

@[simp] theorem types_nil : types [] = [] := rfl

@[simp] theorem statuses_map (l : List String) : statuses (l.map .missionType) = [] := by
  induction l with
  | nil => rfl
  | cons y l ih => exact ih

@[simp] theorem types_map (l : List String) : types (l.map .missionType) = l := by
  induction l with
  | nil => rfl
  | cons y l ih => rw [List.map_cons, types_type, ih]

end

theorem messages_cons (m : Sent) (sent : List Sent) :
    messages (m :: sent) = messages sent ++ messages [m] := by
  simp [messages]

/-- What a callback publishes: known statuses, and the types of the missions that
it starts. -/
def AnnouncesTypes (s t : Patrol.State) (missions : List String) : Prop :=
  ∃ new, messages t.sent = messages s.sent ++ new ∧ types new = missions ∧
    ∀ x ∈ statuses new, (statusState x).isSome = true

section

variable {s t u : Patrol.State} {a b : List String}

theorem AnnouncesTypes.of_messages (h : messages t.sent = messages s.sent) :
    AnnouncesTypes s t [] :=
  ⟨[], by simp [h], rfl, by simp⟩

theorem AnnouncesTypes.trans (h : AnnouncesTypes s t a) (h' : AnnouncesTypes t u b) :
    AnnouncesTypes s u (a ++ b) := by
  obtain ⟨new, hnew, htypes, hknown⟩ := h
  obtain ⟨new', hnew', htypes', hknown'⟩ := h'
  refine ⟨new ++ new', ?_, ?_, ?_⟩
  · rw [hnew', hnew, List.append_assoc]
  · rw [types_append, htypes, htypes']
  · intro x hx
    rw [statuses_append, List.mem_append] at hx
    exact hx.elim (hknown x) (hknown' x)

theorem publishStatus_announcesTypes (status : String) (h : (statusState status).isSome = true)
    (s : Patrol.State) : AnnouncesTypes s (Patrol.publishStatus status s) [] :=
  ⟨[.status status], messages_cons _ _, rfl, by simpa using h⟩

theorem sendGoal_announcesTypes (goal : Patrol.FollowWaypoints.Goal) (serverAvailable : Bool)
    (s : Patrol.State) : AnnouncesTypes s (Patrol.sendGoal goal serverAvailable s) [] := by
  have hwait := publishStatus_announcesTypes "waiting_for_nav2" rfl s
  cases serverAvailable with
  | false => exact hwait.trans (publishStatus_announcesTypes "error" rfl _)
  | true =>
    have hsending := hwait.trans (publishStatus_announcesTypes "sending_goal" rfl _)
    exact hsending.trans (.of_messages ((messages_cons _ _).trans (List.append_nil _)))

theorem terminalStatus_known (result : Patrol.FollowWaypoints.WrappedResult) :
    (statusState (Patrol.terminalStatus result)).isSome = true := by
  unfold Patrol.terminalStatus
  split
  · split <;> rfl
  all_goals rfl

theorem missionTypeToString_ne_empty (missionType : UInt8) :
    missionTypeToString missionType ≠ "" := by
  unfold missionTypeToString
  repeat' split
  all_goals decide

end

section

variable {cfg : Patrol.Config} {libm : Libm} {missionType : UInt8} {targetPose : PoseStamped}
  {hasTarget serverAvailable : Bool} {now : Time}

theorem executeMission_announcesTypes {s t : Patrol.State}
    (h : executeMission cfg libm missionType targetPose hasTarget serverAvailable now s = .ok t) :
    AnnouncesTypes s t [missionTypeToString missionType] := by
  unfold executeMission at h
  split at h
  · cases h
  split at h
  · cases h
  rename_i goal _
  cases h
  have htype : AnnouncesTypes s (s.send (.missionType (missionTypeToString missionType)))
      [missionTypeToString missionType] :=
    ⟨[.missionType (missionTypeToString missionType)], messages_cons _ _, rfl, by simp⟩
  exact htype.trans (sendGoal_announcesTypes goal serverAvailable _)

theorem step_announcesTypes {w v : World} {e : Event} (h : w.step cfg libm e = some v) :
    AnnouncesTypes w.node v.node (missionStarted cfg libm w e).toList := by
  cases Patrol.step_cases h with
  | start request serverAvailable now =>
    simp only [World.after, Patrol.handleStart, missionStarted]
    cases hs : executeMission cfg libm request.missionType request.targetPose request.hasTarget
        serverAvailable now w.node with
    | error what => exact .of_messages rfl
    | ok t => exact executeMission_announcesTypes hs
  | autostart serverAvailable now =>
    simp only [World.after, Patrol.startPatrol, missionStarted]
    cases hs : executeMission cfg libm StartMission.missionPatrol {} false serverAvailable now
        w.node with
    | error what => exact .of_messages rfl
    | ok t => exact executeMission_announcesTypes hs
  | stop =>
    simp only [Patrol.handleStop, missionStarted]
    split
    · have hcancel := publishStatus_announcesTypes "canceling" rfl w.node
      exact hcancel.trans (.of_messages ((messages_cons _ _).trans (List.append_nil _)))
    · exact .of_messages rfl
  | @accepted id _ =>
    exact publishStatus_announcesTypes "active" rfl
      { w.node with activeGoalHandle := some id, patrolActive := true }
  | rejected =>
    exact publishStatus_announcesTypes "rejected" rfl { w.node with patrolActive := false }
  | result result =>
    exact publishStatus_announcesTypes _ (terminalStatus_known result)
      { w.node with patrolActive := false, activeGoalHandle := none }

/-- A patrol manager that has not started a mission. -/
structure Untouched (w : World) : Prop where
  goals : w.goals = []
  inactive : w.node.patrolActive = false
  idle : statuses (messages w.node.sent) = ["idle"]

theorem Untouched.after_same {w : World} (hw : Untouched w) : Untouched (w.after w.node) :=
  ⟨by simpa [World.after] using hw.goals, hw.inactive, hw.idle⟩

theorem Untouched.step {w v : World} {e : Event} (hw : Untouched w)
    (hnone : missionStarted cfg libm w e = none) (h : w.step cfg libm e = some v) :
    Untouched v := by
  cases Patrol.step_cases h with
  | start request serverAvailable now =>
    have hsame : (Patrol.handleStart cfg libm request serverAvailable now w.node).2 = w.node := by
      unfold Patrol.handleStart
      cases hs : executeMission cfg libm request.missionType request.targetPose
        request.hasTarget serverAvailable now w.node with
      | error what => rfl
      | ok t => simp [missionStarted, hs] at hnone
    rw [hsame]
    exact hw.after_same
  | autostart serverAvailable now =>
    have hsame : Patrol.startPatrol cfg libm serverAvailable now w.node = w.node := by
      unfold Patrol.startPatrol
      cases hs : executeMission cfg libm StartMission.missionPatrol {} false serverAvailable
        now w.node with
      | error what => rfl
      | ok t => simp [missionStarted, hs] at hnone
    rw [hsame]
    obtain ⟨hgoals, hinactive, hidle⟩ := hw.after_same
    exact ⟨hgoals, hinactive, hidle⟩
  | stop =>
    have hstop : (Patrol.handleStop w.node).2 = w.node := by
      unfold Patrol.handleStop
      rw [hw.inactive]
    simp only [hstop]
    exact ⟨hw.goals, hw.inactive, hw.idle⟩
  | accepted hm => simp [hw.goals] at hm
  | rejected hm => simp [hw.goals] at hm
  | result _ hm => simp [hw.goals] at hm

/-- What has been published by the end of a run. -/
structure Announced (cfg : Patrol.Config) (libm : Libm) (es : List Event) (w : World) : Prop where
  types : types (messages w.node.sent) = missionsStarted cfg libm es
  known : ∀ x ∈ statuses (messages w.node.sent), (statusState x).isSome = true
  nonempty : statuses (messages w.node.sent) ≠ []
  untouched : missionsStarted cfg libm es = [] → Untouched w

theorem missionsStarted_concat {w v : World} {es : List Event} {e : Event}
    (hw : (machine cfg libm).run es = some w) (hv : w.step cfg libm e = some v) :
    missionsStarted cfg libm (es ++ [e]) =
      missionsStarted cfg libm es ++ (missionStarted cfg libm w e).toList :=
  (machine cfg libm).outputs_concat hw hv

theorem run_announced {es : List Event} {w : World} (h : (machine cfg libm).run es = some w) :
    Announced cfg libm es w := by
  induction es using List.reverseRecOn generalizing w with
  | nil =>
    cases h
    have hidle : statuses (messages (machine cfg libm).init.node.sent) = ["idle"] := rfl
    refine ⟨rfl, ?_, ?_, fun _ => ⟨rfl, rfl, hidle⟩⟩
    · rw [hidle]
      decide
    · rw [hidle]
      decide
  | append_singleton es e ih =>
    obtain ⟨u, hu, hw⟩ := (machine cfg libm).run_concat_inv h
    obtain ⟨htypes, hknown, hnonempty, huntouched⟩ := ih hu
    have hmissions := missionsStarted_concat hu hw
    obtain ⟨new, hnew, hnewTypes, hnewKnown⟩ := step_announcesTypes hw
    refine ⟨?_, ?_, ?_, ?_⟩
    · rw [hnew, types_append, htypes, hnewTypes, hmissions]
    · intro x hx
      rw [hnew, statuses_append, List.mem_append] at hx
      exact hx.elim (hknown x) (hnewKnown x)
    · rw [hnew, statuses_append]
      exact List.append_ne_nil_of_left_ne_nil hnonempty _
    · intro hnone
      rw [hmissions, List.append_eq_nil_iff, Option.toList_eq_nil_iff] at hnone
      exact (huntouched hnone.1).step hnone.2 hw

theorem missionsStarted_ne_empty {es : List Event} {w : World}
    (h : (machine cfg libm).run es = some w) : "" ∉ missionsStarted cfg libm es := by
  induction es using List.reverseRecOn generalizing w with
  | nil => simp [missionsStarted, Machine.outputs]
  | append_singleton es e ih =>
    obtain ⟨u, hu, hw⟩ := (machine cfg libm).run_concat_inv h
    rw [missionsStarted_concat hu hw, List.mem_append, not_or]
    refine ⟨ih hu, ?_⟩
    rw [Option.mem_toList]
    intro hmem
    cases e with
    | start request serverAvailable now =>
      simp only [missionStarted] at hmem
      split at hmem
      · exact missionTypeToString_ne_empty _ (Option.some.inj hmem)
      · cases hmem
    | autostart serverAvailable now =>
      simp only [missionStarted] at hmem
      split at hmem
      · exact missionTypeToString_ne_empty _ (Option.some.inj hmem)
      · cases hmem
    | stop => cases hmem
    | goalResponse id accepted => cases hmem
    | result id result => cases hmem

end

/-! ### What is shown -/

/-- The label of a robot that is not at rest, from the types heard so far. -/
def nameOf (heard : List String) : String :=
  if (heard.getLast?.getD "").isEmpty then "patrol" else heard.getLast?.getD ""

section

variable {cfg : Config} {d : List Message} {m : Message} {x : String}

theorem after_concat : State.after cfg (d ++ [m]) = (State.after cfg d).receive m := by
  simp [State.after]

theorem after_lastReportedMissionType :
    (State.after cfg d).lastReportedMissionType = (types d).getLast?.getD "" := by
  induction d using List.reverseRecOn with
  | nil => rfl
  | append_singleton d m ih =>
    rw [after_concat, types_append]
    cases m with
    | status x =>
      simp only [State.receive, patrolStatusCallback, types_status, types_nil, List.append_nil]
      split <;> exact ih
    | missionType x => simp [State.receive, missionTypeCallback]

/-- The last status that was delivered decides the state, and the types delivered
before it the label. -/
theorem after_shown (cfg : Config) (hx : (statuses d).getLast? = some x) {state : UInt8}
    (hstate : statusState x = some state) :
    (State.after cfg d).state = state ∧ ∃ heard, heard <+: types d ∧
      (State.after cfg d).currentMission =
        if state = RobotHeartbeat.stateIdle then "" else nameOf heard := by
  induction d using List.reverseRecOn with
  | nil => cases hx
  | append_singleton d m ih =>
    rw [after_concat, types_append]
    cases m with
    | status y =>
      have hy : y = x := by simpa using hx
      subst hy
      refine ⟨patrolStatusCallback_state hstate _, types d, List.prefix_append _ _, ?_⟩
      simp only [State.receive, patrolStatusCallback, hstate, State.missionName,
        after_lastReportedMissionType]
      rfl
    | missionType y =>
      obtain ⟨hs, heard, hheard, hm⟩ := ih (by simpa using hx)
      exact ⟨hs, heard, hheard.trans (List.prefix_append _ _), hm⟩

theorem statusState_cases {state : UInt8} (h : statusState x = some state) :
    state = RobotHeartbeat.stateIdle ∧ (x = "idle" ∨ x = "completed" ∨ x = "canceled") ∨
      (state = RobotHeartbeat.statePatrolling ∨ state = RobotHeartbeat.stateError) ∧
        ¬ (x = "idle" ∨ x = "completed" ∨ x = "canceled") := by
  unfold statusState at h
  split at h
  next hx =>
    cases h
    refine Or.inr ⟨Or.inl rfl, ?_⟩
    rcases hx with rfl | rfl | rfl | rfl <;> decide
  split at h
  next hx =>
    cases h
    exact Or.inl ⟨rfl, hx⟩
  next hx =>
    split at h
    · cases h
      exact Or.inr ⟨Or.inr rfl, hx⟩
    · cases h

theorem nameOf_patrol {heard : List String} (h : ∀ type ∈ heard, type = "patrol") :
    nameOf heard = "patrol" := by
  unfold nameOf
  cases hlast : heard.getLast? with
  | none => rfl
  | some type =>
    rw [h type (List.mem_of_getLast? hlast)]
    rfl

theorem nameOf_singleton {type : String} (h : type ≠ "") : nameOf [type] = type := by
  simp [nameOf, h]

end

/-! ### Deliveries -/

section

variable {cfg : Config} {published : List Message} {x last : String}

theorem thinned_singleton {delivered : List String} (h : delivered.getLast? = some x) :
    Thinned [x] delivered :=
  ⟨List.singleton_sublist.mpr (List.mem_of_getLast? h), by simp [h]⟩

theorem delivery_of_last {before after : List String}
    (hx : (statuses published).getLast? = some x)
    (htypes : Thinned (before ++ after) (types published)) :
    Delivery published (before.map .missionType ++ .status x :: after.map .missionType) := by
  refine ⟨?_, ?_⟩
  · rw [statuses_append, statuses_map, List.nil_append, statuses_status, statuses_map]
    exact thinned_singleton hx
  · rwa [types_append, types_map, types_status, types_map]

theorem currentMission_of_last (cfg : Config) (before after : List String) {state : UInt8}
    (hstate : statusState x = some state) (hbusy : state ≠ RobotHeartbeat.stateIdle) :
    (State.after cfg (before.map .missionType ++ .status x :: after.map .missionType)).state =
        state ∧
      (State.after cfg
        (before.map .missionType ++ .status x :: after.map .missionType)).currentMission =
        nameOf before := by
  induction after using List.reverseRecOn with
  | nil =>
    rw [List.map_nil, after_concat]
    refine ⟨patrolStatusCallback_state hstate _, ?_⟩
    simp only [State.receive, patrolStatusCallback, hstate, State.missionName,
      after_lastReportedMissionType, types_map, if_neg hbusy]
    rfl
  | append_singleton after y ih =>
    rw [List.map_append, ← List.cons_append, ← List.append_assoc, List.map_singleton, after_concat]
    exact ih

end

section

variable {hb : Config} {published : List Message} {missions : List String}

theorem timingFree_of_rest (hidle : ∃ x, (statuses published).getLast? = some x ∧
    statusState x = some RobotHeartbeat.stateIdle) : TimingFree hb published missions := by
  obtain ⟨x, hx, hstate⟩ := hidle
  have hshown : ∀ d, Delivery published d → (State.after hb d).state = RobotHeartbeat.stateIdle ∧
      (State.after hb d).currentMission = "" := by
    intro d hd
    obtain ⟨hs, heard, _, hm⟩ := after_shown hb (hd.statuses.last.trans hx) hstate
    exact ⟨hs, by rw [hm, if_pos rfl]⟩
  refine ⟨?_, ?_⟩
  · intro d e hd he
    rw [(hshown d hd).1, (hshown e he).1, (hshown d hd).2, (hshown e he).2]
    exact ⟨rfl, rfl⟩
  · intro d hd hbusy
    rw [(hshown d hd).1] at hbusy
    exact absurd hbusy (by decide)

theorem timingFree_of_patrols {x : String} {state : UInt8}
    (hx : (statuses published).getLast? = some x) (hstate : statusState x = some state)
    (hbusy : state ≠ RobotHeartbeat.stateIdle) (htypes : types published = missions)
    (hne : missions ≠ []) (hall : ∀ type ∈ missions, type = "patrol") :
    TimingFree hb published missions := by
  have hshown : ∀ d, Delivery published d → (State.after hb d).state = state ∧
      (State.after hb d).currentMission = "patrol" := by
    intro d hd
    obtain ⟨hs, heard, hheard, hm⟩ := after_shown hb (hd.statuses.last.trans hx) hstate
    refine ⟨hs, ?_⟩
    rw [hm, if_neg hbusy]
    refine nameOf_patrol fun type htype => hall type ?_
    rw [← htypes]
    exact hd.types.order.subset (hheard.subset htype)
  refine ⟨?_, ?_⟩
  · intro d e hd he
    rw [(hshown d hd).1, (hshown e he).1, (hshown d hd).2, (hshown e he).2]
    exact ⟨rfl, rfl⟩
  · intro d hd _
    rw [(hshown d hd).2, List.getLast?_eq_some_getLast hne,
      hall _ (List.getLast_mem hne)]

/-- A status that is delivered before the last type, with an earlier type before it. -/
theorem patrols_of_timingFree {x : String} {state : UInt8}
    (hx : (statuses published).getLast? = some x) (hstate : statusState x = some state)
    (hbusy : state = RobotHeartbeat.statePatrolling ∨ state = RobotHeartbeat.stateError)
    (htypes : types published = missions) (hempty : "" ∉ missions)
    (h : TimingFree hb published missions) : ∀ type ∈ missions, type = "patrol" := by
  have hnotIdle : state ≠ RobotHeartbeat.stateIdle := by
    rcases hbusy with rfl | rfl <;> decide
  have hname : ∀ before last, Thinned (before ++ [last]) missions → nameOf before = last := by
    intro before last hthin
    have hd := delivery_of_last hx (htypes.symm ▸ hthin)
    obtain ⟨hs, hm⟩ := currentMission_of_last hb before [last] hstate hnotIdle
    have hlabel := h.label _ hd (by rwa [hs])
    rw [hm, ← hthin.last, List.getLast?_concat] at hlabel
    exact (Option.some.inj hlabel).symm
  intro type htype
  obtain ⟨earlier, last, rfl⟩ :=
    (List.eq_nil_or_concat' missions).resolve_left (List.ne_nil_of_mem htype)
  have hlast : "patrol" = last :=
    hname [] last (thinned_singleton List.getLast?_concat)
  rcases List.mem_append.mp htype with hearlier | hmem
  · have hsub : [type, last].Sublist (earlier ++ [last]) :=
      (List.singleton_sublist.mpr hearlier).append (List.Sublist.refl [last])
    have htypeLast : nameOf [type] = last := hname [type] last ⟨hsub, by simp⟩
    rw [nameOf_singleton (fun heq => hempty (heq ▸ htype))] at htypeLast
    rw [htypeLast, hlast]
  · rw [List.mem_singleton.mp hmem, hlast]

end

/-- After a run of the patrol manager, every delivery of its topics leaves the same
label, that of the last mission, if and only if the last status is one of a robot
at rest or only patrols have been started. -/
theorem timing_free_iff (hb : Config) {cfg : Patrol.Config} {libm : Libm} {es : List Event}
    {w : World} (h : (machine cfg libm).run es = some w) :
    TimingFree hb (messages w.node.sent) (missionsStarted cfg libm es) ↔
      ((∃ status ∈ ["idle", "completed", "canceled"],
          (statuses (messages w.node.sent)).getLast? = some status) ∨
        ∀ type ∈ missionsStarted cfg libm es, type = "patrol") := by
  have ha := run_announced h
  have hx : ∃ x, (statuses (messages w.node.sent)).getLast? = some x :=
    ⟨_, List.getLast?_eq_some_getLast ha.nonempty⟩
  obtain ⟨x, hx⟩ := hx
  obtain ⟨state, hstate⟩ := Option.isSome_iff_exists.mp (ha.known x (List.mem_of_getLast? hx))
  rcases statusState_cases hstate with ⟨rfl, hrest⟩ | ⟨hbusy, hnotRest⟩
  · refine iff_of_true (timingFree_of_rest ⟨x, hx, hstate⟩) (Or.inl ⟨x, ?_, hx⟩)
    simpa using hrest
  · have hnotIdle : state ≠ RobotHeartbeat.stateIdle := by
      rcases hbusy with rfl | rfl <;> decide
    constructor
    · intro hfree
      exact Or.inr (patrols_of_timingFree hx hstate hbusy ha.types
        (missionsStarted_ne_empty h) hfree)
    · rintro (⟨y, hy, hylast⟩ | hall)
      · cases hx.symm.trans hylast
        exact absurd (by simpa using hy) hnotRest
      · refine timingFree_of_patrols hx hstate hnotIdle ha.types ?_ hall
        intro hnone
        rw [(ha.untouched hnone).idle] at hx
        cases hx
        exact hnotRest (Or.inl rfl)

/-- A robot that patrols after its autostart. -/
def autostarted : List Event := [.autostart true (seconds 1), .goalResponse 0 true]

theorem timing_free_autostarted : ∃ w,
    (machine {} ⟨fun _ => 0, fun _ => 1⟩).run autostarted = some w ∧
      TimingFree {} (messages w.node.sent) ["patrol"] := by
  have hrun : (machine {} ⟨fun _ => 0, fun _ => 1⟩).run autostarted = some _ := rfl
  exact ⟨_, hrun, (timing_free_iff {} hrun).mpr (Or.inr (by decide))⟩

/-- A robot without autostart that is sent to a target. -/
def sentToTarget : List Event := [.start ⟨StartMission.missionGoTo, {}, true⟩ true (seconds 1)]

theorem label_overtaken : ¬ ∀ (hb : Config) (cfg : Patrol.Config) (libm : Libm) (es : List Event)
    (w : World), (machine cfg libm).run es = some w →
    TimingFree hb (messages w.node.sent) (missionsStarted cfg libm es) := by
  intro hall
  have hfree := hall {} {} ⟨fun _ => 0, fun _ => 1⟩ sentToTarget _ rfl
  have hlabel := hfree.label [.status "sending_goal", .missionType "go_to"]
    ⟨⟨by decide, by decide⟩, ⟨by decide, by decide⟩⟩ (Or.inl (by decide))
  revert hlabel
  decide

end PatrolFleet.Heartbeat
