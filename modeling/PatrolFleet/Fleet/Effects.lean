import Mathlib.Logic.Relation
import PatrolFleet.Fleet.System

/-!
What the callbacks of the fleet manager write: each sends messages of some kinds and adds
rows of some kinds to the tables, and only some of them touch the rest of the state.
-/

set_option autoImplicit false

namespace PatrolFleet.Fleet

inductive Callback where
  | other (e : Event)
  | assignMission (request : AssignMission.Request) (serviceIsReady : Bool) (now : Time)

def State.call (cfg : Config) (s : State) : Callback → State
  | .other e => s.step cfg e
  | .assignMission request serviceIsReady now =>
    (handleAssignMission cfg request serviceIsReady now s).2

/-- What a callback that leads from `s` to `t` has sent. -/
def sentSince (s t : State) : List Sent := t.sent.take (t.sent.length - s.sent.length)

/-- The time that the callback reads, if it reads the clock. -/
def Callback.time : Callback → Option Time
  | .other (.heartbeat _ _ now) => some now
  | .other (.publishFleetState now) => some now
  | .other (.dispatchPatrol _ now) => some now
  | .other (.reportIncident _ _ now) => some now
  | .assignMission _ _ now => some now
  | _ => none

/-- The kinds of messages that a callback may send. -/
def Callback.sends : Callback → Sent → Bool
  | .other (.publishFleetState _), .estop _ active => active
  | .other (.publishFleetState _), .fleetState _ => true
  | .other .estopAll, .estop _ active => active
  | .other .estopReleaseAll, .estop _ active => !active
  | .other (.dispatchPatrol ..), .start .. => true
  | .other (.stopPatrol _), .stop .. => true
  | .other (.reportIncident ..), .incident _ => true
  | .other (.reportIncident ..), .queueMission .. => true
  | .assignMission .., .start .. => true
  | .assignMission .., .stop .. => true
  | _, _ => false

/-- The callbacks that touch the record of a robot. -/
def Callback.touchesRecords : Callback → Bool
  | .other (.heartbeat ..) | .other (.publishFleetState _) | .other .estopReleaseAll => true
  | _ => false

def Callback.isHeartbeat : Callback → Bool
  | .other (.heartbeat ..) => true
  | _ => false

def Callback.isSystemReady : Callback → Bool
  | .other (.systemReady _) => true
  | _ => false

def Callback.isReport : Callback → Bool
  | .other (.reportIncident ..) => true
  | _ => false

def Event.isResponse : Event → Bool
  | .startResponse .. | .stopResponse .. | .queueResponse .. => true
  | _ => false

def Callback.isResponse : Callback → Bool
  | .other e => e.isResponse
  | .assignMission .. => false

/-- The rows that a callback may add to `mission_events`. -/
def Callback.logs : Callback → MissionEvent → Prop
  | .assignMission request _ _, row => row.missionId = request.missionId ∧
      (row.status = "REJECTED_BY_FLEET" ∨ row.status = "DISPATCHED")
  | .other e, _ => e.isResponse = true

/-! ### What heartbeats write -/

/-- What the heartbeats have written in a record. -/
structure Reading where
  robotId : String
  receivedHeartbeat : Bool := false
  state : UInt8 := RobotHeartbeat.stateUnknown
  batteryPercentage : Rat := 0
  currentMission : String := ""
  localizationOk : Bool := true
  lastHeartbeat : Time := 0

def RobotRecord.reading (record : RobotRecord) : Reading where
  robotId := record.robotId
  receivedHeartbeat := record.receivedHeartbeat
  state := record.state
  batteryPercentage := record.batteryPercentage
  currentMission := record.currentMission
  localizationOk := record.localizationOk
  lastHeartbeat := record.lastHeartbeat

def State.reading (s : State) (robotId : String) : Option Reading :=
  (s.records.lookup robotId).map RobotRecord.reading

/-! ### Writes -/

/-- What a callback may write: messages and rows of these kinds, the readiness, the
records, what the heartbeats say in them, and incidents. -/
structure Scope where
  sends : Sent → Prop
  logs : MissionEvent → Prop
  readies : Prop
  records : Prop
  hears : Prop
  incidents : Prop

def Callback.scope (e : Callback) : Scope where
  sends m := e.sends m = true
  logs := e.logs
  readies := e.isSystemReady = true
  records := e.touchesRecords = true
  hears := e.isHeartbeat = true
  incidents := e.isReport = true

/-- Only the messages are limited. -/
def Scope.sending (P : Sent → Prop) : Scope := ⟨P, fun _ => True, True, True, True, True⟩

/-- Anything but what the heartbeats say. -/
def Scope.deaf : Scope := ⟨fun _ => True, fun _ => True, True, True, False, True⟩

/-- One write of a callback. -/
inductive Write (scope : Scope) : State → State → Prop where
  | send {m : Sent} (hm : scope.sends m) (s : State) : Write scope s (s.send m)
  | missionEvent {event : MissionEvent} (h : scope.logs event) (s : State) :
      Write scope s (recordMissionEvent event s)
  | systemReady (h : scope.readies) (data : Bool) (s : State) :
      Write scope s (systemReadyCallback data s)
  | records (h : scope.records) {table : UnorderedMap String RobotRecord} {s : State}
      (hkeep : ¬ scope.hears → State.reading { s with records := table } = s.reading) :
      Write scope s { s with records := table }
  | counted (h : scope.incidents) (s : State) : Write scope s (generateIncidentId s).2
  | incident (h : scope.incidents) (row : IncidentRow) (s : State) :
      Write scope s (recordIncident row s)

def Writes (scope : Scope) : State → State → Prop := Relation.ReflTransGen (Write scope)

/-- From `s` to `t` messages with `P` were sent, and rows were added. -/
structure Effect (P : Sent → Prop) (s t : State) : Prop where
  sent : ∃ messages, t.sent = messages ++ s.sent ∧ ∀ m ∈ messages, P m
  rows : s.missionStore.missionEvents <+: t.missionStore.missionEvents
  isOpen : t.missionStore.isOpen = s.missionStore.isOpen

/-- The database as far as it can be written to. -/
def MissionStore.insertable (store : MissionStore) {α : Type} (row : α) : List α :=
  if store.isOpen then [row] else []

section

variable {cfg : Config} {P Q : Sent → Prop} {scope : Scope} {s t u : State}

theorem recordMissionEvent_eq (event : MissionEvent) (s : State) :
    recordMissionEvent event s = { s with missionStore := { s.missionStore with
      missionEvents := s.missionStore.missionEvents ++ s.missionStore.insertable event } } := by
  unfold recordMissionEvent MissionStore.insertable
  cases s.missionStore.isOpen <;> simp

theorem recordIncident_eq (incident : IncidentRow) (s : State) :
    recordIncident incident s = { s with missionStore := { s.missionStore with
      incidents := s.missionStore.incidents ++ s.missionStore.insertable incident } } := by
  unfold recordIncident MissionStore.insertable
  cases s.missionStore.isOpen <;> simp

theorem mem_insertable {store : MissionStore} {α : Type} {row row' : α}
    (h : row' ∈ store.insertable row) : row' = row := by
  unfold MissionStore.insertable at h
  split at h
  · exact List.mem_singleton.mp h
  · cases h

theorem Effect.same (hsent : t.sent = s.sent) (hstore : t.missionStore = s.missionStore) :
    Effect P s t :=
  ⟨⟨[], hsent, by simp⟩, hstore ▸ List.prefix_rfl, by rw [hstore]⟩

theorem Effect.refl (s : State) : Effect P s s := Effect.same rfl rfl

theorem Effect.trans (h : Effect P s t) (h' : Effect P t u) : Effect P s u := by
  obtain ⟨messages, hsent, hP⟩ := h.sent
  obtain ⟨messages', hsent', hP'⟩ := h'.sent
  refine ⟨⟨messages' ++ messages, ?_, ?_⟩, h.rows.trans h'.rows, h'.isOpen.trans h.isOpen⟩
  · rw [hsent', hsent, List.append_assoc]
  · intro m hm
    rcases List.mem_append.mp hm with hm | hm
    · exact hP' m hm
    · exact hP m hm

theorem Effect.mono (h : Effect P s t) (hPQ : ∀ m, P m → Q m) : Effect Q s t := by
  obtain ⟨messages, hsent, hP⟩ := h.sent
  exact ⟨⟨messages, hsent, fun m hm => hPQ m (hP m hm)⟩, h.rows, h.isOpen⟩

theorem Effect.sentSince_eq (h : Effect P s t) :
    t.sent = sentSince s t ++ s.sent ∧ ∀ m ∈ sentSince s t, P m := by
  obtain ⟨messages, hsent, hP⟩ := h.sent
  have hnew : sentSince s t = messages := by
    rw [sentSince, hsent, List.length_append, Nat.add_sub_cancel, List.take_left]
  rw [hnew]
  exact ⟨hsent, hP⟩

theorem effect_send {m : Sent} (hm : P m) (s : State) : Effect P s (s.send m) :=
  ⟨⟨[m], rfl, by simpa using hm⟩, List.prefix_rfl, rfl⟩

theorem effect_recordMissionEvent (event : MissionEvent) (s : State) :
    Effect P s (recordMissionEvent event s) := by
  rw [recordMissionEvent_eq]
  exact ⟨⟨[], rfl, by simp⟩, List.prefix_append .., rfl⟩

theorem Write.effect (h : Write scope s t) : Effect scope.sends s t := by
  cases h with
  | send hm => exact effect_send hm s
  | @missionEvent event _ => exact effect_recordMissionEvent event s
  | incident _ row =>
    rw [recordIncident_eq]
    exact ⟨⟨[], rfl, by simp⟩, List.prefix_rfl, rfl⟩
  | systemReady => exact Effect.same rfl rfl
  | records => exact Effect.same rfl rfl
  | counted => exact Effect.same rfl rfl

theorem Writes.effect (h : Writes scope s t) : Effect scope.sends s t := by
  induction h with
  | refl => exact Effect.refl s
  | tail _ hwrite ih => exact ih.trans hwrite.effect

theorem Writes.refl (s : State) : Writes scope s s := Relation.ReflTransGen.refl

theorem Writes.trans (h : Writes scope s t) (h' : Writes scope t u) : Writes scope s u :=
  Relation.ReflTransGen.trans h h'

theorem Write.writes (h : Write scope s t) : Writes scope s t := Relation.ReflTransGen.single h

/-- What no write changes is the same in the end. -/
theorem Writes.kept {β : Type} {f : State → β} (h : Writes scope s t)
    (hwrite : ∀ s t, Write scope s t → f t = f s) : f t = f s := by
  induction h with
  | refl => rfl
  | tail _ hone ih => exact (hwrite _ _ hone).trans ih

theorem Writes.records_eq (h : Writes scope s t) (hnone : ¬ scope.records) :
    t.records = s.records := by
  refine h.kept (f := State.records) fun s t hwrite => ?_
  cases hwrite with
  | records hrecords => exact absurd hrecords hnone
  | missionEvent => rw [recordMissionEvent_eq]
  | incident => rw [recordIncident_eq]
  | _ => rfl

theorem Writes.reading_eq (h : Writes scope s t) (hnone : ¬ scope.hears) :
    t.reading = s.reading := by
  refine h.kept (f := State.reading) fun s t hwrite => ?_
  cases hwrite with
  | records _ hkeep => exact hkeep hnone
  | missionEvent =>
    rw [recordMissionEvent_eq]
    rfl
  | incident =>
    rw [recordIncident_eq]
    rfl
  | _ => rfl

theorem Writes.systemReady_eq (h : Writes scope s t) (hnone : ¬ scope.readies) :
    t.systemReady = s.systemReady := by
  refine h.kept (f := State.systemReady) fun s t hwrite => ?_
  cases hwrite with
  | systemReady hready => exact absurd hready hnone
  | missionEvent => rw [recordMissionEvent_eq]
  | incident => rw [recordIncident_eq]
  | _ => rfl

theorem Writes.rows (h : Writes scope s t) :
    ∃ rows, t.missionStore.missionEvents = s.missionStore.missionEvents ++ rows ∧
      ∀ row ∈ rows, scope.logs row := by
  induction h with
  | refl => exact ⟨[], by simp, by simp⟩
  | @tail mid _ _ hwrite ih =>
    obtain ⟨rows, hrows, hlogs⟩ := ih
    cases hwrite with
    | @missionEvent event hevent =>
      refine ⟨rows ++ mid.missionStore.insertable event, ?_, fun row hrow => ?_⟩
      · rw [recordMissionEvent_eq, ← List.append_assoc, ← hrows]
      · rcases List.mem_append.mp hrow with hrow | hrow
        · exact hlogs row hrow
        · rw [mem_insertable hrow]
          exact hevent
    | incident =>
      rw [recordIncident_eq]
      exact ⟨rows, hrows, hlogs⟩
    | _ => exact ⟨rows, hrows, hlogs⟩

theorem writes_foldl {α β : Type} (f : α → β → α) (manager : α → State)
    (h : ∀ a b, Writes scope (manager a) (manager (f a b))) (bs : List β) (a : α) :
    Writes scope (manager a) (manager (bs.foldl f a)) := by
  induction bs generalizing a with
  | nil => exact Writes.refl _
  | cons b bs ih => exact (h a b).trans (ih (f a b))

/-! ### Records that are replaced -/

/-- A record may be replaced by one that looks the same through `f`. -/
theorem view_replace {β : Type} {f : RobotRecord → β} {records : UnorderedMap String RobotRecord}
    {id : String} {old record : RobotRecord} (hold : records.lookup id = some old)
    (hsame : f record = f old) :
    (fun id' => ((records.insert id record).lookup id').map f) =
      fun id' => (records.lookup id').map f := by
  have hread : some (f old) = (records.lookup id).map f := by rw [hold, Option.map_some]
  rw [UnorderedMap.map_lookup_insert, hsame, hread, Function.update_eq_self]

@[simp] theorem observed_reading {now : Time} {record : RobotRecord} :
    (record.observed cfg now).reading = record.reading := by
  unfold RobotRecord.observed RobotRecord.timed
  repeat' split
  all_goals rfl

/-! ### The callbacks -/

theorem writes_publishEstop {robotId : String} {active : Bool}
    (hP : scope.sends (.estop robotId active)) (s : State) :
    Writes scope s (publishEstop cfg robotId active s) := by
  unfold publishEstop
  split
  · exact (Write.send hP s).writes
  · exact Writes.refl s

theorem writes_publishRobot (hrecords : scope.records)
    (hP : ∀ robotId, scope.sends (.estop robotId true)) (now : Time)
    (acc : State × List FleetRobotState) (robotId : String) :
    Writes scope acc.1 (publishRobot cfg now acc robotId).1 := by
  cases hrecord : acc.1.records.lookup robotId with
  | none =>
    rw [publishRobot_none hrecord]
    exact Writes.refl _
  | some record =>
    have hobserved : Writes scope acc.1
        { acc.1 with records := acc.1.records.insert robotId (record.observed cfg now) } :=
      (Write.records hrecords fun _ => view_replace hrecord observed_reading).writes
    rw [publishRobot_some hrecord]
    dsimp only
    split
    · exact hobserved.trans (writes_publishEstop (hP robotId) _)
    · exact hobserved

theorem writes_publishRobots (hrecords : scope.records)
    (hP : ∀ robotId, scope.sends (.estop robotId true)) (now : Time) (s : State) :
    Writes scope s (cfg.robotIds.foldl (publishRobot cfg now) (s, [])).1 :=
  writes_foldl (publishRobot cfg now) Prod.fst (writes_publishRobot hrecords hP now)
    cfg.robotIds (s, [])

theorem effect_publishRobots (hP : ∀ robotId, P (.estop robotId true)) (now : Time) (s : State) :
    Effect P s (cfg.robotIds.foldl (publishRobot cfg now) (s, [])).1 := by
  have hwrites : Writes (.sending P) s (cfg.robotIds.foldl (publishRobot cfg now) (s, [])).1 :=
    writes_publishRobots trivial hP now s
  exact hwrites.effect

theorem publishFleetState_send {now : Time} {s : State} {acc : State × List FleetRobotState}
    (hfold : cfg.robotIds.foldl (publishRobot cfg now) (s, []) = acc) :
    publishFleetState cfg now s = acc.1.send (.fleetState ⟨now, acc.2⟩) := by
  unfold publishFleetState
  rw [hfold]

theorem writes_publishFleetState (hrecords : scope.records)
    (hP : ∀ robotId, scope.sends (.estop robotId true))
    (hstate : ∀ message, scope.sends (.fleetState message)) (now : Time) (s : State) :
    Writes scope s (publishFleetState cfg now s) := by
  rw [publishFleetState_send rfl]
  exact (writes_publishRobots hrecords hP now s).trans (Write.send (hstate _) _).writes

theorem writes_releaseEstop (hrecords : scope.records)
    (hP : ∀ robotId, scope.sends (.estop robotId false)) (s : State) (robotId : String) :
    Writes scope s (releaseEstop cfg s robotId) := by
  have hpublished : Writes scope s (publishEstop cfg robotId false s) :=
    writes_publishEstop (hP robotId) s
  refine hpublished.trans ?_
  unfold releaseEstop
  dsimp only
  split
  · exact Writes.refl _
  · rename_i record hrecord
    have hsame : RobotRecord.reading { record with autoEstopped := false } = record.reading := rfl
    exact (Write.records hrecords fun _ => view_replace hrecord hsame).writes

theorem writes_handleReportIncident (hincidents : scope.incidents)
    (hincident : ∀ message, scope.sends (.incident message))
    (hqueue : ∀ incidentId request, scope.sends (.queueMission incidentId request))
    (request : ReportIncident.Request) (serviceIsReady : Bool) (now : Time) (s : State) :
    Writes scope s (handleReportIncident cfg request serviceIsReady now s).2 := by
  unfold handleReportIncident
  split
  · exact Writes.refl s
  · have hcounted : Writes scope s (generateIncidentId s).2 :=
      (Write.counted hincidents s).writes
    have hrecorded := hcounted.trans (Write.incident hincidents ⟨(generateIncidentId s).1,
      request.robotId, request.severity, request.category, request.description⟩ _).writes
    have hsent := hrecorded.trans (Write.send (hincident ⟨(generateIncidentId s).1,
      request.robotId, now, request.severity, request.category, request.description⟩) _).writes
    dsimp only
    split
    · unfold dispatchIncidentInspection
      split
      · exact hsent
      · exact hsent.trans (Write.send (hqueue _ _) _).writes
    · exact hsent

theorem writes_handleAssignMission {request : AssignMission.Request}
    (hstart : scope.sends (.start request.robotId request.missionId request.missionType
      (startRequest request)))
    (hstop : scope.sends (.stop request.robotId request.missionId))
    (hlogs : ∀ row : MissionEvent, row.missionId = request.missionId →
      row.status = "REJECTED_BY_FLEET" ∨ row.status = "DISPATCHED" → scope.logs row)
    (serviceIsReady : Bool) (now : Time) (s : State) :
    Writes scope s (handleAssignMission cfg request serviceIsReady now s).2 := by
  have hrefused : ∀ message, Writes scope s (rejectAssignMission request message s).2 :=
    fun message => (Write.missionEvent (hlogs _ rfl (.inl rfl)) s).writes
  unfold handleAssignMission
  split
  · exact Writes.refl s
  split
  · exact Writes.refl s
  split
  · exact Writes.refl s
  split
  · split
    · exact hrefused _
    split
    · exact hrefused _
    split
    · exact hrefused _
    split
    · exact hrefused _
    split
    · exact hrefused _
    · exact (Write.send hstart s).writes.trans
        (Write.missionEvent (hlogs _ rfl (.inr rfl)) _).writes
  split
  · exact Writes.refl s
  split
  · exact Writes.refl s
  · exact (Write.send hstop s).writes

theorem writes_call (cfg : Config) (e : Callback) (s : State) :
    Writes e.scope s (s.call cfg e) := by
  cases e with
  | assignMission request serviceIsReady now =>
    refine writes_handleAssignMission ?_ ?_ ?_ serviceIsReady now s
    · rfl
    · rfl
    · exact fun row hid hstatus => ⟨hid, hstatus⟩
  | other e =>
    cases e with
    | systemReady data => exact (Write.systemReady rfl data s).writes
    | heartbeat configuredRobotId message now =>
      simp only [State.call, State.step, heartbeatCallback]
      split
      · exact Writes.refl s
      · exact (Write.records rfl fun hdeaf => absurd rfl hdeaf).writes
    | publishFleetState now =>
      exact writes_publishFleetState rfl (fun _ => rfl) (fun _ => rfl) now s
    | dispatchPatrol serviceIsReady now =>
      simp only [State.call, State.step, handleDispatchPatrol]
      split
      · exact Writes.refl s
      split
      · exact Writes.refl s
      split
      · exact Writes.refl s
      · exact (Write.send rfl s).writes
    | stopPatrol serviceIsReady =>
      simp only [State.call, State.step, handleStopPatrol]
      split
      · exact Writes.refl s
      · exact (Write.send rfl s).writes
    | startResponse robotId missionId missionType answer => exact (Write.missionEvent rfl s).writes
    | stopResponse robotId missionId answer => exact (Write.missionEvent rfl s).writes
    | estopAll =>
      exact writes_foldl (fun s robotId => publishEstop cfg robotId true s) id
        (fun s robotId => writes_publishEstop rfl s) cfg.robotIds s
    | estopReleaseAll =>
      exact writes_foldl (releaseEstop cfg) id (writes_releaseEstop rfl fun _ => rfl)
        cfg.robotIds s
    | reportIncident request serviceIsReady now =>
      exact writes_handleReportIncident rfl (fun _ => rfl) (fun _ _ => rfl) request
        serviceIsReady now s
    | queueResponse incidentId response =>
      simp only [State.call, State.step, queueResponseCallback]
      split
      · exact (Write.missionEvent rfl s).writes
      · exact Writes.refl s

theorem effect_call (cfg : Config) (e : Callback) (s : State) :
    Effect (fun m => e.sends m = true) s (s.call cfg e) := (writes_call cfg e s).effect

theorem records_call {e : Callback} (h : e.touchesRecords = false) (s : State) :
    (s.call cfg e).records = s.records :=
  (writes_call cfg e s).records_eq (Bool.eq_false_iff.mp h)

/-- Only heartbeats write what heartbeats say. -/
theorem reading_call_eq {e : Callback} (h : e.isHeartbeat = false) (s : State) :
    (s.call cfg e).reading = s.reading :=
  (writes_call cfg e s).reading_eq (Bool.eq_false_iff.mp h)

theorem systemReady_call {e : Callback} (h : e.isSystemReady = false) (s : State) :
    (s.call cfg e).systemReady = s.systemReady :=
  (writes_call cfg e s).systemReady_eq (Bool.eq_false_iff.mp h)

end

end PatrolFleet.Fleet
