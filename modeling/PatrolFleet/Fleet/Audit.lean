import PatrolFleet.Fleet.Store

/-!
The audit trail: which of the commands to the robots have a row in
`mission_events` when the callback that sends them returns.
-/

set_option autoImplicit false

namespace PatrolFleet.Fleet

/-- The request that a response callback was registered with. -/
def Sent.answeredBy : Sent → Event → Bool
  | .start robotId missionId missionType _, .startResponse robotId' missionId' missionType' _ =>
    robotId = robotId' && missionId = missionId' && missionType = missionType'
  | .stop robotId missionId, .stopResponse robotId' missionId' _ =>
    robotId = robotId' && missionId = missionId'
  | .queueMission incidentId _, .queueResponse incidentId' _ => incidentId = incidentId'
  | _, _ => false

/-- The fleet manager with the requests whose response has not arrived, and may
never arrive. -/
structure World where
  manager : State
  unanswered : List Sent

def World.step (cfg : Config) (w : World) (e : Callback) : Option World :=
  let manager := w.manager.call cfg e
  match e with
  | .other e =>
    if e.isResponse && !w.unanswered.any (·.answeredBy e) then none
    else some ⟨manager,
      sentSince w.manager manager ++ w.unanswered.eraseP (·.answeredBy e)⟩
  | .assignMission .. => some ⟨manager, sentSince w.manager manager ++ w.unanswered⟩

def machine (cfg : Config) (fleet : State) : Machine World Callback where
  init := ⟨fleet, []⟩
  step := World.step cfg

def World.since (old : MissionStore) (w : World) : World :=
  { w with manager := w.manager.since old }

def World.onto (old : MissionStore) (w : World) : World := { w with manager := w.manager.onto old }

/-- A run on a database with earlier rows is a run on an empty one. -/
theorem lockstep_onto (cfg : Config) (old : MissionStore) (fleet : State) :
    Machine.Lockstep (machine cfg fleet) (machine cfg (fleet.onto old)) (World.onto old) where
  init := rfl
  step w e := by
    simp only [machine, World.step]
    have hcall : (w.onto old).manager.call cfg e = (w.manager.call cfg e).onto old :=
      call_onto cfg old w.manager e
    rw [hcall]
    cases e with
    | assignMission => rfl
    | other e =>
      have hunanswered : (w.onto old).unanswered = w.unanswered := rfl
      dsimp only
      rw [hunanswered]
      split <;> rfl

/-- What is reached on a database with earlier rows is, by the rows of the run alone, reached
on an empty one. -/
theorem reachable_since {cfg : Config} {old : MissionStore} {fleet : State} {w : World}
    (h : (machine cfg (fleet.onto old)).Reachable w) :
    (machine cfg fleet).Reachable (w.since old) := by
  obtain ⟨fresh, hfresh, rfl⟩ := (lockstep_onto cfg old fleet).reachable h
  have hsince : (fresh.onto old).since old = fresh := by
    simp [World.since, World.onto]
  rwa [hsince]

/-! ### Commands and rows -/

structure Command where
  missionId : String
  robotId : String
  command : String
  deriving DecidableEq

def Sent.command : Sent → Option Command
  | .start robotId missionId _ _ => some ⟨missionId, robotId, "START"⟩
  | .stop robotId missionId => some ⟨missionId, robotId, "STOP"⟩
  | _ => none

def MissionEvent.about (row : MissionEvent) : Command := ⟨row.missionId, row.robotId, row.command⟩

def State.commands (s : State) : List Command := s.sent.filterMap Sent.command

def State.Recorded (s : State) (c : Command) : Prop :=
  ∃ row ∈ s.missionStore.missionEvents, row.about = c

/-- Every command that was sent to a robot has its row. -/
def State.Audited (s : State) : Prop := ∀ c ∈ s.commands, s.Recorded c

/-- The command that the callback forwards without a row of its own: a manual
START, and every STOP. -/
def State.forwards (cfg : Config) (s : State) : Callback → Option Command
  | .other (.dispatchPatrol serviceIsReady now) =>
    if s.systemReady && isRobotOnline cfg cfg.patrolRobot now s && serviceIsReady then
      some ⟨"manual-dispatch", cfg.patrolRobot, "START"⟩
    else none
  | .other (.stopPatrol serviceIsReady) =>
    if serviceIsReady then some ⟨"manual-dispatch", cfg.patrolRobot, "STOP"⟩ else none
  | .assignMission request serviceIsReady _ =>
    if robotExists request.robotId s && isSupportedMissionType request.missionType &&
        decide (request.command = AssignMission.commandStop) && hasClient cfg request.robotId &&
        serviceIsReady then
      some ⟨request.missionId, request.robotId, "STOP"⟩
    else none
  | _ => none

/-- A callback that forwards a command without a row finds one there. -/
def State.FindsRow (cfg : Config) (s : State) (e : Callback) : Prop :=
  ∀ c, s.forwards cfg e = some c → s.Recorded c

section

variable {cfg : Config} {s t u : State} {c : Command}

/-- No row is lost, and every new command has a row. -/
structure Trail (s t : State) : Prop where
  isOpen : t.missionStore.isOpen = s.missionStore.isOpen
  rows : s.missionStore.missionEvents <+: t.missionStore.missionEvents
  commands : ∀ c ∈ t.commands, c ∈ s.commands ∨ t.Recorded c

theorem State.Recorded.mono (h : s.Recorded c)
    (hrows : s.missionStore.missionEvents <+: t.missionStore.missionEvents) : t.Recorded c := by
  obtain ⟨row, hrow, habout⟩ := h
  exact ⟨row, hrows.subset hrow, habout⟩

theorem Trail.refl (s : State) : Trail s s := ⟨rfl, List.prefix_rfl, fun _ hc => .inl hc⟩

theorem Effect.trail (h : Effect (fun m => m.command = none) s t) : Trail s t := by
  refine ⟨h.isOpen, h.rows, fun c hc => .inl ?_⟩
  obtain ⟨messages, hsent, hnone⟩ := h.sent
  have hnew : messages.filterMap Sent.command = [] := List.filterMap_eq_nil_iff.mpr hnone
  rwa [State.commands, hsent, List.filterMap_append, hnew] at hc

theorem State.Audited.after (h : s.Audited) (ht : Trail s t) : t.Audited := by
  intro c hc
  rcases ht.commands c hc with hc | hc
  · exact (h c hc).mono ht.rows
  · exact hc

theorem trail_step {e : Event} (h : s.forwards cfg (.other e) = none) :
    Trail s (s.step cfg e) := by
  have heffect : Effect (fun m => (Callback.other e).sends m = true) s (s.step cfg e) :=
    effect_call cfg (.other e) s
  have hquiet : (∀ m, (Callback.other e).sends m = true → m.command = none) →
      Trail s (s.step cfg e) := fun hsends => (heffect.mono hsends).trail
  cases e with
  | dispatchPatrol serviceIsReady now =>
    simp only [State.step, handleDispatchPatrol]
    split
    · exact Trail.refl s
    rename_i hready
    split
    · exact Trail.refl s
    rename_i honline
    split
    · exact Trail.refl s
    rename_i hservice
    rw [Bool.not_eq_true, Bool.not_eq_false'] at hready honline hservice
    simp only [State.forwards, hready, honline, hservice, Bool.and_self, if_true] at h
    cases h
  | stopPatrol serviceIsReady =>
    simp only [State.step, handleStopPatrol]
    split
    · exact Trail.refl s
    rename_i hservice
    rw [Bool.not_eq_true, Bool.not_eq_false'] at hservice
    simp only [State.forwards, hservice, if_true] at h
    cases h
  | _ =>
    refine hquiet fun m hm => ?_
    cases m <;> first | rfl | simp [Callback.sends] at hm

theorem trail_dispatched (request : AssignMission.Request) (event : MissionEvent)
    (hopen : s.missionStore.isOpen = true)
    (habout : event.about = ⟨request.missionId, request.robotId, "START"⟩) :
    Trail s (recordMissionEvent event (callPatrolStartService request.robotId request.missionId
      request.missionType request.targetPose request.hasTarget s)) := by
  unfold recordMissionEvent callPatrolStartService State.send
  simp only [hopen, Bool.not_true, Bool.false_eq_true, if_false]
  refine ⟨hopen.symm, List.prefix_append .., fun c hc => ?_⟩
  simp only [State.commands, List.filterMap_cons, Sent.command, List.mem_cons] at hc
  rcases hc with rfl | hc
  · exact .inr ⟨event, by simp, habout⟩
  · exact .inl hc

theorem trail_handleAssignMission {request : AssignMission.Request} {serviceIsReady : Bool}
    {now : Time} (hopen : s.missionStore.isOpen = true)
    (h : s.forwards cfg (.assignMission request serviceIsReady now) = none) :
    Trail s (handleAssignMission cfg request serviceIsReady now s).2 := by
  have hrefused : ∀ event, Trail s (recordMissionEvent event s) := fun event =>
    (effect_recordMissionEvent event s).trail
  unfold handleAssignMission
  split
  · exact Trail.refl s
  rename_i hrobot
  split
  · exact Trail.refl s
  rename_i hsupported
  split
  · exact Trail.refl s
  rename_i hcommand
  split
  · split
    · exact hrefused _
    split
    · exact hrefused _
    split
    · exact hrefused _
    split
    · exact hrefused _
    split
    · exact hrefused _
    · exact trail_dispatched request _ hopen rfl
  rename_i hstart
  have hstop : request.command = AssignMission.commandStop := by
    by_contra hne
    exact hcommand ⟨hstart, hne⟩
  split
  · exact Trail.refl s
  rename_i hclient
  split
  · exact Trail.refl s
  rename_i hservice
  rw [Bool.not_eq_true, Bool.not_eq_false'] at hrobot hsupported hclient hservice
  simp only [State.forwards, hrobot, hsupported, hstop, hclient, hservice, decide_true,
    Bool.and_self, if_true] at h
  cases h

/-- A command that is forwarded without a row leaves the rows as they are. -/
theorem call_forwards {e : Callback} (h : s.forwards cfg e = some c) :
    (s.call cfg e).missionStore = s.missionStore ∧ (s.call cfg e).commands = c :: s.commands := by
  unfold State.forwards at h
  split at h
  · rename_i serviceIsReady now
    split at h
    · rename_i hguard
      cases h
      simp only [Bool.and_eq_true] at hguard
      simp [State.call, State.step, handleDispatchPatrol, hguard, callPatrolStartService,
        State.send, State.commands, Sent.command]
    · cases h
  · split at h
    · rename_i hguard
      cases h
      simp [State.call, State.step, handleStopPatrol, hguard, callPatrolStopService,
        State.send, State.commands, Sent.command]
    · cases h
  · rename_i request serviceIsReady now
    split at h
    · rename_i hguard
      cases h
      simp only [Bool.and_eq_true, decide_eq_true_eq] at hguard
      have hne : AssignMission.commandStop ≠ AssignMission.commandStart := by decide
      simp [State.call, handleAssignMission, hguard, hne, callPatrolStopService,
        State.send, State.commands, Sent.command]
    · cases h
  · cases h

theorem trail_call {e : Callback} (hopen : s.missionStore.isOpen = true)
    (h : s.forwards cfg e = none) : Trail s (s.call cfg e) := by
  cases e with
  | other e => exact trail_step h
  | assignMission request serviceIsReady now => exact trail_handleAssignMission hopen h

/-- The trail stays complete exactly when a command without a row of its own finds
one. -/
theorem audited_call (hopen : s.missionStore.isOpen = true) (h : s.Audited) (e : Callback) :
    (s.call cfg e).Audited ↔ s.FindsRow cfg e := by
  cases hc : s.forwards cfg e with
  | none =>
    have hfinds : s.FindsRow cfg e := by
      intro c hsome
      rw [hc] at hsome
      cases hsome
    exact iff_of_true (h.after (trail_call hopen hc)) hfinds
  | some c =>
    obtain ⟨hstore, hcommands⟩ := call_forwards hc
    have hrecorded : ∀ d, (s.call cfg e).Recorded d ↔ s.Recorded d := by
      intro d
      unfold State.Recorded
      rw [hstore]
    constructor
    · intro ha d hd
      rw [hc] at hd
      cases hd
      exact (hrecorded c).mp (ha c (by simp [hcommands]))
    · intro hfinds d hd
      rw [hcommands] at hd
      rcases List.mem_cons.mp hd with rfl | hd
      · exact (hrecorded d).mpr (hfinds d hc)
      · exact (hrecorded d).mpr (h d hd)

theorem call_isOpen (hopen : s.missionStore.isOpen = true) (e : Callback) :
    (s.call cfg e).missionStore.isOpen = true := (effect_call cfg e s).isOpen.trans hopen

theorem step_manager {w v : World} {e : Callback} (h : w.step cfg e = some v) :
    v.manager = w.manager.call cfg e := by
  unfold World.step at h
  cases e with
  | other e =>
    dsimp only at h
    split at h
    · cases h
    · cases h
      rfl
  | assignMission request serviceIsReady now =>
    cases h
    rfl

end

section

variable {cfg : Config} {fleet : State}

theorem audited_of_sent (h : fleet.sent = []) : fleet.Audited := by
  intro c hc
  rw [State.commands, h] at hc
  cases hc

theorem visits_audited_iff (hopen : fleet.missionStore.isOpen = true) (haudited : fleet.Audited)
    (es : List Callback) :
    (∀ w, (machine cfg fleet).Visits es w → w.manager.Audited) ↔
    ∀ w e v, (machine cfg fleet).Takes es w e v → w.manager.FindsRow cfg e := by
  have hopens : ∀ w, (machine cfg fleet).Reachable w → w.manager.missionStore.isOpen = true := by
    intro w hw
    refine hw.invariant (P := fun w => w.manager.missionStore.isOpen = true) hopen
      fun u e v hu hstep => ?_
    rw [step_manager hstep]
    exact call_isOpen hu e
  constructor
  · intro h w e v htake
    have hv := h v htake.visits_next
    rw [step_manager htake.step_eq] at hv
    exact (audited_call (hopens w htake.visits.reachable) (h w htake.visits) e).mp hv
  · intro hfinds w hw
    have hinv : w.manager.missionStore.isOpen = true ∧ w.manager.Audited := by
      refine Machine.visits_invariant
        (P := fun w => w.manager.missionStore.isOpen = true ∧ w.manager.Audited)
        ⟨hopen, haudited⟩ ?_ hfinds hw
      intro u e v ⟨hu, ha⟩ hC hstep
      rw [step_manager hstep]
      exact ⟨call_isOpen hu e, (audited_call hu ha e).mpr hC⟩
    exact hinv.2

theorem visits_since_audited_iff {old : MissionStore} (hopen : fleet.missionStore.isOpen = true)
    (haudited : fleet.Audited) (es : List Callback) :
    (∀ w, (machine cfg (fleet.onto old)).Visits es w → (w.manager.since old).Audited) ↔
    ∀ w e v, (machine cfg (fleet.onto old)).Takes es w e v →
      (w.manager.since old).FindsRow cfg e := by
  have hsteps := lockstep_onto cfg old fleet
  have hsince : ∀ w : World, (w.onto old).manager.since old = w.manager :=
    fun w => since_onto old w.manager
  have hfresh := @visits_audited_iff cfg fleet hopen haudited es
  constructor
  · intro h w e v htake
    obtain ⟨u, u', hu, rfl, rfl⟩ := hsteps.takes_iff.mp htake
    rw [hsince]
    refine hfresh.mp (fun x hx => ?_) u e u' hu
    have hx' := h _ (hsteps.visits_iff.mpr ⟨x, hx, rfl⟩)
    rwa [hsince] at hx'
  · intro h w hw
    obtain ⟨u, hu, rfl⟩ := hsteps.visits_iff.mp hw
    rw [hsince]
    refine hfresh.mpr (fun x e y hx => ?_) u hu
    have hx' := h _ e _ (hsteps.takes_iff.mpr ⟨x, y, hx, rfl, rfl⟩)
    rwa [hsince] at hx'

/-- On any database that is open, by all its rows and by those of the run alone. -/
theorem audit_trail_iff {store : MissionStore} (hopen : store.isOpen = true)
    (hinit : State.init cfg store = .ok fleet) (es : List Callback) :
    ((∀ w, (machine cfg fleet).Visits es w → w.manager.Audited) ↔
      ∀ w e v, (machine cfg fleet).Takes es w e v → w.manager.FindsRow cfg e) ∧
    ((∀ w, (machine cfg fleet).Visits es w → (w.manager.since store).Audited) ↔
      ∀ w e v, (machine cfg fleet).Takes es w e v → (w.manager.since store).FindsRow cfg e) := by
  constructor
  · cases init_eq hinit
    exact visits_audited_iff hopen (audited_of_sent rfl) es
  · obtain ⟨fresh, hfresh, rfl⟩ := init_onto hinit
    cases init_eq hfresh
    exact visits_since_audited_iff hopen (audited_of_sent rfl) es

end

/-- The fleet manager as it is started with its default parameters. -/
def shipped : State where
  records := ["robot1", "robot2"].foldl addRecord ∅
  missionStore := {}
  incidentCounter := 0
  systemReady := false
  sent := []

/-- A patrol of the scheduler on a robot that has just been heard. -/
def assignedRun : List Callback :=
  [.other (.systemReady true),
    .other (.heartbeat "robot1" ⟨"robot1", 0, RobotHeartbeat.stateIdle, 100, "", true⟩ 0),
    .assignMission ⟨"robot1", "patrol", AssignMission.commandStart, "mission-1", {}, false⟩ true 0]

theorem audit_trail_assigned : ∃ w, (machine {} shipped).run assignedRun = some w ∧
    w.manager.commands = [⟨"mission-1", "robot1", "START"⟩] ∧ w.manager.Audited := by
  have hinit : State.init {} {} = .ok shipped := rfl
  have hiff := (audit_trail_iff rfl hinit assignedRun).1
  refine ⟨_, rfl, rfl, hiff.mpr ?_ _ ⟨assignedRun, List.prefix_rfl, rfl⟩⟩
  intro w e v htake c hc
  have hnone : (w.manager.forwards {} e).isNone = true :=
    Machine.takes_of_eachStep (c := fun w e => (w.manager.forwards {} e).isNone) (by decide) htake
  simp [hc] at hnone

/-- A manual stop that the robot never answers. -/
def stopRun : List Callback := [.other (.stopPatrol true)]

theorem stop_not_audited : ¬ ∀ cfg fleet w, State.init cfg {} = .ok fleet →
    (machine cfg fleet).Reachable w → w.manager.Audited := by
  intro h
  have hrow := h {} shipped _ rfl ⟨stopRun, rfl⟩ ⟨"manual-dispatch", "robot1", "STOP"⟩
    (by decide)
  obtain ⟨row, hrow, _⟩ := hrow
  have hnone : ¬ ∃ row, row ∈ ([] : List MissionEvent) := by simp
  exact hnone ⟨row, hrow⟩

end PatrolFleet.Fleet
