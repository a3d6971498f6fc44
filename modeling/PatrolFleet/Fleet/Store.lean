import PatrolFleet.Fleet.Effects
import PatrolFleet.Lib.Machine

/-!
The rows that a database has when it is opened. No callback reads the tables, so a run
adds to them what it adds to empty ones.
-/

set_option autoImplicit false

namespace PatrolFleet.Fleet

/-- The rows that were added to those of `old`. -/
def MissionStore.since (old store : MissionStore) : MissionStore :=
  { store with
    missionEvents := store.missionEvents.drop old.missionEvents.length
    incidents := store.incidents.drop old.incidents.length }

/-- The rows of `old` with those of `store` added. -/
def MissionStore.onto (old store : MissionStore) : MissionStore :=
  { store with
    missionEvents := old.missionEvents ++ store.missionEvents
    incidents := old.incidents ++ store.incidents }

def State.since (old : MissionStore) (s : State) : State :=
  { s with missionStore := old.since s.missionStore }

def State.onto (old : MissionStore) (s : State) : State :=
  { s with missionStore := old.onto s.missionStore }

section

variable {cfg : Config} {old : MissionStore} {fleet : State}

@[simp] theorem since_onto (old : MissionStore) (s : State) : (s.onto old).since old = s := by
  cases s
  simp [State.since, State.onto, MissionStore.since, MissionStore.onto]

theorem init_onto (h : State.init cfg old = .ok fleet) :
    ∃ fresh, State.init cfg { isOpen := old.isOpen } = .ok fresh ∧ fresh.onto old = fleet := by
  unfold State.init at h ⊢
  split at h
  · rename_i hrobot
    cases h
    rw [if_pos hrobot]
    refine ⟨_, rfl, ?_⟩
    simp [State.onto, MissionStore.onto]
  · cases h

/-! ### The callbacks -/

theorem recordMissionEvent_onto (event : MissionEvent) (s : State) :
    recordMissionEvent event (s.onto old) = (recordMissionEvent event s).onto old := by
  unfold recordMissionEvent State.onto MissionStore.onto
  cases h : s.missionStore.isOpen <;> simp [h]

theorem recordIncident_onto (incident : IncidentRow) (s : State) :
    recordIncident incident (s.onto old) = (recordIncident incident s).onto old := by
  unfold recordIncident State.onto MissionStore.onto
  cases h : s.missionStore.isOpen <;> simp [h]

theorem publishEstop_onto (robotId : String) (active : Bool) (s : State) :
    publishEstop cfg robotId active (s.onto old) =
      (publishEstop cfg robotId active s).onto old := by
  unfold publishEstop
  split <;> rfl

theorem publishRobot_onto (now : Time) (acc : State × List FleetRobotState) (robotId : String) :
    publishRobot cfg now (acc.1.onto old, acc.2) robotId =
      ((publishRobot cfg now acc robotId).1.onto old, (publishRobot cfg now acc robotId).2) := by
  cases hrecord : acc.1.records.lookup robotId with
  | none => rw [publishRobot_none hrecord, publishRobot_none (by exact hrecord)]
  | some record =>
    rw [publishRobot_some hrecord, @publishRobot_some cfg now (acc.1.onto old, acc.2) robotId
      record hrecord]
    dsimp only
    split
    · rw [← publishEstop_onto]
      rfl
    · rfl

theorem publishFleetState_onto (now : Time) (s : State) :
    publishFleetState cfg now (s.onto old) = (publishFleetState cfg now s).onto old := by
  have hfold := @List.foldl_hom _ _ _
    (fun acc : State × List FleetRobotState => (acc.1.onto old, acc.2))
    (publishRobot cfg now) (publishRobot cfg now) cfg.robotIds (s, []) (publishRobot_onto now)
  rw [publishFleetState_send hfold, publishFleetState_send rfl]
  rfl

theorem releaseEstop_onto (s : State) (robotId : String) :
    releaseEstop cfg (s.onto old) robotId = (releaseEstop cfg s robotId).onto old := by
  unfold releaseEstop
  rw [publishEstop_onto]
  have hrecords : ∀ t : State, (t.onto old).records = t.records := fun _ => rfl
  dsimp only
  rw [hrecords]
  split <;> rfl

theorem handleReportIncident_onto (request : ReportIncident.Request) (serviceIsReady : Bool)
    (now : Time) (s : State) :
    (handleReportIncident cfg request serviceIsReady now (s.onto old)).2 =
      (handleReportIncident cfg request serviceIsReady now s).2.onto old := by
  unfold handleReportIncident
  have hrobot : robotExists request.robotId (s.onto old) = robotExists request.robotId s := rfl
  have hcount : generateIncidentId (s.onto old) =
      ((generateIncidentId s).1, (generateIncidentId s).2.onto old) := rfl
  rw [hrobot, hcount]
  split
  · rfl
  · dsimp only
    rw [recordIncident_onto]
    split
    · unfold dispatchIncidentInspection
      split <;> rfl
    · rfl

theorem handleAssignMission_onto (request : AssignMission.Request) (serviceIsReady : Bool)
    (now : Time) (s : State) :
    handleAssignMission cfg request serviceIsReady now (s.onto old) =
      ((handleAssignMission cfg request serviceIsReady now s).1,
        (handleAssignMission cfg request serviceIsReady now s).2.onto old) := by
  have hrobot : robotExists request.robotId (s.onto old) = robotExists request.robotId s := rfl
  have honline : isRobotOnline cfg request.robotId now (s.onto old) =
      isRobotOnline cfg request.robotId now s := rfl
  have hready : (s.onto old).systemReady = s.systemReady := rfl
  have hstart : callPatrolStartService request.robotId request.missionId request.missionType
      request.targetPose request.hasTarget (s.onto old) =
      (callPatrolStartService request.robotId request.missionId request.missionType
        request.targetPose request.hasTarget s).onto old := rfl
  unfold handleAssignMission rejectAssignMission
  rw [hrobot, honline, hready]
  simp only [hstart, recordMissionEvent_onto]
  repeat' split
  all_goals rfl

/-- No callback reads the tables. -/
theorem call_onto (cfg : Config) (old : MissionStore) (s : State) (e : Callback) :
    (s.onto old).call cfg e = (s.call cfg e).onto old := by
  cases e with
  | assignMission request serviceIsReady now =>
    exact congrArg Prod.snd (handleAssignMission_onto request serviceIsReady now s)
  | other e =>
    cases e with
    | systemReady data => rfl
    | heartbeat configuredRobotId message now =>
      simp only [State.call, State.step, heartbeatCallback]
      have hrecords : (s.onto old).records = s.records := rfl
      rw [hrecords]
      split <;> rfl
    | publishFleetState now => exact publishFleetState_onto now s
    | dispatchPatrol serviceIsReady now =>
      simp only [State.call, State.step, handleDispatchPatrol]
      have hready : (s.onto old).systemReady = s.systemReady := rfl
      have honline : isRobotOnline cfg cfg.patrolRobot now (s.onto old) =
          isRobotOnline cfg cfg.patrolRobot now s := rfl
      rw [hready, honline]
      repeat' split
      all_goals rfl
    | stopPatrol serviceIsReady =>
      simp only [State.call, State.step, handleStopPatrol]
      split <;> rfl
    | startResponse robotId missionId missionType answer => exact recordMissionEvent_onto _ s
    | stopResponse robotId missionId answer => exact recordMissionEvent_onto _ s
    | estopAll =>
      exact List.foldl_hom (State.onto old) fun s robotId => publishEstop_onto robotId true s
    | estopReleaseAll =>
      exact List.foldl_hom (State.onto old) releaseEstop_onto
    | reportIncident request serviceIsReady now =>
      exact handleReportIncident_onto request serviceIsReady now s
    | queueResponse incidentId response =>
      simp only [State.call, State.step, queueResponseCallback]
      split
      · exact recordMissionEvent_onto _ s
      · rfl

end

end PatrolFleet.Fleet
