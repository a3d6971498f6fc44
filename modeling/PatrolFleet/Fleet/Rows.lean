import PatrolFleet.Fleet.Effects
import PatrolFleet.Lib.Numbering

/-!
What the callbacks of the fleet manager add to the tables of the mission store.
-/

set_option autoImplicit false

namespace PatrolFleet.Fleet

def incidentIdOf (n : Nat) : String := "incident-" ++ toString n

theorem incidentIdOf_injective : Function.Injective incidentIdOf :=
  Numbering.numbered_injective "incident-"

section

variable {cfg : Config} {s t u : State}

theorem missionEvents_recordMissionEvent (event : MissionEvent) (s : State) :
    (recordMissionEvent event s).missionStore.missionEvents =
      s.missionStore.missionEvents ++ s.missionStore.insertable event := by
  rw [recordMissionEvent_eq]

theorem incidents_recordIncident (incident : IncidentRow) (s : State) :
    (recordIncident incident s).missionStore.incidents =
      s.missionStore.incidents ++ s.missionStore.insertable incident := by
  rw [recordIncident_eq]

/-! ### Incidents -/

/-- No incident is counted or recorded. -/
structure SameIncidents (s t : State) : Prop where
  counter : t.incidentCounter = s.incidentCounter
  rows : t.missionStore.incidents = s.missionStore.incidents

theorem SameIncidents.refl (s : State) : SameIncidents s s := ⟨rfl, rfl⟩

theorem Writes.sameIncidents {scope : Scope} (h : Writes scope s t) (hnone : ¬ scope.incidents) :
    SameIncidents s t := by
  have hboth : (t.incidentCounter, t.missionStore.incidents) =
      (s.incidentCounter, s.missionStore.incidents) := by
    refine h.kept (f := fun s => (s.incidentCounter, s.missionStore.incidents))
      fun s t hwrite => ?_
    cases hwrite with
    | missionEvent => rw [recordMissionEvent_eq]
    | counted hincidents => exact absurd hincidents hnone
    | incident hincidents => exact absurd hincidents hnone
    | _ => rfl
  obtain ⟨hcounter, hrows⟩ := Prod.mk.inj hboth
  exact ⟨hcounter, hrows⟩

theorem sameIncidents_call {e : Callback} (h : e.isReport = false) (s : State) :
    SameIncidents s (s.call cfg e) :=
  (writes_call cfg e s).sameIncidents (Bool.eq_false_iff.mp h)

/-- An incident of a known robot takes the next number, whether it can be recorded
or not. -/
theorem reportIncident_known (cfg : Config) {request : ReportIncident.Request}
    (serviceIsReady : Bool) (now : Time) (h : robotExists request.robotId s = true) :
    (handleReportIncident cfg request serviceIsReady now s).2.incidentCounter =
        s.incidentCounter + 1 ∧
      ((handleReportIncident cfg request serviceIsReady now s).2.missionStore.incidents.map
          (·.incidentId)) =
        s.missionStore.incidents.map (·.incidentId) ++
          s.missionStore.insertable (incidentIdOf (s.incidentCounter + 1)) := by
  have hcounter : ∀ incident t, (recordIncident incident t).incidentCounter =
      t.incidentCounter := by
    intro incident t
    unfold recordIncident
    split <;> rfl
  have hdispatch : ∀ incidentId t, SameIncidents t
      (dispatchIncidentInspection cfg incidentId serviceIsReady t) := by
    intro incidentId t
    unfold dispatchIncidentInspection
    split <;> exact ⟨rfl, rfl⟩
  have hrows : ∀ incident : IncidentRow,
      incident.incidentId = incidentIdOf (s.incidentCounter + 1) →
      (recordIncident incident (generateIncidentId s).2).missionStore.incidents.map
          (·.incidentId) =
        s.missionStore.incidents.map (·.incidentId) ++
          s.missionStore.insertable (incidentIdOf (s.incidentCounter + 1)) := by
    intro incident hid
    rw [incidents_recordIncident, List.map_append, ← hid]
    unfold MissionStore.insertable generateIncidentId
    dsimp only
    split <;> rfl
  unfold handleReportIncident
  rw [h]
  simp only [Bool.not_true, Bool.false_eq_true, if_false]
  split
  · exact ⟨(hdispatch _ _).counter.trans (hcounter _ _), by
      rw [(hdispatch _ _).rows]
      exact hrows _ rfl⟩
  · exact ⟨hcounter _ _, hrows _ rfl⟩

theorem reportIncident_unknown {request : ReportIncident.Request} {serviceIsReady : Bool}
    {now : Time} (h : robotExists request.robotId s = false) :
    (handleReportIncident cfg request serviceIsReady now s).2 = s := by
  unfold handleReportIncident
  rw [h]
  rfl

/-! ### Missions -/

/-- A START that is about a robot of the fleet and of a supported type. -/
def knows (request : AssignMission.Request) (s : State) : Bool :=
  robotExists request.robotId s && isSupportedMissionType request.missionType

/-- Such a START has its row, whatever comes of it; any other is refused. -/
theorem assignMission_rows (cfg : Config) {request : AssignMission.Request}
    (hc : request.command = AssignMission.commandStart) (serviceIsReady : Bool) (now : Time)
    (s : State) :
    if knows request s then
      ∃ row, row.missionId = request.missionId ∧
        (handleAssignMission cfg request serviceIsReady now s).2.missionStore.missionEvents =
          s.missionStore.missionEvents ++ s.missionStore.insertable row
    else (handleAssignMission cfg request serviceIsReady now s).2 = s := by
  unfold handleAssignMission knows
  cases hrobot : robotExists request.robotId s with
  | false => simp
  | true =>
    cases hsupported : isSupportedMissionType request.missionType with
    | false => simp
    | true =>
      have hrefused : ∀ message, ∃ row : MissionEvent, row.missionId = request.missionId ∧
          (rejectAssignMission request message s).2.missionStore.missionEvents =
            s.missionStore.missionEvents ++ s.missionStore.insertable row :=
        fun message => ⟨_, rfl, missionEvents_recordMissionEvent _ s⟩
      simp only [Bool.not_true, Bool.false_eq_true, if_false, Bool.and_self, if_true, hc, ne_eq,
        not_true_eq_false, false_and]
      split
      · exact hrefused _
      split
      · exact hrefused _
      split
      · exact hrefused _
      split
      · exact hrefused _
      split
      · exact hrefused _
      · exact ⟨_, rfl, missionEvents_recordMissionEvent _ _⟩

end

end PatrolFleet.Fleet
