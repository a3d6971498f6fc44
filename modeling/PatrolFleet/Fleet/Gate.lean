import PatrolFleet.Fleet.Audit
import PatrolFleet.Fleet.Rows

/-!
The member `system_ready_` of the fleet manager: no START is sent without it.
-/

set_option autoImplicit false

namespace PatrolFleet.Fleet

section

variable {cfg : Config} {s : State}

theorem init_systemReady {store : MissionStore} (h : State.init cfg store = .ok s) :
    s.systemReady = false := by
  cases init_eq h
  rfl

theorem start_assignMission {request : AssignMission.Request} {serviceIsReady : Bool}
    {now : Time} {robotId missionId missionType : String} {start : StartMission.Request}
    (h : (handleAssignMission cfg request serviceIsReady now s).2.sent =
      .start robotId missionId missionType start :: s.sent) : s.systemReady = true := by
  by_cases hc : request.command = AssignMission.commandStart
  · by_contra hready
    have hrefused : ¬ Assignable cfg request serviceIsReady now s :=
      fun hassignable => hready hassignable.systemReady
    rw [(assignMission_refuses hc hrefused).2] at h
    exact List.cons_ne_self _ _ h.symm
  · exfalso
    unfold handleAssignMission at h
    rw [if_neg hc] at h
    repeat' split at h
    all_goals first | exact List.cons_ne_self _ _ h.symm | cases h

/-- A START is sent only while the system is ready. -/
theorem start_call {e : Callback} {robotId missionId missionType : String}
    {start : StartMission.Request}
    (h : (s.call cfg e).sent = .start robotId missionId missionType start :: s.sent) :
    s.systemReady = true := by
  have hsends : e.sends (.start robotId missionId missionType start) = true := by
    obtain ⟨messages, hsent, hkinds⟩ := (effect_call cfg e s).sent
    rw [hsent] at h
    have hone : messages = [.start robotId missionId missionType start] :=
      List.append_cancel_right h
    exact hkinds _ (by simp [hone])
  cases e with
  | assignMission request serviceIsReady now => exact start_assignMission h
  | other e =>
    cases e with
    | dispatchPatrol serviceIsReady now =>
      simp only [State.call, State.step, handleDispatchPatrol] at h
      split at h
      · exact absurd h.symm (List.cons_ne_self _ _)
      · rename_i hready
        simpa using hready
    | _ => cases hsends

end

end PatrolFleet.Fleet
