import PatrolFleet.Fleet.Gate

/-!
The answers in the audit trail: every command to a robot has either one row with the
robot's answer, or an answer that has not arrived.
-/

set_option autoImplicit false

namespace PatrolFleet.Fleet

/-- The row is the answer of a robot. -/
def MissionEvent.isAnswer (row : MissionEvent) : Bool :=
  row.status = "ACCEPTED_BY_ROBOT" || row.status = "REJECTED_BY_ROBOT" || row.status = "FAILED"

def State.answers (s : State) : List Command :=
  (s.missionStore.missionEvents.filter (·.isAnswer)).map (·.about)

/-- The commands are those that were answered and those that were not. -/
def World.Answered (w : World) : Prop :=
  w.manager.commands.Perm (w.manager.answers ++ w.unanswered.filterMap Sent.command)

/-- A callback adds its requests to the unanswered ones, or it takes one from them. -/
inductive Handled (cfg : Config) (w : World) : Callback → World → Prop where
  | quiet {e : Callback} : e.isResponse = false →
      Handled cfg w e ⟨w.manager.call cfg e,
        sentSince w.manager (w.manager.call cfg e) ++ w.unanswered⟩
  | answered {e : Event} (m : Sent) (before after : List Sent) : e.isResponse = true →
      m.answeredBy e = true → w.unanswered = before ++ m :: after →
      Handled cfg w (.other e) ⟨w.manager.step cfg e, before ++ after⟩

section

variable {cfg : Config} {s t : State} {w v : World}

theorem answeredBy_response {m : Sent} {e : Event} (h : m.answeredBy e = true) :
    e.isResponse = true := by
  cases e <;> cases m <;> first | rfl | cases h

theorem response_sends {e : Event} (h : e.isResponse = true) (s : State) :
    (s.step cfg e).sent = s.sent := by
  cases e with
  | startResponse | stopResponse => exact sent_recordMissionEvent _ s
  | queueResponse incidentId response =>
    simp only [State.step, queueResponseCallback]
    split
    · exact sent_recordMissionEvent _ s
    · rfl
  | _ => cases h

theorem step_handled {e : Callback} (h : w.step cfg e = some v) : Handled cfg w e v := by
  cases e with
  | assignMission request serviceIsReady now =>
    cases h
    exact .quiet rfl
  | other e =>
    simp only [World.step] at h
    split at h
    · cases h
    · rename_i hknown
      cases h
      cases he : e.isResponse with
      | false =>
        have hkeep : w.unanswered.eraseP (·.answeredBy e) = w.unanswered := by
          refine List.eraseP_of_forall_not fun m _ hm => ?_
          rw [answeredBy_response hm] at he
          cases he
        rw [hkeep]
        exact .quiet he
      | true =>
        have hany : w.unanswered.any (·.answeredBy e) = true := by simpa [he] using hknown
        obtain ⟨m, hm, hanswers⟩ := List.any_eq_true.mp hany
        obtain ⟨m, before, after, _, hanswers, hsplit, hrest⟩ :=
          List.exists_of_eraseP (p := (·.answeredBy e)) hm hanswers
        have hnone : sentSince w.manager (w.manager.call cfg (.other e)) = [] := by
          have hsame : (w.manager.call cfg (.other e)).sent = w.manager.sent :=
            response_sends he w.manager
          simp [sentSince, hsame]
        rw [hnone, hrest, List.nil_append]
        exact .answered m before after he hanswers hsplit

/-! ### Rows -/

theorem answers_record {event : MissionEvent} (hopen : s.missionStore.isOpen = true) :
    (recordMissionEvent event s).answers =
      s.answers ++ if event.isAnswer then [event.about] else [] := by
  unfold State.answers
  rw [missionEvents_recordMissionEvent, MissionStore.insertable, if_pos hopen,
    List.filter_append, List.map_append]
  cases h : event.isAnswer <;> simp [h]

/-- Rows were added, but none with an answer. -/
def Noted (s t : State) : Prop :=
  ∃ rows, t.missionStore.missionEvents = s.missionStore.missionEvents ++ rows ∧
    ∀ row ∈ rows, row.status = "REJECTED_BY_FLEET" ∨ row.status = "DISPATCHED"

theorem noted_call {e : Callback} (h : e.isResponse = false) (s : State) :
    Noted s (s.call cfg e) := by
  obtain ⟨rows, hrows, hlogs⟩ := (writes_call cfg e s).rows
  refine ⟨rows, hrows, fun row hrow => ?_⟩
  have hlogged : e.logs row := hlogs row hrow
  cases e with
  | assignMission => exact hlogged.2
  | other e =>
    have hresponse : e.isResponse = true := hlogged
    rw [show e.isResponse = false from h] at hresponse
    cases hresponse

theorem Noted.filter (h : Noted s t) {p : MissionEvent → Bool}
    (hp : ∀ row : MissionEvent, row.status = "REJECTED_BY_FLEET" ∨ row.status = "DISPATCHED" →
      p row = false) :
    t.missionStore.missionEvents.filter p = s.missionStore.missionEvents.filter p := by
  obtain ⟨rows, hrows, hstatus⟩ := h
  have hnone : rows.filter p = [] :=
    List.filter_eq_nil_iff.mpr fun row hrow => Bool.eq_false_iff.mp (hp row (hstatus row hrow))
  rw [hrows, List.filter_append, hnone, List.append_nil]

theorem Noted.answers (h : Noted s t) : t.answers = s.answers := by
  unfold State.answers
  rw [h.filter]
  rintro row (hrow | hrow) <;> simp [MissionEvent.isAnswer, hrow]

theorem RobotAnswer.isAnswer (answer : RobotAnswer)
    (missionId robotId missionType command : String) :
    MissionEvent.isAnswer ⟨missionId, robotId, missionType, command, answer.status,
      answer.detail⟩ = true := by
  cases answer with
  | response success message => cases success <;> rfl
  | exception what => rfl

/-- The row of a response is about the command that is answered. -/
theorem answers_response {e : Event} {m : Sent} (hopen : s.missionStore.isOpen = true)
    (h : m.answeredBy e = true) :
    (s.step cfg e).answers = s.answers ++ m.command.toList := by
  cases e with
  | startResponse robotId missionId missionType answer =>
    cases m with
    | start robotId' missionId' missionType' request =>
      simp only [Sent.answeredBy, Bool.and_eq_true, decide_eq_true_eq] at h
      obtain ⟨⟨rfl, rfl⟩, rfl⟩ := h
      simp only [State.step, startResponseCallback]
      rw [answers_record hopen, RobotAnswer.isAnswer, if_pos rfl]
      rfl
    | _ => cases h
  | stopResponse robotId missionId answer =>
    cases m with
    | stop robotId' missionId' =>
      simp only [Sent.answeredBy, Bool.and_eq_true, decide_eq_true_eq] at h
      obtain ⟨rfl, rfl⟩ := h
      simp only [State.step, stopResponseCallback]
      rw [answers_record hopen, RobotAnswer.isAnswer, if_pos rfl]
      rfl
    | _ => cases h
  | queueResponse incidentId response =>
    cases m with
    | queueMission incidentId' request =>
      simp only [State.step, queueResponseCallback]
      split
      · rw [answers_record hopen]
        simp [MissionEvent.isAnswer, Sent.command]
      · simp [Sent.command]
    | _ => cases h
  | _ => cases m <;> cases h

/-! ### Runs -/

theorem filterMap_middle {α β : Type} (f : α → Option β) (before after : List α) (a : α) :
    ((before ++ a :: after).filterMap f).Perm ((f a).toList ++ (before ++ after).filterMap f) := by
  rw [List.filterMap_append, List.filterMap_append, List.filterMap_cons]
  cases f a with
  | none => exact List.Perm.refl _
  | some b => exact List.perm_middle

theorem answered_step {e : Callback} (hopen : w.manager.missionStore.isOpen = true)
    (h : w.Answered) (hstep : w.step cfg e = some v) : v.Answered := by
  unfold World.Answered at h ⊢
  cases step_handled hstep with
  | quiet he =>
    have hsent := (effect_call cfg e w.manager).sentSince_eq.1
    unfold State.commands at h ⊢
    dsimp only
    rw [(noted_call he w.manager).answers, hsent, List.filterMap_append, List.filterMap_append]
    exact (h.append_left _).trans (List.perm_append_comm_assoc ..)
  | answered m before after he hanswers hsplit =>
    have hsent : (w.manager.step cfg _).commands = w.manager.commands :=
      congrArg (List.filterMap Sent.command) (response_sends he w.manager)
    rw [hsplit] at h
    dsimp only
    rw [hsent, answers_response hopen hanswers, List.append_assoc]
    exact h.trans (List.Perm.append_left _ (filterMap_middle ..))

end

/-- With an open database, in every run: the answers that the run has added to the audit
trail and the commands without an answer are together the commands that were sent, each as
often. -/
theorem commands_answered_once {cfg : Config} {store : MissionStore} {fleet : State}
    (hopen : store.isOpen = true) (hinit : State.init cfg store = .ok fleet) {w : World}
    (h : (machine cfg fleet).Reachable w) : (w.since store).Answered := by
  obtain ⟨fresh, hfresh, rfl⟩ := init_onto hinit
  have hboth : (w.since store).manager.missionStore.isOpen = true ∧ (w.since store).Answered := by
    refine (reachable_since h).invariant
      (P := fun w => w.manager.missionStore.isOpen = true ∧ w.Answered) ?_ ?_
    · cases init_eq hfresh
      exact ⟨hopen, List.Perm.nil⟩
    · intro u e v ⟨hopens, hu⟩ hstep
      refine ⟨?_, answered_step hopens hu hstep⟩
      rw [step_manager hstep]
      exact call_isOpen hopens e
  exact hboth.2

/-- The robot accepts the patrol and never answers the stop. -/
def answeredRun : List Callback :=
  assignedRun ++ [.other (.stopPatrol true),
    .other (.startResponse "robot1" "mission-1" "patrol" (.response true "Mission accepted"))]

/-- A database in which a mission of the same id was answered before. -/
def usedStore : MissionStore where
  missionEvents := [⟨"mission-1", "robot1", "patrol", "START", "REJECTED_BY_ROBOT", "busy"⟩]

theorem commands_answered_once_patrol :
    ∃ w, (machine {} (shipped.onto usedStore)).run answeredRun = some w ∧
      w.unanswered = [.stop "robot1" "manual-dispatch"] ∧
      w.manager.answers.length = 2 ∧
      (w.since usedStore).manager.answers = [⟨"mission-1", "robot1", "START"⟩] ∧
      (w.since usedStore).Answered := by
  have hinit : State.init {} usedStore = .ok (shipped.onto usedStore) := rfl
  exact ⟨_, rfl, rfl, rfl, rfl, commands_answered_once rfl hinit ⟨answeredRun, rfl⟩⟩

end PatrolFleet.Fleet
