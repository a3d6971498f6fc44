import PatrolFleet.Fleet.Answers

/-!
The incidents from the report to the inspection: what was reported is recorded and
numbered, and an inspection is asked for and queued at most once for each of the
severe ones.
-/

set_option autoImplicit false

namespace PatrolFleet.Fleet

def Sent.reported : Sent → Option RobotIncident
  | .incident message => some message
  | _ => none

def Sent.inspection : Sent → Option String
  | .queueMission incidentId _ => some incidentId
  | _ => none

/-- The incidents that were published, the oldest first. -/
def State.reported (s : State) : List RobotIncident := (s.sent.filterMap Sent.reported).reverse

/-- The incidents that an inspection was asked for, the oldest first. -/
def State.inspections (s : State) : List String := (s.sent.filterMap Sent.inspection).reverse

def incidentRow (message : RobotIncident) : IncidentRow where
  incidentId := message.incidentId
  robotId := message.robotId
  severity := message.severity
  category := message.category
  description := message.description

def isSevere (cfg : Config) (message : RobotIncident) : Bool :=
  decide ((message.severity.toNat : Int) ≥ cfg.incidentAutoDispatchMinSeverity)

/-- The incidents whose inspection was queued, as the audit trail has it. -/
def State.queued (s : State) : List String :=
  (s.missionStore.missionEvents.filter (·.status = "AUTO_QUEUED_FROM_INCIDENT")).map (·.detail)

/-- The incidents that were published have the numbers from one on, and inspections are
asked for the severe ones. -/
structure State.Numbered (cfg : Config) (s : State) : Prop where
  numbered : s.reported.map (·.incidentId) =
    (List.range s.incidentCounter).map fun n => incidentIdOf (n + 1)
  inspections : s.inspections.Sublist
    ((s.reported.filter (isSevere cfg)).map (·.incidentId))
  requests : ∀ incidentId request, .queueMission incidentId request ∈ s.sent →
    request = inspectionRequest cfg

/-- The same with their rows, in a database that is open. -/
structure State.Logged (cfg : Config) (s : State) : Prop extends s.Numbered cfg where
  isOpen : s.missionStore.isOpen = true
  recorded : s.missionStore.incidents = s.reported.map incidentRow

/-- What the scheduler has answered, and what it has not, was asked for. -/
structure World.Traced (cfg : Config) (w : World) : Prop where
  logged : w.manager.Logged cfg
  queued : List.Subperm (w.manager.queued ++ w.unanswered.filterMap Sent.inspection)
    w.manager.inspections

section

variable {cfg : Config} {s t : State} {w v : World} {m : Sent}

@[simp] theorem reported_send : (s.send m).reported = s.reported ++ m.reported.toList := by
  unfold State.reported State.send
  rw [List.filterMap_cons]
  cases m.reported <;> simp

@[simp] theorem inspections_send :
    (s.send m).inspections = s.inspections ++ m.inspection.toList := by
  unfold State.inspections State.send
  rw [List.filterMap_cons]
  cases m.inspection <;> simp

theorem report_sends {e : Callback} (he : e.isReport = false) (h : e.sends m = true) :
    m.reported = none ∧ m.inspection = none := by
  cases m with
  | incident | queueMission =>
    cases e with
    | assignMission => cases h
    | other e =>
      cases e with
      | reportIncident => cases he
      | _ => cases h
  | _ => exact ⟨rfl, rfl⟩

theorem reported_call {e : Callback} (he : e.isReport = false) (s : State) :
    (s.call cfg e).reported = s.reported ∧ (s.call cfg e).inspections = s.inspections := by
  obtain ⟨messages, hsent, hsends⟩ := (effect_call cfg e s).sent
  have hreported : messages.filterMap Sent.reported = [] :=
    List.filterMap_eq_nil_iff.mpr fun m hm => (report_sends he (hsends m hm)).1
  have hinspections : messages.filterMap Sent.inspection = [] :=
    List.filterMap_eq_nil_iff.mpr fun m hm => (report_sends he (hsends m hm)).2
  constructor
  · rw [State.reported, hsent, List.filterMap_append, hreported, List.nil_append, State.reported]
  · rw [State.inspections, hsent, List.filterMap_append, hinspections, List.nil_append,
      State.inspections]

theorem numbered_call {e : Callback} (h : s.Numbered cfg) (he : e.isReport = false) :
    (s.call cfg e).Numbered cfg := by
  obtain ⟨hreported, hinspections⟩ := @reported_call cfg e he s
  refine ⟨?_, ?_, fun incidentId request hm => ?_⟩
  · rw [(sameIncidents_call he s).counter, hreported, h.numbered]
  · rw [hinspections, hreported]
    exact h.inspections
  · obtain ⟨hsent, hsends⟩ := (effect_call cfg e s).sentSince_eq
    rw [hsent] at hm
    rcases List.mem_append.mp hm with hm | hm
    · cases (report_sends he (hsends _ hm)).2
    · exact h.requests incidentId request hm

/-- The state after an incident was counted, recorded and published. -/
def State.publish (s : State) (message : RobotIncident) : State :=
  (recordIncident (incidentRow message) (generateIncidentId s).2).send (.incident message)

theorem publish_sent (s : State) (message : RobotIncident) :
    (s.publish message).sent = .incident message :: s.sent ∧
      (s.publish message).incidentCounter = s.incidentCounter + 1 := by
  unfold State.publish recordIncident
  split <;> exact ⟨rfl, rfl⟩

theorem publish_reported (s : State) (message : RobotIncident) :
    (s.publish message).reported = s.reported ++ [message] ∧
      (s.publish message).inspections = s.inspections := by
  constructor
  · rw [State.reported, (publish_sent s message).1, List.filterMap_cons]
    simp [Sent.reported, State.reported]
  · rw [State.inspections, (publish_sent s message).1, List.filterMap_cons]
    simp [Sent.inspection, State.inspections]

theorem numbered_publish (h : s.Numbered cfg) {message : RobotIncident}
    (hid : message.incidentId = incidentIdOf (s.incidentCounter + 1)) :
    (s.publish message).Numbered cfg := by
  obtain ⟨hsent, hcounter⟩ := publish_sent s message
  obtain ⟨hreported, hinspections⟩ := publish_reported s message
  refine ⟨?_, ?_, fun incidentId request hm => ?_⟩
  · rw [hreported, List.map_append, h.numbered, hcounter, List.map_singleton, hid]
    simp [List.range_succ]
  · rw [hreported, hinspections, List.filter_append, List.map_append]
    exact h.inspections.trans (List.sublist_append_left ..)
  · rw [hsent] at hm
    rcases List.mem_cons.mp hm with hm | hm
    · cases hm
    · exact h.requests incidentId request hm

theorem numbered_inspection (h : s.Numbered cfg) {old : List RobotIncident}
    {message : RobotIncident} (hreported : s.reported = old ++ [message])
    (hsevere : isSevere cfg message = true)
    (hold : s.inspections.Sublist ((old.filter (isSevere cfg)).map (·.incidentId))) :
    (s.send (.queueMission message.incidentId (inspectionRequest cfg))).Numbered cfg := by
  have hsame : (s.send (.queueMission message.incidentId (inspectionRequest cfg))).reported =
      s.reported := by
    rw [reported_send]
    exact List.append_nil _
  refine ⟨?_, ?_, fun incidentId request hm => ?_⟩
  · rw [hsame]
    exact h.numbered
  · rw [hsame, inspections_send, hreported, List.filter_append, List.map_append]
    refine hold.append ?_
    simp [hsevere, Sent.inspection]
  · rcases List.mem_cons.mp hm with hm | hm
    · cases hm
      rfl
    · exact h.requests incidentId request hm

/-- A report that is heard publishes its incident, and may ask for an inspection of it. -/
theorem report_cases (cfg : Config) (s : State) (request : ReportIncident.Request)
    (serviceIsReady : Bool) (now : Time) :
    (handleReportIncident cfg request serviceIsReady now s).2 = s ∨
    ∃ message : RobotIncident, message.incidentId = incidentIdOf (s.incidentCounter + 1) ∧
      ((handleReportIncident cfg request serviceIsReady now s).2 = s.publish message ∨
        isSevere cfg message = true ∧
        (handleReportIncident cfg request serviceIsReady now s).2 =
          (s.publish message).send
            (.queueMission message.incidentId (inspectionRequest cfg))) := by
  unfold handleReportIncident
  split
  · exact .inl rfl
  dsimp only
  refine .inr ⟨⟨(generateIncidentId s).1, request.robotId, now, request.severity,
    request.category, request.description⟩, rfl, ?_⟩
  split
  · rename_i hsevere
    unfold dispatchIncidentInspection
    split
    · exact .inl rfl
    · exact .inr ⟨decide_eq_true hsevere, rfl⟩
  · exact .inl rfl

theorem isReport_eq_true {e : Callback} (h : e.isReport = true) :
    ∃ request serviceIsReady now, e = .other (.reportIncident request serviceIsReady now) := by
  cases e with
  | assignMission => cases h
  | other e => cases e <;> first | exact ⟨_, _, _, rfl⟩ | cases h

theorem numbered_step (h : s.Numbered cfg) (e : Callback) : (s.call cfg e).Numbered cfg := by
  cases he : e.isReport with
  | false => exact numbered_call h he
  | true =>
    obtain ⟨request, serviceIsReady, now, rfl⟩ := isReport_eq_true he
    simp only [State.call, State.step]
    rcases report_cases cfg s request serviceIsReady now with
      hsame | ⟨message, hid, hsame | ⟨hsevere, hsame⟩⟩ <;> rw [hsame]
    · exact h
    · exact numbered_publish h hid
    · obtain ⟨hreported, hinspections⟩ := publish_reported s message
      refine numbered_inspection (numbered_publish h hid) hreported hsevere ?_
      rw [hinspections]
      exact h.inspections

theorem recorded_step (hopen : s.missionStore.isOpen = true)
    (h : s.missionStore.incidents = s.reported.map incidentRow) (e : Callback) :
    (s.call cfg e).missionStore.incidents = (s.call cfg e).reported.map incidentRow := by
  cases he : e.isReport with
  | false => rw [(sameIncidents_call he s).rows, (reported_call he s).1, h]
  | true =>
    obtain ⟨request, serviceIsReady, now, rfl⟩ := isReport_eq_true he
    have hpublish : ∀ message, (s.publish message).missionStore.incidents =
        (s.publish message).reported.map incidentRow := by
      intro message
      rw [(publish_reported s message).1, List.map_append, ← h]
      exact (incidents_recordIncident _ _).trans (by
        rw [MissionStore.insertable, if_pos (by exact hopen)]
        rfl)
    simp only [State.call, State.step]
    rcases report_cases cfg s request serviceIsReady now with
      hsame | ⟨message, _, hsame | ⟨_, hsame⟩⟩ <;> rw [hsame]
    · exact h
    · exact hpublish message
    · rw [reported_send]
      exact (hpublish message).trans (by simp [Sent.reported])

theorem logged_step (h : s.Logged cfg) (e : Callback) : (s.call cfg e).Logged cfg :=
  ⟨numbered_step h.toNumbered e, call_isOpen h.isOpen e, recorded_step h.isOpen h.recorded e⟩

/-! ### The answers of the scheduler -/

theorem Noted.queued (h : Noted s t) : t.queued = s.queued := by
  unfold State.queued
  rw [h.filter]
  rintro row (hrow | hrow) <;> simp [hrow]

theorem queued_record {event : MissionEvent} (hopen : s.missionStore.isOpen = true) :
    (recordMissionEvent event s).queued =
      s.queued ++ if event.status = "AUTO_QUEUED_FROM_INCIDENT" then [event.detail] else [] := by
  unfold State.queued
  rw [missionEvents_recordMissionEvent, MissionStore.insertable, if_pos hopen,
    List.filter_append, List.map_append]
  by_cases h : event.status = "AUTO_QUEUED_FROM_INCIDENT" <;> simp [h]

theorem RobotAnswer.status_ne (answer : RobotAnswer) :
    answer.status ≠ "AUTO_QUEUED_FROM_INCIDENT" := by
  cases answer with
  | response success message => cases success <;> simp [RobotAnswer.status]
  | exception what => simp [RobotAnswer.status]

theorem queued_response {e : Event} (hopen : s.missionStore.isOpen = true)
    (h : m.answeredBy e = true) :
    List.Sublist (s.step cfg e).queued (s.queued ++ m.inspection.toList) := by
  cases e with
  | startResponse robotId missionId missionType answer =>
    simp only [State.step, startResponseCallback]
    rw [queued_record hopen, if_neg answer.status_ne, List.append_nil]
    exact List.sublist_append_left ..
  | stopResponse robotId missionId answer =>
    simp only [State.step, stopResponseCallback]
    rw [queued_record hopen, if_neg answer.status_ne, List.append_nil]
    exact List.sublist_append_left ..
  | queueResponse incidentId response =>
    cases m with
    | queueMission incidentId' request =>
      have hid : incidentId' = incidentId := of_decide_eq_true h
      subst hid
      simp only [State.step, queueResponseCallback]
      split
      · rw [queued_record hopen, if_pos rfl]
        exact List.Sublist.refl _
      · exact List.sublist_append_left ..
    | _ => cases h
  | _ => cases m <;> cases h

theorem traced_step {e : Callback} (h : w.Traced cfg) (hstep : w.step cfg e = some v) :
    v.Traced cfg := by
  have hlogged : v.manager.Logged cfg := by
    rw [step_manager hstep]
    exact logged_step h.logged e
  refine ⟨hlogged, ?_⟩
  have hqueued := h.queued
  cases step_handled hstep with
  | quiet he =>
    have hsent := (effect_call cfg e w.manager).sentSince_eq.1
    have hinspections : (w.manager.call cfg e).inspections = w.manager.inspections ++
        ((sentSince w.manager (w.manager.call cfg e)).filterMap Sent.inspection).reverse := by
      rw [State.inspections, hsent, List.filterMap_append, List.reverse_append,
        State.inspections]
    dsimp only
    rw [(noted_call he w.manager).queued, hinspections, List.filterMap_append]
    generalize (sentSince w.manager (w.manager.call cfg e)).filterMap Sent.inspection = asked
    have hperm : (asked ++ w.unanswered.filterMap Sent.inspection).Perm
        (w.unanswered.filterMap Sent.inspection ++ asked.reverse) :=
      List.perm_append_comm.trans ((List.reverse_perm asked).symm.append_left _)
    refine (hperm.append_left w.manager.queued).subperm_right.mpr ?_
    rw [← List.append_assoc]
    exact (List.subperm_append_right asked.reverse).mpr hqueued
  | answered m before after he hanswers hsplit =>
    have hsent : (w.manager.step cfg _).inspections = w.manager.inspections :=
      congrArg (fun sent => (List.filterMap Sent.inspection sent).reverse)
        (response_sends he w.manager)
    dsimp only
    rw [hsent]
    rw [hsplit] at hqueued
    have hmoved := (filterMap_middle Sent.inspection before after m).append_left
      w.manager.queued
    have hrows := (@queued_response cfg w.manager m _ h.logged.isOpen hanswers).append_right
      ((before ++ after).filterMap Sent.inspection)
    rw [← List.append_assoc] at hmoved
    exact hrows.subperm.trans (hmoved.symm.subperm.trans hqueued)

theorem State.Numbered.nodup (h : s.Numbered cfg) : s.inspections.Nodup := by
  have hids : (s.reported.map (·.incidentId)).Nodup := by
    rw [h.numbered]
    refine List.Nodup.map (fun a b heq => ?_) List.nodup_range
    have hnumber := incidentIdOf_injective heq
    omega
  exact hids.sublist (h.inspections.trans (List.filter_sublist.map _))

end

/-- With an open database, in every run: the incidents that were published are the rows that
the run has added, in their order and under the numbers from one on, and of the severe ones
each has at most one request for an inspection and at most one row of the run for it. -/
theorem inspections_traced {cfg : Config} {store : MissionStore} {fleet : State}
    (hopen : store.isOpen = true) (hinit : State.init cfg store = .ok fleet) {w : World}
    (h : (machine cfg fleet).Reachable w) :
    (w.since store).Traced cfg ∧ (w.since store).manager.queued.Nodup ∧
      ∀ incidentId ∈ (w.since store).manager.queued, ∃ message ∈ w.manager.reported,
        message.incidentId = incidentId ∧ isSevere cfg message = true := by
  obtain ⟨fresh, hfresh, rfl⟩ := init_onto hinit
  have htraced : (w.since store).Traced cfg := by
    refine (reachable_since h).invariant (P := World.Traced cfg) ?_
      fun u e v hu hstep => traced_step hu hstep
    cases init_eq hfresh
    exact ⟨⟨⟨rfl, List.Sublist.refl _, by simp [machine]⟩, hopen, rfl⟩, List.Subperm.refl _⟩
  have hqueued : List.Subperm (w.since store).manager.queued
      (w.since store).manager.inspections :=
    (List.sublist_append_left ..).subperm.trans htraced.queued
  refine ⟨htraced, ?_, ?_⟩
  · obtain ⟨queued, hperm, hsub⟩ := hqueued
    exact hperm.nodup_iff.mp (htraced.logged.nodup.sublist hsub)
  · intro incidentId hid
    have hsevere := htraced.logged.inspections.subset (hqueued.subset hid)
    obtain ⟨message, hm, heq⟩ := List.mem_map.mp hsevere
    obtain ⟨hreported, hkind⟩ := List.mem_filter.mp hm
    exact ⟨message, hreported, heq, hkind⟩

/-- Two incidents of which one is severe; the scheduler takes the inspection. -/
def incidentRun : List Callback :=
  [.other (.reportIncident ⟨"robot1", 0, "bump", "soft"⟩ true 0),
    .other (.reportIncident ⟨"robot2", RobotIncident.severityHigh, "fire", "smoke"⟩ true 1),
    .other (.queueResponse "incident-2" ⟨true, "mission-1", "queued"⟩)]

/-- A database in which an earlier process has recorded an incident of the same number. -/
def reportedStore : MissionStore where
  incidents := [⟨"incident-1", "robot2", 0, "bump", "hard"⟩]

theorem inspections_traced_fire :
    ∃ w, (machine {} (shipped.onto reportedStore)).run incidentRun = some w ∧
      w.manager.missionStore.incidents.length = 3 ∧
      w.manager.queued = ["incident-2"] ∧ (w.since reportedStore).Traced {} := by
  have hinit : State.init {} reportedStore = .ok (shipped.onto reportedStore) := rfl
  exact ⟨_, rfl, rfl, rfl, (inspections_traced rfl hinit ⟨incidentRun, rfl⟩).1⟩

end PatrolFleet.Fleet
