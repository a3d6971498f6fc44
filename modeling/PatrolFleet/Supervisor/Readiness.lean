import PatrolFleet.Supervisor.Polls

/-!
What `/system/ready` rests on: the last poll of every robot, as long as no poll
of a confirmed robot is abandoned or refused.
-/

set_option autoImplicit false

namespace PatrolFleet.Supervisor

/-- The six nodes have answered, and all are active. -/
def AllActive (outcomes : List (String × GetState)) : Prop :=
  (outcomes.map Prod.fst).Perm nav2NodeNames ∧
    ∀ o ∈ outcomes, o.2 = some LifecycleState.primaryStateActive

namespace State

/-- The attempt to poll the robot that ended last completed with all nodes active. -/
def RestsOnEvidence (s : State) (id : String) : Prop :=
  ∃ outcomes, s.concluded.lookup id = some (.completed outcomes) ∧ AllActive outcomes

def Evidenced (s : State) : Prop := ∀ id, s.confirmed id = true → s.RestsOnEvidence id

end State

/-- When it is visited, the inputs of the robot are there and it is confirmed, but its
poll has timed out, or a poll is due and the `get_state` service of some node is
missing. -/
structure LosesPoll (cfg : Config) (now : Time) (o : Observation) (robotId : String)
    (robot : RobotSupervisor) : Prop where
  confirmed : robot.confirmedActive = true
  inputs : (updateInputReadiness cfg robotId o robot).inputsReady = true
  lost : pollTimedOut cfg now robot = true ∨
    ((robot.phase = .waitingForInputs ∨ robot.phase = .idle) ∧ statesReady o = false)

instance (cfg : Config) (now : Time) (o : Observation) (robotId : String)
    (robot : RobotSupervisor) : Decidable (LosesPoll cfg now o robotId robot) :=
  decidable_of_iff (robot.confirmedActive = true ∧
      (updateInputReadiness cfg robotId o robot).inputsReady = true ∧
      (pollTimedOut cfg now robot = true ∨
        ((robot.phase = .waitingForInputs ∨ robot.phase = .idle) ∧ statesReady o = false)))
    ⟨fun h => ⟨h.1, h.2.1, h.2.2⟩, fun h => ⟨h.confirmed, h.inputs, h.lost⟩⟩

/-- No visit of the tick finds a confirmed robot that loses its poll. -/
def KeepsPolls (cfg : Config) (now : Time) (visits : List (String × Observation)) (s : State) :
    Prop :=
  EachVisit cfg now (fun robotId o robot => ¬ LosesPoll cfg now o robotId robot) visits s

instance (cfg : Config) (now : Time) (visits : List (String × Observation)) (s : State) :
    Decidable (KeepsPolls cfg now visits s) :=
  inferInstanceAs (Decidable (EachVisit cfg now _ visits s))

def State.KeepsEvidence (cfg : Config) (s : State) : Event → Prop
  | .tick now visits => 0 < now → KeepsPolls cfg now visits s
  | _ => True

instance (cfg : Config) (s : State) : ∀ e, Decidable (s.KeepsEvidence cfg e)
  | .tick now visits => inferInstanceAs (Decidable (0 < now → KeepsPolls cfg now visits s))
  | .map _ _ => isTrue trivial
  | .stateResponse _ _ _ _ _ _ => isTrue trivial
  | .commandResponse _ _ => isTrue trivial

section

variable {cfg : Config} {now : Time} {id robotId : String} {o : Observation} {s t : State}

theorem State.Evidenced.congr (h : s.Evidenced) (hconfirmed : ∀ id, t.confirmed id = s.confirmed id)
    (hconcluded : t.concluded = s.concluded) : t.Evidenced := by
  intro id hid
  rw [hconfirmed] at hid
  obtain ⟨outcomes, hlast, hall⟩ := h id hid
  exact ⟨outcomes, by rw [hconcluded, hlast], hall⟩

theorem Keeps.evidenced (hk : Keeps RobotSupervisor.confirmedActive s t) (h : s.Evidenced) :
    t.Evidenced :=
  h.congr hk.robots.confirmed hk.concluded

theorem publishReady_evidenced (ready : Bool) (h : s.Evidenced) :
    (publishReady ready s).Evidenced :=
  ((publishReady_keeps ready s).comp RobotSupervisor.confirmedActive).evidenced h

theorem Visited.ready {r : Bool × State} (hv : Visited cfg now robotId o s r) (h : r.1 = true) :
    s.confirmed robotId = true := by
  cases hv with
  | absent _ => cases h
  | waiting _ _ => cases h
  | busy hr _ _ _ _ => exact (confirmed_of hr).trans h
  | resumed hr _ _ => exact (confirmed_of hr).trans h
  | abandoned hr _ _ => exact (confirmed_of hr).trans h

theorem checkRobots_ready {visits : List (String × Observation)}
    (h : (checkRobots cfg now visits s).1 = true) (hm : id ∈ visits.map Prod.fst) :
    s.confirmed id = true := by
  induction visits generalizing s with
  | nil => simp at hm
  | cons visit visits ih =>
    have hv := checkRobot_visited cfg now visit.1 visit.2 s
    simp only [checkRobots, Bool.and_eq_true] at h
    rw [List.map_cons, List.mem_cons] at hm
    rcases hm with rfl | hm
    · exact hv.ready h.1
    · rw [← hv.spares.confirmed id]
      exact ih h.2 hm

/-! ### What ends during a visit -/

theorem PollCase.concluded (h : PollCase cfg robotId o now s t) (ho : statesReady o = true) :
    t.concluded = s.concluded := by
  cases h with
  | none => rfl
  | refused _ _ hnot => exact absurd (ho.symm.trans hnot) (by decide)
  | started => rfl

theorem Visited.kept {r : Bool × State} (hv : Visited cfg now robotId o s r)
    (hkeeps : ∀ robot, s.findRobot robotId = some robot → ¬ LosesPoll cfg now o robotId robot)
    (hc : s.confirmed robotId = true) : r.2.concluded = s.concluded := by
  cases hv with
  | absent _ => rfl
  | waiting _ _ => rfl
  | busy _ _ _ _ _ => rfl
  | resumed hr hi hphase =>
    have hready : statesReady o = true := by
      by_contra hn
      exact hkeeps _ hr
        ⟨(confirmed_of hr).symm.trans hc, hi, .inr ⟨hphase, Bool.eq_false_iff.mpr hn⟩⟩
    exact pollLifecycleStates_case.concluded hready
  | abandoned hr hi ht =>
    exact absurd ⟨(confirmed_of hr).symm.trans hc, hi, .inl ht⟩ (hkeeps _ hr)

theorem Visited.evidenced {r : Bool × State} (hv : Visited cfg now robotId o s r)
    (hkeeps : ∀ robot, s.findRobot robotId = some robot → ¬ LosesPoll cfg now o robotId robot)
    (h : s.Evidenced) : r.2.Evidenced := by
  intro id hc
  rw [hv.spares.confirmed] at hc
  obtain ⟨outcomes, hlast, hall⟩ := h id hc
  by_cases hid : id = robotId
  · subst hid
    exact ⟨outcomes, by rw [hv.kept hkeeps hc, hlast], hall⟩
  · exact ⟨outcomes, by rw [(hv.alike hid).lookup, hlast], hall⟩

theorem PollCase.restsOnEvidence (h : PollCase cfg id o now s t) (ht : t.RestsOnEvidence id) :
    s.RestsOnEvidence id := by
  obtain ⟨outcomes, hlast, hall⟩ := ht
  cases h with
  | none => exact ⟨outcomes, hlast, hall⟩
  | refused => simp [State.conclude] at hlast
  | started => exact ⟨outcomes, hlast, hall⟩

theorem Visited.restsOnEvidence {r : Bool × State} (hv : Visited cfg now robotId o s r)
    (h : r.2.RestsOnEvidence id) : s.RestsOnEvidence id := by
  by_cases hid : id = robotId
  · subst hid
    cases hv with
    | absent => exact h
    | waiting => exact h
    | busy => exact h
    | resumed =>
      obtain ⟨outcomes, hlast, hall⟩ := pollLifecycleStates_case.restsOnEvidence h
      exact ⟨outcomes, hlast, hall⟩
    | abandoned =>
      obtain ⟨outcomes, hlast, _⟩ := pollLifecycleStates_case.restsOnEvidence h
      simp [State.setRobot, State.conclude] at hlast
  · obtain ⟨outcomes, hlast, hall⟩ := h
    exact ⟨outcomes, by rw [← hlast, (hv.alike hid).lookup], hall⟩

theorem refused_not_restsOnEvidence {robot : RobotSupervisor}
    (hr : s.findRobot robotId = some robot) (hclients : hasClients cfg robotId = true)
    (ho : statesReady o = false) :
    ¬ (pollLifecycleStates cfg robotId o now s).RestsOnEvidence robotId := by
  rintro ⟨outcomes, hlast, _⟩
  rw [pollLifecycleStates_eq hr hclients, ho] at hlast
  simp [State.conclude] at hlast

theorem Visited.lost {r : Bool × State} (hv : Visited cfg now robotId o s r)
    {robot : RobotSupervisor} (hr : s.findRobot robotId = some robot)
    (hlost : LosesPoll cfg now o robotId robot) : ¬ r.2.RestsOnEvidence robotId := by
  have hsame : ∀ robot', s.findRobot robotId = some robot' → robot' = robot := by
    intro robot' hr'
    simpa [hr] using hr'.symm
  have hclients : hasClients cfg robotId = true := inputsReady_hasClients hlost.inputs
  cases hv with
  | absent hnone => simp [hnone] at hr
  | waiting hr' hi =>
    obtain rfl := hsame _ hr'
    simp [hlost.inputs] at hi
  | busy hr' _ hw hidle ht =>
    obtain rfl := hsame _ hr'
    rcases hlost.lost with htimeout | ⟨hphase | hphase, _⟩
    · simp [ht] at htimeout
    · exact absurd hphase hw
    · exact absurd hphase hidle
  | resumed hr' _ hphase =>
    obtain rfl := hsame _ hr'
    rcases hlost.lost with htimeout | ⟨_, ho⟩
    · simp only [pollTimedOut, Bool.and_eq_true, beq_iff_eq] at htimeout
      rcases hphase with hphase | hphase <;> simp [hphase] at htimeout
    · exact refused_not_restsOnEvidence findRobot_setRobot_self hclients ho
  | abandoned _ _ _ =>
    intro hrests
    obtain ⟨outcomes, hlast, _⟩ := pollLifecycleStates_case.restsOnEvidence hrests
    simp [State.setRobot, State.conclude] at hlast

theorem checkRobots_restsOnEvidence {visits : List (String × Observation)}
    (h : (checkRobots cfg now visits s).2.RestsOnEvidence id) : s.RestsOnEvidence id :=
  checkRobots_induction (R := fun s t => t.RestsOnEvidence id → s.RestsOnEvidence id)
    (fun _ => fun h => h) (fun _ _ _ hst htu hu => hst (htu hu))
    (fun _ _ _ _ hv => hv.restsOnEvidence) h

/-- A tick after which every visited robot rests on evidence has lost no poll. -/
theorem keepsPolls_of_restsOnEvidence {visits : List (String × Observation)}
    (h : ∀ id ∈ visits.map Prod.fst, (checkRobots cfg now visits s).2.RestsOnEvidence id) :
    KeepsPolls cfg now visits s := by
  induction visits generalizing s with
  | nil => trivial
  | cons visit visits ih =>
    refine ⟨fun robot hr hlost => ?_, ih fun id hid => h id (List.mem_cons_of_mem _ hid)⟩
    have hvisit := checkRobot_visited cfg now visit.1 visit.2 s
    have hrests : (checkRobots cfg now visits
        (checkRobot cfg now visit.1 visit.2 s).2).2.RestsOnEvidence visit.1 :=
      h visit.1 List.mem_cons_self
    exact hvisit.lost hr hlost (checkRobots_restsOnEvidence hrests)

theorem checkRobots_evidenced {visits : List (String × Observation)}
    (hkeeps : KeepsPolls cfg now visits s) (h : s.Evidenced) :
    (checkRobots cfg now visits s).2.Evidenced := by
  induction visits generalizing s with
  | nil => exact h
  | cons visit visits ih =>
    obtain ⟨hvisit, hvisits⟩ := hkeeps
    exact ih hvisits ((checkRobot_visited cfg now visit.1 visit.2 s).evidenced hvisit h)

theorem checkReadiness_evidenced {visits : List (String × Observation)}
    (hkeeps : 0 < now → KeepsPolls cfg now visits s) (h : s.Evidenced) :
    (checkReadiness cfg now visits s).Evidenced := by
  rcases Int.lt_or_le 0 now with hnow | hnow
  · rw [checkReadiness_of_pos hnow]
    exact publishReady_evidenced _ (checkRobots_evidenced (hkeeps hnow) h)
  · rw [checkReadiness_of_nonpos hnow]
    exact publishReady_evidenced _ h

theorem checkReadiness_ready {visits : List (String × Observation)}
    (h : (checkReadiness cfg now visits s).lastPublishedReady = true)
    (hm : id ∈ visits.map Prod.fst) : (checkReadiness cfg now visits s).confirmed id = true := by
  rcases Int.lt_or_le 0 now with hnow | hnow
  · rw [checkReadiness_of_pos hnow] at h ⊢
    rw [publishReady_lastPublishedReady] at h
    have hkeeps := (publishReady_keeps (checkRobots cfg now visits s).1
      (checkRobots cfg now visits s).2).robots.comp RobotSupervisor.confirmedActive
    rw [hkeeps.confirmed, (checkRobots_spares visits s).confirmed]
    exact checkRobots_ready h hm
  · rw [checkReadiness_of_nonpos hnow, publishReady_lastPublishedReady] at h
    cases h

end

/-! ### Answers -/

theorem allActive_of_complete {poll : Poll} (hcomplete : poll.Complete)
    (htally : poll.tally = Tally.of poll.outcomes) (hremaining : poll.tally.remaining = 0)
    (hactive : poll.tally.allActive = true) : AllActive poll.outcomes := by
  have hwaiting := waiting_nil_of_finished hcomplete htally hremaining
  rw [htally] at hactive
  simp only [Tally.of] at hactive
  constructor
  · simpa [Poll.Complete, hwaiting] using hcomplete
  · simpa using hactive

theorem Answered.evidenced {cfg : Config} {robotId nodeName : String} {future : GetState}
    {poll : Poll} {g : Nat} {now : Time} {s : State} {r : Poll × State}
    (ha : Answered cfg robotId nodeName future
      { poll with waiting := poll.waiting.erase nodeName } g now s r)
    (hp : s.PollsSound) (hm : s.polls.lookup (robotId, g) = some poll)
    (hw : nodeName ∈ poll.waiting) (h : s.Evidenced) : r.2.Evidenced := by
  intro id hc
  by_cases hid : id = robotId
  · subst hid
    cases ha with
    | stale => exact h id hc
    | counted => exact h id hc
    | completed hr hg hremaining hended =>
      subst hg
      rw [hended.confirmed, Bool.and_eq_true] at hc
      have hcomplete := (hp.current id poll ((generation_of hr).symm ▸ hm)).count hw future
      have htally := hp.tally _ poll hm
      refine ⟨_, by rw [hended.polls.2]; exact List.lookup_cons_self, ?_⟩
      refine allActive_of_complete hcomplete ?_ hremaining hc.1
      simp [Poll.count, Tally.of_cons, htally]
  · rw [(ha.alike hid).confirmed] at hc
    obtain ⟨outcomes, hlast, hall⟩ := h id hc
    exact ⟨outcomes, by rw [(ha.alike hid).lookup, hlast], hall⟩

theorem evidenced_init (cfg : Config) : (machine cfg).init.Evidenced := by
  intro id hc
  exfalso
  cases hr : (State.init cfg).findRobot id with
  | none => simp [machine, State.confirmed, hr] at hc
  | some robot =>
    rw [show (machine cfg).init = State.init cfg from rfl, confirmed_of hr,
      findRobot_init hr] at hc
    cases hc

theorem evidenced_step {cfg : Config} {s t : State} {e : Event} (hp : s.PollsSound)
    (h : s.Evidenced) (hkeeps : s.KeepsEvidence cfg e) (hstep : s.step cfg e = some t) :
    t.Evidenced := by
  cases step_cases hstep with
  | map robotId message =>
    exact ((mapCallback_keeps robotId message s).comp RobotSupervisor.confirmedActive).evidenced h
  | tick _ => exact checkReadiness_evidenced hkeeps h
  | stateResponse hm hw hhandled =>
    have hevidenced := (handleGetStateResponse_answered hhandled).evidenced hp hm hw h
    exact hevidenced.congr (fun _ => rfl) rfl
  | @commandResponse robotId command _ =>
    have hkeeps := (commandResponseCallback_keeps robotId
      { s with commands := s.commands.erase (robotId, command) }).comp
        RobotSupervisor.confirmedActive
    exact hkeeps.evidenced (h.congr (fun _ => rfl) rfl)

/-- As long as every step keeps the polls of confirmed robots, every robot's
readiness signal rests on its last poll. -/
theorem visits_evidenced {cfg : Config} {es : List Event}
    (hkeeps : ∀ s e t, (machine cfg).Takes es s e t → s.KeepsEvidence cfg e) {s : State}
    (hs : (machine cfg).Visits es s) : s.Evidenced := by
  have hboth : s.PollsSound ∧ s.Evidenced := by
    refine Machine.visits_invariant (P := fun s => s.PollsSound ∧ s.Evidenced)
      ⟨pollsSound_init cfg, evidenced_init cfg⟩ ?_ hkeeps hs
    rintro u e v ⟨hp, h⟩ hk hstep
    exact ⟨pollsSound_step hp hstep, evidenced_step hp h hk hstep⟩
  exact hboth.2

theorem ready_tick_confirmed {cfg : Config} {s t : State} {now : Time}
    {visits : List (String × Observation)} (hstep : s.step cfg (.tick now visits) = some t)
    (hready : t.lastPublishedReady = true) {id : String} (hid : id ∈ cfg.robotIds) :
    t.confirmed id = true := by
  cases step_cases hstep with
  | tick hvisits =>
    rw [← hvisits] at hid
    exact checkReadiness_ready hready hid

/-- A tick that publishes READY from evidence rests on evidence again exactly when it
keeps the polls. -/
theorem ready_tick_iff {cfg : Config} {s t : State} {now : Time}
    {visits : List (String × Observation)} (h : s.Evidenced)
    (hstep : s.step cfg (.tick now visits) = some t) (hready : t.lastPublishedReady = true) :
    (∀ id ∈ cfg.robotIds, t.RestsOnEvidence id) ↔ s.KeepsEvidence cfg (.tick now visits) := by
  constructor
  · intro hrests hpos
    cases step_cases hstep with | tick hvisits =>
    apply keepsPolls_of_restsOnEvidence
    intro id hid
    rw [hvisits] at hid
    obtain ⟨outcomes, hlast, hall⟩ := hrests id hid
    refine ⟨outcomes, ?_, hall⟩
    rw [checkReadiness_of_pos hpos, (publishReady_keeps _ _).concluded] at hlast
    exact hlast
  · intro hkeeps id hid
    have hconfirmed : t.confirmed id = true := ready_tick_confirmed hstep hready hid
    cases step_cases hstep with | tick _ =>
    exact checkReadiness_evidenced hkeeps h id hconfirmed

theorem ready_rests_on_evidence (cfg : Config) (es : List Event)
    (hkeeps : ∀ s e t, (machine cfg).Takes es s e t → s.KeepsEvidence cfg e)
    {s t : State} {now : Time} {visits : List (String × Observation)}
    (htake : (machine cfg).Takes es s (.tick now visits) t) (hready : t.lastPublishedReady = true)
    {id : String} (hid : id ∈ cfg.robotIds) : t.RestsOnEvidence id := by
  have hconfirmed : t.confirmed id = true := ready_tick_confirmed htake.step_eq hready hid
  exact visits_evidenced hkeeps htake.visits_next id hconfirmed

/-- One robot, whose six nodes are active from the first poll on. -/
def oneRobot : Config := { robotIds := ["robot1"] }

def allServices : Observation := ⟨true, true, nav2NodeNames⟩

def activeAnswers : List Event :=
  nav2NodeNames.map fun name =>
    .stateResponse "robot1" 1 name (some LifecycleState.primaryStateActive) true (seconds 2)

def confirmedRun : List Event :=
  [.map "robot1" ⟨1, 1, 1⟩, .tick (seconds 1) [("robot1", allServices)]] ++ activeAnswers

/-- The controller of the robot has died, and its `get_state` service with it. -/
def controllerGone : Observation :=
  ⟨true, true, nav2NodeNames.erase "controller_server"⟩

theorem stale_evidence_ready : ¬ ∀ cfg es s now visits t,
    (machine cfg).Takes es s (.tick now visits) t → t.lastPublishedReady = true →
    ∀ id ∈ cfg.robotIds, t.RestsOnEvidence id := by
  intro h
  obtain ⟨outcomes, hlast, _⟩ :=
    h oneRobot (confirmedRun ++ [.tick (seconds 3) [("robot1", controllerGone)]]) _ (seconds 3)
      [("robot1", controllerGone)] _ ⟨confirmedRun, List.prefix_refl _, rfl, rfl⟩ rfl "robot1"
      (by decide)
  have hrefused : some Conclusion.refused = some (.completed outcomes) := hlast
  cases hrefused

theorem ready_rests_on_evidence_confirmed :
    ∃ s t, (machine oneRobot).Takes (confirmedRun ++ [.tick (seconds 3) [("robot1", allServices)]])
      s (.tick (seconds 3) [("robot1", allServices)]) t ∧ t.RestsOnEvidence "robot1" := by
  refine ⟨_, _, ⟨confirmedRun, List.prefix_refl _, rfl, rfl⟩, ?_⟩
  refine ready_rests_on_evidence oneRobot
    (confirmedRun ++ [.tick (seconds 3) [("robot1", allServices)]]) ?_
    ⟨confirmedRun, List.prefix_refl _, rfl, rfl⟩ rfl (by decide)
  intro s e t htake
  have hc : decide (s.KeepsEvidence oneRobot e) = true :=
    Machine.takes_of_eachStep (c := fun s e => decide (s.KeepsEvidence oneRobot e)) rfl htake
  exact of_decide_eq_true hc

end PatrolFleet.Supervisor
