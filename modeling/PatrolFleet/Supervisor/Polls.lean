import PatrolFleet.Supervisor.Callbacks

/-!
The invariant of the polls: a tally counts the answers to its own poll and
nothing else.
-/

set_option autoImplicit false

namespace PatrolFleet.Supervisor

section

variable {robots : UnorderedMap String RobotSupervisor} {id : String} {robot : RobotSupervisor}

theorem emplace_lookup {robotId : String} (h : (emplace robots robotId).lookup id = some robot) :
    robot = {} ∨ robots.lookup id = some robot := by
  unfold emplace at h
  split at h
  · exact .inr h
  · by_cases hid : id = robotId
    · subst hid
      simp only [AList.lookup_insert, Option.some.injEq] at h
      exact .inl h.symm
    · rw [AList.lookup_insert_ne hid] at h
      exact .inr h

theorem foldl_emplace_lookup {robotIds : List String}
    (h : (robotIds.foldl emplace robots).lookup id = some robot) :
    robot = {} ∨ robots.lookup id = some robot := by
  induction robotIds generalizing robots with
  | nil => exact .inr h
  | cons robotId robotIds ih =>
    rcases ih h with hnew | hold
    · exact .inl hnew
    · exact emplace_lookup hold

theorem findRobot_init {cfg : Config} (h : (State.init cfg).findRobot id = some robot) :
    robot = {} := by
  rcases foldl_emplace_lookup h with hnew | hold
  · exact hnew
  · cases hold

end

/-! ### The visits of a tick -/

/-- Every visit of a tick finds the robot as `C` asks. -/
def EachVisit (cfg : Config) (now : Time) (C : String → Observation → RobotSupervisor → Prop) :
    List (String × Observation) → State → Prop
  | [], _ => True
  | (robotId, o) :: visits, s =>
    (∀ robot, s.findRobot robotId = some robot → C robotId o robot) ∧
      EachVisit cfg now C visits (checkRobot cfg now robotId o s).2

instance EachVisit.decidable (cfg : Config) (now : Time)
    (C : String → Observation → RobotSupervisor → Prop) [∀ id o r, Decidable (C id o r)] :
    ∀ (visits : List (String × Observation)) (s : State), Decidable (EachVisit cfg now C visits s)
  | [], _ => isTrue trivial
  | (robotId, o) :: visits, s =>
    have := EachVisit.decidable cfg now C visits (checkRobot cfg now robotId o s).2
    inferInstanceAs (Decidable ((∀ robot ∈ s.findRobot robotId, C robotId o robot) ∧
      EachVisit cfg now C visits (checkRobot cfg now robotId o s).2))

/-- Where each robot is visited once, the visits find the robots as they are before the
tick. -/
theorem eachVisit_iff {cfg : Config} {now : Time}
    {C : String → Observation → RobotSupervisor → Prop} {visits : List (String × Observation)}
    {s : State} (hnodup : (visits.map Prod.fst).Nodup) :
    EachVisit cfg now C visits s ↔ ∀ visit ∈ visits, ∀ robot,
      s.findRobot visit.1 = some robot → C visit.1 visit.2 robot := by
  induction visits generalizing s with
  | nil => simp [EachVisit]
  | cons visit visits ih =>
    rw [List.map_cons, List.nodup_cons] at hnodup
    have hv := checkRobot_visited cfg now visit.1 visit.2 s
    have hsame : ∀ other ∈ visits,
        (checkRobot cfg now visit.1 visit.2 s).2.findRobot other.1 = s.findRobot other.1 := by
      intro other ho
      refine (hv.alike fun heq => ?_).robot
      exact hnodup.1 (heq ▸ List.mem_map_of_mem ho)
    rw [List.forall_mem_cons, EachVisit, ih hnodup.2]
    refine and_congr_right fun _ => forall₂_congr fun other ho => ?_
    rw [hsame other ho]

/-! ### The tallies -/

def Tally.of (outcomes : List (String × GetState)) : Tally where
  remaining := nav2NodeNames.length - outcomes.length
  allActive := outcomes.all fun o => o.2 == some LifecycleState.primaryStateActive
  allUnconfigured := outcomes.all fun o => o.2 == some LifecycleState.primaryStateUnconfigured
  queryFailed := outcomes.any fun o => o.2 == none

theorem Tally.of_cons (nodeName : String) (future : GetState)
    (outcomes : List (String × GetState)) :
    Tally.of ((nodeName, future) :: outcomes) = (Tally.of outcomes).count future := by
  cases future <;> simp [Tally.of, Tally.count, Nat.sub_add_eq, Bool.and_comm]

/-- The answers that were counted and those that are awaited are those of the six nodes. -/
def Poll.Complete (poll : Poll) : Prop :=
  (poll.outcomes.map Prod.fst ++ poll.waiting).Perm nav2NodeNames

structure State.PollsSound (s : State) : Prop where
  tally : ∀ key poll, s.polls.lookup key = some poll → poll.tally = Tally.of poll.outcomes
  begun : ∀ id g poll, s.polls.lookup (id, g) = some poll → 0 < g ∧ g ≤ s.generation id
  current : ∀ id poll, s.polls.lookup (id, s.generation id) = some poll → poll.Complete

section

variable {s t : State}

theorem State.PollsSound.mono (h : s.PollsSound) (hp : t.polls = s.polls)
    (hg : ∀ id, s.generation id ≤ t.generation id) : t.PollsSound := by
  constructor
  · rw [hp]
    exact h.tally
  · intro id g poll hm
    rw [hp] at hm
    obtain ⟨hpos, hle⟩ := h.begun id g poll hm
    exact ⟨hpos, hle.trans (hg id)⟩
  · intro id poll hm
    rw [hp] at hm
    have hle := (h.begun id _ poll hm).2
    have heq : t.generation id = s.generation id := Nat.le_antisymm hle (hg id)
    rw [heq] at hm
    exact h.current id poll hm

theorem Keeps.pollsSound (hk : Keeps RobotSupervisor.pollGeneration s t) (h : s.PollsSound) :
    t.PollsSound :=
  h.mono hk.polls fun id => (hk.robots.generation id).ge

theorem lookup_insert_cases {polls : UnorderedMap (String × Nat) Poll} {key key' : String × Nat}
    {poll poll' : Poll} (h : (polls.insert key poll).lookup key' = some poll') :
    (key' = key ∧ poll' = poll) ∨ polls.lookup key' = some poll' := by
  by_cases hkey : key' = key
  · subst hkey
    simp only [AList.lookup_insert, Option.some.injEq] at h
    exact .inl ⟨rfl, h.symm⟩
  · rw [AList.lookup_insert_ne hkey] at h
    exact .inr h

theorem startPoll_pollsSound {robotId : String} {robot : RobotSupervisor} {now : Time}
    (h : s.PollsSound) (hr : s.findRobot robotId = some robot) :
    (startPoll robotId robot now s).PollsSound := by
  have hgen : s.generation robotId = robot.pollGeneration := generation_of hr
  have hself : (startPoll robotId robot now s).generation robotId = robot.pollGeneration + 1 :=
    generation_of findRobot_setRobot_self
  have hother : ∀ id, id ≠ robotId →
      (startPoll robotId robot now s).generation id = s.generation id := by
    intro id hid
    have halike : Alike id s (startPoll robotId robot now s) :=
      (alike_setRobot hid).trans (alike_insertPoll hid)
    exact halike.generation
  constructor
  · intro key poll hm
    rcases lookup_insert_cases hm with ⟨_, rfl⟩ | hm
    · rfl
    · exact h.tally key poll hm
  · intro id g poll hm
    by_cases hid : id = robotId
    · subst hid
      rw [hself]
      rcases lookup_insert_cases hm with ⟨heq, _⟩ | hm
      · have hg := (Prod.mk.inj heq).2
        omega
      · have hold := h.begun id g poll hm
        omega
    · rw [hother id hid]
      rcases lookup_insert_cases hm with ⟨heq, _⟩ | hm
      · exact absurd (Prod.mk.inj heq).1 hid
      · exact h.begun id g poll hm
  · intro id poll hm
    rcases lookup_insert_cases hm with ⟨_, rfl⟩ | hm
    · exact List.Perm.refl _
    · by_cases hid : id = robotId
      · subst hid
        have hold := h.begun id _ poll hm
        omega
      · rw [hother id hid] at hm
        exact h.current id poll hm

/-- An answer to a poll keeps the invariant if it is counted, or if the poll is no
longer the current one. -/
theorem State.PollsSound.answer (h : s.PollsSound) {id : String} {g : Nat} {poll poll' : Poll}
    (hm : s.polls.lookup (id, g) = some poll) (hp : t.polls = s.polls.insert (id, g) poll')
    (hg : ∀ id, t.generation id = s.generation id) (htally : poll'.tally = Tally.of poll'.outcomes)
    (hcurrent : s.generation id = g → poll'.Complete) : t.PollsSound := by
  constructor
  · intro key q hq
    rw [hp] at hq
    rcases lookup_insert_cases hq with ⟨_, rfl⟩ | hq
    · exact htally
    · exact h.tally key q hq
  · intro id' g' q hq
    rw [hp] at hq
    rw [hg]
    rcases lookup_insert_cases hq with ⟨heq, _⟩ | hq
    · cases heq
      exact h.begun id g poll hm
    · exact h.begun id' g' q hq
  · intro id' q hq
    rw [hp, hg] at hq
    rcases lookup_insert_cases hq with ⟨heq, rfl⟩ | hq
    · obtain ⟨rfl, hgen⟩ := Prod.mk.inj heq
      exact hcurrent hgen
    · exact h.current id' q hq

theorem Poll.Complete.count {poll : Poll} (h : poll.Complete) {nodeName : String}
    (hm : nodeName ∈ poll.waiting) (future : GetState) :
    (Poll.count nodeName future { poll with waiting := poll.waiting.erase nodeName }).Complete := by
  have hperm : (nodeName :: poll.waiting.erase nodeName).Perm poll.waiting :=
    (List.perm_cons_erase hm).symm
  calc (nodeName :: poll.outcomes.map Prod.fst ++ poll.waiting.erase nodeName).Perm
        (poll.outcomes.map Prod.fst ++ nodeName :: poll.waiting.erase nodeName) :=
      List.perm_middle.symm
    _ |>.Perm (poll.outcomes.map Prod.fst ++ poll.waiting) := hperm.append_left _
    _ |>.Perm nav2NodeNames := h

end

section

variable {cfg : Config} {now : Time} {robotId : String} {o : Observation} {s t : State}

theorem conclude_pollsSound {conclusion : Conclusion} (h : s.PollsSound) :
    (s.conclude robotId conclusion).PollsSound :=
  h.mono rfl fun _ => Nat.le_refl _

theorem setRobot_pollsSound {robot robot' : RobotSupervisor} (h : s.PollsSound)
    (hr : s.findRobot robotId = some robot) (hg : robot.pollGeneration ≤ robot'.pollGeneration) :
    (s.setRobot robotId robot').PollsSound := by
  refine h.mono rfl fun id => ?_
  by_cases hid : id = robotId
  · subst hid
    rw [generation_of hr, generation_of findRobot_setRobot_self]
    exact hg
  · simp [State.generation, hid]

theorem PollCase.pollsSound (hp : PollCase cfg robotId o now s t) (h : s.PollsSound) :
    t.PollsSound := by
  cases hp with
  | none => exact h
  | refused => exact conclude_pollsSound h
  | started hr => exact startPoll_pollsSound h hr

theorem Visited.pollsSound {r : Bool × State} (hv : Visited cfg now robotId o s r)
    (h : s.PollsSound) : r.2.PollsSound := by
  cases hv with
  | absent _ => exact h
  | waiting hr _ => exact setRobot_pollsSound h hr (Nat.le_refl _)
  | busy hr _ _ _ _ => exact setRobot_pollsSound h hr (Nat.le_refl _)
  | resumed hr _ _ =>
    exact pollLifecycleStates_case.pollsSound (setRobot_pollsSound h hr (Nat.le_refl _))
  | abandoned hr _ _ =>
    have hconcluded : (s.conclude robotId .abandoned).PollsSound := conclude_pollsSound h
    exact pollLifecycleStates_case.pollsSound (setRobot_pollsSound hconcluded hr (Nat.le_succ _))

theorem checkRobots_pollsSound (visits : List (String × Observation)) (h : s.PollsSound) :
    (checkRobots cfg now visits s).2.PollsSound :=
  checkRobots_induction (R := fun s t => s.PollsSound → t.PollsSound) (fun _ => id)
    (fun _ _ _ hst htu hs => htu (hst hs)) (fun _ _ _ _ hv => hv.pollsSound) h

theorem publishReady_pollsSound (ready : Bool) (h : s.PollsSound) :
    (publishReady ready s).PollsSound :=
  ((publishReady_keeps ready s).comp RobotSupervisor.pollGeneration).pollsSound h

theorem checkReadiness_pollsSound (visits : List (String × Observation)) (h : s.PollsSound) :
    (checkReadiness cfg now visits s).PollsSound := by
  rcases Int.lt_or_le 0 now with hnow | hnow
  · rw [checkReadiness_of_pos hnow]
    exact publishReady_pollsSound _ (checkRobots_pollsSound visits h)
  · rw [checkReadiness_of_nonpos hnow]
    exact publishReady_pollsSound _ h

end

section

variable {cfg : Config} {s t : State} {robotId nodeName : String} {g : Nat} {future : GetState}
  {manageReady : Bool} {now : Time} {poll : Poll}

theorem Answered.pollsSound {r : Poll × State}
    (ha : Answered cfg robotId nodeName future
      { poll with waiting := poll.waiting.erase nodeName } g now s r)
    (h : s.PollsSound) (hm : s.polls.lookup (robotId, g) = some poll)
    (hw : nodeName ∈ poll.waiting) :
    State.PollsSound { r.2 with polls := r.2.polls.insert (robotId, g) r.1 } := by
  have hgen := (ha.same.comp Prod.snd).generation
  have htally : poll.tally = Tally.of poll.outcomes := h.tally _ poll hm
  have hcounted : ∀ q : Poll, q = Poll.count nodeName future
      { poll with waiting := poll.waiting.erase nodeName } →
      q.tally = Tally.of q.outcomes ∧ (s.generation robotId = g → q.Complete) := by
    rintro q rfl
    constructor
    · simp [Poll.count, Tally.of_cons, htally]
    · rintro rfl
      exact (h.current robotId poll hm).count hw future
  have hinsert : r.2.polls.insert (robotId, g) r.1 = s.polls.insert (robotId, g) r.1 := by
    rw [ha.polls]
  refine h.answer hm hinsert hgen ?_ ?_
  · cases ha with
    | stale => exact htally
    | counted => exact (hcounted _ rfl).1
    | completed => exact (hcounted _ rfl).1
  · cases ha with
    | stale hstale =>
      intro hg
      exfalso
      cases hr : s.findRobot robotId with
      | none =>
        have hpos := (h.begun robotId g poll hm).1
        simp [State.generation, hr] at hg
        omega
      | some robot => exact hstale robot hr ((generation_of hr).symm.trans hg)
    | counted => exact (hcounted _ rfl).2
    | completed => exact (hcounted _ rfl).2

end

theorem waiting_nil_of_finished {poll : Poll} (hcomplete : poll.Complete)
    (htally : poll.tally = Tally.of poll.outcomes) (hremaining : poll.tally.remaining = 0) :
    poll.waiting = [] := by
  have hlen : poll.outcomes.length + poll.waiting.length = nav2NodeNames.length := by
    simpa using hcomplete.length_eq
  rw [htally] at hremaining
  simp only [Tally.of] at hremaining
  exact List.eq_nil_of_length_eq_zero (by omega)

theorem pollsSound_init (cfg : Config) : (machine cfg).init.PollsSound := by
  constructor <;> simp [machine, State.init, publishReady]

theorem pollsSound_step {cfg : Config} {s t : State} {e : Event} (h : s.PollsSound)
    (hstep : s.step cfg e = some t) : t.PollsSound := by
  cases step_cases hstep with
  | map robotId message =>
    exact ((mapCallback_keeps robotId message s).comp RobotSupervisor.pollGeneration).pollsSound h
  | tick _ => exact checkReadiness_pollsSound _ h
  | stateResponse hm hw hhandled =>
    exact (handleGetStateResponse_answered hhandled).pollsSound h hm hw
  | @commandResponse robotId command _ =>
    have hkeeps := (commandResponseCallback_keeps robotId
      { s with commands := s.commands.erase (robotId, command) }).comp
        RobotSupervisor.pollGeneration
    exact hkeeps.pollsSound (h.mono rfl fun _ => Nat.le_refl _)

theorem reachable_pollsSound {cfg : Config} {s : State} (h : (machine cfg).Reachable s) :
    s.PollsSound :=
  h.invariant (P := State.PollsSound) (pollsSound_init cfg) fun _ _ _ hs hstep =>
    pollsSound_step hs hstep

end PatrolFleet.Supervisor
