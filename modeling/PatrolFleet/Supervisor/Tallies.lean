import PatrolFleet.Supervisor.Commands
import Mathlib.Data.Multiset.Defs

/-!
The polls are isolated from each other: the answers that reach a poll in time,
in whatever order, decide when `finish_poll` runs for it and with what.
-/

set_option autoImplicit false

namespace PatrolFleet.Supervisor

/-- A call of `finish_poll`, with the poll that it is for. -/
structure Finish where
  robotId : String
  generation : Nat
  allActive : Bool
  allUnconfigured : Bool
  queryFailed : Bool
  deriving DecidableEq

/-- `poll_generation` still equals the generation of the poll. -/
def State.Live (s : State) (robotId : String) (generation : Nat) : Prop :=
  (s.findRobot robotId).map RobotSupervisor.pollGeneration = some generation

instance (s : State) (robotId : String) (generation : Nat) :
    Decidable (s.Live robotId generation) :=
  inferInstanceAs (Decidable (_ = _))

/-- The answer that arrives in the step, if it is in time for its poll. -/
def State.hears (s : State) : Event → Option ((String × Nat) × String × GetState)
  | .stateResponse robotId generation nodeName future _ _ =>
    if s.Live robotId generation then some ((robotId, generation), nodeName, future) else none
  | _ => none

/-- The call of `finish_poll` that `handle_get_state_response` makes in the step. -/
def State.finishes (s : State) : Event → Option Finish
  | .stateResponse robotId generation _ future _ _ =>
    match s.polls.lookup (robotId, generation) with
    | none => none
    | some poll =>
      let tally := poll.tally.count future
      if s.Live robotId generation ∧ tally.remaining = 0 then
        some ⟨robotId, generation, tally.allActive, tally.allUnconfigured, tally.queryFailed⟩
      else none
  | _ => none

/-- The answers that reach a poll in time in the run of `es`. -/
def answers (cfg : Config) (robotId : String) (generation : Nat) (es : List Event) :
    List (String × GetState) :=
  ((machine cfg).outputs State.hears (machine cfg).init es).filterMap fun answer =>
    if answer.1 = (robotId, generation) then some answer.2 else none

/-- The calls of `finish_poll` in the run of `es`. -/
def finishCalls (cfg : Config) (es : List Event) : List Finish :=
  (machine cfg).outputs State.finishes (machine cfg).init es

/-- The outcomes are few, where their type has a value for each byte. -/
instance (outcomes : Multiset GetState) (p : GetState → Prop) [DecidablePred p] :
    Decidable (∀ outcome ∈ outcomes, p outcome) :=
  Multiset.decidableForallMultiset

/-- The call of `finish_poll` that six outcomes call for. -/
def Finish.of (robotId : String) (generation : Nat) (outcomes : Multiset GetState) : Finish where
  robotId
  generation
  allActive := decide (∀ outcome ∈ outcomes, outcome = some LifecycleState.primaryStateActive)
  allUnconfigured :=
    decide (∀ outcome ∈ outcomes, outcome = some LifecycleState.primaryStateUnconfigured)
  queryFailed := decide (none ∈ outcomes)

/-- All six nodes are active, and no query has failed. -/
def Finish.confirms (call : Finish) : Bool := call.allActive && !call.queryFailed

/-! ### One answer -/

def Poll.drop (nodeName : String) (poll : Poll) : Poll :=
  { poll with waiting := poll.waiting.erase nodeName }

def State.putPoll (key : String × Nat) (poll : Poll) (s : State) : State :=
  { s with polls := s.polls.insert key poll }

/-- The callback of an answer has run `finish_poll` with what the call says, or has changed
nothing but its poll. -/
inductive State.Handles (cfg : Config) (robotId : String) (generation : Nat) (manageReady : Bool)
    (now : Time) (s t : State) : Option Finish → Prop where
  | waited (poll : Poll) : t = s.putPoll (robotId, generation) poll →
      s.Handles cfg robotId generation manageReady now t none
  | finished (call : Finish) (poll : Poll) (outcomes : List (String × GetState)) :
      call.robotId = robotId → call.generation = generation →
      t = (finishPoll cfg robotId call.allActive call.allUnconfigured call.queryFailed manageReady
        now (s.conclude robotId (.completed outcomes))).putPoll (robotId, generation) poll →
      s.Handles cfg robotId generation manageReady now t (some call)

section

variable {cfg : Config} {s t : State} {robotId nodeName : String} {generation : Nat}
  {future : GetState} {manageReady : Bool} {now : Time} {poll : Poll} {robot : RobotSupervisor}

theorem live_of (hr : s.findRobot robotId = some robot)
    (hg : robot.pollGeneration = generation) : s.Live robotId generation :=
  Option.map_eq_some_iff.mpr ⟨robot, hr, hg⟩

theorem not_live_of
    (h : ∀ robot, s.findRobot robotId = some robot → robot.pollGeneration ≠ generation) :
    ¬ s.Live robotId generation := by
  intro hlive
  obtain ⟨robot, hr, hg⟩ := Option.map_eq_some_iff.mp hlive
  exact h robot hr hg

theorem step_finishes
    (h : s.step cfg (.stateResponse robotId generation nodeName future manageReady now) =
      some t) :
    s.Handles cfg robotId generation manageReady now t
      (s.finishes (.stateResponse robotId generation nodeName future manageReady now)) := by
  cases step_cases h with | @stateResponse _ _ _ _ _ _ poll handled hm hw hhandled =>
  simp only [State.finishes, hm]
  by_cases hlive : s.Live robotId generation
  · obtain ⟨robot, hr, hg⟩ := Option.map_eq_some_iff.mp hlive
    rw [handleGetStateResponse_current hr hg] at hhandled
    dsimp only at hhandled
    by_cases hremaining : (poll.tally.count future).remaining = 0
    · rw [if_neg (not_not.mpr hremaining)] at hhandled
      rw [if_pos ⟨hlive, hremaining⟩, ← hhandled]
      exact .finished _ _ _ rfl rfl rfl
    · rw [if_pos hremaining] at hhandled
      rw [if_neg fun hboth => hremaining hboth.2, ← hhandled]
      exact .waited _ rfl
  · rw [handleGetStateResponse_stale fun robot hr hg => hlive (live_of hr hg)] at hhandled
    rw [if_neg fun hboth => hlive hboth.1, ← hhandled]
    exact .waited _ rfl

theorem step_answered
    (h : s.step cfg (.stateResponse robotId generation nodeName future manageReady now) =
      some t) :
    ∃ poll r, s.polls.lookup (robotId, generation) = some poll ∧ nodeName ∈ poll.waiting ∧
      Answered cfg robotId nodeName future (poll.drop nodeName) generation now s r ∧
      t = r.2.putPoll (robotId, generation) r.1 := by
  cases step_cases h with | @stateResponse _ _ _ _ _ _ poll handled hm hw hhandled =>
  exact ⟨poll, handled, hm, hw, handleGetStateResponse_answered hhandled, rfl⟩

end

/-! ### The other callbacks -/

/-- Polls are only added, and a new poll has heard nothing. -/
def AddsPolls (s t : State) : Prop :=
  ∀ key, t.polls.lookup key = s.polls.lookup key ∨
    s.polls.lookup key = none ∧ t.polls.lookup key = some {}

section

variable {cfg : Config} {s t u : State} {robotId : String} {now : Time} {o : Observation}

theorem AddsPolls.of_eq (h : t.polls = s.polls) : AddsPolls s t := by
  intro key
  rw [h]
  exact .inl rfl

theorem AddsPolls.trans (h : AddsPolls s t) (k : AddsPolls t u) : AddsPolls s u := by
  intro key
  rcases k key with hsame | ⟨hnone, hnew⟩
  · rw [hsame]
    exact h key
  · rcases h key with hsame | ⟨_, hsome⟩
    · exact .inr ⟨hsame ▸ hnone, hnew⟩
    · rw [hsome] at hnone
      cases hnone

theorem startPoll_addsPolls {robot : RobotSupervisor} (hp : s.PollsSound)
    (hr : s.findRobot robotId = some robot) : AddsPolls s (startPoll robotId robot now s) := by
  intro key
  by_cases hkey : key = (robotId, robot.pollGeneration + 1)
  · subst hkey
    refine .inr ⟨?_, AList.lookup_insert _⟩
    cases hm : s.polls.lookup (robotId, robot.pollGeneration + 1) with
    | none => rfl
    | some poll =>
      have hle := (hp.begun robotId _ poll hm).2
      rw [generation_of hr] at hle
      omega
  · exact .inl (AList.lookup_insert_ne hkey)

theorem PollCase.addsPolls (h : PollCase cfg robotId o now s t) (hp : s.PollsSound) :
    AddsPolls s t := by
  cases h with
  | none => exact .of_eq rfl
  | refused => exact .of_eq rfl
  | started hr => exact startPoll_addsPolls hp hr

theorem Visited.addsPolls {r : Bool × State} (hv : Visited cfg now robotId o s r)
    (hp : s.PollsSound) : AddsPolls s r.2 := by
  cases hv with
  | absent => exact .of_eq rfl
  | waiting => exact .of_eq rfl
  | busy => exact .of_eq rfl
  | resumed hr =>
    refine AddsPolls.trans ?_
      (pollLifecycleStates_case.addsPolls (setRobot_pollsSound hp hr (Nat.le_refl _)))
    exact .of_eq rfl
  | abandoned hr =>
    have hconcluded : (s.conclude robotId .abandoned).PollsSound := conclude_pollsSound hp
    refine AddsPolls.trans ?_
      (pollLifecycleStates_case.addsPolls (setRobot_pollsSound hconcluded hr (Nat.le_succ _)))
    exact .of_eq rfl

theorem checkRobots_addsPolls (visits : List (String × Observation)) (hp : s.PollsSound) :
    AddsPolls s (checkRobots cfg now visits s).2 := by
  refine (checkRobots_induction (R := fun s t => s.PollsSound → t.PollsSound ∧ AddsPolls s t)
    (fun s hs => ⟨hs, .of_eq rfl⟩) (fun s t u hst htu hs => ?_)
    (fun _ _ _ _ hv hs => ⟨hv.pollsSound hs, hv.addsPolls hs⟩) hp).2
  obtain ⟨ht, hadds⟩ := hst hs
  obtain ⟨hu, hrest⟩ := htu ht
  exact ⟨hu, hadds.trans hrest⟩

/-- A step that is not an answer to a poll: polls are begun, and no evidence and no
command comes of it. -/
structure Quiet (s t : State) : Prop where
  polls : AddsPolls s t
  confirmed : ∀ id, t.confirmed id = s.confirmed id
  commands : t.commands.Sublist s.commands

theorem Keeps.quiet (h : Keeps RobotSupervisor.confirmedActive s t) : Quiet s t :=
  ⟨.of_eq h.polls, h.robots.confirmed, h.commands ▸ .refl _⟩

theorem checkReadiness_quiet (visits : List (String × Observation)) (hp : s.PollsSound) :
    Quiet s (checkReadiness cfg now visits s) := by
  have hpublish : ∀ ready u, Quiet u (publishReady ready u) := fun ready u =>
    ((publishReady_keeps ready u).comp RobotSupervisor.confirmedActive).quiet
  rcases Int.lt_or_le 0 now with hnow | hnow
  · rw [checkReadiness_of_pos hnow]
    have hspares := @checkRobots_spares cfg now visits s
    have hready := hpublish (checkRobots cfg now visits s).1 (checkRobots cfg now visits s).2
    exact ⟨(checkRobots_addsPolls visits hp).trans hready.polls,
      fun id => (hready.confirmed id).trans (hspares.confirmed id),
      hready.commands.trans (hspares.commands ▸ .refl _)⟩
  · rw [checkReadiness_of_nonpos hnow]
    exact hpublish false s

def Event.isAnswer : Event → Bool
  | .stateResponse .. => true
  | _ => false

theorem step_quiet {e : Event} (he : e.isAnswer = false) (hp : s.PollsSound)
    (h : s.step cfg e = some t) : Quiet s t := by
  cases step_cases h with
  | map robotId message =>
    exact ((mapCallback_keeps robotId message s).comp RobotSupervisor.confirmedActive).quiet
  | tick => exact checkReadiness_quiet _ hp
  | stateResponse => cases he
  | @commandResponse robotId command _ =>
    have hkeeps := (commandResponseCallback_keeps robotId
      { s with commands := s.commands.erase (robotId, command) }).comp
        RobotSupervisor.confirmedActive
    exact ⟨hkeeps.quiet.polls, hkeeps.quiet.confirmed,
      hkeeps.quiet.commands.trans List.erase_sublist⟩

end

/-! ### What a run adds up to -/

/-- The history of one poll, as the poll itself has it: the answers in time are those
that it has counted, and `finish_poll` has run for it once if it counted six. -/
structure Poll.Tracks (cfg : Config) (es : List Event) (key : String × Nat) (poll : Poll) :
    Prop where
  names : (poll.outcomes.map Prod.fst ++ poll.waiting).Subperm nav2NodeNames
  answers : answers cfg key.1 key.2 es = poll.outcomes.reverse
  finishes : (finishCalls cfg es).filter (fun call => (call.robotId, call.generation) = key) =
    if poll.tally.remaining = 0 then [Finish.of key.1 key.2 (poll.outcomes.map Prod.snd)] else []

structure State.Tallied (cfg : Config) (es : List Event) (s : State) : Prop where
  sound : s.PollsSound
  tracks : ∀ key poll, s.polls.lookup key = some poll → poll.Tracks cfg es key
  unheard : ∀ key, s.polls.lookup key = none → answers cfg key.1 key.2 es = [] ∧
    (finishCalls cfg es).filter (fun call => (call.robotId, call.generation) = key) = []
  confirmed : ∀ id, s.confirmed id =
    (((finishCalls cfg es).filter (·.robotId = id)).getLast?.map Finish.confirms).getD false

section

variable {cfg : Config} {es : List Event} {e : Event} {s t : State} {key : String × Nat}

theorem answers_concat (hrun : (machine cfg).run es = some s) (hstep : s.step cfg e = some t) :
    answers cfg key.1 key.2 (es ++ [e]) = answers cfg key.1 key.2 es ++
      (s.hears e).toList.filterMap
        fun answer => if answer.1 = key then some answer.2 else none := by
  unfold answers
  rw [(machine cfg).outputs_concat hrun hstep, List.filterMap_append]

theorem finishCalls_concat (hrun : (machine cfg).run es = some s)
    (hstep : s.step cfg e = some t) :
    finishCalls cfg (es ++ [e]) = finishCalls cfg es ++ (s.finishes e).toList :=
  (machine cfg).outputs_concat hrun hstep

theorem hears_quiet (he : e.isAnswer = false) : s.hears e = none ∧ s.finishes e = none := by
  cases e <;> first | exact ⟨rfl, rfl⟩ | cases he

theorem tallied_quiet (h : s.Tallied cfg es) (hrun : (machine cfg).run es = some s)
    (hstep : s.step cfg e = some t) (he : e.isAnswer = false) : t.Tallied cfg (es ++ [e]) := by
  have hquiet := step_quiet he h.sound hstep
  obtain ⟨hhears, hfinishes⟩ := hears_quiet (s := s) he
  have hanswers : ∀ key : String × Nat,
      answers cfg key.1 key.2 (es ++ [e]) = answers cfg key.1 key.2 es := by
    intro key
    rw [answers_concat hrun hstep, hhears]
    simp
  have hcalls : finishCalls cfg (es ++ [e]) = finishCalls cfg es := by
    rw [finishCalls_concat hrun hstep, hfinishes]
    simp
  refine ⟨pollsSound_step h.sound hstep, fun key poll hm => ?_, fun key hm => ?_, fun id => ?_⟩
  · rcases hquiet.polls key with hsame | ⟨hnone, hnew⟩
    · rw [hsame] at hm
      obtain ⟨hnames, hheard, hcalled⟩ := h.tracks key poll hm
      exact ⟨hnames, (hanswers key).trans hheard, by rw [hcalls, hcalled]⟩
    · rw [hnew] at hm
      cases hm
      obtain ⟨hheard, hcalled⟩ := h.unheard key hnone
      refine ⟨List.Subperm.refl _, (hanswers key).trans hheard, ?_⟩
      rw [hcalls, hcalled]
      rfl
  · rcases hquiet.polls key with hsame | ⟨_, hnew⟩
    · rw [hsame] at hm
      rw [hanswers, hcalls]
      exact h.unheard key hm
    · rw [hnew] at hm
      cases hm
  · rw [hquiet.confirmed, hcalls]
    exact h.confirmed id

theorem finish_of_tally (robotId : String) (generation : Nat)
    (outcomes : List (String × GetState)) :
    Finish.of robotId generation (outcomes.map Prod.snd) =
      ⟨robotId, generation, (Tally.of outcomes).allActive, (Tally.of outcomes).allUnconfigured,
        (Tally.of outcomes).queryFailed⟩ := by
  unfold Finish.of Tally.of
  congr 1
  · rw [Bool.eq_iff_iff]
    simp only [decide_eq_true_eq, List.all_eq_true, beq_iff_eq, Multiset.mem_coe,
      List.forall_mem_map]
  · rw [Bool.eq_iff_iff]
    simp only [decide_eq_true_eq, List.all_eq_true, beq_iff_eq, Multiset.mem_coe,
      List.forall_mem_map]
  · rw [Bool.eq_iff_iff]
    simp

end

section

variable {cfg : Config} {es : List Event} {s t : State} {robotId nodeName : String} {g : Nat}
  {future : GetState} {manageReady : Bool} {now : Time} {poll poll' : Poll}

theorem hears_key {key : String × Nat} {answer : String × GetState}
    (h : s.hears (.stateResponse robotId g nodeName future manageReady now) =
      some (key, answer)) : key = (robotId, g) := by
  obtain ⟨_, heq⟩ := Option.ite_none_right_eq_some.mp h
  cases heq
  rfl

theorem finishes_key {call : Finish}
    (h : s.finishes (.stateResponse robotId g nodeName future manageReady now) = some call) :
    (call.robotId, call.generation) = (robotId, g) := by
  simp only [State.finishes] at h
  split at h
  · cases h
  · obtain ⟨_, heq⟩ := Option.ite_none_right_eq_some.mp h
    cases heq
    rfl

theorem State.Tallied.put (h : s.Tallied cfg es) (hrun : (machine cfg).run es = some s)
    (hstep : s.step cfg (.stateResponse robotId g nodeName future manageReady now) = some t)
    (hpolls : t.polls = s.polls.insert (robotId, g) poll')
    (htracks : poll'.Tracks cfg (es ++ [.stateResponse robotId g nodeName future manageReady now])
      (robotId, g))
    (hconfirmed : ∀ id, t.confirmed id = (((finishCalls cfg (es ++ [.stateResponse robotId g
      nodeName future manageReady now])).filter (·.robotId = id)).getLast?.map
        Finish.confirms).getD false) :
    t.Tallied cfg (es ++ [.stateResponse robotId g nodeName future manageReady now]) := by
  have hanswers : ∀ key : String × Nat, key ≠ (robotId, g) → answers cfg key.1 key.2
      (es ++ [.stateResponse robotId g nodeName future manageReady now]) =
        answers cfg key.1 key.2 es := by
    intro key hkey
    rw [answers_concat hrun hstep, List.append_right_eq_self, List.filterMap_eq_nil_iff]
    intro answer ha
    have hown := hears_key (Option.mem_toList.mp ha)
    exact if_neg fun heq => hkey (heq.symm.trans hown)
  have hcalls : ∀ key : String × Nat, key ≠ (robotId, g) →
      (finishCalls cfg (es ++ [.stateResponse robotId g nodeName future manageReady now])).filter
          (fun call => (call.robotId, call.generation) = key) =
        (finishCalls cfg es).filter (fun call => (call.robotId, call.generation) = key) := by
    intro key hkey
    rw [finishCalls_concat hrun hstep, List.filter_append, List.append_right_eq_self,
      List.filter_eq_nil_iff]
    intro call hc
    have hown := finishes_key (Option.mem_toList.mp hc)
    simp only [hown, decide_eq_true_eq]
    exact Ne.symm hkey
  refine ⟨pollsSound_step h.sound hstep, fun key poll hm => ?_, fun key hm => ?_, hconfirmed⟩
  · rw [hpolls] at hm
    by_cases hkey : key = (robotId, g)
    · subst hkey
      rw [AList.lookup_insert] at hm
      cases hm
      exact htracks
    · rw [AList.lookup_insert_ne hkey] at hm
      obtain ⟨hnames, hheard, hcalled⟩ := h.tracks key poll hm
      exact ⟨hnames, (hanswers key hkey).trans hheard, (hcalls key hkey).trans hcalled⟩
  · rw [hpolls] at hm
    by_cases hkey : key = (robotId, g)
    · subst hkey
      rw [AList.lookup_insert] at hm
      cases hm
    · rw [AList.lookup_insert_ne hkey] at hm
      rw [hanswers key hkey, hcalls key hkey]
      exact h.unheard key hm

theorem State.Tallied.unfinished (h : s.Tallied cfg es)
    (hm : s.polls.lookup (robotId, g) = some poll) (hw : nodeName ∈ poll.waiting) :
    poll.tally.remaining ≠ 0 := by
  have hlength := (h.tracks _ poll hm).names.length_le
  have hpos : 0 < poll.waiting.length := List.length_pos_of_mem hw
  rw [h.sound.tally _ poll hm]
  simp only [Tally.of, List.length_append, List.length_map] at hlength ⊢
  omega

theorem drop_names (h : (poll.outcomes.map Prod.fst ++ poll.waiting).Subperm nav2NodeNames)
    (nodeName : String) :
    ((poll.drop nodeName).outcomes.map Prod.fst ++ (poll.drop nodeName).waiting).Subperm
      nav2NodeNames :=
  ((List.erase_sublist.append_left _).subperm).trans h

theorem count_names (h : (poll.outcomes.map Prod.fst ++ poll.waiting).Subperm nav2NodeNames)
    (hw : nodeName ∈ poll.waiting) (future : GetState) :
    (((poll.drop nodeName).count nodeName future).outcomes.map Prod.fst ++
      ((poll.drop nodeName).count nodeName future).waiting).Subperm nav2NodeNames := by
  have hperm : (nodeName :: poll.waiting.erase nodeName).Perm poll.waiting :=
    (List.perm_cons_erase hw).symm
  have hall : (nodeName :: poll.outcomes.map Prod.fst ++ poll.waiting.erase nodeName).Perm
      (poll.outcomes.map Prod.fst ++ poll.waiting) :=
    List.perm_middle.symm.trans (hperm.append_left _)
  exact hall.subperm.trans h

/-- The tally of an answer is what six outcomes call for, once there are six. -/
theorem State.Tallied.count_eq (h : s.Tallied cfg es)
    (hm : s.polls.lookup (robotId, g) = some poll) (nodeName : String) (future : GetState) :
    Finish.of robotId g (((nodeName, future) :: poll.outcomes).map Prod.snd) =
      ⟨robotId, g, (poll.tally.count future).allActive,
        (poll.tally.count future).allUnconfigured, (poll.tally.count future).queryFailed⟩ := by
  rw [finish_of_tally, Tally.of_cons, ← h.sound.tally _ poll hm]

theorem State.Tallied.finishes_last (h : s.Tallied cfg es)
    (hm : s.polls.lookup (robotId, g) = some poll) (hlive : s.Live robotId g) (nodeName : String)
    (hremaining : (poll.tally.count future).remaining = 0) (manageReady : Bool) (now : Time) :
    s.finishes (.stateResponse robotId g nodeName future manageReady now) =
      some (Finish.of robotId g (((nodeName, future) :: poll.outcomes).map Prod.snd)) := by
  rw [h.count_eq hm]
  simp [State.finishes, hm, hremaining, hlive]

theorem tallied_answer (h : s.Tallied cfg es) (hrun : (machine cfg).run es = some s)
    (hstep : s.step cfg (.stateResponse robotId g nodeName future manageReady now) = some t) :
    t.Tallied cfg (es ++ [.stateResponse robotId g nodeName future manageReady now]) := by
  obtain ⟨poll, r, hm, hw, hanswered, rfl⟩ := step_answered hstep
  obtain ⟨hnames, hanswers, hcalls⟩ := h.tracks _ poll hm
  have hunfinished := h.unfinished hm hw
  rw [if_neg hunfinished] at hcalls
  have hput : (r.2.putPoll (robotId, g) r.1).polls = s.polls.insert (robotId, g) r.1 := by
    rw [State.putPoll, hanswered.polls]
  cases hanswered with
  | stale hstale =>
    have hlive := not_live_of hstale
    have hhears : s.hears (.stateResponse robotId g nodeName future manageReady now) = none :=
      if_neg hlive
    have hfinishes : s.finishes (.stateResponse robotId g nodeName future manageReady now) =
        none := by
      simp [State.finishes, hm, hlive]
    refine h.put hrun hstep hput ⟨drop_names hnames nodeName, ?_, ?_⟩ fun id => ?_
    · rw [answers_concat hrun hstep, hhears]
      simp only [Option.toList_none, List.filterMap_nil, List.append_nil]
      exact hanswers
    · rw [finishCalls_concat hrun hstep, hfinishes]
      simp only [Option.toList_none, List.append_nil]
      rw [hcalls]
      exact (if_neg hunfinished).symm
    · rw [finishCalls_concat hrun hstep, hfinishes]
      simp only [Option.toList_none, List.append_nil]
      exact h.confirmed id
  | counted hr hg hremaining =>
    have hhears : s.hears (.stateResponse robotId g nodeName future manageReady now) =
        some ((robotId, g), nodeName, future) := if_pos (live_of hr hg)
    have hleft : (poll.tally.count future).remaining ≠ 0 := hremaining
    have hfinishes : s.finishes (.stateResponse robotId g nodeName future manageReady now) =
        none := by
      simp [State.finishes, hm, hleft]
    refine h.put hrun hstep hput ⟨count_names hnames hw future, ?_, ?_⟩ fun id => ?_
    · rw [answers_concat hrun hstep, hhears, hanswers]
      simp [Poll.count, Poll.drop]
    · rw [finishCalls_concat hrun hstep, hfinishes]
      simp only [Option.toList_none, List.append_nil]
      rw [hcalls]
      exact (if_neg hremaining).symm
    · rw [finishCalls_concat hrun hstep, hfinishes]
      simp only [Option.toList_none, List.append_nil]
      exact h.confirmed id
  | @completed robot u hr hg hremaining hended =>
    have hlive := live_of hr hg
    have hhears : s.hears (.stateResponse robotId g nodeName future manageReady now) =
        some ((robotId, g), nodeName, future) := if_pos hlive
    have hfinishes := h.finishes_last hm hlive nodeName hremaining manageReady now
    have hdone : ((poll.drop nodeName).count nodeName future).tally.remaining = 0 := hremaining
    refine h.put hrun hstep hput ⟨count_names hnames hw future, ?_, ?_⟩ fun id => ?_
    · rw [answers_concat hrun hstep, hhears, hanswers]
      simp [Poll.count, Poll.drop]
    · rw [finishCalls_concat hrun hstep, hfinishes, List.filter_append, hcalls,
        if_pos hdone, Option.toList_some, List.nil_append, List.filter_cons]
      exact if_pos (decide_eq_true rfl)
    · rw [finishCalls_concat hrun hstep, hfinishes, List.filter_append]
      change u.confirmed id = _
      by_cases hid : id = robotId
      · subst hid
        have hverdict : u.confirmed id = ((poll.tally.count future).allActive &&
            !(poll.tally.count future).queryFailed) := hended.confirmed
        rw [h.count_eq hm]
        simpa [Finish.confirms] using hverdict
      · have hother : u.confirmed id = s.confirmed id := (hended.alike hid).confirmed
        have hnot : robotId ≠ id := Ne.symm hid
        have hsame := hother.trans (h.confirmed id)
        simpa [Finish.of, hnot] using hsame

theorem tallied_init (cfg : Config) : (machine cfg).init.Tallied cfg [] := by
  refine ⟨pollsSound_init cfg, fun key poll hm => ?_, fun key _ => ⟨rfl, rfl⟩, fun id => ?_⟩
  · simp [machine, State.init, publishReady] at hm
  · cases hr : (State.init cfg).findRobot id with
    | none => simp [machine, State.confirmed, hr, finishCalls, Machine.outputs]
    | some robot =>
      have hfalse : (State.init cfg).confirmed id = false := by
        rw [confirmed_of hr, findRobot_init hr]
      exact hfalse

theorem tallied_step {e : Event} (h : s.Tallied cfg es) (hrun : (machine cfg).run es = some s)
    (hstep : s.step cfg e = some t) : t.Tallied cfg (es ++ [e]) := by
  cases he : e.isAnswer with
  | false => exact tallied_quiet h hrun hstep he
  | true =>
    cases e with
    | stateResponse robotId g nodeName future manageReady now => exact tallied_answer h hrun hstep
    | _ => cases he

theorem run_tallied (hrun : (machine cfg).run es = some s) : s.Tallied cfg es := by
  induction es using List.reverseRecOn generalizing s with
  | nil =>
    cases hrun
    exact tallied_init cfg
  | append_singleton es e ih =>
    obtain ⟨u, hu, hstep⟩ := (machine cfg).run_concat_inv hrun
    exact tallied_step (ih hu) hu hstep

/-! ### The commands that follow -/

/-- `finish_poll` has run for a poll when all six nodes have answered it in time. -/
theorem Poll.Tracks.complete {key : String × Nat} (h : poll.Tracks cfg es key)
    (htally : poll.tally = Tally.of poll.outcomes) :
    ((Supervisor.answers cfg key.1 key.2 es).map Prod.fst).Perm nav2NodeNames ↔
      poll.tally.remaining = 0 := by
  have hperm : ((Supervisor.answers cfg key.1 key.2 es).map Prod.fst).Perm
      (poll.outcomes.map Prod.fst) := by
    rw [h.answers]
    exact (List.reverse_perm poll.outcomes).map Prod.fst
  have hsub : (poll.outcomes.map Prod.fst).Subperm nav2NodeNames :=
    ((List.sublist_append_left _ poll.waiting).subperm).trans h.names
  rw [htally]
  constructor
  · intro hall
    have hlength := hall.length_eq
    rw [hperm.length_eq, List.length_map] at hlength
    simp only [Tally.of]
    omega
  · intro hremaining
    simp only [Tally.of] at hremaining
    refine hperm.trans (hsub.perm_of_length_le ?_)
    rw [List.length_map]
    omega

theorem finishCalls_eq (h : s.Tallied cfg es) (id : String) (g : Nat) :
    (finishCalls cfg es).filter (fun call => (call.robotId, call.generation) = (id, g)) =
      if ((answers cfg id g es).map Prod.fst).Perm nav2NodeNames then
        [Finish.of id g ((answers cfg id g es).map Prod.snd)]
      else [] := by
  cases hm : s.polls.lookup (id, g) with
  | none =>
    obtain ⟨hheard, hcalled⟩ := h.unheard (id, g) hm
    rw [hcalled, hheard]
    exact (if_neg (by decide)).symm
  | some poll =>
    have htracks := h.tracks (id, g) poll hm
    have hsame : (((answers cfg id g es).map Prod.snd : List GetState) : Multiset GetState) =
        (poll.outcomes.map Prod.snd : List GetState) := by
      rw [htracks.answers]
      exact Multiset.coe_eq_coe.mpr ((List.reverse_perm poll.outcomes).map Prod.snd)
    rw [htracks.finishes, hsame]
    exact if_congr (htracks.complete (h.sound.tally _ poll hm)).symm rfl rfl

/-- The answer with which `es` ends is the last of six to a poll of the robot, and
their outcomes call for the command. -/
def CalledFor (cfg : Config) (es : List Event) (id : String) (command : ManageCommand) : Prop :=
  ∃ g, ((answers cfg id g es).map Prod.fst).Perm nav2NodeNames ∧
    (finishCalls cfg es).getLast? =
      some (Finish.of id g ((answers cfg id g es).map Prod.snd)) ∧
    (command = .startup →
      ∀ o ∈ answers cfg id g es, o.2 = some LifecycleState.primaryStateUnconfigured) ∧
    (command = .reset → (∀ o ∈ answers cfg id g es, o.2 ≠ none) ∧
      (∃ o ∈ answers cfg id g es, o.2 ≠ some LifecycleState.primaryStateActive) ∧
      ∃ o ∈ answers cfg id g es, o.2 ≠ some LifecycleState.primaryStateUnconfigured)

theorem command_calledFor {e : Event} {id : String} {command : ManageCommand}
    (h : s.Tallied cfg es) (hrun : (machine cfg).run es = some s)
    (hstep : s.step cfg e = some t)
    (hlt : s.commands.count (id, command) < t.commands.count (id, command)) :
    CalledFor cfg (es ++ [e]) id command := by
  cases he : e.isAnswer with
  | false =>
    have hle := (step_quiet he h.sound hstep).commands.count_le (id, command)
    exact absurd hlt (Nat.not_lt.mpr hle)
  | true =>
    cases e with
    | stateResponse robotId g nodeName future manageReady now =>
      have ht := tallied_step h hrun hstep
      obtain ⟨poll, r, hm, hw, hanswered, rfl⟩ := step_answered hstep
      have hsent : r.2.commands ≠ s.commands := fun heq => absurd hlt (by
        rw [State.putPoll, heq]
        exact Nat.lt_irrefl _)
      cases hanswered with
      | stale => exact absurd rfl hsent
      | counted => exact absurd rfl hsent
      | @completed robot u hr hg hremaining hended =>
      cases hended with
      | idle => exact absurd rfl hsent
      | sent asked hfailed hactive hasked =>
        obtain ⟨rfl, rfl⟩ : robotId = id ∧ asked = command := by
          have hcount : s.commands.count (id, command) <
              ((robotId, asked) :: s.commands).count (id, command) := hlt
          rw [List.count_cons] at hcount
          split at hcount
          · rename_i heq
            exact Prod.mk.inj (beq_iff_eq.mp heq)
          · exact absurd hcount (Nat.lt_irrefl _)
        have htracks := ht.tracks (robotId, g) _ (AList.lookup_insert _)
        have hanswers : answers cfg robotId g
            (es ++ [.stateResponse robotId g nodeName future manageReady now]) =
              ((nodeName, future) :: poll.outcomes).reverse := htracks.answers
        have htally := ht.sound.tally (robotId, g) _ (AList.lookup_insert _)
        have hcounted : (poll.drop nodeName).tally.count future =
            Tally.of ((nodeName, future) :: poll.outcomes) := htally
        rw [hcounted] at hfailed hactive hasked
        simp only [Tally.of, List.any_eq_false, beq_iff_eq] at hfailed
        simp only [Tally.of, List.all_eq_false, beq_iff_eq] at hactive
        refine ⟨g, (htracks.complete htally).mpr hremaining, ?_, ?_, ?_⟩
        · have hsame :
              (((nodeName, future) :: poll.outcomes).reverse.map Prod.snd : List GetState) =
              (((nodeName, future) :: poll.outcomes).map Prod.snd : Multiset GetState) :=
            Multiset.coe_eq_coe.mpr ((List.reverse_perm _).map Prod.snd)
          rw [finishCalls_concat hrun hstep,
            h.finishes_last hm (live_of hr hg) nodeName hremaining, hanswers, hsame]
          simp
        · intro hstartup
          rw [hanswers]
          rw [hstartup, eq_comm, ite_eq_left_iff] at hasked
          have hall : (Tally.of ((nodeName, future) :: poll.outcomes)).allUnconfigured = true := by
            by_contra hnot
            cases hasked hnot
          simp only [Tally.of, List.all_eq_true, beq_iff_eq] at hall
          exact fun o ho => hall o (List.mem_reverse.mp ho)
        · intro hreset
          rw [hanswers]
          rw [hreset, eq_comm, ite_eq_right_iff] at hasked
          have hsome : (Tally.of ((nodeName, future) :: poll.outcomes)).allUnconfigured =
              false := by
            by_contra hnot
            cases hasked (Bool.not_eq_false _ ▸ hnot)
          simp only [Tally.of, List.all_eq_false, beq_iff_eq] at hsome
          simp only [List.mem_reverse]
          exact ⟨hfailed, hactive, hsome⟩
    | _ => cases he

/-- The tallies of the polls are isolated and independent of the order of the
answers, in every run. `finish_poll` runs once for a poll that all six nodes have
answered in time and for no other, with what their outcomes call for; the last of its
calls for a robot is what the robot is confirmed by; and a command is only sent when
the last of its calls calls for it. -/
theorem tallies_isolated (hrun : (machine cfg).run es = some s) :
    (∀ id g, (finishCalls cfg es).filter (fun call => (call.robotId, call.generation) = (id, g)) =
      if ((answers cfg id g es).map Prod.fst).Perm nav2NodeNames then
        [Finish.of id g ((answers cfg id g es).map Prod.snd)]
      else []) ∧
    (∀ id, s.confirmed id =
      (((finishCalls cfg es).filter (·.robotId = id)).getLast?.map Finish.confirms).getD false) ∧
    (∀ u v id g nodeName future manageReady now,
      (machine cfg).Takes es u (.stateResponse id g nodeName future manageReady now) v →
      u.Handles cfg id g manageReady now v
        (u.finishes (.stateResponse id g nodeName future manageReady now))) ∧
    ∀ before e u v, before ++ [e] <+: es → (machine cfg).run before = some u →
      (machine cfg).step u e = some v → ∀ id command,
      u.commands.count (id, command) < v.commands.count (id, command) →
      CalledFor cfg (before ++ [e]) id command := by
  have h := run_tallied hrun
  refine ⟨finishCalls_eq h, h.confirmed,
    fun u v id g nodeName future manageReady now htake => step_finishes htake.step_eq,
    fun before e u v _ hu hv id command hlt => ?_⟩
  exact command_calledFor (run_tallied hu) hu hv hlt

end

/-- The first poll is abandoned after a failed query. Its late answers, which find the
nodes unconfigured, mix with those to the second poll. -/
def mixedRun : List Event :=
  let heard (g : Nat) (name : String) (future : GetState) : Event :=
    .stateResponse "robot1" g name future true (seconds 11)
  pollingRun ++ [heard 1 "controller_server" none, .tick (seconds 10) [("robot1", allServices)]] ++
    (nav2NodeNames.tail.flatMap fun name =>
      [heard 1 name (some LifecycleState.primaryStateUnconfigured),
        heard 3 name (some LifecycleState.primaryStateActive)]) ++
    [heard 3 "controller_server" (some LifecycleState.primaryStateActive)]

theorem tallies_isolated_mixed : ∃ s, (machine oneRobot).run mixedRun = some s ∧
    s.confirmed "robot1" = true ∧
    (finishCalls oneRobot mixedRun).filter (fun call =>
      (call.robotId, call.generation) = ("robot1", 1)) = [] := by
  have hsome : ((machine oneRobot).run mixedRun).isSome = true := by decide
  have hrun := (Option.some_get hsome).symm
  obtain ⟨hfinishes, hconfirmed, _⟩ := tallies_isolated hrun
  refine ⟨_, hrun, ?_, ?_⟩
  · rw [hconfirmed]
    decide
  · rw [hfinishes]
    decide

end PatrolFleet.Supervisor
