import PatrolFleet.Safety.System

/-!
The e-stop of a robot, end to end: exactly the commands of the controller pass
through the gate.
-/

set_option autoImplicit false

namespace PatrolFleet.Safety

/-- No command of `behavior_server` but the zero one reaches a robot's base while
its gate is engaged. -/
def World.BehaviorsYield (w : World) (e : Event) : Prop :=
  ∀ ns message, w.Engaged ns → e = .command behaviorServer ns message → message = Twist.zero

/-- What the event publishes for the base of an engaged robot is the zero twist. -/
def World.HoldsStill (w : World) (e : Event) : Prop :=
  ∀ ns message, w.Engaged ns → (baseTopic ns, message) ∈ w.publishes e → message = Twist.zero

/-- Every gate acts on the last `estop` message it has processed. -/
def World.GatesHeard (w : World) : Prop :=
  ∀ ns, (w.gate ns).estopActive = (w.heard ns).head?.getD false

/-- What a step does to the gates: a gate changes only when it processes a message. -/
inductive Stepped (w : World) : Event → World → Prop where
  | quiet {e : Event} {v : World} : v.gate = w.gate → v.estop = w.estop → v.heard = w.heard →
      Stepped w e v
  | sent (ns : String) (engage : Bool) :
      Stepped w (.sendEstop ns engage)
        { w with estop := Function.update w.estop ns (keepLast 1 (w.estop ns) engage) }
  | processed (ns : String) {engage : Bool} {queue : List Bool} :
      w.estop ns = engage :: queue →
      Stepped w (.estop ns)
        { w with
          gate := Function.update w.gate ns (estopCallback engage (w.gate ns)).2
          estop := Function.update w.estop ns queue
          heard := Function.update w.heard ns (engage :: w.heard ns) }

section

variable {w v : World} {e : Event} {launched : List String} {ns : String}

theorem World.GatesHeard.active (h : w.GatesHeard) (hns : w.Engaged ns) :
    (w.gate ns).estopActive = true := by
  rw [h ns, hns]
  rfl

theorem stepped (hstep : w.step launched e = some v) : Stepped w e v := by
  cases e with
  | command node ns message =>
    simp only [World.step] at hstep
    split at hstep <;> cases hstep
    exact .quiet rfl rfl rfl
  | sendEstop ns engage =>
    cases hstep
    exact .sent ns engage
  | navCmdVel ns =>
    simp only [World.step] at hstep
    split at hstep
    · cases hstep
    · split at hstep <;> cases hstep
      exact .quiet rfl rfl rfl
  | estop ns =>
    simp only [World.step] at hstep
    split at hstep
    · cases hstep
    · rename_i engage queue hqueue
      split at hstep <;> cases hstep
      exact .processed ns hqueue

theorem gatesHeard_step (h : w.GatesHeard) (hstep : w.step launched e = some v) :
    v.GatesHeard := by
  cases stepped hstep with
  | quiet hgate _ hheard =>
    intro ns
    rw [hgate, hheard]
    exact h ns
  | sent => exact h
  | processed ns _ =>
    intro ns'
    by_cases heq : ns' = ns
    · subst heq
      simp
    · simpa [Function.update_of_ne heq] using h ns'

theorem reachable_gatesHeard (h : (machine launched).Reachable w) : w.GatesHeard :=
  h.invariant (P := World.GatesHeard) (fun _ => rfl) fun _ _ _ hs hstep =>
    gatesHeard_step hs hstep

end

section

variable {node : LaunchNode} {ns ns' : String} {message : Twist}

theorem driver_cases (h : node.drives = true) :
    node = controllerServer ∨ node = behaviorServer := by
  have hmem : node ∈ navigationNodes := by
    simp only [LaunchNode.drives, Bool.and_eq_true, List.contains_iff_mem] at h
    exact h.1
  simp only [navigationNodes, List.mem_cons, List.not_mem_nil, or_false] at hmem
  rcases hmem with rfl | rfl | rfl | rfl | rfl | rfl | rfl
  · exact .inl rfl
  · exact absurd h (by decide)
  · exact absurd h (by decide)
  · exact .inr rfl
  · exact absurd h (by decide)
  · exact absurd h (by decide)
  · exact absurd h (by decide)

@[simp] theorem resolve_controllerServer :
    controllerServer.resolve ns "cmd_vel" = ⟨ns, "cmd_vel_nav"⟩ := rfl

@[simp] theorem resolve_behaviorServer : behaviorServer.resolve ns "cmd_vel" = baseTopic ns := rfl

@[simp] theorem resolve_safetyGate : safetyGate.resolve ns "cmd_vel" = baseTopic ns := rfl

@[simp] theorem baseTopic_inj : baseTopic ns = baseTopic ns' ↔ ns = ns' := by
  simp [baseTopic]

/-- A command that reaches a base without passing its gate is one of
`behavior_server`. -/
theorem bypasses (hdrives : node.drives = true)
    (h : node.resolve ns' "cmd_vel" = baseTopic ns) : node = behaviorServer ∧ ns' = ns := by
  rcases driver_cases hdrives with rfl | rfl
  · simp [baseTopic] at h
  · exact ⟨rfl, by simpa using h⟩

end

section

variable {w v : World} {e : Event} {launched : List String}

theorem holdsStill_of_behaviorsYield (h : w.GatesHeard) (hstep : w.step launched e = some v)
    (hyield : w.BehaviorsYield e) : w.HoldsStill e := by
  intro ns message hns hm
  cases e with
  | command node ns' message' =>
    simp only [World.publishes, List.mem_singleton, Prod.mk.injEq] at hm
    obtain ⟨htopic, rfl⟩ := hm
    have hdrives : node.drives = true := by
      simp only [World.step] at hstep
      split at hstep
      · assumption
      · cases hstep
    obtain ⟨rfl, rfl⟩ := bypasses hdrives htopic.symm
    exact hyield ns' message hns rfl
  | sendEstop ns' engage => simp [World.publishes] at hm
  | navCmdVel ns' =>
    simp only [World.publishes] at hm
    split at hm
    · simp at hm
    · simp only [List.mem_map, resolve_safetyGate, Prod.mk.injEq, baseTopic_inj] at hm
      obtain ⟨sent, hsent, rfl, rfl⟩ := hm
      exact navCmdVelCallback_active (h.active hns) hsent
  | estop ns' =>
    simp only [World.publishes] at hm
    split at hm
    · simp at hm
    · simp only [List.mem_map, Prod.mk.injEq] at hm
      obtain ⟨sent, hsent, _, rfl⟩ := hm
      exact estopCallback_publishes hsent

theorem behaviorsYield_of_holdsStill (h : w.HoldsStill e) : w.BehaviorsYield e := by
  rintro ns message hns rfl
  exact h ns message hns (by simp [World.publishes])

end

theorem estop_holds_iff (launched : List String) (es : List Event) :
    (∀ w e v, (machine launched).Takes es w e v → w.HoldsStill e) ↔
    ∀ w e v, (machine launched).Takes es w e v → w.BehaviorsYield e := by
  constructor
  · intro h w e v htake
    exact behaviorsYield_of_holdsStill (h w e v htake)
  · intro h w e v htake
    have hheard : w.GatesHeard := reachable_gatesHeard htake.visits.reachable
    exact holdsStill_of_behaviorsYield hheard htake.step_eq (h w e v htake)

/-- The recovery of `behavior_server` backs up while the e-stop is engaged. -/
def backUp : Twist := { linear := { x := -1 } }

def backUpRun : List Event :=
  [.sendEstop "robot1" true, .estop "robot1", .command behaviorServer "robot1" backUp]

theorem estop_bypassed :
    ¬ ∀ es w e v, (machine robotIds).Takes es w e v → w.HoldsStill e := by
  intro h
  have hzero : backUp = Twist.zero :=
    h backUpRun _ (.command behaviorServer "robot1" backUp) _
      ⟨backUpRun.take 2, List.prefix_refl _, rfl, rfl⟩
      "robot1" backUp rfl (by simp [World.publishes])
  exact absurd hzero (by decide)

end PatrolFleet.Safety
