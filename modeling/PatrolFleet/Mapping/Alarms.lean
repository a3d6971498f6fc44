import PatrolFleet.Mapping.PoseJump

/-!
How long an alarm of `pose_jump_watchdog` stands: from the jump, for the hold time
after the last one.
-/

set_option autoImplicit false

namespace PatrolFleet.Mapping

/-- After the ticks, the position of the robot was last looked up there. -/
def lastLookup {K : Type} (ticks : List (Tick K)) : Option (K × K) :=
  (ticks.filter (·.found)).getLast?.map (·.position)

theorem lastLookup_concat {K : Type} (ticks : List (Tick K)) (tick : Tick K) :
    lastLookup (ticks ++ [tick]) =
      if tick.found then some tick.position else lastLookup ticks := by
  unfold lastLookup
  rw [List.filter_append]
  cases hfound : tick.found <;> simp [hfound]

theorem releaseHold_stands {K : Type} [Field K] {cfg : Config K} {s : State K} (now : Time)
    (hlatched : s.published.head? = some s.localizationOk) :
    ((releaseHold cfg now s).localizationOk = false ↔ s.localizationOk = false ∧
      ∀ jumpAt ∈ s.lastJumpAt, now - jumpAt < cfg.hold) ∧
    (releaseHold cfg now s).lastJumpAt = s.lastJumpAt ∧
    (releaseHold cfg now s).published.head? = some (releaseHold cfg now s).localizationOk := by
  unfold releaseHold
  cases hjump : s.lastJumpAt with
  | none => simp [hjump, hlatched]
  | some jumpAt =>
    dsimp only
    split
    · rename_i hover
      refine ⟨?_, hjump, rfl⟩
      simpa [publishStatus] using fun _ => hover.2
    · rename_i hholds
      refine ⟨⟨fun hok => ⟨hok, ?_⟩, And.left⟩, hjump, hlatched⟩
      rintro _ ⟨⟩
      exact Int.not_le.mp fun hover => hholds ⟨hok, hover⟩

section

variable {K : Type} [Field K] [LinearOrder K]

/-- The tick finds the robot too far from where it was looked up before. -/
def Jumps (cfg : Config K) (before : List (Tick K)) (tick : Tick K) : Prop :=
  tick.found = true ∧ ∃ last ∈ lastLookup before, Exceeds cfg.maxLinearJump last tick.position

/-- The last tick of the list that finds a jump, between the ticks around it. -/
structure LastJump (cfg : Config K) (ticks before : List (Tick K)) (jump : Tick K)
    (after : List (Tick K)) : Prop where
  split : ticks = before ++ jump :: after
  jumps : Jumps cfg before jump
  latest : ∀ mid tick rest, after = mid ++ tick :: rest →
    ¬ Jumps cfg (before ++ jump :: mid) tick

/-- The hold time of the last jump has not passed at any tick since. -/
def Held (cfg : Config K) (ticks : List (Tick K)) : Prop :=
  ∃ before jump after, LastJump cfg ticks before jump after ∧
    ∀ tick ∈ after, tick.now - jump.now < cfg.hold

variable {cfg : Config K} {ticks : List (Tick K)} {tick : Tick K} {s : State K}

theorem lastJump_of_jumps (h : Jumps cfg ticks tick) :
    LastJump cfg (ticks ++ [tick]) ticks tick [] :=
  ⟨rfl, h, fun mid t rest heq => by simp at heq⟩

theorem LastJump.append {before after : List (Tick K)} {jump : Tick K}
    (h : LastJump cfg ticks before jump after) (hstays : ¬ Jumps cfg ticks tick) :
    LastJump cfg (ticks ++ [tick]) before jump (after ++ [tick]) := by
  refine ⟨by simp [h.split], h.jumps, fun mid t rest heq => ?_⟩
  rcases List.eq_nil_or_concat' rest with rfl | ⟨rest, last, rfl⟩
  · obtain ⟨rfl, hlast⟩ := List.append_inj' heq rfl
    cases hlast
    rw [← h.split]
    exact hstays
  · rw [← List.cons_append, ← List.append_assoc] at heq
    exact h.latest mid t rest (List.append_inj' heq rfl).1

theorem LastJump.of_concat {before after : List (Tick K)} {jump : Tick K}
    (h : LastJump cfg (ticks ++ [tick]) before jump after) :
    (jump = tick ∧ after = [] ∧ Jumps cfg ticks tick) ∨
      ∃ after', after = after' ++ [tick] ∧ ¬ Jumps cfg ticks tick ∧
        LastJump cfg ticks before jump after' := by
  rcases List.eq_nil_or_concat' after with rfl | ⟨after, last, rfl⟩
  · obtain ⟨hticks, hjump⟩ := List.append_inj' h.split rfl
    cases hjump
    exact .inl ⟨rfl, rfl, hticks ▸ h.jumps⟩
  · have hsplit := h.split
    rw [← List.cons_append, ← List.append_assoc] at hsplit
    obtain ⟨hticks, hlast⟩ := List.append_inj' hsplit rfl
    cases hlast
    refine .inr ⟨after, rfl, ?_, hticks, h.jumps, fun mid t rest heq => ?_⟩
    · rw [hticks]
      exact h.latest after tick [] rfl
    · exact h.latest mid t (rest ++ [tick]) (by simp [heq])

/-! ### A tick -/

theorem check_jump (hfound : tick.found = true) {last : K × K} (hlast : s.lastPosition = some last)
    (hfar : Exceeds cfg.maxLinearJump last tick.position) :
    (check cfg s tick).localizationOk = false ∧ (check cfg s tick).lastJumpAt = some tick.now ∧
      (check cfg s tick).published.head? = some false := by
  obtain ⟨_, hposition⟩ := releaseHold_published cfg tick.now s
  rw [hlast] at hposition
  have hfound' : tick.canTransform = true ∧ tick.lookupThrows = false := by
    simpa [Tick.found] using hfound
  unfold check comparePosition
  rw [hfound'.1, hfound'.2]
  simp [hposition, hfar, publishStatus]

/-- The rest of `check` changes nothing that matters for the alarm, unless it finds a jump. -/
theorem check_stays
    (hstays : ¬ (tick.found = true ∧
      ∃ last ∈ s.lastPosition, Exceeds cfg.maxLinearJump last tick.position)) :
    (check cfg s tick).localizationOk = (releaseHold cfg tick.now s).localizationOk ∧
      (check cfg s tick).lastJumpAt = (releaseHold cfg tick.now s).lastJumpAt ∧
      (check cfg s tick).published = (releaseHold cfg tick.now s).published := by
  obtain ⟨_, hposition⟩ := releaseHold_published cfg tick.now s
  unfold check
  dsimp only
  split
  · exact ⟨rfl, rfl, rfl⟩
  · rename_i hcan
    split
    · exact ⟨rfl, rfl, rfl⟩
    · rename_i hthrows
      have hfound : tick.found = true := by
        simpa [Tick.found] using And.intro (by simpa using hcan) (by simpa using hthrows)
      unfold comparePosition
      rw [hposition]
      dsimp only
      split
      · exact ⟨rfl, rfl, rfl⟩
      · rename_i last hlast
        rw [if_neg fun hfar => hstays ⟨hfound, last, hlast, hfar⟩]
        exact ⟨rfl, rfl, rfl⟩

/-! ### The runs -/

/-- What the node has of the ticks so far. -/
structure Watched (cfg : Config K) (ticks : List (Tick K)) (s : State K) : Prop where
  latched : s.published.head? = some s.localizationOk
  lastPosition : s.lastPosition = lastLookup ticks
  lastJumpAt : ∀ before jump after, LastJump cfg ticks before jump after →
    s.lastJumpAt = some jump.now
  stands : s.localizationOk = false ↔ Held cfg ticks

theorem watched_init (cfg : Config K) : Watched cfg [] State.init := by
  have hnone : ∀ before jump after, ¬ LastJump cfg [] before jump after := by
    intro before jump after h
    simpa using h.split
  refine ⟨rfl, rfl, fun before jump after h => (hnone before jump after h).elim, ?_⟩
  constructor
  · intro h
    cases h
  · rintro ⟨before, jump, after, h, _⟩
    exact (hnone before jump after h).elim

theorem watched_check (h : Watched cfg ticks s) (tick : Tick K) :
    Watched cfg (ticks ++ [tick]) (check cfg s tick) := by
  have hposition : (check cfg s tick).lastPosition = lastLookup (ticks ++ [tick]) := by
    rw [(check_published cfg s tick).2, lastLookup_concat, h.lastPosition]
  have hjumps : Jumps cfg ticks tick ↔ tick.found = true ∧
      ∃ last ∈ s.lastPosition, Exceeds cfg.maxLinearJump last tick.position := by
    rw [h.lastPosition, Jumps]
  by_cases hjump : Jumps cfg ticks tick
  · obtain ⟨hfound, last, hlast, hfar⟩ := hjumps.mp hjump
    obtain ⟨hok, hat, hlatched⟩ := check_jump hfound hlast hfar
    refine ⟨hok ▸ hlatched, hposition, fun before jump after hlast => ?_, ?_⟩
    · rcases hlast.of_concat with ⟨rfl, _, _⟩ | ⟨_, _, hstays, _⟩
      · exact hat
      · exact absurd hjump hstays
    · exact iff_of_true hok ⟨ticks, tick, [], lastJump_of_jumps hjump, by simp⟩
  · obtain ⟨hok, hat, hpublished⟩ := check_stays (fun hfar => hjump (hjumps.mpr hfar))
    obtain ⟨hstands, hsame, hlatched⟩ := @releaseHold_stands _ _ cfg s tick.now h.latched
    refine ⟨by rw [hpublished, hlatched, hok], hposition, fun before jump after hlast => ?_, ?_⟩
    · rcases hlast.of_concat with ⟨_, _, hnow⟩ | ⟨after', _, _, hbefore⟩
      · exact absurd hnow hjump
      · rw [hat, hsame, h.lastJumpAt before jump after' hbefore]
    · rw [hok, hstands, h.stands]
      constructor
      · rintro ⟨⟨before, jump, after, hlast, hheld⟩, hnow⟩
        refine ⟨before, jump, after ++ [tick], hlast.append hjump, fun t ht => ?_⟩
        rcases List.mem_append.mp ht with ht | ht
        · exact hheld t ht
        · rw [List.mem_singleton.mp ht]
          exact hnow jump.now (h.lastJumpAt before jump after hlast)
      · rintro ⟨before, jump, after, hlast, hheld⟩
        rcases hlast.of_concat with ⟨_, _, hnow⟩ | ⟨after', rfl, _, hbefore⟩
        · exact absurd hnow hjump
        · refine ⟨⟨before, jump, after', hbefore, fun t ht =>
            hheld t (List.mem_append_left _ ht)⟩, fun jumpAt hat => ?_⟩
          rw [h.lastJumpAt before jump after' hbefore] at hat
          cases hat
          exact hheld tick (by simp)

/-- The latched message is an alarm exactly from a jump on, until the hold time of the
last jump has passed at some tick. -/
theorem alarm_stands_iff (cfg : Config K) (ticks : List (Tick K)) :
    (runChecks cfg ticks).published.head? = some false ↔ Held cfg ticks := by
  have h : Watched cfg ticks (runChecks cfg ticks) := by
    induction ticks using List.reverseRecOn with
    | nil => exact watched_init cfg
    | append_singleton ticks tick ih =>
      have hrun : runChecks cfg (ticks ++ [tick]) = check cfg (runChecks cfg ticks) tick := by
        simp [runChecks]
      rw [hrun]
      exact watched_check ih tick
  rw [h.latched, Option.some.injEq]
  exact h.stands

end

end PatrolFleet.Mapping
