import Mathlib.Algebra.Order.Field.Rat
import Mathlib.Analysis.Real.Sqrt
import Mathlib.Data.List.Chain
import PatrolFleet.Interfaces

/-!
The node `pose_jump_watchdog`: it compares the position of the robot with the one
it looked up last. Positions are in an ordered field; a distance is compared with
the limit by its square, without rounding.
-/

set_option autoImplicit false

namespace PatrolFleet.Mapping

/-- The parameters of the node, with the defaults it declares. -/
structure Config (K : Type) [One K] where
  maxLinearJump : K := 1
  hold : Time := seconds 5

structure State (K : Type) where
  localizationOk : Bool
  lastPosition : Option (K × K)
  lastJumpAt : Option Time
  /-- The messages on the latched topic `localization_ok`, the latest first. -/
  published : List Bool

/-- A tick of the check timer: where the robot is in the map frame then, and how the
lookup of the transform goes. -/
structure Tick (K : Type) where
  now : Time
  position : K × K
  canTransform : Bool
  lookupThrows : Bool

def Tick.found {K : Type} (tick : Tick K) : Bool := tick.canTransform && !tick.lookupThrows

section

variable {K : Type} [Field K] [LinearOrder K]

def publishStatus (ok : Bool) (s : State K) : State K :=
  { s with localizationOk := ok, published := ok :: s.published }

def State.init : State K := publishStatus true ⟨true, none, none, []⟩

/-- `distance > max_linear_jump_meters_`, without the square root of the distance. -/
def Exceeds (limit : K) (p q : K × K) : Prop :=
  limit < 0 ∨ limit * limit < (q.1 - p.1) * (q.1 - p.1) + (q.2 - p.2) * (q.2 - p.2)

instance (limit : K) (p q : K × K) : Decidable (Exceeds limit p q) :=
  inferInstanceAs (Decidable (_ ∨ _))

/-- The first block of `check`: the hold time of the last jump is over. -/
def releaseHold (cfg : Config K) (now : Time) (s : State K) : State K :=
  match s.lastJumpAt with
  | none => s
  | some lastJumpAt =>
    if s.localizationOk = false ∧ now - lastJumpAt ≥ cfg.hold then publishStatus true s else s

/-- The last block of `check`. -/
def comparePosition (cfg : Config K) (now : Time) (position : K × K) (s : State K) : State K :=
  let s := match s.lastPosition with
    | none => s
    | some last =>
      if Exceeds cfg.maxLinearJump last position then
        publishStatus false { s with lastJumpAt := some now }
      else s
  { s with lastPosition := some position }

def check (cfg : Config K) (s : State K) (tick : Tick K) : State K :=
  let s := releaseHold cfg tick.now s
  if !tick.canTransform then s
  else if tick.lookupThrows then s
  else comparePosition cfg tick.now tick.position s

def runChecks (cfg : Config K) (ticks : List (Tick K)) : State K :=
  ticks.foldl (check cfg) State.init

/-- The robot moves no further than the limit from one tick to the next. -/
def Slow (cfg : Config K) (ticks : List (Tick K)) : Prop :=
  ticks.IsChain fun a b => ¬ Exceeds cfg.maxLinearJump a.position b.position

/-- Over no outage, ticks without a transform between two ticks with one, has the
robot moved further than the limit. -/
def ShortOutages (cfg : Config K) (ticks : List (Tick K)) : Prop :=
  ∀ before a outage b after, ticks = before ++ a :: (outage ++ b :: after) → outage ≠ [] →
    a.found = true → b.found = true → (∀ t ∈ outage, t.found = false) →
    ¬ Exceeds cfg.maxLinearJump a.position b.position

end

theorem exceeds_iff_lt_sqrt (limit : ℝ) (p q : ℝ × ℝ) : Exceeds limit p q ↔
    limit < Real.sqrt ((q.1 - p.1) * (q.1 - p.1) + (q.2 - p.2) * (q.2 - p.2)) := by
  unfold Exceeds
  rcases lt_or_ge limit 0 with hneg | hpos
  · exact iff_of_true (.inl hneg) (hneg.trans_le (Real.sqrt_nonneg _))
  · rw [Real.lt_sqrt hpos, pow_two]
    exact or_iff_right (not_lt.mpr hpos)

theorem isChain_filter_iff {α : Type} {p : α → Bool} {R : α → α → Prop} {l : List α} :
    (l.filter p).IsChain R ↔ ∀ before a mid b after, l = before ++ a :: (mid ++ b :: after) →
      p a = true → p b = true → (∀ t ∈ mid, p t = false) → R a b := by
  rw [List.isChain_iff_forall_rel_of_append_cons_cons]
  constructor
  · rintro h before a mid b after rfl ha hb hmid
    have hnone : mid.filter p = [] := List.filter_eq_nil_iff.mpr (by simpa using hmid)
    have hfilter : (before ++ a :: (mid ++ b :: after)).filter p =
        before.filter p ++ a :: b :: after.filter p := by
      rw [List.filter_append, List.filter_cons_of_pos ha, List.filter_append, hnone,
        List.nil_append, List.filter_cons_of_pos hb]
    exact h hfilter
  · intro h a b l₁ l₂ heq
    obtain ⟨before, rest, rfl, _, hrest⟩ := List.filter_eq_append_iff.mp heq
    obtain ⟨skip, tail, rfl, _, ha, htail⟩ := List.filter_eq_cons_iff.mp hrest
    obtain ⟨mid, after, rfl, hmid, hb, _⟩ := List.filter_eq_cons_iff.mp htail
    refine h (before ++ skip) a mid b after (by simp) ha hb ?_
    exact fun t ht => Bool.eq_false_iff.mpr (hmid t ht)

theorem releaseHold_published {K : Type} [Field K] (cfg : Config K) (now : Time) (s : State K) :
    (false ∈ (releaseHold cfg now s).published ↔ false ∈ s.published) ∧
      (releaseHold cfg now s).lastPosition = s.lastPosition := by
  unfold releaseHold
  split
  · exact ⟨Iff.rfl, rfl⟩
  · split
    · exact ⟨by simp [publishStatus], rfl⟩
    · exact ⟨Iff.rfl, rfl⟩

section

variable {K : Type} [Field K] [LinearOrder K] {cfg : Config K} {s : State K} {tick : Tick K}

theorem comparePosition_published (cfg : Config K) (now : Time) (position : K × K) (s : State K) :
    (false ∈ (comparePosition cfg now position s).published ↔ false ∈ s.published ∨
      ∃ last ∈ s.lastPosition, Exceeds cfg.maxLinearJump last position) ∧
    (comparePosition cfg now position s).lastPosition = some position := by
  unfold comparePosition
  refine ⟨?_, rfl⟩
  cases s.lastPosition with
  | none => simp
  | some last =>
    by_cases hfar : Exceeds cfg.maxLinearJump last position
    · simp [hfar, publishStatus]
    · simp [hfar]

theorem check_published (cfg : Config K) (s : State K) (tick : Tick K) :
    (false ∈ (check cfg s tick).published ↔ false ∈ s.published ∨
      tick.found = true ∧ ∃ last ∈ s.lastPosition, Exceeds cfg.maxLinearJump last tick.position) ∧
    (check cfg s tick).lastPosition =
      if tick.found then some tick.position else s.lastPosition := by
  obtain ⟨hrelease, hlast⟩ := releaseHold_published cfg tick.now s
  unfold check Tick.found
  cases tick.canTransform with
  | false => simpa [hlast] using hrelease
  | true =>
    cases tick.lookupThrows with
    | true => simpa [hlast] using hrelease
    | false =>
      have hcompare := comparePosition_published cfg tick.now tick.position
        (releaseHold cfg tick.now s)
      rw [hrelease, hlast] at hcompare
      simpa using hcompare

theorem foldl_check_published (ticks : List (Tick K)) :
    false ∈ (ticks.foldl (check cfg) s).published ↔ false ∈ s.published ∨
      ¬ (s.lastPosition.toList ++ (ticks.filter (·.found)).map (·.position)).IsChain
        fun p q => ¬ Exceeds cfg.maxLinearJump p q := by
  induction ticks generalizing s with
  | nil =>
    cases s.lastPosition <;> simp
  | cons tick ticks ih =>
    obtain ⟨hsent, hlast⟩ := check_published cfg s tick
    rw [List.foldl_cons, ih, hsent, hlast]
    cases hfound : tick.found with
    | false => simp [hfound]
    | true =>
      rw [List.filter_cons_of_pos hfound, List.map_cons]
      cases s.lastPosition with
      | none => simp
      | some last =>
        simp only [Option.mem_def, Option.some.injEq, exists_eq_left', Option.toList_some,
          List.singleton_append, List.isChain_cons_cons, if_true, true_and, not_and_or, not_not,
          or_assoc]

/-- The condition under which the node never sends `false`, over all runs. -/
theorem runChecks_published (cfg : Config K) (ticks : List (Tick K)) :
    false ∉ (runChecks cfg ticks).published ↔
      (ticks.filter (·.found)).IsChain fun a b =>
        ¬ Exceeds cfg.maxLinearJump a.position b.position := by
  unfold runChecks
  rw [foldl_check_published]
  simp [State.init, publishStatus, List.isChain_map]

/-- For a slow robot, only the outages can take two lookups too far apart. -/
theorem lookups_close_iff {ticks : List (Tick K)} (hslow : Slow cfg ticks) :
    ((ticks.filter (·.found)).IsChain fun a b =>
      ¬ Exceeds cfg.maxLinearJump a.position b.position) ↔ ShortOutages cfg ticks := by
  rw [isChain_filter_iff]
  constructor
  · intro h before a outage b after heq _ ha hb houtage
    exact h before a outage b after heq ha hb houtage
  · intro h before a outage b after heq ha hb houtage
    cases outage with
    | nil =>
      rw [Slow, List.isChain_iff_forall_rel_of_append_cons_cons] at hslow
      exact hslow heq
    | cons t outage => exact h before a (t :: outage) b after heq (by simp) ha hb houtage

/-- In a run in which the robot is slow, no false alarm is raised exactly when no
outage is too long for the distance that the robot covers in it. -/
theorem no_false_alarm_iff {ticks : List (Tick K)} (hslow : Slow cfg ticks) :
    false ∉ (runChecks cfg ticks).published ↔ ShortOutages cfg ticks :=
  (runChecks_published cfg ticks).trans (lookups_close_iff hslow)

end

/-- The robot drives along the x axis, and the transform is missing at the second of
three ticks. -/
def outageRun (x y : ℚ) : List (Tick ℚ) :=
  [⟨seconds 1, (0, 0), true, false⟩, ⟨seconds 2, (x, 0), false, false⟩,
    ⟨seconds 3, (y, 0), true, false⟩]

theorem no_false_alarm_short :
    false ∉ (runChecks {} (outageRun (1 / 4) (1 / 2))).published := by
  have hslow : Slow {} (outageRun (1 / 4) (1 / 2)) := by norm_num [Slow, outageRun, Exceeds]
  refine (no_false_alarm_iff hslow).mpr ((lookups_close_iff hslow).mp ?_)
  norm_num [outageRun, Tick.found, Exceeds]

theorem false_alarm : ¬ ∀ (cfg : Config ℚ) (ticks : List (Tick ℚ)), Slow cfg ticks →
    false ∉ (runChecks cfg ticks).published := by
  intro h
  have hslow : Slow {} (outageRun (4 / 5) (8 / 5)) := by norm_num [Slow, outageRun, Exceeds]
  have hclose := (runChecks_published {} (outageRun (4 / 5) (8 / 5))).mp (h {} _ hslow)
  norm_num [outageRun, Tick.found, Exceeds] at hclose

end PatrolFleet.Mapping
