import PatrolFleet.MergeMap.Merging

/-!
What the merged grid says of the area that the robots have mapped. A source cell
marks the one merged cell that its centre falls into, so a merged cell inside it can
be left out; the mark is then half a source cell away at most.
-/

set_option autoImplicit false

namespace PatrolFleet.MergeMap

section

variable {K : Type} [Field K] [LinearOrder K] [FloorRing K]

/-- The point of the merged frame lies in the source cell, or on its border. -/
def Inside (trig : Trig K) (g : Placed K) (x y : Nat) (p : K × K) : Prop :=
  ∃ u w : K, 0 ≤ u ∧ u ≤ 1 ∧ 0 ≤ w ∧ w ≤ 1 ∧
    p = (placement trig g).apply ((x + u) * g.1.info.resolution, (y + w) * g.1.info.resolution)

/-- The merged cell holds at least the value. -/
def OccupancyGrid.AtLeast {K : Type} (m : OccupancyGrid K) (i j : Nat) (v : Int) : Prop :=
  ∃ r, m.valueAt i j = some r ∧ v ≤ r

/-- Every merged cell with its centre in a known source cell holds its value. -/
def Covered (trig : Trig K) (grids : List (Placed K)) (merged : OccupancyGrid K) : Prop :=
  ∀ i < merged.info.width, ∀ j < merged.info.height, ∀ g ∈ grids, ∀ x y v, Known g x y v →
    Inside trig g x y (merged.centreOf i j) → merged.AtLeast i j v

/-- The cells of the map are as large as the merged ones and parallel to them, and its
lines do not run through their centres. -/
structure Aligned (trig : Trig K) (g : Placed K) (merged : OccupancyGrid K) : Prop where
  resolution : g.1.info.resolution = merged.info.resolution
  quarter : (placement trig g).IsQuarter
  offset : ∀ k : Int,
    (placement trig g).dx ≠ merged.info.origin.position.x + (k + 1 / 2) * merged.info.resolution ∧
      (placement trig g).dy ≠ merged.info.origin.position.y + (k + 1 / 2) * merged.info.resolution

/-- A merged cell holds a value exactly when one that is no less falls into it. A
source cell that has the centre of a merged cell inside marks the merged cell of its
own centre, at most half a diagonal away; on aligned maps this is the same cell. -/
structure Marked (trig : Trig K) (grids : List (Placed K)) (merged : OccupancyGrid K) : Prop where
  exact : ∀ i < merged.info.width, ∀ j < merged.info.height, ∀ v, 0 ≤ v →
    (merged.AtLeast i j v ↔ ∃ u ∈ landing trig grids merged i j, v ≤ u)
  near : ∀ i < merged.info.width, ∀ j < merged.info.height, ∀ g ∈ grids, ∀ x y v, Known g x y v →
    Inside trig g x y (merged.centreOf i j) → ∃ i' j' : Nat,
      merged.cellOf (cellMiddle trig g x y) = ((i' : Int), (j' : Int)) ∧
      merged.AtLeast i' j' v ∧
      ((merged.centreOf i j).1 - (cellMiddle trig g x y).1) ^ 2 +
          ((merged.centreOf i j).2 - (cellMiddle trig g x y).2) ^ 2 ≤
        g.1.info.resolution ^ 2 / 2
  aligned : ∀ i < merged.info.width, ∀ j < merged.info.height, ∀ g ∈ grids,
    Aligned trig g merged → ∀ x y v, Known g x y v → Inside trig g x y (merged.centreOf i j) →
      merged.AtLeast i j v

end

section

variable {K : Type} [Field K] [LinearOrder K] [FloorRing K] {trig : Trig K} {cfg : Config}
  {now : Time} {grids : List (Placed K)} {g : Placed K} {merged : OccupancyGrid K}
  {i j x y : Nat} {v : Int}

theorem atLeast_iff (h : HoldsLargest trig grids merged) (hi : i < merged.info.width)
    (hj : j < merged.info.height) (hv : 0 ≤ v) :
    merged.AtLeast i j v ↔ ∃ u ∈ landing trig grids merged i j, v ≤ u := by
  obtain ⟨r, hr, hvalue⟩ := h i hi j hj
  have hat : merged.AtLeast i j v ↔ v ≤ r := by
    constructor
    · rintro ⟨r', hr', hle⟩
      rw [hr] at hr'
      cases hr'
      exact hle
    · exact fun hle => ⟨r, hr, hle⟩
  rw [hat]
  rcases hvalue with hgreatest | ⟨hempty, rfl⟩
  · constructor
    · exact fun hle => ⟨r, hgreatest.1, hle⟩
    · rintro ⟨u, hu, hle⟩
      exact hle.trans (hgreatest.2 hu)
  · rw [hempty]
    constructor
    · intro hle
      omega
    · rintro ⟨u, hu, _⟩
      cases hu

variable [IsStrictOrderedRing K]

theorem inside_near {p : K × K} (h : Inside trig g x y p) :
    (p.1 - (cellMiddle trig g x y).1) ^ 2 + (p.2 - (cellMiddle trig g x y).2) ^ 2 ≤
      g.1.info.resolution ^ 2 / 2 := by
  obtain ⟨u, w, hu, hu', hw, hw', rfl⟩ := h
  rw [cellMiddle, OccupancyGrid.middleOf, Planar.Motion.apply_dist]
  have hhalf : ∀ t : K, 0 ≤ t → t ≤ 1 → (t - 1 / 2) ^ 2 ≤ 1 / 4 := by
    intro t ht ht'
    nlinarith
  have hsum : (u - 1 / 2) ^ 2 + (w - 1 / 2) ^ 2 ≤ 1 / 2 := by
    linarith [hhalf u hu hu', hhalf w hw hw']
  calc
    ((x + u) * g.1.info.resolution - (x + 1 / 2) * g.1.info.resolution) ^ 2 +
        ((y + w) * g.1.info.resolution - (y + 1 / 2) * g.1.info.resolution) ^ 2 =
        ((u - 1 / 2) ^ 2 + (w - 1 / 2) ^ 2) * g.1.info.resolution ^ 2 := by ring
    _ ≤ 1 / 2 * g.1.info.resolution ^ 2 := mul_le_mul_of_nonneg_right hsum (sq_nonneg _)
    _ = g.1.info.resolution ^ 2 / 2 := by ring

/-- On one axis: the centre of a cell of the map falls into the merged cell that has its
centre in it. -/
theorem shifted_cell {res corner shift sign t : K} {n : Nat} (hres : 0 < res)
    (hsign : sign = 1 ∨ sign = -1) (hoffset : ∀ k : Int, shift ≠ corner + (k + 1 / 2) * res)
    (ht : 0 ≤ t) (ht' : t ≤ 1)
    (h : corner + (i + 1 / 2) * res = shift + sign * ((n + t) * res)) :
    ⌊(shift + sign * ((n + 1 / 2) * res) - corner) / res⌋ = i := by
  have hnear : |sign * ((t - 1 / 2) * res)| ≤ res / 2 := by
    have hone : |sign| = 1 := by rcases hsign with rfl | rfl <;> simp
    rw [abs_mul, hone, one_mul]
    exact Planar.middle_near hres.le ht ht'
  refine Planar.floor_of_near hres hnear (by linear_combination h) fun k hk => ?_
  rcases hsign with rfl | rfl
  · refine hoffset (k - n - 1) ?_
    push_cast
    linear_combination hk
  · refine hoffset (k + n) ?_
    push_cast
    linear_combination hk

theorem aligned_cell (hres : 0 < merged.info.resolution) (ha : Aligned trig g merged)
    (h : Inside trig g x y (merged.centreOf i j)) :
    merged.cellOf (cellMiddle trig g x y) = ((i : Int), (j : Int)) := by
  obtain ⟨hsame, hquarter, hoffset⟩ := ha
  obtain ⟨u, w, hu, hu', hw, hw', hp⟩ := h
  rw [OccupancyGrid.cellOf, cellMiddle, OccupancyGrid.middleOf]
  unfold OccupancyGrid.centreOf at hp
  rw [hsame] at hp ⊢
  have hcol := fun k => (hoffset k).1
  have hrow := fun k => (hoffset k).2
  have hone : (1 : K) = 1 ∨ (1 : K) = -1 := Or.inl rfl
  have hminus : (-1 : K) = 1 ∨ (-1 : K) = -1 := Or.inr rfl
  have happly : ∀ q : K × K, (placement trig g).apply q =
      ((placement trig g).dx + ((placement trig g).cos * q.1 + -(placement trig g).sin * q.2),
        (placement trig g).dy + ((placement trig g).sin * q.1 + (placement trig g).cos * q.2)) :=
    fun q => Prod.ext (by simp only [Planar.Motion.apply]; ring)
      (by simp only [Planar.Motion.apply]; ring)
  rw [happly] at hp ⊢
  obtain ⟨hx, hy⟩ := Prod.mk.inj hp
  rcases hquarter with ⟨hc, hs⟩ | ⟨hc, hs⟩ | ⟨hc, hs⟩ | ⟨hc, hs⟩
  · simp only [hc, hs, neg_zero, zero_mul, add_zero, zero_add] at hx hy ⊢
    exact Prod.ext (shifted_cell hres hone hcol hu hu' hx) (shifted_cell hres hone hrow hw hw' hy)
  · simp only [hc, hs, neg_zero, zero_mul, add_zero, zero_add] at hx hy ⊢
    exact Prod.ext (shifted_cell hres hminus hcol hu hu' hx)
      (shifted_cell hres hminus hrow hw hw' hy)
  · simp only [hc, hs, zero_mul, add_zero, zero_add] at hx hy ⊢
    exact Prod.ext (shifted_cell hres hminus hcol hw hw' hx)
      (shifted_cell hres hone hrow hu hu' hy)
  · simp only [hc, hs, neg_neg, zero_mul, add_zero, zero_add] at hx hy ⊢
    exact Prod.ext (shifted_cell hres hone hcol hw hw' hx)
      (shifted_cell hres hminus hrow hu hu' hy)

end

/-- The merged grid marks what the robots have mapped, for any mixture of resolutions
and placements. -/
theorem merged_marked {K : Type} [Field K] [LinearOrder K] [IsStrictOrderedRing K] [FloorRing K]
    {trig : Trig K} {cfg : Config} {now : Time} {grids : List (Placed K)}
    {merged : OccupancyGrid K}
    (h : buildMergedMap trig cfg now (grids.map Prod.fst) (grids.map Prod.snd) =
      .ok (some merged)) : Marked trig grids merged := by
  obtain ⟨e, he, rfl⟩ := build_some h
  obtain ⟨maxX, maxY, hspans⟩ := mergedExtent_spans he
  have hkept : Kept trig grids (mergedGrid cfg now e (mergedData trig e grids)) := kept_merged he
  refine ⟨?_, ?_, ?_⟩
  · intro i hi j hj v hv
    exact atLeast_iff (holdsLargest_merged cfg now trig e grids) hi hj hv
  · intro i _ j _ g hg x y v hknown hin
    obtain ⟨i', j', hcell, _, _, hvalue⟩ := hkept g hg x y v hknown
    exact ⟨i', j', hcell, hvalue, inside_near hin⟩
  · intro i _ j _ g hg ha x y v hknown hin
    obtain ⟨i', j', hcell, _, _, hvalue⟩ := hkept g hg x y v hknown
    have hsame := (aligned_cell hspans.positive ha hin).symm.trans hcell
    obtain ⟨hi, hj⟩ := Prod.mk.inj hsame
    cases Int.ofNat_inj.mp hi
    cases Int.ofNat_inj.mp hj
    exact hvalue

theorem build_coarseAndFine :
    buildMergedMap unrotated {} 0 (coarseAndFine.map Prod.fst) (coarseAndFine.map Prod.snd) =
      .ok (some (mergedGrid {} 0 ⟨0, 0, 1, 2, 2⟩ [0, -1, -1, 100])) := by
  decide +kernel

theorem merged_marked_coarseAndFine : ∃ merged,
    buildMergedMap unrotated {} 0 (coarseAndFine.map Prod.fst) (coarseAndFine.map Prod.snd) =
      .ok (some merged) ∧ Marked unrotated coarseAndFine merged :=
  ⟨_, build_coarseAndFine, merged_marked build_coarseAndFine⟩

/-- The obstacle fills the merged grid, which shows it in one cell of four. -/
theorem obstacle_left_out : ¬ ∀ (trig : Trig Rat) (cfg : Config) (now : Time)
    (grids : List (Placed Rat)) (merged : OccupancyGrid Rat),
    (∀ g ∈ grids, 0 < g.1.info.resolution) →
    buildMergedMap trig cfg now (grids.map Prod.fst) (grids.map Prod.snd) = .ok (some merged) →
    Covered trig grids merged := by
  intro h
  have hcovered := h unrotated {} 0 coarseAndFine _ coarseAndFine_positive build_coarseAndFine
  have hin : Inside unrotated (cellMap 2 100) 0 0
      ((mergedGrid {} 0 ⟨0, 0, 1, 2, 2⟩ [0, -1, -1, 100]).centreOf 0 0) :=
    ⟨1 / 4, 1 / 4, by norm_num, by norm_num, by norm_num, by norm_num, by decide +kernel⟩
  obtain ⟨r, hr, hle⟩ := hcovered 0 (by decide) 0 (by decide) (cellMap 2 100) List.mem_cons_self
    0 0 100 ⟨by decide, by decide, rfl, by decide⟩ hin
  cases hr
  exact absurd hle (by decide)

end PatrolFleet.MergeMap
