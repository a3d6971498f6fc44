import Mathlib.Tactic.Positivity
import PatrolFleet.MergeMap.Node

/-!
The extent of the merged grid: it holds every source cell, whatever the order of
the maps.
-/

set_option autoImplicit false

namespace PatrolFleet.MergeMap

/-- A map with the transform of its frame. -/
abbrev Placed (K : Type) := OccupancyGrid K × Transform K

section

variable {K : Type} [Field K] (trig : Trig K)

/-- `transform_xy` as a motion. -/
def motion (yaw translationX translationY : K) : Planar.Motion K where
  cos := trig.cos yaw
  sin := trig.sin yaw
  dx := translationX
  dy := translationY
  unit := trig.cos_sq_add_sin_sq yaw

/-- From the grid to the merged frame. -/
def placement (g : Placed K) : Planar.Motion K :=
  (motion trig (quaternionToYaw trig g.2.rotation) g.2.translation.x g.2.translation.y).comp
    (motion trig (quaternionToYaw trig g.1.info.origin.orientation) g.1.info.origin.position.x
      g.1.info.origin.position.y)

/-- The centre of a source cell in the merged frame. -/
def cellMiddle (g : Placed K) (x y : Nat) : K × K :=
  (placement trig g).apply (g.1.middleOf x y)

/-- The corners of all the maps. -/
def corners (grids : List (Placed K)) : List (K × K) :=
  grids.flatMap fun g => calculateTransformedBounds trig g.1 g.2

theorem mapPointToMerged_eq (g : Placed K) (x y : K) :
    mapPointToMerged trig g.1 g.2 x y = (placement trig g).apply (x, y) := by
  rw [placement, Planar.Motion.comp_apply]
  rfl

theorem cellCentre_eq (g : Placed K) (x y : Nat) :
    cellCentre trig g.1 g.2 x y = cellMiddle trig g x y := mapPointToMerged_eq trig g _ _

theorem mem_calculateTransformedBounds {g : Placed K} {p : K × K} :
    p ∈ calculateTransformedBounds trig g.1 g.2 ↔
      ∃ x ∈ [0, g.1.info.width * g.1.info.resolution],
        ∃ y ∈ [0, g.1.info.height * g.1.info.resolution], p = (placement trig g).apply (x, y) := by
  simp only [calculateTransformedBounds, mapPointToMerged_eq, List.map_cons, List.map_nil,
    List.mem_cons, List.not_mem_nil, or_false]
  constructor
  · rintro (h | h | h | h)
    · exact ⟨_, Or.inl rfl, _, Or.inl rfl, h⟩
    · exact ⟨_, Or.inr rfl, _, Or.inl rfl, h⟩
    · exact ⟨_, Or.inl rfl, _, Or.inr rfl, h⟩
    · exact ⟨_, Or.inr rfl, _, Or.inr rfl, h⟩
  · rintro ⟨x, rfl | rfl, y, rfl | rfl, rfl⟩ <;> simp

end

section

variable {K : Type} [Field K] [LinearOrder K] {trig : Trig K} {grids : List (Placed K)}

/-- The points of the maps, in the merged frame. -/
def footprint (trig : Trig K) (grids : List (Placed K)) : Set (K × K) :=
  {p | ∃ g ∈ grids, ∃ q ∈ Set.Icc ((0 : K), (0 : K))
    (g.1.info.width * g.1.info.resolution, g.1.info.height * g.1.info.resolution),
      p = (placement trig g).apply q}

variable [IsStrictOrderedRing K]

theorem corners_subset (hpos : ∀ g ∈ grids, 0 < g.1.info.resolution) {p : K × K}
    (hp : p ∈ corners trig grids) : p ∈ footprint trig grids := by
  obtain ⟨g, hg, hcorner⟩ := List.mem_flatMap.mp hp
  obtain ⟨x, hx, y, hy, rfl⟩ := (mem_calculateTransformedBounds trig).mp hcorner
  have hres := (hpos g hg).le
  have hside : ∀ {n : Nat} {z : K}, z ∈ [0, n * g.1.info.resolution] →
      0 ≤ z ∧ z ≤ n * g.1.info.resolution := by
    intro n z hz
    have hlength : 0 ≤ (n : K) * g.1.info.resolution := mul_nonneg n.cast_nonneg hres
    simp only [List.mem_cons, List.not_mem_nil, or_false] at hz
    rcases hz with rfl | rfl
    · exact ⟨le_refl _, hlength⟩
    · exact ⟨hlength, le_refl _⟩
  exact ⟨g, hg, (x, y), ⟨⟨(hside hx).1, (hside hy).1⟩, (hside hx).2, (hside hy).2⟩, rfl⟩

end

section

variable {K : Type} {grids : List (Placed K)} {e : Extent K}

/-- The cells of the grid, row by row. -/
def Extent.Contains (e : Extent K) (cell : Int × Int) : Prop :=
  0 ≤ cell.1 ∧ cell.1 < e.width ∧ 0 ≤ cell.2 ∧ cell.2 < e.height

instance (e : Extent K) (cell : Int × Int) : Decidable (e.Contains cell) :=
  inferInstanceAs (Decidable (_ ∧ _))

def Extent.offset (e : Extent K) (cell : Int × Int) : Nat := (cell.1 + cell.2 * e.width).toNat

theorem Extent.contains_cast {i j : Nat} : e.Contains ((i : Int), (j : Int)) ↔
    i < e.width ∧ j < e.height := by
  simp [Extent.Contains]

theorem Extent.offset_cast (e : Extent K) (i j : Nat) :
    e.offset ((i : Int), (j : Int)) = i + j * e.width := by
  unfold Extent.offset
  zify
  rw [Int.toNat_of_nonneg (by positivity)]

theorem Extent.offset_lt {cell : Int × Int} (h : e.Contains cell) :
    e.offset cell < e.width * e.height := by
  obtain ⟨hx, hxw, hy, hyh⟩ := h
  have hrow : (cell.2 + 1) * e.width ≤ (e.height : Int) * e.width :=
    Int.mul_le_mul_of_nonneg_right (by omega) (by omega)
  have hcell : 0 ≤ cell.2 * (e.width : Int) := Int.mul_nonneg hy (by omega)
  unfold Extent.offset
  zify
  rw [Int.toNat_of_nonneg (by omega)]
  linarith

theorem Extent.offset_inj {cell cell' : Int × Int} (h : e.Contains cell) (h' : e.Contains cell')
    (heq : e.offset cell = e.offset cell') : cell = cell' := by
  obtain ⟨hx, hxw, hy, hyh⟩ := h
  obtain ⟨hx', hxw', hy', hyh'⟩ := h'
  have hcell : 0 ≤ cell.2 * (e.width : Int) := Int.mul_nonneg hy (by omega)
  have hcell' : 0 ≤ cell'.2 * (e.width : Int) := Int.mul_nonneg hy' (by omega)
  unfold Extent.offset at heq
  have hsum : cell.1 + cell.2 * e.width = cell'.1 + cell'.2 * e.width := by omega
  have hfst : cell.1 = cell'.1 := by
    have hmod := congrArg (· % (e.width : Int)) hsum
    simpa [Int.emod_eq_of_lt hx hxw, Int.emod_eq_of_lt hx' hxw'] using hmod
  have hsnd : cell.2 = cell'.2 := by
    have hdiv := congrArg (· / (e.width : Int)) hsum
    have hne : (e.width : Int) ≠ 0 := by omega
    simpa [Int.add_mul_ediv_right _ _ hne, Int.ediv_eq_zero_of_lt hx hxw,
      Int.ediv_eq_zero_of_lt hx' hxw'] using hdiv
  exact Prod.ext hfst hsnd

theorem zip_grids : (grids.map Prod.fst).zip (grids.map Prod.snd) = grids := by
  rw [List.zip_map']
  exact List.map_id grids

end

section

variable {K : Type} [Field K] [LinearOrder K] [FloorRing K] {trig : Trig K}
  {grids grids' : List (Placed K)} {e : Extent K} {g : Placed K} {x y : Nat}

/-- The extent of the grids, by the bounds of their corners. -/
structure Spans (trig : Trig K) (grids : List (Placed K)) (e : Extent K) (maxX maxY : K) :
    Prop where
  left : ((corners trig grids).map Prod.fst).min? = some e.minX
  bottom : ((corners trig grids).map Prod.snd).min? = some e.minY
  right : ((corners trig grids).map Prod.fst).max? = some maxX
  top : ((corners trig grids).map Prod.snd).max? = some maxY
  resolution : (grids.map (·.1.info.resolution)).min? = some e.resolution
  positive : 0 < e.resolution
  width : (e.width : Int) = max 1 ⌈(maxX - e.minX) / e.resolution⌉
  height : (e.height : Int) = max 1 ⌈(maxY - e.minY) / e.resolution⌉

theorem mergedExtent_spans
    (h : mergedExtent trig (grids.map Prod.fst) (grids.map Prod.snd) = some e) :
    ∃ maxX maxY, Spans trig grids e maxX maxY := by
  unfold mergedExtent at h
  rw [zip_grids, List.map_map] at h
  dsimp only at h
  split at h
  next minX minY maxX maxY resolution hminX hminY hmaxX hmaxY hres =>
    split at h
    · cases h
    next hpos =>
      cases h
      exact ⟨maxX, maxY, hminX, hminY, hmaxX, hmaxY, hres, not_le.mp hpos,
        Int.toNat_of_nonneg (by omega), Int.toNat_of_nonneg (by omega)⟩
  · cases h

theorem mergedExtent_isSome (trig : Trig K) (hne : grids ≠ [])
    (hpos : ∀ g ∈ grids, 0 < g.1.info.resolution) :
    ∃ e, mergedExtent trig (grids.map Prod.fst) (grids.map Prod.snd) = some e := by
  have hcorners : corners trig grids ≠ [] := by
    obtain ⟨g, rest, rfl⟩ := List.exists_cons_of_ne_nil hne
    simp [corners, calculateTransformedBounds]
  have hsome : ∀ f : K × K → K, (∃ a, ((corners trig grids).map f).min? = some a) ∧
      ∃ a, ((corners trig grids).map f).max? = some a := by
    intro f
    have hmap : (corners trig grids).map f ≠ [] := by simpa using hcorners
    exact ⟨Option.isSome_iff_exists.mp (List.isSome_min?_iff.mpr hmap),
      Option.isSome_iff_exists.mp (List.isSome_max?_iff.mpr hmap)⟩
  obtain ⟨⟨minX, hminX⟩, maxX, hmaxX⟩ := hsome Prod.fst
  obtain ⟨⟨minY, hminY⟩, maxY, hmaxY⟩ := hsome Prod.snd
  have hres : ∃ a, (grids.map (·.1.info.resolution)).min? = some a :=
    Option.isSome_iff_exists.mp (List.isSome_min?_iff.mpr (by simpa using hne))
  obtain ⟨resolution, hres⟩ := hres
  obtain ⟨g, hg, hgres⟩ := List.mem_map.mp (List.min?_mem hres)
  have hposres : ¬ resolution ≤ 0 := by
    rw [← hgres]
    exact not_le.mpr (hpos g hg)
  have hres' : ((grids.map Prod.fst).map (·.info.resolution)).min? = some resolution := by
    rw [List.map_map]
    exact hres
  unfold corners at hminX hminY hmaxX hmaxY
  unfold mergedExtent
  rw [zip_grids]
  simp only [hminX, hminY, hmaxX, hmaxY, hres', if_neg hposres]
  exact ⟨_, rfl⟩

theorem mergedExtent_perm (h : grids.Perm grids') :
    mergedExtent trig (grids.map Prod.fst) (grids.map Prod.snd) =
      mergedExtent trig (grids'.map Prod.fst) (grids'.map Prod.snd) := by
  have hmin : ∀ {l l' : List K}, l.Perm l' → l.min? = l'.min? := by
    intro l l' hl
    refine Option.ext fun a => ?_
    simp only [List.min?_eq_some_iff, hl.mem_iff]
  have hmax : ∀ {l l' : List K}, l.Perm l' → l.max? = l'.max? := by
    intro l l' hl
    refine Option.ext fun a => ?_
    simp only [List.max?_eq_some_iff, hl.mem_iff]
  have hcorners := h.flatMap_right fun g => calculateTransformedBounds trig g.1 g.2
  have hres := (h.map Prod.fst).map (·.info.resolution)
  unfold mergedExtent
  rw [zip_grids, zip_grids]
  simp only [hmin (hcorners.map Prod.fst), hmin (hcorners.map Prod.snd),
    hmax (hcorners.map Prod.fst), hmax (hcorners.map Prod.snd), hmin hres]

theorem Spans.resolution_le {maxX maxY : K} (h : Spans trig grids e maxX maxY) (hg : g ∈ grids) :
    e.resolution ≤ g.1.info.resolution :=
  (List.min?_eq_some_iff.mp h.resolution).2 _
    (List.mem_map_of_mem (f := fun g : Placed K => g.1.info.resolution) hg)

theorem Spans.corner {maxX maxY : K} (h : Spans trig grids e maxX maxY) (hg : g ∈ grids) {x y : K}
    (hx : x ∈ [0, g.1.info.width * g.1.info.resolution])
    (hy : y ∈ [0, g.1.info.height * g.1.info.resolution]) :
    (e.minX ≤ ((placement trig g).apply (x, y)).1 ∧ ((placement trig g).apply (x, y)).1 ≤ maxX) ∧
      e.minY ≤ ((placement trig g).apply (x, y)).2 ∧
        ((placement trig g).apply (x, y)).2 ≤ maxY := by
  have hmem : (placement trig g).apply (x, y) ∈ corners trig grids :=
    List.mem_flatMap.mpr ⟨g, hg, (mem_calculateTransformedBounds trig).mpr ⟨x, hx, y, hy, rfl⟩⟩
  have hfst := List.mem_map_of_mem (f := Prod.fst) hmem
  have hsnd := List.mem_map_of_mem (f := Prod.snd) hmem
  exact ⟨⟨(List.min?_eq_some_iff.mp h.left).2 _ hfst, (List.max?_eq_some_iff.mp h.right).2 _ hfst⟩,
    (List.min?_eq_some_iff.mp h.bottom).2 _ hsnd, (List.max?_eq_some_iff.mp h.top).2 _ hsnd⟩

variable [IsStrictOrderedRing K]

/-- No point of a map is outside the bounds of the corners. -/
theorem Spans.point {maxX maxY : K} (h : Spans trig grids e maxX maxY) (hg : g ∈ grids)
    {q : K × K} (hq : q ∈ Set.Icc ((0 : K), (0 : K))
      (g.1.info.width * g.1.info.resolution, g.1.info.height * g.1.info.resolution)) :
    (e.minX ≤ ((placement trig g).apply q).1 ∧ ((placement trig g).apply q).1 ≤ maxX) ∧
      e.minY ≤ ((placement trig g).apply q).2 ∧ ((placement trig g).apply q).2 ≤ maxY := by
  obtain ⟨⟨hu, hv⟩, huw, hvh⟩ := hq
  obtain ⟨x₁, hx₁, y₁, hy₁, hle₁⟩ := Planar.exists_corner_le (a := (placement trig g).cos)
    (b := -(placement trig g).sin) hu huw hv hvh
  obtain ⟨x₂, hx₂, y₂, hy₂, hle₂⟩ := Planar.exists_corner_ge (a := (placement trig g).cos)
    (b := -(placement trig g).sin) hu huw hv hvh
  obtain ⟨x₃, hx₃, y₃, hy₃, hle₃⟩ := Planar.exists_corner_le (a := (placement trig g).sin)
    (b := (placement trig g).cos) hu huw hv hvh
  obtain ⟨x₄, hx₄, y₄, hy₄, hle₄⟩ := Planar.exists_corner_ge (a := (placement trig g).sin)
    (b := (placement trig g).cos) hu huw hv hvh
  have hminX := (h.corner hg hx₁ hy₁).1.1
  have hmaxX := (h.corner hg hx₂ hy₂).1.2
  have hminY := (h.corner hg hx₃ hy₃).2.1
  have hmaxY := (h.corner hg hx₄ hy₄).2.2
  simp only [Planar.Motion.apply] at hminX hmaxX hminY hmaxY ⊢
  exact ⟨⟨by linarith, by linarith⟩, by linarith, by linarith⟩

theorem centre_inside {n i : Nat} {resolution : K} (hres : 0 < resolution) (hi : i < n) :
    0 < ((i : K) + 1 / 2) * resolution ∧ ((i : K) + 1 / 2) * resolution < n * resolution := by
  have hn : (i : K) + 1 ≤ n := by exact_mod_cast hi
  have hi0 : (0 : K) ≤ i := Nat.cast_nonneg i
  constructor
  · exact mul_pos (by linarith) hres
  · exact mul_lt_mul_of_pos_right (by linarith) hres

theorem contains_centre
    (h : mergedExtent trig (grids.map Prod.fst) (grids.map Prod.snd) = some e) (hg : g ∈ grids)
    (hx : x < g.1.info.width) (hy : y < g.1.info.height) :
    e.Contains (e.index (cellMiddle trig g x y)) := by
  obtain ⟨maxX, maxY, hspans⟩ := mergedExtent_spans h
  have hres : 0 < g.1.info.resolution := hspans.positive.trans_le (hspans.resolution_le hg)
  obtain ⟨hu, huw⟩ := centre_inside hres hx
  obtain ⟨hv, hvh⟩ := centre_inside hres hy
  have hm := (placement trig g).ne_zero
  have hm' : (placement trig g).sin ≠ 0 ∨ (placement trig g).cos ≠ 0 := hm.symm
  have hneg : (placement trig g).cos ≠ 0 ∨ -(placement trig g).sin ≠ 0 := by simpa using hm
  rw [Extent.index, cellMiddle, OccupancyGrid.middleOf]
  obtain ⟨x₁, hx₁, y₁, hy₁, hlt₁⟩ := Planar.exists_corner_lt hneg hu huw hv hvh
  obtain ⟨x₂, hx₂, y₂, hy₂, hlt₂⟩ := Planar.exists_corner_gt hneg hu huw hv hvh
  obtain ⟨x₃, hx₃, y₃, hy₃, hlt₃⟩ := Planar.exists_corner_lt hm' hu huw hv hvh
  obtain ⟨x₄, hx₄, y₄, hy₄, hlt₄⟩ := Planar.exists_corner_gt hm' hu huw hv hvh
  have hminX := (hspans.corner hg hx₁ hy₁).1.1
  have hmaxX := (hspans.corner hg hx₂ hy₂).1.2
  have hminY := (hspans.corner hg hx₃ hy₃).2.1
  have hmaxY := (hspans.corner hg hx₄ hy₄).2.2
  simp only [Planar.Motion.apply] at hminX hmaxX hminY hmaxY ⊢
  obtain ⟨hi, hiw⟩ := Planar.floor_lt_ceil (x := (placement trig g).dx +
    (placement trig g).cos * ((x + 1 / 2) * g.1.info.resolution) -
    (placement trig g).sin * ((y + 1 / 2) * g.1.info.resolution)) hspans.positive
    (show e.minX < _ by linarith) (show _ < maxX by linarith)
  obtain ⟨hj, hjh⟩ := Planar.floor_lt_ceil (x := (placement trig g).dy +
    (placement trig g).sin * ((x + 1 / 2) * g.1.info.resolution) +
    (placement trig g).cos * ((y + 1 / 2) * g.1.info.resolution)) hspans.positive
    (show e.minY < _ by linarith) (show _ < maxY by linarith)
  refine ⟨hi, ?_, hj, ?_⟩
  · rw [hspans.width]
    exact hiw.trans_le (le_max_right _ _)
  · rw [hspans.height]
    exact hjh.trans_le (le_max_right _ _)

end

end PatrolFleet.MergeMap
