import PatrolFleet.MergeMap.Offline

/-!
What the offline merger makes of maps: every obstacle is marked, and free space only
where there is no obstacle.
-/

set_option autoImplicit false

namespace PatrolFleet.MergeMap.Offline

open Scatter

theorem far_edge {K : Type} [Field K] [LinearOrder K] [IsStrictOrderedRing K]
    {origin resolution : K} (n : Nat) (hres : 0 < resolution) :
    origin ≤ origin + (n : K) * resolution :=
  le_add_of_nonneg_right (mul_nonneg (Nat.cast_nonneg n) hres.le)

theorem min_le_max {K : Type} [LinearOrder K] {maps : List (OccupancyGrid K)}
    {f g : OccupancyGrid K → K} {a b : K} (hle : ∀ m ∈ maps, f m ≤ g m)
    (ha : (maps.map f).min? = some a) (hb : (maps.map g).max? = some b) : a ≤ b := by
  obtain ⟨m, hm, rfl⟩ := List.mem_map.mp (List.min?_mem ha)
  exact (hle m hm).trans ((List.max?_eq_some_iff.mp hb).2 _ (List.mem_map_of_mem hm))

theorem position_offset {K : Type} {e : Extent K} {data : List Int} {cell : Int × Int}
    (h : e.Contains cell) (hlength : data.length = e.width * e.height) :
    position (cell.1 + cell.2 * e.width) data.length = some (e.offset cell) := by
  have hlt : e.offset cell < data.length := hlength ▸ Extent.offset_lt h
  have hnonneg : 0 ≤ cell.1 + cell.2 * (e.width : Int) :=
    Int.add_nonneg h.1 (Int.mul_nonneg h.2.2.1 (by omega))
  unfold Extent.offset at hlt ⊢
  unfold position
  simp only [if_neg (not_lt.mpr hnonneg)]
  exact if_pos ⟨hnonneg, by omega⟩

/-- A cell of the merged map is unknown, free or an obstacle. -/
def Plain (data : List Int) : Prop := ∀ v ∈ data, v = -1 ∨ v = 0 ∨ v = 100

theorem plain_scatter {data : List Int} {w : Option (Nat × Int)} (hdata : Plain data)
    (hw : ∀ p ∈ w, p.2 = 0 ∨ p.2 = 100) : Plain (scatter max data w.toList) := by
  cases w with
  | none => exact hdata
  | some p =>
    intro v hv
    obtain ⟨i, hi⟩ := List.getElem?_of_mem hv
    rw [getElem?_scatter, Option.map_eq_some_iff] at hi
    obtain ⟨b, hb, rfl⟩ := hi
    have hold := hdata b (List.mem_of_getElem? hb)
    have hp := hw p rfl
    by_cases hcell : p.1 = i
    · simp only [Option.toList_some, hits, hcell, List.filter_cons, decide_true, if_true,
        List.filter_nil, List.map_cons, List.map_nil, List.foldl_cons, List.foldl_nil]
      omega
    · simpa [hits, hcell] using hold

section

variable {K : Type} [Field K]

/-- A map in the frame of the merged one. -/
def placed (m : OccupancyGrid K) : Placed K := (m, ⟨⟨0, 0, 0⟩, ⟨0, 0, 0, 1⟩⟩)

theorem mem_placed {maps : List (OccupancyGrid K)} {m : OccupancyGrid K} {x y : Nat} :
    (placed m, x, y) ∈ sourceCells (maps.map placed) ↔
      m ∈ maps ∧ x < m.info.width ∧ y < m.info.height := by
  rw [mem_sourceCells]
  have hmem : placed m ∈ maps.map placed ↔ m ∈ maps :=
    List.mem_map_of_injective fun m m' h => (Prod.mk.inj h).1
  rw [hmem]
  rfl

end

section

variable {K : Type} [Field K] [LinearOrder K] [FloorRing K] {maps : List (OccupancyGrid K)}
  {e : Extent K} {maxX maxY : K} {m : OccupancyGrid K} {x y : Nat} {v : Int} {data : List Int}

/-- The extent of maps with positive resolutions. -/
structure Frames (maps : List (OccupancyGrid K)) (e : Extent K) (maxX maxY : K) : Prop where
  left : (maps.map fun m => m.info.origin.position.x).min? = some e.minX
  bottom : (maps.map fun m => m.info.origin.position.y).min? = some e.minY
  right : (maps.map fun m => m.info.origin.position.x +
    (m.info.width : K) * m.info.resolution).max? = some maxX
  top : (maps.map fun m => m.info.origin.position.y +
    (m.info.height : K) * m.info.resolution).max? = some maxY
  resolution : (maps.map (·.info.resolution)).min? = some e.resolution
  positive : 0 < e.resolution
  width : (e.width : Int) = ⌈(maxX - e.minX) / e.resolution⌉
  height : (e.height : Int) = ⌈(maxY - e.minY) / e.resolution⌉

theorem Frames.unique {e' : Extent K} {maxX' maxY' : K} (h : Frames maps e maxX maxY)
    (h' : Frames maps e' maxX' maxY') : e = e' := by
  have hminX := Option.some.inj (h.left.symm.trans h'.left)
  have hminY := Option.some.inj (h.bottom.symm.trans h'.bottom)
  have hmaxX := Option.some.inj (h.right.symm.trans h'.right)
  have hmaxY := Option.some.inj (h.top.symm.trans h'.top)
  have hres := Option.some.inj (h.resolution.symm.trans h'.resolution)
  have hwidth : (e.width : Int) = e'.width := by
    rw [h.width, h'.width, hminX, hmaxX, hres]
  have hheight : (e.height : Int) = e'.height := by
    rw [h.height, h'.height, hminY, hmaxY, hres]
  cases e
  cases e'
  simp only at hminX hminY hres hwidth hheight
  simp only [Extent.mk.injEq]
  exact ⟨hminX, hminY, hres, Int.ofNat_inj.mp hwidth, Int.ofNat_inj.mp hheight⟩

/-! ### The writes -/

/-- What is written for a source cell with the value. -/
def cellWrite (e : Extent K) (map_ : OccupancyGrid K) (x y : Nat) (v : Int) :
    Option (Nat × Int) :=
  if v = 0 ∨ v = 100 then some (e.offset (e.index (cellCorner map_ x y)), v) else none

/-- On plain data the body of the loop raises the merged cell, if the source cell is
free or an obstacle. -/
theorem mergeCell_eq (hin : e.Contains (e.index (cellCorner m x y))) (hdata : Plain data)
    (hlength : data.length = e.width * e.height)
    (hread : m.data[x + y * m.info.width]? = some v) :
    mergeCell e m x y data = .ok (scatter max data (cellWrite e m x y v).toList) := by
  have hposition := position_offset hin hlength
  obtain ⟨old, hold⟩ : ∃ old, data[e.offset (e.index (cellCorner m x y))]? = some old :=
    Option.isSome_iff_exists.mp (by simpa [hlength] using Extent.offset_lt hin)
  have hplain := hdata old (List.mem_of_getElem? hold)
  have hkeep : data.set (e.offset (e.index (cellCorner m x y))) old = data := by
    obtain ⟨hlt, rfl⟩ := List.getElem?_eq_some_iff.mp hold
    exact List.set_getElem_self hlt
  have hmax : ∀ new, max old v = new →
      data.set (e.offset (e.index (cellCorner m x y))) new =
        scatter max data [(e.offset (e.index (cellCorner m x y)), v)] := by
    rintro new rfl
    simp [scatter, List.modify_eq_set, hold]
  unfold mergeCell cellWrite
  simp only [hread, setItem, getItem, hposition, Option.bind_some, hold]
  by_cases h100 : v = 100
  · subst h100
    simp [hmax 100 (by omega)]
  · by_cases h0 : v = 0
    · subst h0
      by_cases hunknown : old = -1
      · simp [hunknown, bind, Except.bind, hmax 0 (by omega)]
      · have hsame := hmax old (by omega)
        rw [hkeep] at hsame
        simpa [hunknown, bind, Except.bind, pure, Except.pure] using hsame
    · have hnothing : scatter max data (none : Option (Nat × Int)).toList = data := rfl
      rw [if_neg h100, if_neg (by omega : ¬ (v = 0 ∨ v = 100)), hnothing]
      split
      next hfree =>
        obtain rfl : v = -1 := by omega
        by_cases hunknown : old = -1
        · subst hunknown
          simp [bind, Except.bind, hkeep]
        · simp [hunknown, bind, Except.bind, pure, Except.pure]
      · rfl

/-- A map with a positive resolution and no less data than cells. -/
structure Sound (m : OccupancyGrid K) : Prop where
  positive : 0 < m.info.resolution
  complete : m.info.width * m.info.height ≤ m.data.length

/-- What the loops write. -/
def writes (e : Extent K) (maps : List (OccupancyGrid K)) : List (Nat × Int) :=
  (sourceCells (maps.map placed)).filterMap fun c =>
    (readCell c).bind (cellWrite e c.1.1 c.2.1 c.2.2)

/-- The message that is returned for the extent. -/
def overlay (stamp : Time) (frameId : String) (e : Extent K) (maps : List (OccupancyGrid K)) :
    OccupancyGrid K where
  stamp
  frameId
  info := ⟨0, e.resolution, e.width, e.height, ⟨⟨e.minX, e.minY, 0⟩, ⟨0, 0, 0, 1⟩⟩⟩
  data := scatter max (emptyData e) (writes e maps)

theorem cellWrite_value {p : Nat × Int} (hp : cellWrite e m x y v = some p) :
    p.2 = 0 ∨ p.2 = 100 := by
  unfold cellWrite at hp
  split at hp
  · cases hp
    assumption
  · cases hp

variable [IsStrictOrderedRing K]

theorem ceil_nonneg {lower upper step : K} (hstep : 0 < step) (h : lower ≤ upper) :
    0 ≤ ⌈(upper - lower) / step⌉ :=
  Int.ceil_nonneg (div_nonneg (sub_nonneg.mpr h) hstep.le)

theorem exists_frames (hne : maps ≠ []) (hpos : ∀ m ∈ maps, 0 < m.info.resolution) :
    ∃ e maxX maxY, mergedInfo maps = .ok e ∧ Frames maps e maxX maxY := by
  have hmin : ∀ f : OccupancyGrid K → K, ∃ a, (maps.map f).min? = some a := fun f =>
    Option.isSome_iff_exists.mp (List.isSome_min?_iff.mpr (by simpa using hne))
  have hmax : ∀ f : OccupancyGrid K → K, ∃ a, (maps.map f).max? = some a := fun f =>
    Option.isSome_iff_exists.mp (List.isSome_max?_iff.mpr (by simpa using hne))
  obtain ⟨minX, hminX⟩ := hmin fun m => m.info.origin.position.x
  obtain ⟨minY, hminY⟩ := hmin fun m => m.info.origin.position.y
  obtain ⟨maxX, hmaxX⟩ := hmax fun m =>
    m.info.origin.position.x + (m.info.width : K) * m.info.resolution
  obtain ⟨maxY, hmaxY⟩ := hmax fun m =>
    m.info.origin.position.y + (m.info.height : K) * m.info.resolution
  obtain ⟨resolution, hres⟩ := hmin (·.info.resolution)
  have hpositive : 0 < resolution := by
    obtain ⟨m, hm, rfl⟩ := List.mem_map.mp (List.min?_mem hres)
    exact hpos m hm
  have hx : minX ≤ maxX := min_le_max (fun m hm => far_edge m.info.width (hpos m hm)) hminX hmaxX
  have hy : minY ≤ maxY := min_le_max (fun m hm => far_edge m.info.height (hpos m hm)) hminY hmaxY
  have hwidth := ceil_nonneg hpositive hx
  have hheight := ceil_nonneg hpositive hy
  refine ⟨⟨minX, minY, resolution, ⌈(maxX - minX) / resolution⌉.toNat,
    ⌈(maxY - minY) / resolution⌉.toNat⟩, maxX, maxY, ?_, ⟨hminX, hminY, hmaxX, hmaxY, hres,
      hpositive, Int.toNat_of_nonneg hwidth, Int.toNat_of_nonneg hheight⟩⟩
  unfold mergedInfo
  simp only [hminX, hminY, hmaxX, hmaxY, hres, if_neg hpositive.ne']
  rw [if_neg (by omega)]

theorem floor_step {lower upper origin size step : K} {n i : Nat} (hstep : 0 < step)
    (hsize : 0 < size) (hlower : lower ≤ origin) (hupper : origin + n * size ≤ upper)
    (hi : i < n) :
    0 ≤ ⌊(origin + i * size - lower) / step⌋ ∧
      ⌊(origin + i * size - lower) / step⌋ < ⌈(upper - lower) / step⌉ := by
  have hstart : lower ≤ origin + i * size := hlower.trans (far_edge i hsize)
  have hin : (i : K) * size < n * size := mul_lt_mul_of_pos_right (Nat.cast_lt.mpr hi) hsize
  have hlt : origin + i * size < upper := by linarith
  refine ⟨Int.floor_nonneg.mpr (div_nonneg (sub_nonneg.mpr hstart) hstep.le), ?_⟩
  exact Int.floor_lt.mpr (lt_of_lt_of_le
    (div_lt_div_of_pos_right (sub_lt_sub_right hlt lower) hstep) (Int.le_ceil _))

/-- Every cell of every map starts in a cell of the merged map. -/
theorem Frames.contains_corner (h : Frames maps e maxX maxY) (hm : m ∈ maps)
    (hx : x < m.info.width) (hy : y < m.info.height) :
    e.Contains (e.index (cellCorner m x y)) := by
  have hres : 0 < m.info.resolution := h.positive.trans_le
    ((List.min?_eq_some_iff.mp h.resolution).2 _ (List.mem_map_of_mem hm))
  obtain ⟨hi, hiw⟩ := floor_step h.positive hres
    ((List.min?_eq_some_iff.mp h.left).2 _ (List.mem_map_of_mem hm))
    ((List.max?_eq_some_iff.mp h.right).2 _ (List.mem_map_of_mem hm)) hx
  obtain ⟨hj, hjh⟩ := floor_step h.positive hres
    ((List.min?_eq_some_iff.mp h.bottom).2 _ (List.mem_map_of_mem hm))
    ((List.max?_eq_some_iff.mp h.top).2 _ (List.mem_map_of_mem hm)) hy
  exact ⟨hi, h.width ▸ hiw, hj, h.height ▸ hjh⟩

theorem mergeCells_eq (hframes : Frames maps e maxX maxY) (hsound : ∀ m ∈ maps, Sound m) :
    mergeCells e maps (emptyData e) = .ok (scatter max (emptyData e) (writes e maps)) := by
  have hcells : mergeCells e maps (emptyData e) = (sourceCells (maps.map placed)).foldlM
      (fun data c => mergeCell e c.1.1 c.2.1 c.2.2 data) (emptyData e) := by
    unfold mergeCells sourceCells cells
    simp only [foldlM_flatMap, List.foldlM_map, List.map_flatMap, placed]
  rw [hcells]
  refine foldlM_scatter (P := fun data => data.length = e.width * e.height ∧ Plain data) ?_ ?_
  · exact ⟨List.length_replicate, fun v hv => Or.inl (List.eq_of_mem_replicate hv)⟩
  · rintro data ⟨hlength, hplain⟩ ⟨g, x, y⟩ hc
    obtain ⟨hg, hx, hy⟩ := mem_sourceCells.mp hc
    obtain ⟨m, hm, rfl⟩ := List.mem_map.mp hg
    have hlt : x + y * m.info.width < m.data.length :=
      (index_lt hx hy).trans_le (hsound m hm).complete
    have hread : m.data[x + y * m.info.width]? = some m.data[x + y * m.info.width] :=
      List.getElem?_eq_getElem hlt
    have hwrite : (readCell (placed m, x, y)).bind (cellWrite e m x y) =
        cellWrite e m x y m.data[x + y * m.info.width] := by
      simp only [readCell, placed, hread, Option.bind_some]
    change mergeCell e m x y data =
        .ok (scatter max data ((readCell (placed m, x, y)).bind (cellWrite e m x y)).toList) ∧ _ ∧
      Plain (scatter max data ((readCell (placed m, x, y)).bind (cellWrite e m x y)).toList)
    rw [hwrite, length_scatter]
    exact ⟨mergeCell_eq (hframes.contains_corner hm hx hy) hplain hlength hread, hlength,
      plain_scatter hplain fun p hp => cellWrite_value hp⟩

theorem mergeMaps_ok {first : OccupancyGrid K} {rest : List (OccupancyGrid K)} (frameId : String)
    (hsound : ∀ m ∈ first :: rest, Sound m) :
    ∃ e maxX maxY, Frames (first :: rest) e maxX maxY ∧
      mergeMaps (first :: rest) frameId = ({ first with frameId } :: rest,
        .ok (overlay first.stamp frameId e (first :: rest))) := by
  obtain ⟨e, maxX, maxY, hinfo, hframes⟩ := exists_frames (List.cons_ne_nil first rest)
    fun m hm => (hsound m hm).positive
  refine ⟨e, maxX, maxY, hframes, ?_⟩
  have hinfo' : mergedInfo ({ first with frameId } :: rest) = .ok e := hinfo
  have hcells : mergeCells e ({ first with frameId } :: rest) (emptyData e) =
      .ok (scatter max (emptyData e) (writes e (first :: rest))) :=
    mergeCells_eq hframes hsound
  unfold emptyData at hcells
  unfold mergeMaps
  simp only [hinfo', bind, Except.bind, hcells]
  rfl

end

/-! ### The merged cells -/

section

variable {K : Type} [Field K] [LinearOrder K] [FloorRing K] {maps : List (OccupancyGrid K)}
  {merged : OccupancyGrid K} {e : Extent K} {v : Int} {i j : Nat}

/-- The values of the free and the occupied source cells that start in a merged cell. -/
def landing (maps : List (OccupancyGrid K)) (merged : OccupancyGrid K) (i j : Nat) : Set Int :=
  {v | (v = 0 ∨ v = 100) ∧ ∃ m ∈ maps, ∃ x < m.info.width, ∃ y < m.info.height,
    m.valueAt x y = some v ∧ merged.cellOf (cellCorner m x y) = ((i : Int), (j : Int))}

/-- Every obstacle is marked, free space is where a free cell starts and no obstacle
does, and the rest is unknown. -/
structure Overlaid (maps : List (OccupancyGrid K)) (merged : OccupancyGrid K) : Prop where
  obstacle : ∀ m ∈ maps, ∀ x < m.info.width, ∀ y < m.info.height, m.valueAt x y = some 100 →
    ∃ i j : Nat, merged.cellOf (cellCorner m x y) = ((i : Int), (j : Int)) ∧
      i < merged.info.width ∧ j < merged.info.height ∧ merged.valueAt i j = some 100
  cell : ∀ i < merged.info.width, ∀ j < merged.info.height, ∃ r, merged.valueAt i j = some r ∧
    (r = 100 ∧ 100 ∈ landing maps merged i j ∨
      r = 0 ∧ 0 ∈ landing maps merged i j ∧ 100 ∉ landing maps merged i j ∨
      r = -1 ∧ landing maps merged i j = ∅)

variable [IsStrictOrderedRing K] {maxX maxY : K} (stamp : Time) (frameId : String)

theorem mem_hits_writes (hframes : Frames maps e maxX maxY) (hi : i < e.width)
    (hj : j < e.height) : v ∈ hits (i + j * e.width) (writes e maps) ↔
      v ∈ landing maps (overlay stamp frameId e maps) i j := by
  have hcell : e.Contains ((i : Int), (j : Int)) := Extent.contains_cast.mpr ⟨hi, hj⟩
  rw [← Extent.offset_cast, mem_hits, writes, List.mem_filterMap]
  constructor
  · rintro ⟨⟨g, x, y⟩, hc, hwrite⟩
    obtain ⟨hg, hx, hy⟩ := mem_sourceCells.mp hc
    obtain ⟨m, hm, rfl⟩ := List.mem_map.mp hg
    obtain ⟨u, hread, hwrite⟩ := Option.bind_eq_some_iff.mp hwrite
    have hvalue := cellWrite_value hwrite
    unfold cellWrite at hwrite
    split at hwrite
    · obtain ⟨hoffset, rfl⟩ := Prod.mk.inj (Option.some.inj hwrite)
      exact ⟨hvalue, m, hm, x, hx, y, hy, hread,
        Extent.offset_inj (hframes.contains_corner hm hx hy) hcell hoffset⟩
    · cases hwrite
  · rintro ⟨hv, m, hm, x, hx, y, hy, hread, hlands⟩
    refine ⟨(placed m, x, y), mem_placed.mpr ⟨hm, hx, hy⟩, ?_⟩
    have hindex : e.index (cellCorner m x y) = ((i : Int), (j : Int)) := hlands
    change (m.data[x + y * m.info.width]?).bind (cellWrite e m x y) = _
    unfold OccupancyGrid.valueAt at hread
    rw [hread, Option.bind_some, cellWrite, if_pos hv, hindex]

end

end PatrolFleet.MergeMap.Offline
