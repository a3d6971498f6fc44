import PatrolFleet.MergeMap.OfflineMerging

/-!
On maps that share their grid, both mergers make the same map: what the transforms and
the centres of the cells add is only needed for maps that are placed otherwise.
-/

set_option autoImplicit false

namespace PatrolFleet.MergeMap

section

variable {K ι : Type} [LinearOrder K] {l : List K}

/-- Of points that are low or high ends of items, the least is a low end and the
greatest a high end. -/
theorem edges_bounds {items : List ι} {lo hi : ι → K}
    (hmem : ∀ a, a ∈ l ↔ ∃ m ∈ items, a = lo m ∨ a = hi m) (hlt : ∀ m ∈ items, lo m < hi m) :
    l.min? = (items.map lo).min? ∧ l.max? = (items.map hi).max? := by
  have hlo : ∀ m ∈ items, lo m ∈ l := fun m hm => (hmem _).mpr ⟨m, hm, Or.inl rfl⟩
  have hhi : ∀ m ∈ items, hi m ∈ l := fun m hm => (hmem _).mpr ⟨m, hm, Or.inr rfl⟩
  constructor
  · refine Option.ext fun c => ?_
    simp only [List.min?_eq_some_iff, List.mem_map]
    constructor
    · rintro ⟨hc, hmin⟩
      obtain ⟨m, hm, rfl | rfl⟩ := (hmem c).mp hc
      · refine ⟨⟨m, hm, rfl⟩, ?_⟩
        rintro b ⟨m', hm', rfl⟩
        exact hmin _ (hlo m' hm')
      · exact absurd (hmin _ (hlo m hm)) (hlt m hm).not_ge
    · rintro ⟨⟨m, hm, rfl⟩, hmin⟩
      refine ⟨hlo m hm, fun a ha => ?_⟩
      obtain ⟨m', hm', rfl | rfl⟩ := (hmem a).mp ha
      · exact hmin _ ⟨m', hm', rfl⟩
      · exact (hmin _ ⟨m', hm', rfl⟩).trans (hlt m' hm').le
  · refine Option.ext fun c => ?_
    simp only [List.max?_eq_some_iff, List.mem_map]
    constructor
    · rintro ⟨hc, hmax⟩
      obtain ⟨m, hm, rfl | rfl⟩ := (hmem c).mp hc
      · exact absurd (hmax _ (hhi m hm)) (hlt m hm).not_ge
      · refine ⟨⟨m, hm, rfl⟩, ?_⟩
        rintro b ⟨m', hm', rfl⟩
        exact hmax _ (hhi m' hm')
    · rintro ⟨⟨m, hm, rfl⟩, hmax⟩
      refine ⟨hhi m hm, fun a ha => ?_⟩
      obtain ⟨m', hm', rfl | rfl⟩ := (hmem a).mp ha
      · exact (hlt m' hm').le.trans (hmax _ ⟨m', hm', rfl⟩)
      · exact hmax _ ⟨m', hm', rfl⟩

end

section

variable {K : Type} [Field K] {trig : Trig K} {m : OccupancyGrid K}

/-- The functions at the angle zero. -/
structure Trig.Level (trig : Trig K) : Prop where
  atan2_zero : trig.atan2 0 1 = 0
  cos_zero : trig.cos 0 = 1

/-- A map whose cells are cells of the grid with the corner and the step. -/
structure OnGrid (cornerX cornerY step : K) (m : OccupancyGrid K) : Prop where
  resolution : m.info.resolution = step
  column : ∃ k : Int, m.info.origin.position.x = cornerX + (k : K) * step
  row : ∃ k : Int, m.info.origin.position.y = cornerY + (k : K) * step
  unrotated : m.info.origin.orientation = ⟨0, 0, 0, 1⟩
  width : 0 < m.info.width
  height : 0 < m.info.height
  complete : m.info.width * m.info.height ≤ m.data.length
  plain : Offline.Plain m.data

theorem Trig.Level.sin_zero (h : trig.Level) : trig.sin 0 = 0 := by
  have hunit := trig.cos_sq_add_sin_sq 0
  rw [h.cos_zero] at hunit
  simpa using hunit

theorem Trig.Level.yaw_zero (h : trig.Level) : quaternionToYaw trig ⟨0, 0, 0, 1⟩ = 0 := by
  unfold quaternionToYaw
  simpa using h.atan2_zero

theorem Trig.Level.mapPointToMerged (h : trig.Level)
    (hm : m.info.origin.orientation = ⟨0, 0, 0, 1⟩) (x y : K) :
    mapPointToMerged trig m (Offline.placed m).2 x y =
      (m.info.origin.position.x + x, m.info.origin.position.y + y) := by
  unfold MergeMap.mapPointToMerged mapPointToSourceFrame transformSourcePointToMerged transformXy
  simp [hm, Offline.placed, h.yaw_zero, h.cos_zero, h.sin_zero]

end

theorem OnGrid.edges {K : Type} [Field K] [LinearOrder K] [IsStrictOrderedRing K]
    {cornerX cornerY step : K} {m : OccupancyGrid K} (h : OnGrid cornerX cornerY step m)
    (hstep : 0 < step) :
    m.info.origin.position.x < m.info.origin.position.x + m.info.width * m.info.resolution ∧
      m.info.origin.position.y < m.info.origin.position.y + m.info.height * m.info.resolution := by
  have hres : 0 < m.info.resolution := h.resolution ▸ hstep
  exact ⟨lt_add_of_pos_right _ (mul_pos (Nat.cast_pos.mpr h.width) hres),
    lt_add_of_pos_right _ (mul_pos (Nat.cast_pos.mpr h.height) hres)⟩

theorem exists_shift {K : Type} [Field K] [LinearOrder K] {maps : List (OccupancyGrid K)}
    {step : K} {m : OccupancyGrid K} {f : OccupancyGrid K → K} {corner lower : K}
    (hf : ∀ m ∈ maps, ∃ k : Int, f m = corner + (k : K) * step)
    (hlower : (maps.map f).min? = some lower) (hm : m ∈ maps) :
    ∃ k : Int, f m = lower + k * step := by
  obtain ⟨m₀, hm₀, rfl⟩ := List.mem_map.mp (List.min?_mem hlower)
  obtain ⟨k, hk⟩ := hf m hm
  obtain ⟨k₀, hk₀⟩ := hf m₀ hm₀
  refine ⟨k - k₀, ?_⟩
  rw [hk, hk₀]
  push_cast
  ring

section

variable {K : Type} [Field K] [LinearOrder K] [IsStrictOrderedRing K] [FloorRing K]
  {trig : Trig K} {maps : List (OccupancyGrid K)} {cornerX cornerY step : K} {e : Extent K}
  {maxX maxY : K} {m : OccupancyGrid K} {x y : Nat}

theorem mem_corners (htrig : trig.Level) (halign : ∀ m ∈ maps, OnGrid cornerX cornerY step m)
    {p : K × K} : p ∈ corners trig (maps.map Offline.placed) ↔ ∃ m ∈ maps,
      (p.1 = m.info.origin.position.x ∨
        p.1 = m.info.origin.position.x + m.info.width * m.info.resolution) ∧
      (p.2 = m.info.origin.position.y ∨
        p.2 = m.info.origin.position.y + m.info.height * m.info.resolution) := by
  rw [corners, List.flatMap_map, List.mem_flatMap]
  refine exists_congr fun m => and_congr_right fun hm => ?_
  have hpoint := htrig.mapPointToMerged (halign m hm).unrotated
  change p ∈ calculateTransformedBounds trig m (Offline.placed m).2 ↔ _
  unfold calculateTransformedBounds
  simp only [hpoint, List.map_cons, List.map_nil, List.mem_cons, List.not_mem_nil, or_false,
    add_zero]
  constructor
  · rintro (rfl | rfl | rfl | rfl) <;> simp
  · rintro ⟨hx | hx, hy | hy⟩
    · exact Or.inl (Prod.ext hx hy)
    · exact Or.inr (Or.inr (Or.inl (Prod.ext hx hy)))
    · exact Or.inr (Or.inl (Prod.ext hx hy))
    · exact Or.inr (Or.inr (Or.inr (Prod.ext hx hy)))

theorem Spans.frames (htrig : trig.Level) (hstep : 0 < step)
    (halign : ∀ m ∈ maps, OnGrid cornerX cornerY step m)
    (h : Spans trig (maps.map Offline.placed) e maxX maxY) :
    Offline.Frames maps e maxX maxY := by
  have hx := edges_bounds (l := (corners trig (maps.map Offline.placed)).map Prod.fst)
    (fun a => by
      rw [List.mem_map]
      constructor
      · rintro ⟨p, hp, rfl⟩
        obtain ⟨m, hm, hx, _⟩ := (mem_corners htrig halign).mp hp
        exact ⟨m, hm, hx⟩
      · rintro ⟨m, hm, ha⟩
        exact ⟨(a, _), (mem_corners htrig halign).mpr ⟨m, hm, ha, Or.inl rfl⟩, rfl⟩)
    fun m hm => ((halign m hm).edges hstep).1
  have hy := edges_bounds (l := (corners trig (maps.map Offline.placed)).map Prod.snd)
    (fun a => by
      rw [List.mem_map]
      constructor
      · rintro ⟨p, hp, rfl⟩
        obtain ⟨m, hm, _, hy⟩ := (mem_corners htrig halign).mp hp
        exact ⟨m, hm, hy⟩
      · rintro ⟨m, hm, ha⟩
        exact ⟨(_, a), (mem_corners htrig halign).mpr ⟨m, hm, Or.inl rfl, ha⟩, rfl⟩)
    fun m hm => ((halign m hm).edges hstep).2
  have hresolution : (maps.map (·.info.resolution)).min? = some e.resolution := by
    rw [← h.resolution, List.map_map]
    rfl
  obtain ⟨m, hm⟩ : ∃ m, m ∈ maps := by
    obtain ⟨m, hm, _⟩ := List.mem_map.mp (List.min?_mem hresolution)
    exact ⟨m, hm⟩
  have hleft := hx.1.symm.trans h.left
  have hbottom := hy.1.symm.trans h.bottom
  have hright := hx.2.symm.trans h.right
  have htop := hy.2.symm.trans h.top
  have hone : ∀ {lower upper a b : K}, lower ≤ a → a < b → b ≤ upper →
      max 1 ⌈(upper - lower) / e.resolution⌉ = ⌈(upper - lower) / e.resolution⌉ := by
    intro lower upper a b hlower hab hupper
    exact max_eq_right (Int.one_le_ceil_iff.mpr
      (div_pos (sub_pos.mpr (hlower.trans_lt (hab.trans_le hupper))) h.positive))
  obtain ⟨hmx, hmy⟩ := (halign m hm).edges hstep
  refine ⟨hleft, hbottom, hright, htop, hresolution, h.positive, ?_, ?_⟩
  · rw [h.width]
    exact hone ((List.min?_eq_some_iff.mp hleft).2 _ (List.mem_map_of_mem hm)) hmx
      ((List.max?_eq_some_iff.mp hright).2 _ (List.mem_map_of_mem hm))
  · rw [h.height]
    exact hone ((List.min?_eq_some_iff.mp hbottom).2 _ (List.mem_map_of_mem hm)) hmy
      ((List.max?_eq_some_iff.mp htop).2 _ (List.mem_map_of_mem hm))

/-- The middle of a step of the grid is in the same step as its start. -/
theorem floor_middle {origin lower : K} {k : Int} (hstep : 0 < step)
    (horigin : origin = lower + k * step) (n : Nat) :
    ⌊(origin + (n + 1 / 2) * step - lower) / step⌋ = ⌊(origin + n * step - lower) / step⌋ := by
  have hsteps : ∀ t : K, (origin + t * step - lower) / step = k + t := by
    intro t
    rw [horigin, div_eq_iff hstep.ne']
    ring
  have hstart : ⌊(k : K) + n⌋ = k + n := by
    rw [Int.floor_intCast_add, Int.floor_natCast]
  rw [hsteps, hsteps, hstart, Int.floor_eq_iff]
  push_cast
  constructor <;> linarith

/-- The centre of a source cell falls into the merged cell that the cell starts in. -/
theorem index_centre (htrig : trig.Level) (hstep : 0 < step)
    (halign : ∀ m ∈ maps, OnGrid cornerX cornerY step m) (h : Offline.Frames maps e maxX maxY)
    (hm : m ∈ maps) :
    e.index (cellMiddle trig (Offline.placed m) x y) = e.index (Offline.cellCorner m x y) := by
  obtain ⟨k, hk⟩ := exists_shift (fun m hm => (halign m hm).column) h.left hm
  obtain ⟨l, hl⟩ := exists_shift (fun m hm => (halign m hm).row) h.bottom hm
  have hres : e.resolution = step := by
    obtain ⟨m₀, hm₀, heq⟩ := List.mem_map.mp (List.min?_mem h.resolution)
    rw [← heq, (halign m₀ hm₀).resolution]
  have hmres := (halign m hm).resolution
  have hcentre : cellMiddle trig (Offline.placed m) x y =
      cellCentre trig m (Offline.placed m).2 x y := (cellCentre_eq trig _ x y).symm
  rw [hcentre, cellCentre]
  rw [htrig.mapPointToMerged (halign m hm).unrotated]
  unfold Extent.index Offline.cellCorner
  rw [hres, hmres]
  exact Prod.ext (floor_middle hstep hk x) (floor_middle hstep hl y)

theorem writes_eq (htrig : trig.Level) (hstep : 0 < step)
    (halign : ∀ m ∈ maps, OnGrid cornerX cornerY step m) (h : Offline.Frames maps e maxX maxY) :
    writes trig e (maps.map Offline.placed) = Offline.writes e maps := by
  unfold writes Offline.writes
  refine List.filterMap_congr ?_
  rintro ⟨g, x, y⟩ hc
  obtain ⟨hg, hx, hy⟩ := mem_sourceCells.mp hc
  obtain ⟨m, hm, rfl⟩ := List.mem_map.mp hg
  cases hread : readCell (Offline.placed m, x, y) with
  | none => rfl
  | some v =>
    have hplain := (halign m hm).plain v (List.mem_of_getElem? hread)
    have hindex := index_centre (x := x) (y := y) htrig hstep halign h hm
    have hin := h.contains_corner hm hx hy
    change cellWrite trig e (Offline.placed m, x, y) v = Offline.cellWrite e m x y v
    unfold cellWrite Offline.cellWrite target
    change (if 0 ≤ v ∧ e.Contains (e.index (cellMiddle trig (Offline.placed m) x y)) then
      some (e.offset (e.index (cellMiddle trig (Offline.placed m) x y)), v) else none) = _
    rw [hindex]
    refine if_congr ?_ rfl rfl
    constructor
    · rintro ⟨hv, _⟩
      omega
    · intro hv
      exact ⟨by omega, hin⟩

end

/-- In exact, finite arithmetic (no rounding, no NaN or infinity, a width of any size): maps
that share their grid and hold nothing but unknown, free and occupied cells are merged
alike by both mergers. -/
theorem mergers_agree {K : Type} [Field K] [LinearOrder K] [IsStrictOrderedRing K] [FloorRing K]
    {trig : Trig K} (htrig : trig.Level) (cfg : Config) (now : Time) (frameId : String)
    {maps : List (OccupancyGrid K)} {cornerX cornerY step : K} (hne : maps ≠ [])
    (hstep : 0 < step) (halign : ∀ m ∈ maps, OnGrid cornerX cornerY step m) :
    ∃ merged offline, buildMergedMap trig cfg now maps
        (maps.map fun m => (Offline.placed m).2) = .ok (some merged) ∧
      (Offline.mergeMaps maps frameId).2 = .ok offline ∧ merged.data = offline.data ∧
      { merged.info with mapLoadTime := 0 } = offline.info := by
  have hgrids : (maps.map Offline.placed).map Prod.fst = maps := by
    simp [Function.comp_def, Offline.placed]
  have hpos : ∀ g ∈ maps.map Offline.placed, 0 < g.1.info.resolution := by
    simp only [List.forall_mem_map]
    exact fun m hm => (halign m hm).resolution.symm ▸ hstep
  have hcomplete : Complete (maps.map Offline.placed) := by
    unfold Complete
    simp only [List.forall_mem_map]
    exact fun m hm => (halign m hm).complete
  obtain ⟨e, he⟩ := mergedExtent_isSome trig (by simpa using hne) hpos
  obtain ⟨maxX, maxY, hspans⟩ := mergedExtent_spans he
  have hframes := hspans.frames htrig hstep halign
  obtain ⟨first, rest, rfl⟩ := List.exists_cons_of_ne_nil hne
  obtain ⟨e', maxX', maxY', hframes', hoffline⟩ := Offline.mergeMaps_ok frameId
    fun m hm => ⟨(halign m hm).resolution.symm ▸ hstep, (halign m hm).complete⟩
  obtain rfl := hframes.unique hframes'
  have hbuild : build trig cfg now ((first :: rest).map Offline.placed) = .ok (some _) :=
    build_complete hcomplete he
  unfold build at hbuild
  rw [hgrids, List.map_map] at hbuild
  refine ⟨_, _, hbuild, congrArg Prod.snd hoffline, ?_, rfl⟩
  change mergedData trig e ((first :: rest).map Offline.placed) = _
  unfold mergedData
  rw [writes_eq htrig hstep halign hframes]
  rfl

theorem onGrid_cellMap {value : Int} (h : value = -1 ∨ value = 0 ∨ value = 100) :
    OnGrid 0 0 1 (cellMap (1 : Rat) value).1 where
  resolution := rfl
  column := ⟨0, by norm_num [cellMap]⟩
  row := ⟨0, by norm_num [cellMap]⟩
  unrotated := rfl
  width := Nat.one_pos
  height := Nat.one_pos
  complete := le_refl 1
  plain v hv := by
    obtain rfl : v = value := List.mem_singleton.mp hv
    exact h

theorem mergers_agree_cellMap : ∃ merged offline,
    buildMergedMap unrotated {} 0 [(cellMap 1 100).1, (cellMap 1 0).1]
        ([(cellMap 1 100).1, (cellMap 1 0).1].map fun m => (Offline.placed m).2) =
      .ok (some merged) ∧
      (Offline.mergeMaps [(cellMap 1 100).1, (cellMap 1 0).1] "map").2 = .ok offline ∧
      merged.data = offline.data ∧ { merged.info with mapLoadTime := 0 } = offline.info := by
  have htrig : unrotated.Level := ⟨rfl, rfl⟩
  have halign : ∀ m ∈ [(cellMap (1 : Rat) 100).1, (cellMap 1 0).1], OnGrid 0 0 1 m := by
    simp only [List.forall_mem_cons, List.not_mem_nil, false_implies, implies_true, and_true]
    exact ⟨onGrid_cellMap (by decide), onGrid_cellMap (by decide)⟩
  exact mergers_agree htrig {} 0 "map" (List.cons_ne_nil _ _) (zero_lt_one' Rat) halign

end PatrolFleet.MergeMap
