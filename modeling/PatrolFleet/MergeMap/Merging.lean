import PatrolFleet.MergeMap.Writes

/-!
What the merged grid holds: no known cell is lost, whatever maps the robots have
sent, and the order of the robots is free.
-/

set_option autoImplicit false

namespace PatrolFleet.MergeMap

open Scatter

section

variable {K : Type} [Field K] [LinearOrder K] [FloorRing K] {trig : Trig K} {cfg : Config}
  {now : Time} {grids : List (Placed K)} {e : Extent K} {merged : OccupancyGrid K}

/-- The cell of a grid that a point of its frame falls into. -/
def OccupancyGrid.cellOf (m : OccupancyGrid K) (p : K × K) : Int × Int :=
  (⌊(p.1 - m.info.origin.position.x) / m.info.resolution⌋,
    ⌊(p.2 - m.info.origin.position.y) / m.info.resolution⌋)

def OccupancyGrid.valueAt {K : Type} (m : OccupancyGrid K) (x y : Nat) : Option Int :=
  m.data[x + y * m.info.width]?

/-- The merged cell of every known source cell is there, and holds no less. -/
def Kept (trig : Trig K) (grids : List (Placed K)) (merged : OccupancyGrid K) : Prop :=
  ∀ g ∈ grids, ∀ x y v, Known g x y v → ∃ i j : Nat,
    merged.cellOf (cellMiddle trig g x y) = ((i : Int), (j : Int)) ∧
      i < merged.info.width ∧ j < merged.info.height ∧
      ∃ r, merged.valueAt i j = some r ∧ v ≤ r

/-- The known values of the source cells whose centres fall into a merged cell. -/
def landing (trig : Trig K) (grids : List (Placed K)) (merged : OccupancyGrid K) (i j : Nat) :
    Set Int :=
  {v | ∃ g ∈ grids, ∃ x y, Known g x y v ∧
    merged.cellOf (cellMiddle trig g x y) = ((i : Int), (j : Int))}

/-- Every merged cell holds the largest value that falls into it, or is unknown. -/
def HoldsLargest (trig : Trig K) (grids : List (Placed K)) (merged : OccupancyGrid K) : Prop :=
  ∀ i < merged.info.width, ∀ j < merged.info.height, ∃ r, merged.valueAt i j = some r ∧
    (IsGreatest (landing trig grids merged i j) r ∨ landing trig grids merged i j = ∅ ∧ r = -1)

/-- The merged grid is the box around the maps, in steps of the least resolution. -/
structure Boxed (trig : Trig K) (grids : List (Placed K)) (merged : OccupancyGrid K) : Prop where
  resolution : IsLeast {r | ∃ g ∈ grids, r = g.1.info.resolution} merged.info.resolution
  left : IsLeast (Prod.fst '' footprint trig grids) merged.info.origin.position.x
  bottom : IsLeast (Prod.snd '' footprint trig grids) merged.info.origin.position.y
  level : merged.info.origin.orientation = ⟨0, 0, 0, 1⟩
  width : ∃ right, IsGreatest (Prod.fst '' footprint trig grids) right ∧
    (merged.info.width : Int) =
      max 1 ⌈(right - merged.info.origin.position.x) / merged.info.resolution⌉
  height : ∃ top, IsGreatest (Prod.snd '' footprint trig grids) top ∧
    (merged.info.height : Int) =
      max 1 ⌈(top - merged.info.origin.position.y) / merged.info.resolution⌉
  cells : merged.data.length = merged.info.width * merged.info.height

/-- No map has less data than cells. -/
def Complete (grids : List (Placed K)) : Prop :=
  ∀ g ∈ grids, g.1.info.width * g.1.info.height ≤ g.1.data.length

theorem index_lt {x y width height : Nat} (hx : x < width) (hy : y < height) :
    x + y * width < width * height :=
  calc
    x + y * width < width + y * width := Nat.add_lt_add_right hx _
    _ = width * (y + 1) := by ring
    _ ≤ width * height := Nat.mul_le_mul_left width hy

theorem readable_iff {K : Type} {grids : List (Placed K)} :
    (∀ c ∈ sourceCells grids, (readCell c).isSome = true) ↔
      ∀ g ∈ grids, g.1.info.width * g.1.info.height ≤ g.1.data.length := by
  constructor
  · intro h g hg
    by_contra hlt
    have hpos : 0 < g.1.info.width * g.1.info.height := by omega
    have hwidth := Nat.pos_of_mul_pos_right hpos
    have hheight := Nat.pos_of_mul_pos_left hpos
    have hlast := h (g, g.1.info.width - 1, g.1.info.height - 1)
      (mem_sourceCells.mpr ⟨hg, by omega, by omega⟩)
    have hindex : g.1.info.width - 1 + (g.1.info.height - 1) * g.1.info.width =
        g.1.info.width * g.1.info.height - 1 := by
      obtain ⟨n, hn⟩ := Nat.exists_eq_add_of_lt hheight
      rw [hn]
      simp only [Nat.zero_add, Nat.add_sub_cancel]
      rw [Nat.mul_add, Nat.mul_comm n]
      omega
    rw [readCell, Option.isSome_iff_ne_none, ne_eq, List.getElem?_eq_none_iff] at hlast
    dsimp only at hlast
    omega
  · rintro h ⟨g, x, y⟩ hmem
    obtain ⟨hg, hx, hy⟩ := mem_sourceCells.mp hmem
    rw [readCell, Option.isSome_iff_ne_none, ne_eq, List.getElem?_eq_none_iff, not_le]
    exact (index_lt hx hy).trans_le (h g hg)

/-- The data that the loops leave for the extent. -/
def mergedData (trig : Trig K) (e : Extent K) (grids : List (Placed K)) : List Int :=
  scatter max (emptyData e) (writes trig e grids)

theorem build_complete (hcomplete : Complete grids)
    (he : mergedExtent trig (grids.map Prod.fst) (grids.map Prod.snd) = some e) :
    build trig cfg now grids = .ok (some (mergedGrid cfg now e (mergedData trig e grids))) := by
  rw [build_eq, he]
  exact if_pos (readable_iff.mpr hcomplete)

theorem build_some (h : build trig cfg now grids = .ok (some merged)) : ∃ e,
    mergedExtent trig (grids.map Prod.fst) (grids.map Prod.snd) = some e ∧
      merged = mergedGrid cfg now e (mergedData trig e grids) := by
  rw [build_eq] at h
  split at h
  · cases h
  next e he =>
    split at h
    · cases h
      exact ⟨e, he, rfl⟩
    · cases h

theorem holdsLargest_merged (cfg : Config) (now : Time) (trig : Trig K) (e : Extent K)
    (grids : List (Placed K)) :
    HoldsLargest trig grids (mergedGrid cfg now e (mergedData trig e grids)) := by
  intro i hi j hj
  obtain ⟨r, hr, hvalue⟩ := merged_cell trig grids (Extent.contains_cast.mpr ⟨hi, hj⟩)
  rw [Extent.offset_cast] at hr
  refine ⟨r, hr, ?_⟩
  rcases hvalue with ⟨hr, hnone⟩ | hgreatest
  · exact Or.inr ⟨Set.eq_empty_of_forall_notMem hnone, hr⟩
  · exact Or.inl hgreatest

/-! ### What the robots have sent -/

/-- A message on the topic of a robot, with what the transforms are looked up as when
it comes. -/
structure Received (K : Type) where
  index : Nat
  message : OccupancyGrid K
  lookups : List (Option (Transform K))
  now : Time

def machine (trig : Trig K) (cfg : Config) : Machine (State K) (Received K) where
  init := State.init cfg
  step s r :=
    if r.index < cfg.robotCount then
      some (mapCallback trig cfg r.now r.lookups r.message r.index s).1
    else none

/-- The node keeps only maps that have passed the checks. -/
theorem reachable_accepted {s : State K} (h : (machine trig cfg).Reachable s) :
    ∀ m, some m ∈ s.maps → m.accepted = true := by
  refine h.invariant (P := fun s => ∀ m, some m ∈ s.maps → m.accepted = true) ?_ ?_
  · intro m hm
    simp [machine, State.init] at hm
  · intro s r t hs ht m hm
    simp only [machine] at ht
    split at ht
    · cases ht
      unfold mapCallback at hm
      split at hm
      · exact hs m hm
      next haccepted =>
        rcases List.mem_or_eq_of_mem_set hm with hm | hm
        · exact hs m hm
        · cases hm
          simpa using haccepted
    · cases ht

theorem accepted_complete {s : State K} (h : (machine trig cfg).Reachable s)
    (hmaps : s.maps = grids.map fun g => some g.1) : Complete grids := by
  intro g hg
  have haccepted := reachable_accepted h g.1 (hmaps ▸ List.mem_map_of_mem hg)
  simp only [OccupancyGrid.accepted, Bool.and_eq_true, beq_iff_eq] at haccepted
  exact haccepted.2.ge

variable [IsStrictOrderedRing K]

theorem boxed_merged (hpos : ∀ g ∈ grids, 0 < g.1.info.resolution)
    (he : mergedExtent trig (grids.map Prod.fst) (grids.map Prod.snd) = some e) :
    Boxed trig grids (mergedGrid cfg now e (mergedData trig e grids)) := by
  obtain ⟨maxX, maxY, hspans⟩ := mergedExtent_spans he
  have hcorner : ∀ {f : K × K → K} {a : K}, a ∈ (corners trig grids).map f →
      a ∈ f '' footprint trig grids := by
    intro f a ha
    obtain ⟨p, hp, rfl⟩ := List.mem_map.mp ha
    exact ⟨p, corners_subset hpos hp, rfl⟩
  refine ⟨⟨?_, ?_⟩, ⟨hcorner (List.min?_mem hspans.left), ?_⟩,
    ⟨hcorner (List.min?_mem hspans.bottom), ?_⟩, rfl,
    ⟨maxX, ⟨hcorner (List.max?_mem hspans.right), ?_⟩, hspans.width⟩,
    ⟨maxY, ⟨hcorner (List.max?_mem hspans.top), ?_⟩, hspans.height⟩, ?_⟩
  · obtain ⟨g, hg, hres⟩ := List.mem_map.mp (List.min?_mem hspans.resolution)
    exact ⟨g, hg, hres.symm⟩
  · rintro _ ⟨g, hg, rfl⟩
    exact hspans.resolution_le hg
  · rintro _ ⟨_, ⟨g, hg, q, hq, rfl⟩, rfl⟩
    exact (hspans.point hg hq).1.1
  · rintro _ ⟨_, ⟨g, hg, q, hq, rfl⟩, rfl⟩
    exact (hspans.point hg hq).2.1
  · rintro _ ⟨_, ⟨g, hg, q, hq, rfl⟩, rfl⟩
    exact (hspans.point hg hq).1.2
  · rintro _ ⟨_, ⟨g, hg, q, hq, rfl⟩, rfl⟩
    exact (hspans.point hg hq).2.2
  · exact (length_scatter ..).trans List.length_replicate

theorem kept_merged
    (he : mergedExtent trig (grids.map Prod.fst) (grids.map Prod.snd) = some e) :
    Kept trig grids (mergedGrid cfg now e (mergedData trig e grids)) := by
  intro g hg x y v hknown
  have hcell := contains_centre he hg hknown.column hknown.row
  obtain ⟨i, hi⟩ := Int.eq_ofNat_of_zero_le hcell.1
  obtain ⟨j, hj⟩ := Int.eq_ofNat_of_zero_le hcell.2.2.1
  have htarget : target trig e g x y = ((i : Int), (j : Int)) := Prod.ext hi hj
  have hin : e.Contains ((i : Int), (j : Int)) := htarget ▸ hcell
  obtain ⟨r, hr, hvalue⟩ := merged_cell trig grids hin
  rw [Extent.offset_cast] at hr
  obtain ⟨hiw, hjh⟩ := Extent.contains_cast.mp hin
  refine ⟨i, j, htarget, hiw, hjh, r, hr, ?_⟩
  have hlands : Lands trig e grids ((i : Int), (j : Int)) v := ⟨g, hg, x, y, hknown, htarget⟩
  rcases hvalue with ⟨_, hnone⟩ | hgreatest
  · exact absurd hlands (hnone v)
  · exact hgreatest.2 hlands

end

/-- Whatever maps the robots have sent and however they are placed, the merger reads
no cell that is not there and loses no known one. -/
theorem known_cells_kept {K : Type} [Field K] [LinearOrder K] [IsStrictOrderedRing K]
    [FloorRing K] {trig : Trig K} {cfg : Config} {s : State K}
    (h : (machine trig cfg).Reachable s) {grids : List (Placed K)}
    (hmaps : s.maps = grids.map fun g => some g.1)
    (hpos : ∀ g ∈ grids, 0 < g.1.info.resolution) (now : Time) :
    ∃ result, buildMergedMap trig cfg now (grids.map Prod.fst) (grids.map Prod.snd) = .ok result ∧
      (grids ≠ [] → result.isSome = true) ∧ ∀ merged ∈ result, Kept trig grids merged := by
  have hcomplete := accepted_complete h hmaps
  by_cases hne : grids = []
  · subst hne
    exact ⟨none, rfl, fun h => absurd rfl h, fun merged hm => by cases hm⟩
  · obtain ⟨e, he⟩ := mergedExtent_isSome trig hne hpos
    refine ⟨_, build_complete hcomplete he, fun _ => rfl, fun merged hm => ?_⟩
    cases hm
    exact kept_merged he

/-- The functions at the angles that come up without rotations. -/
def unrotated : Trig Rat := ⟨fun _ => 0, fun _ => 1, fun _ _ => 0, fun _ => by norm_num⟩

/-- A map of one cell at the origin of the merged frame. -/
def cellMap {K : Type} [Field K] (resolution : K) (value : Int) : Placed K :=
  (⟨0, "robot1/map", ⟨0, resolution, 1, 1, ⟨⟨0, 0, 0⟩, ⟨0, 0, 0, 1⟩⟩⟩, [value]⟩,
    ⟨⟨0, 0, 0⟩, ⟨0, 0, 0, 1⟩⟩)

def coarseAndFine : List (Placed Rat) := [cellMap 2 100, cellMap 1 0]

theorem coarseAndFine_positive : ∀ g ∈ coarseAndFine, 0 < g.1.info.resolution := by
  decide +kernel

/-- A map of two cells, turned in its frame, in a frame that is turned itself. -/
noncomputable def turnedMap : Placed ℝ :=
  (⟨0, "robot2/map", ⟨0, 1, 2, 1, ⟨⟨1, -1, 0⟩, .ofYaw 1⟩⟩, [100, 0]⟩, ⟨⟨-1, 1, 0⟩, .ofYaw 1⟩)

noncomputable def levelAndTurned : List (Placed ℝ) := [cellMap (1 + 1) 100, turnedMap]

theorem levelAndTurned_positive : ∀ g ∈ levelAndTurned, 0 < g.1.info.resolution := by
  simp [levelAndTurned, cellMap, turnedMap]

theorem known_cells_kept_levelAndTurned : ∃ result,
    buildMergedMap Trig.real {} 0 (levelAndTurned.map Prod.fst) (levelAndTurned.map Prod.snd) =
      .ok result ∧
      (levelAndTurned ≠ [] → result.isSome = true) ∧
      ∀ merged ∈ result, Kept Trig.real levelAndTurned merged := by
  have hreached : (machine Trig.real {}).Reachable
      ⟨[some (cellMap (1 + 1) 100).1, some turnedMap.1]⟩ :=
    ⟨[⟨0, (cellMap (1 + 1) 100).1, [], 0⟩, ⟨1, turnedMap.1, [none], 0⟩], rfl⟩
  exact known_cells_kept hreached rfl levelAndTurned_positive 0

/-- The order of the maps makes no difference. The merged grid is the box around the
maps, and every cell of it holds the largest value that falls into it. Only a map with
less data than cells leaves no result. -/
theorem merge_order_free {K : Type} [Field K] [LinearOrder K] [IsStrictOrderedRing K]
    [FloorRing K] (trig : Trig K) (cfg : Config) (now : Time) {grids : List (Placed K)}
    (hne : grids ≠ []) (hpos : ∀ g ∈ grids, 0 < g.1.info.resolution) :
    (∀ grids' : List (Placed K), grids'.Perm grids →
      buildMergedMap trig cfg now (grids'.map Prod.fst) (grids'.map Prod.snd) =
        buildMergedMap trig cfg now (grids.map Prod.fst) (grids.map Prod.snd)) ∧
    (Complete grids → ∃ merged,
      buildMergedMap trig cfg now (grids.map Prod.fst) (grids.map Prod.snd) = .ok (some merged) ∧
        Boxed trig grids merged ∧ HoldsLargest trig grids merged) ∧
    (¬ Complete grids →
      buildMergedMap trig cfg now (grids.map Prod.fst) (grids.map Prod.snd) =
        .error "IndexError") := by
  obtain ⟨e, he⟩ := mergedExtent_isSome trig hne hpos
  refine ⟨fun grids' hperm => ?_, fun hcomplete => ?_, fun hcomplete => ?_⟩
  · have hcells : (sourceCells grids').Perm (sourceCells grids) := hperm.flatMap_right _
    have hdata : mergedData trig e grids' = mergedData trig e grids :=
      scatter_perm (fun b a a' => max_right_comm b a a') (hcells.filterMap _)
    change build trig cfg now grids' = build trig cfg now grids
    unfold mergedData at hdata
    rw [build_eq, build_eq, mergedExtent_perm hperm, he]
    simp only [hcells.mem_iff, hdata]
  · exact ⟨_, build_complete hcomplete he, boxed_merged hpos he,
      holdsLargest_merged cfg now trig e grids⟩
  · change build trig cfg now grids = .error "IndexError"
    rw [build_eq, he]
    exact if_neg fun h => hcomplete (readable_iff.mp h)

theorem merge_order_free_levelAndTurned :
    (∀ grids' : List (Placed ℝ), grids'.Perm levelAndTurned →
      buildMergedMap Trig.real {} 0 (grids'.map Prod.fst) (grids'.map Prod.snd) =
        buildMergedMap Trig.real {} 0 (levelAndTurned.map Prod.fst)
          (levelAndTurned.map Prod.snd)) ∧
    (Complete levelAndTurned → ∃ merged,
      buildMergedMap Trig.real {} 0 (levelAndTurned.map Prod.fst)
        (levelAndTurned.map Prod.snd) = .ok (some merged) ∧
        Boxed Trig.real levelAndTurned merged ∧ HoldsLargest Trig.real levelAndTurned merged) ∧
    (¬ Complete levelAndTurned →
      buildMergedMap Trig.real {} 0 (levelAndTurned.map Prod.fst)
        (levelAndTurned.map Prod.snd) = .error "IndexError") := by
  have hne : levelAndTurned ≠ [] := List.cons_ne_nil _ _
  exact merge_order_free Trig.real {} 0 hne levelAndTurned_positive

end PatrolFleet.MergeMap
