import PatrolFleet.Lib.Scatter
import PatrolFleet.MergeMap.Extent

/-!
The loops of `build_merged_map` as one list of writes, each of which raises a merged
cell to the value of a known source cell.
-/

set_option autoImplicit false

namespace PatrolFleet.MergeMap

open Scatter

section

variable {K : Type} {grids : List (Placed K)} {g : Placed K} {x y : Nat}

/-- The indices of the source cells of a map, in the order of the loops. -/
def cells (g : Placed K) : List (Nat × Nat) :=
  (List.range g.1.info.height).flatMap fun y => (List.range g.1.info.width).map fun x => (x, y)

/-- The source cells of all maps. -/
def sourceCells (grids : List (Placed K)) : List (Placed K × Nat × Nat) :=
  grids.flatMap fun g => (cells g).map (Prod.mk g)

def readCell (c : Placed K × Nat × Nat) : Option Int :=
  c.1.1.data[c.2.1 + c.2.2 * c.1.1.info.width]?

/-- The source cell has the value, and is known. -/
structure Known (g : Placed K) (x y : Nat) (v : Int) : Prop where
  column : x < g.1.info.width
  row : y < g.1.info.height
  value : g.1.data[x + y * g.1.info.width]? = some v
  known : 0 ≤ v

theorem mem_sourceCells : (g, x, y) ∈ sourceCells grids ↔
    g ∈ grids ∧ x < g.1.info.width ∧ y < g.1.info.height := by
  have hcells : (x, y) ∈ cells g ↔ x < g.1.info.width ∧ y < g.1.info.height := by
    simp [cells, and_comm]
  rw [← hcells, sourceCells, List.mem_flatMap]
  constructor
  · rintro ⟨g', hg', hmem⟩
    obtain ⟨c, hc, heq⟩ := List.mem_map.mp hmem
    cases heq
    exact ⟨hg', hc⟩
  · rintro ⟨hg, hc⟩
    exact ⟨g, hg, List.mem_map_of_mem hc⟩

end

section

variable {K : Type} [Field K] [LinearOrder K] [FloorRing K] {trig : Trig K} {cfg : Config}
  {now : Time} {grids grids' : List (Placed K)} {e : Extent K} {g : Placed K} {x y : Nat} {v : Int}
  {merged : OccupancyGrid K}

/-- `build_merged_map` on maps with their transforms. -/
def build (trig : Trig K) (cfg : Config) (now : Time) (grids : List (Placed K)) :
    Except String (Option (OccupancyGrid K)) :=
  buildMergedMap trig cfg now (grids.map Prod.fst) (grids.map Prod.snd)

/-- The merged cell that the centre of a source cell falls into. -/
def target (trig : Trig K) (e : Extent K) (g : Placed K) (x y : Nat) : Int × Int :=
  e.index (cellMiddle trig g x y)

/-- What is written for a source cell with the value. -/
def cellWrite (trig : Trig K) (e : Extent K) (c : Placed K × Nat × Nat) (v : Int) :
    Option (Nat × Int) :=
  if 0 ≤ v ∧ e.Contains (target trig e c.1 c.2.1 c.2.2) then
    some (e.offset (target trig e c.1 c.2.1 c.2.2), v)
  else none

/-- What the loops write. -/
def writes (trig : Trig K) (e : Extent K) (grids : List (Placed K)) : List (Nat × Int) :=
  (sourceCells grids).filterMap fun c => (readCell c).bind (cellWrite trig e c)

/-- The message that is returned. -/
def mergedGrid (cfg : Config) (now : Time) (e : Extent K) (data : List Int) : OccupancyGrid K where
  stamp := now
  frameId := cfg.frameId
  info := ⟨now, e.resolution, e.width, e.height, ⟨⟨e.minX, e.minY, 0⟩, ⟨0, 0, 0, 1⟩⟩⟩
  data

def emptyData (e : Extent K) : List Int := List.replicate (e.width * e.height) (-1)

theorem mergeOccupancyValue_known (hv : 0 ≤ v) (existing : Int) :
    mergeOccupancyValue existing v = max existing v := by
  unfold mergeOccupancyValue
  split
  · omega
  split <;> omega

theorem loops_eq (data : List Int) :
    grids.foldlM (fun mergedData g =>
      (List.range g.1.info.height).foldlM (fun mergedData sourceYIndex =>
        (List.range g.1.info.width).foldlM (fun mergedData sourceXIndex =>
          mergeCell trig e g.1 g.2 sourceXIndex sourceYIndex mergedData)
          mergedData) mergedData) data =
    (sourceCells grids).foldlM (fun data c => mergeCell trig e c.1.1 c.1.2 c.2.1 c.2.2 data)
      data := by
  unfold sourceCells cells
  simp only [foldlM_flatMap, List.foldlM_map, List.map_flatMap]

theorem mergeValue_eq (c : Placed K × Nat × Nat) (data : List Int) :
    mergeValue trig e c.1.1 c.1.2 c.2.1 c.2.2 v data =
      scatter max data (cellWrite trig e c v).toList := by
  unfold mergeValue cellWrite
  rw [cellCentre_eq]
  by_cases hv : 0 ≤ v
  · rw [if_neg (not_lt.mpr hv)]
    by_cases hin : e.Contains (target trig e c.1 c.2.1 c.2.2)
    · rw [if_pos ⟨hv, hin⟩]
      simp only [mergeOccupancyValue_known hv]
      exact if_neg (not_not.mpr hin)
    · rw [if_neg fun h => hin h.2]
      exact if_pos hin
  · rw [if_pos (not_le.mp hv), if_neg fun h => hv h.1]
    rfl

theorem foldl_mergeValue (items : List (Placed K × Nat × Nat)) (data : List Int) :
    (items.filterMap fun c => (readCell c).map (Prod.mk c)).foldl
      (fun data p => mergeValue trig e p.1.1.1 p.1.1.2 p.1.2.1 p.1.2.2 p.2 data) data =
    scatter max data (items.filterMap fun c => (readCell c).bind (cellWrite trig e c)) := by
  induction items generalizing data with
  | nil => rfl
  | cons c items ih =>
    cases hread : readCell c with
    | none => simpa [hread] using ih data
    | some v =>
      have hhead : mergeValue trig e c.1.1 c.1.2 c.2.1 c.2.2 v data =
          scatter max data (cellWrite trig e c v).toList := mergeValue_eq c data
      rw [List.filterMap_cons_some (by rw [hread]; rfl), List.foldl_cons, hhead, ih]
      cases hwrite : cellWrite trig e c v with
      | none => rw [List.filterMap_cons_none (by rw [hread]; exact hwrite)]; rfl
      | some w => rw [List.filterMap_cons_some (by rw [hread]; exact hwrite)]; rfl

theorem mergeCell_none {c : Placed K × Nat × Nat} (h : readCell c = none) (data : List Int) :
    mergeCell trig e c.1.1 c.1.2 c.2.1 c.2.2 data = .error "IndexError" := by
  unfold readCell at h
  unfold mergeCell
  rw [h]

theorem mergeCell_some {c : Placed K × Nat × Nat} (h : readCell c = some v) (data : List Int) :
    mergeCell trig e c.1.1 c.1.2 c.2.1 c.2.2 data =
      .ok (mergeValue trig e c.1.1 c.1.2 c.2.1 c.2.2 v data) := by
  unfold readCell at h
  unfold mergeCell
  rw [h]

/-- Either some source cell cannot be read, or the merged data is what the writes
make of an unknown grid. -/
theorem build_eq (trig : Trig K) (cfg : Config) (now : Time) (grids : List (Placed K)) :
    build trig cfg now grids =
      match mergedExtent trig (grids.map Prod.fst) (grids.map Prod.snd) with
      | none => .ok none
      | some e =>
        if ∀ c ∈ sourceCells grids, (readCell c).isSome = true then
          .ok (some (mergedGrid cfg now e (scatter max (emptyData e) (writes trig e grids))))
        else .error "IndexError" := by
  unfold build buildMergedMap
  cases mergedExtent trig (grids.map Prod.fst) (grids.map Prod.snd) with
  | none => rfl
  | some e =>
    have hloop : (sourceCells grids).foldlM
        (fun data c => mergeCell trig e c.1.1 c.1.2 c.2.1 c.2.2 data) (emptyData e) = _ :=
      foldlM_except (fun data c hnone => mergeCell_none hnone data)
        fun data c v hsome => mergeCell_some hsome data
    rw [foldl_mergeValue] at hloop
    unfold emptyData at hloop
    simp only [zip_grids, loops_eq, hloop]
    split <;> rfl

/-! ### The merged cells -/

/-- A known source cell with the value has its centre in the merged cell. -/
def Lands (trig : Trig K) (e : Extent K) (grids : List (Placed K)) (cell : Int × Int) (v : Int) :
    Prop :=
  ∃ g ∈ grids, ∃ x y, Known g x y v ∧ target trig e g x y = cell

theorem mem_hits_writes {cell : Int × Int} (hcell : e.Contains cell) :
    v ∈ hits (e.offset cell) (writes trig e grids) ↔ Lands trig e grids cell v := by
  rw [mem_hits, writes, List.mem_filterMap]
  constructor
  · rintro ⟨⟨g, x, y⟩, hmem, hwrite⟩
    obtain ⟨u, hread, hwrite⟩ := Option.bind_eq_some_iff.mp hwrite
    unfold cellWrite at hwrite
    split at hwrite
    next hin =>
      obtain ⟨hoffset, rfl⟩ := Prod.mk.inj (Option.some.inj hwrite)
      obtain ⟨hg, hx, hy⟩ := mem_sourceCells.mp hmem
      exact ⟨g, hg, x, y, ⟨hx, hy, hread, hin.1⟩, Extent.offset_inj hin.2 hcell hoffset⟩
    · cases hwrite
  · rintro ⟨g, hg, x, y, hknown, rfl⟩
    refine ⟨(g, x, y), mem_sourceCells.mpr ⟨hg, hknown.column, hknown.row⟩, ?_⟩
    rw [readCell, hknown.value, Option.bind_some, cellWrite, if_pos ⟨hknown.known, hcell⟩]

theorem merged_cell (trig : Trig K) (grids : List (Placed K)) {cell : Int × Int}
    (hcell : e.Contains cell) :
    ∃ r, (scatter max (emptyData e) (writes trig e grids))[e.offset cell]? = some r ∧
      (r = -1 ∧ (∀ v, ¬ Lands trig e grids cell v) ∨
        IsGreatest {v | Lands trig e grids cell v} r) := by
  have hempty : (emptyData e)[e.offset cell]? = some (-1) :=
    List.getElem?_replicate_of_lt (Extent.offset_lt hcell)
  refine ⟨_, by rw [getElem?_scatter, hempty]; rfl, ?_⟩
  by_cases hnone : hits (e.offset cell) (writes trig e grids) = []
  · refine Or.inl ⟨by rw [hnone]; rfl, fun v hv => ?_⟩
    rw [← mem_hits_writes hcell, hnone] at hv
    cases hv
  · have hset : {v | Lands trig e grids cell v} =
        {v | v ∈ hits (e.offset cell) (writes trig e grids)} := by
      ext v
      exact (mem_hits_writes hcell).symm
    rw [hset]
    refine Or.inr (foldl_max_isGreatest ?_ hnone)
    intro v hv
    obtain ⟨g, _, x, y, hknown, _⟩ := (mem_hits_writes hcell).mp hv
    have := hknown.known
    omega

end

end PatrolFleet.MergeMap
