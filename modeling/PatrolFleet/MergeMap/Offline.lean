import PatrolFleet.Lib.Latest
import PatrolFleet.MergeMap.Merging

/-!
The node `offline_merge_map`, which merges maps that share one frame. It does not look
up transforms and does not check the messages.
-/

set_option autoImplicit false

namespace PatrolFleet.MergeMap.Offline

structure Config where
  frameId : String := "merge_map"
  robotCount : Nat := 3

/-! ### Python's sequences -/

/-- A negative index counts from the end. -/
def position (index : Int) (length : Nat) : Option Nat :=
  let i := if index < 0 then index + length else index
  if 0 ≤ i ∧ i < length then some i.toNat else none

def getItem (data : List Int) (index : Int) : Except String Int :=
  match (position index data.length).bind (data[·]?) with
  | none => .error "IndexError"
  | some value => .ok value

def setItem (data : List Int) (index : Int) (value : Int) : Except String (List Int) :=
  match position index data.length with
  | none => .error "IndexError"
  | some i => .ok (data.set i value)

section

variable {K : Type} [Field K] [LinearOrder K] [FloorRing K]

/-- The boundaries and the size of the merged map. The class of the message refuses a
negative size. -/
def mergedInfo (maps : List (OccupancyGrid K)) : Except String (Extent K) :=
  match (maps.map fun m => m.info.origin.position.x).min?,
    (maps.map fun m => m.info.origin.position.y).min?,
    (maps.map fun m => m.info.origin.position.x + (m.info.width : K) * m.info.resolution).max?,
    (maps.map fun m => m.info.origin.position.y + (m.info.height : K) * m.info.resolution).max?,
    (maps.map (·.info.resolution)).min? with
  | some minX, some minY, some maxX, some maxY, some resolution =>
    if resolution = 0 then .error "ZeroDivisionError"
    else
      let width := ⌈(maxX - minX) / resolution⌉
      let height := ⌈(maxY - minY) / resolution⌉
      if width < 0 ∨ height < 0 then .error "AssertionError"
      else .ok { minX, minY, resolution, width := width.toNat, height := height.toNat }
  | _, _, _, _, _ => .error "IndexError"

/-- The corner of a cell that is its lowest in both coordinates. -/
def cellCorner (map_ : OccupancyGrid K) (x y : Nat) : K × K :=
  (map_.info.origin.position.x + x * map_.info.resolution,
    map_.info.origin.position.y + y * map_.info.resolution)

/-- The body of the innermost loop. -/
def mergeCell (e : Extent K) (map_ : OccupancyGrid K) (x y : Nat) (data : List Int) :
    Except String (List Int) :=
  let i := x + y * map_.info.width
  let (mergedX, mergedY) := e.index (cellCorner map_ x y)
  let mergedI := mergedX + mergedY * e.width
  match map_.data[i]? with
  | none => .error "IndexError"
  | some value =>
    if value = 100 then setItem data mergedI 100
    else if value = 0 ∨ value = -1 then do
      let existing ← getItem data mergedI
      if existing = -1 then setItem data mergedI value else return data
    else return data

/-- The loops. -/
def mergeCells (e : Extent K) (maps : List (OccupancyGrid K)) (data : List Int) :
    Except String (List Int) :=
  maps.foldlM (fun data map_ =>
    (List.range map_.info.height).foldlM (fun data y =>
      (List.range map_.info.width).foldlM (fun data x => mergeCell e map_ x y data) data) data)
    data

/-- The maps afterwards, and the merged one. Its header is that of the first map, whose
frame is renamed with it. -/
def mergeMaps (maps : List (OccupancyGrid K)) (frameId : String) :
    List (OccupancyGrid K) × Except String (OccupancyGrid K) :=
  match maps with
  | [] => ([], .error "IndexError")
  | first :: rest =>
    let first := { first with frameId }
    (first :: rest, do
      let e ← mergedInfo (first :: rest)
      let data ← mergeCells e (first :: rest) (List.replicate (e.width * e.height) (-1))
      return {
        stamp := first.stamp
        frameId
        info := {
          mapLoadTime := 0
          resolution := e.resolution
          width := e.width
          height := e.height
          origin := ⟨⟨e.minX, e.minY, 0⟩, ⟨0, 0, 0, 1⟩⟩ }
        data })

/-! ### The callbacks -/

def tryMergeAndPublish (cfg : Config) (s : State K) :
    State K × Except String (Option (OccupancyGrid K)) :=
  if s.maps.all (·.isSome) then
    let (maps, mergedMap) := mergeMaps (s.maps.filterMap id) cfg.frameId
    (⟨maps.map some⟩, mergedMap.map some)
  else (s, .ok none)

/-- The state, and what is published. -/
def mapCallback (cfg : Config) (msg : OccupancyGrid K) (index : Nat) (s : State K) :
    State K × Except String (Option (OccupancyGrid K)) :=
  let s : State K := ⟨s.maps.set index (some msg)⟩
  tryMergeAndPublish cfg s

end

end PatrolFleet.MergeMap.Offline
