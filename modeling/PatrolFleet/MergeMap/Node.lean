import Mathlib.Analysis.SpecialFunctions.Complex.Arg
import Mathlib.Data.Rat.Floor
import PatrolFleet.Interfaces
import PatrolFleet.Lib.Machine
import PatrolFleet.Lib.Planar

/-!
The node `merge_map`: it merges the occupancy grids of the robots into one, in
exact arithmetic over an ordered field.
-/

set_option autoImplicit false

namespace PatrolFleet.MergeMap

/-- The functions of Python's `math` that the node uses. -/
structure Trig (K : Type) [Field K] where
  sin : K → K
  cos : K → K
  atan2 : K → K → K
  cos_sq_add_sin_sq : ∀ x, cos x ^ 2 + sin x ^ 2 = 1

structure Vector3 (K : Type) where
  x : K
  y : K
  z : K
  deriving DecidableEq

structure Quaternion (K : Type) where
  x : K
  y : K
  z : K
  w : K
  deriving DecidableEq

structure Pose (K : Type) where
  position : Vector3 K
  orientation : Quaternion K
  deriving DecidableEq

structure Transform (K : Type) where
  translation : Vector3 K
  rotation : Quaternion K
  deriving DecidableEq

structure MapMetaData (K : Type) where
  mapLoadTime : Time
  resolution : K
  width : Nat
  height : Nat
  origin : Pose K
  deriving DecidableEq

/-- Cells are row-major; unknown is -1. -/
structure OccupancyGrid (K : Type) where
  stamp : Time
  frameId : String
  info : MapMetaData K
  data : List Int
  deriving DecidableEq

structure Config where
  frameId : String := "merged_map"
  robotCount : Nat := 2

section

variable {K : Type} [Field K] (trig : Trig K)

/-! ### Planar transforms -/

def quaternionToYaw (q : Quaternion K) : K :=
  let sinYaw := 2 * (q.w * q.z + q.x * q.y)
  let cosYaw := 1 - 2 * (q.y * q.y + q.z * q.z)
  trig.atan2 sinYaw cosYaw

def transformXy (x y translationX translationY yaw : K) : K × K :=
  let cosYaw := trig.cos yaw
  let sinYaw := trig.sin yaw
  (translationX + cosYaw * x - sinYaw * y, translationY + sinYaw * x + cosYaw * y)

def mapPointToSourceFrame (mapMessage : OccupancyGrid K) (localX localY : K) : K × K :=
  let origin := mapMessage.info.origin
  let originYaw := quaternionToYaw trig origin.orientation
  transformXy trig localX localY origin.position.x origin.position.y originYaw

def transformSourcePointToMerged (sourceX sourceY : K) (transform : Transform K) : K × K :=
  let transformYaw := quaternionToYaw trig transform.rotation
  transformXy trig sourceX sourceY transform.translation.x transform.translation.y transformYaw

/-- A point of the grid in the merged frame. -/
def mapPointToMerged (mapMessage : OccupancyGrid K) (transform : Transform K)
    (localX localY : K) : K × K :=
  let source := mapPointToSourceFrame trig mapMessage localX localY
  transformSourcePointToMerged trig source.1 source.2 transform

def calculateTransformedBounds (mapMessage : OccupancyGrid K) (transform : Transform K) :
    List (K × K) :=
  let widthMetres := mapMessage.info.width * mapMessage.info.resolution
  let heightMetres := mapMessage.info.height * mapMessage.info.resolution
  [(0, 0), (widthMetres, 0), (0, heightMetres), (widthMetres, heightMetres)].map
    fun corner => mapPointToMerged trig mapMessage transform corner.1 corner.2

/-- The centre of a cell, seen from the corner of the grid. -/
def OccupancyGrid.middleOf (m : OccupancyGrid K) (i j : Nat) : K × K :=
  ((i + 1 / 2) * m.info.resolution, (j + 1 / 2) * m.info.resolution)

/-- The centre of a cell in the frame of a grid that is not rotated. -/
def OccupancyGrid.centreOf (m : OccupancyGrid K) (i j : Nat) : K × K :=
  (m.info.origin.position.x + (i + 1 / 2) * m.info.resolution,
    m.info.origin.position.y + (j + 1 / 2) * m.info.resolution)

end

/-- The functions on the real numbers. -/
noncomputable def Trig.real : Trig ℝ where
  sin := Real.sin
  cos := Real.cos
  atan2 y x := Complex.arg ⟨x, y⟩
  cos_sq_add_sin_sq := Real.cos_sq_add_sin_sq

/-- The rotation about the vertical axis. -/
noncomputable def Quaternion.ofYaw (yaw : ℝ) : Quaternion ℝ :=
  ⟨0, 0, Real.sin (yaw / 2), Real.cos (yaw / 2)⟩

theorem quaternionToYaw_ofYaw {yaw : ℝ} (h : yaw ∈ Set.Ioc (-Real.pi) Real.pi) :
    quaternionToYaw Trig.real (.ofYaw yaw) = yaw := by
  have hhalf : 2 * (yaw / 2) = yaw := mul_div_cancel₀ yaw two_ne_zero
  have hsin : 2 * (Real.cos (yaw / 2) * Real.sin (yaw / 2) + 0 * 0) = Real.sin yaw := by
    rw [← hhalf, Real.sin_two_mul, hhalf]
    ring
  have hcos : 1 - 2 * (0 * 0 + Real.sin (yaw / 2) * Real.sin (yaw / 2)) = Real.cos yaw := by
    rw [← hhalf, Real.cos_two_mul', hhalf]
    linear_combination -Real.cos_sq_add_sin_sq (yaw / 2)
  have harg : (⟨Real.cos yaw, Real.sin yaw⟩ : ℂ) =
      Complex.cos yaw + Complex.sin yaw * Complex.I := by
    rw [← Complex.ofReal_cos, ← Complex.ofReal_sin, Complex.mk_eq_add_mul_I]
  unfold quaternionToYaw Quaternion.ofYaw
  simp only [Trig.real, hsin, hcos, harg]
  exact Complex.arg_cos_add_sin_mul_I h

/-! ### Merging -/

def mergeOccupancyValue (existingValue incomingValue : Int) : Int :=
  if incomingValue < 0 then existingValue
  else if existingValue < 0 then incomingValue
  else max existingValue incomingValue

section

variable {K : Type} [Field K] [LinearOrder K] [FloorRing K] (trig : Trig K)

/-- What the merged grid is to cover, and in which steps. -/
structure Extent (K : Type) where
  minX : K
  minY : K
  resolution : K
  width : Nat
  height : Nat
  deriving DecidableEq

/-- The first part of `build_merged_map`; `none` when it returns without a grid. -/
def mergedExtent (maps : List (OccupancyGrid K)) (transforms : List (Transform K)) :
    Option (Extent K) :=
  let allCorners := (maps.zip transforms).flatMap fun g => calculateTransformedBounds trig g.1 g.2
  match (allCorners.map Prod.fst).min?, (allCorners.map Prod.snd).min?,
    (allCorners.map Prod.fst).max?, (allCorners.map Prod.snd).max?,
    (maps.map (·.info.resolution)).min? with
  | some minX, some minY, some maxX, some maxY, some resolution =>
    if resolution ≤ 0 then none
    else some {
      minX
      minY
      resolution
      width := (max 1 ⌈(maxX - minX) / resolution⌉).toNat
      height := (max 1 ⌈(maxY - minY) / resolution⌉).toNat }
  | _, _, _, _, _ => none

/-- The cell that a point of the merged frame falls into. -/
def Extent.index (e : Extent K) (p : K × K) : Int × Int :=
  (⌊(p.1 - e.minX) / e.resolution⌋, ⌊(p.2 - e.minY) / e.resolution⌋)

/-- The centre of a source cell in the merged frame. -/
def cellCentre (mapMessage : OccupancyGrid K) (transform : Transform K)
    (sourceXIndex sourceYIndex : Nat) : K × K :=
  mapPointToMerged trig mapMessage transform
    ((sourceXIndex + 1 / 2) * mapMessage.info.resolution)
    ((sourceYIndex + 1 / 2) * mapMessage.info.resolution)

/-- The body of the innermost loop once the source cell has been read. -/
def mergeValue (e : Extent K) (mapMessage : OccupancyGrid K) (transform : Transform K)
    (sourceXIndex sourceYIndex : Nat) (incomingValue : Int) (mergedData : List Int) : List Int :=
  if incomingValue < 0 then mergedData
  else
    let (mergedXIndex, mergedYIndex) :=
      e.index (cellCentre trig mapMessage transform sourceXIndex sourceYIndex)
    if ¬ (0 ≤ mergedXIndex ∧ mergedXIndex < e.width ∧ 0 ≤ mergedYIndex ∧
        mergedYIndex < e.height) then
      mergedData
    else
      mergedData.modify (mergedXIndex + mergedYIndex * e.width).toNat
        (mergeOccupancyValue · incomingValue)

/-- The body of the innermost loop. A read beyond the data raises. -/
def mergeCell (e : Extent K) (mapMessage : OccupancyGrid K) (transform : Transform K)
    (sourceXIndex sourceYIndex : Nat) (mergedData : List Int) : Except String (List Int) :=
  match mapMessage.data[sourceXIndex + sourceYIndex * mapMessage.info.width]? with
  | none => .error "IndexError"
  | some incomingValue =>
    .ok (mergeValue trig e mapMessage transform sourceXIndex sourceYIndex incomingValue mergedData)

def buildMergedMap (cfg : Config) (now : Time) (maps : List (OccupancyGrid K))
    (transforms : List (Transform K)) : Except String (Option (OccupancyGrid K)) :=
  match mergedExtent trig maps transforms with
  | none => .ok none
  | some e => do
    let mergedData ← (maps.zip transforms).foldlM (fun mergedData g =>
      (List.range g.1.info.height).foldlM (fun mergedData sourceYIndex =>
        (List.range g.1.info.width).foldlM (fun mergedData sourceXIndex =>
          mergeCell trig e g.1 g.2 sourceXIndex sourceYIndex mergedData)
          mergedData) mergedData)
      (List.replicate (e.width * e.height) (-1))
    return some {
      stamp := now
      frameId := cfg.frameId
      info := {
        mapLoadTime := now
        resolution := e.resolution
        width := e.width
        height := e.height
        origin := ⟨⟨e.minX, e.minY, 0⟩, ⟨0, 0, 0, 1⟩⟩ }
      data := mergedData }

/-! ### The callbacks -/

structure State (K : Type) where
  maps : List (Option (OccupancyGrid K))

def State.init (cfg : Config) : State K := ⟨List.replicate cfg.robotCount none⟩

/-- The checks of `map_callback`. -/
def OccupancyGrid.accepted {K : Type} (message : OccupancyGrid K) : Bool :=
  !message.frameId.isEmpty && message.data.length == message.info.width * message.info.height

/-- `lookups` is what `lookup_map_transform` returns for each of the maps. -/
def tryMergeAndPublish (cfg : Config) (now : Time) (lookups : List (Option (Transform K)))
    (s : State K) : Except String (Option (OccupancyGrid K)) :=
  if !s.maps.all (·.isSome) then .ok none
  else match lookups.mapM id with
    | none => .ok none
    | some transforms => buildMergedMap trig cfg now (s.maps.filterMap id) transforms

/-- The state, and what is published. -/
def mapCallback (cfg : Config) (now : Time) (lookups : List (Option (Transform K)))
    (message : OccupancyGrid K) (index : Nat) (s : State K) :
    State K × Except String (Option (OccupancyGrid K)) :=
  if !message.accepted then (s, .ok none)
  else
    let s : State K := ⟨s.maps.set index (some message)⟩
    (s, tryMergeAndPublish trig cfg now lookups s)

end

end PatrolFleet.MergeMap
