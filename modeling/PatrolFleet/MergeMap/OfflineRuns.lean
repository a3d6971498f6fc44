import PatrolFleet.MergeMap.OfflineMerging

/-!
The offline merger over whole runs. A merge renames the frame of the first map that it
keeps, which no later merge looks at.
-/

set_option autoImplicit false

namespace PatrolFleet.MergeMap.Offline

open Latest

/-- A message on the topic of a robot. -/
structure Message (K : Type) where
  index : Nat
  msg : OccupancyGrid K

/-- The map, if the message is one of the robot. -/
def Message.sent {K : Type} (i : Nat) (r : Message K) : Option (OccupancyGrid K) :=
  if r.index = i then some r.msg else none

/-- The last map of each robot. -/
def lastMaps {K : Type} (cfg : Config) (rs : List (Message K)) : List (Option (OccupancyGrid K)) :=
  registers Message.sent cfg.robotCount rs

theorem lastMaps_concat {K : Type} {cfg : Config} {rs : List (Message K)} {r : Message K} :
    lastMaps cfg (rs ++ [r]) = (lastMaps cfg rs).set r.index (some r.msg) :=
  registers_write (if_pos rfl) fun _ hi => if_neg (Ne.symm hi)

/-- A map without the name of its frame. -/
def contents {K : Type} (m : OccupancyGrid K) : OccupancyGrid K := { m with frameId := "" }

section

variable {K : Type} {maps maps' : List (OccupancyGrid K)} {m : OccupancyGrid K}
  {ms ms' : List (Option (OccupancyGrid K))}

theorem mem_contents (h : maps'.map contents = maps.map contents) (hm : m ∈ maps') :
    ∃ m' ∈ maps, m'.info = m.info ∧ m'.data = m.data := by
  have hmem : contents m ∈ maps.map contents := h ▸ List.mem_map_of_mem hm
  obtain ⟨m', hm', heq⟩ := List.mem_map.mp hmem
  have hinfo : (contents m').info = (contents m).info := by rw [heq]
  have hdata : (contents m').data = (contents m).data := by rw [heq]
  exact ⟨m', hm', hinfo, hdata⟩

end

section

variable {K : Type} [Field K] [LinearOrder K] [FloorRing K] {cfg : Config}
  {rs : List (Message K)} {r : Message K} {s : State K} {maps maps' : List (OccupancyGrid K)}
  {merged m : OccupancyGrid K}

/-- An exception ends the node. -/
def machine (cfg : Config) : Machine (State K) (Message K) where
  init := ⟨List.replicate cfg.robotCount none⟩
  step s r :=
    if r.index < cfg.robotCount then
      match mapCallback cfg r.msg r.index s with
      | (t, .ok _) => some t
      | (_, .error _) => none
    else none

/-- The node keeps the last map of each robot, but for the names of the frames. -/
def Keeps (cfg : Config) (rs : List (Message K)) (s : State K) : Prop :=
  s.maps.map (Option.map contents) = (lastMaps cfg rs).map (Option.map contents)

theorem landing_subset (h : maps'.map contents = maps.map contents) (i j : Nat) :
    landing maps' merged i j ⊆ landing maps merged i j := by
  rintro v ⟨hv, m, hm, x, hx, y, hy, hvalue, hcell⟩
  obtain ⟨m', hm', hinfo, hdata⟩ := mem_contents h hm
  refine ⟨hv, m', hm', x, hinfo ▸ hx, y, hinfo ▸ hy, ?_, ?_⟩
  · rw [← hvalue, OccupancyGrid.valueAt, OccupancyGrid.valueAt, hinfo, hdata]
  · rw [← hcell, cellCorner, cellCorner, hinfo]

theorem Overlaid.congr (h : maps'.map contents = maps.map contents)
    (hover : Overlaid maps' merged) : Overlaid maps merged where
  obstacle m hm x hx y hy hvalue := by
    obtain ⟨m', hm', hinfo, hdata⟩ := mem_contents h.symm hm
    have hobstacle := hover.obstacle m' hm' x (hinfo ▸ hx) y (hinfo ▸ hy) (by
      rw [← hvalue, OccupancyGrid.valueAt, OccupancyGrid.valueAt, hinfo, hdata])
    unfold cellCorner at hobstacle ⊢
    rwa [hinfo] at hobstacle
  cell i hi j hj := by
    have hsame : landing maps' merged i j = landing maps merged i j :=
      (landing_subset h i j).antisymm (landing_subset h.symm i j)
    rw [← hsame]
    exact hover.cell i hi j hj

variable [IsStrictOrderedRing K]

end

end PatrolFleet.MergeMap.Offline
