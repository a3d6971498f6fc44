import PatrolFleet.Lib.Latest
import PatrolFleet.MergeMap.Merging

/-!
The merger over whole runs: what it publishes is the merge of the last good map of
each robot, however the messages of the robots were interleaved.
-/

set_option autoImplicit false

namespace PatrolFleet.MergeMap

open Latest

section

variable {K : Type} {cfg : Config} {i : Nat} {rs rs' : List (Received K)} {r : Received K}

/-- The map, if the message is one of the robot and passes the checks. -/
def Received.good (i : Nat) (r : Received K) : Option (OccupancyGrid K) :=
  if r.index = i ∧ r.message.accepted = true then some r.message else none

/-- The last good map of each robot. -/
def lastMaps (cfg : Config) (rs : List (Received K)) : List (Option (OccupancyGrid K)) :=
  registers Received.good cfg.robotCount rs

/-- Every robot has sent a good map, every transform is there, and no resolution is
zero or less. -/
structure Mergeable (cfg : Config) (rs : List (Received K)) (r : Received K) [Zero K] [LT K]
    (grids : List (Placed K)) : Prop where
  maps : lastMaps cfg (rs ++ [r]) = grids.map fun g => some g.1
  lookups : r.lookups = grids.map fun g => some g.2
  positive : ∀ g ∈ grids, 0 < g.1.info.resolution

theorem Received.good_of_index_ne (h : r.index ≠ i) : r.good i = none :=
  if_neg fun hr => h hr.1

theorem lastMaps_congr
    (h : ∀ i, rs.filter (fun r => r.index = i) = rs'.filter fun r => r.index = i) :
    lastMaps cfg rs = lastMaps cfg rs' :=
  registers_congr (p := fun i r => decide (r.index = i))
    (fun i r hr => Received.good_of_index_ne (by simpa using hr)) h

theorem lastMaps_concat (hr : r.message.accepted = true) :
    lastMaps cfg (rs ++ [r]) = (lastMaps cfg rs).set r.index (some r.message) :=
  registers_write (if_pos ⟨rfl, hr⟩) fun _ hi => Received.good_of_index_ne (Ne.symm hi)

theorem lastMaps_rejected (hr : r.message.accepted = false) :
    lastMaps cfg (rs ++ [r]) = lastMaps cfg rs :=
  registers_skip fun i => by simp [Received.good, hr]

theorem isSome_of_mapM {l : List (Option K)} (h : (l.mapM id).isSome = true) :
    ∀ a ∈ l, a.isSome = true := by
  induction l with
  | nil => simp
  | cons a l ih =>
    cases a with
    | none => cases h
    | some a =>
      cases hl : l.mapM id with
      | none => simp [List.mapM_cons, hl] at h
      | some as => simpa using ih (Option.isSome_of_eq_some hl)

theorem placed_inj {grids grids' : List (Placed K)}
    (hmaps : (grids.map fun g => some g.1) = grids'.map fun g => some g.1)
    (hlookups : (grids.map fun g => some g.2) = grids'.map fun g => some g.2) :
    grids = grids' := by
  induction grids generalizing grids' with
  | nil => exact (List.map_eq_nil_iff.mp hmaps.symm).symm
  | cons g grids ih =>
    cases grids' with
    | nil => cases hmaps
    | cons g' grids' =>
      simp only [List.map_cons, List.cons.injEq, Option.some.injEq] at hmaps hlookups
      rw [Prod.ext hmaps.1 hlookups.1, ih hmaps.2 hlookups.2]

theorem exists_placed {maps : List (Option (OccupancyGrid K))}
    {lookups : List (Option (Transform K))} (hlength : lookups.length = maps.length)
    (hmaps : ∀ m ∈ maps, m.isSome = true) (hlookups : ∀ l ∈ lookups, l.isSome = true) :
    ∃ grids : List (Placed K), maps = grids.map (fun g => some g.1) ∧
      lookups = grids.map fun g => some g.2 := by
  induction maps generalizing lookups with
  | nil => exact ⟨[], rfl, List.length_eq_zero_iff.mp hlength⟩
  | cons m maps ih =>
    obtain ⟨l, lookups, rfl⟩ := List.exists_cons_of_length_eq_add_one hlength
    obtain ⟨m, rfl⟩ := Option.isSome_iff_exists.mp (hmaps m (by simp))
    obtain ⟨l, rfl⟩ := Option.isSome_iff_exists.mp (hlookups l (by simp))
    obtain ⟨grids, hm, hl⟩ := ih (by simpa using hlength) (fun m hm => hmaps m (by simp [hm]))
      fun l hl => hlookups l (by simp [hl])
    exact ⟨(m, l) :: grids, by simp [hm], by simp [hl]⟩

end

section

variable {K : Type} [Field K] [LinearOrder K] [FloorRing K] {trig : Trig K} {cfg : Config}
  {rs rs' : List (Received K)} {r : Received K} {s : State K} {grids : List (Placed K)}

theorem mapCallback_fst (hs : s.maps = lastMaps cfg rs) :
    (mapCallback trig cfg r.now r.lookups r.message r.index s).1.maps =
      lastMaps cfg (rs ++ [r]) := by
  unfold mapCallback
  cases hr : r.message.accepted with
  | true => simp [lastMaps_concat hr, hs]
  | false => simp [lastMaps_rejected hr, hs]

theorem run_eq (h : ∀ r ∈ rs, r.index < cfg.robotCount) :
    (machine trig cfg).run rs = some ⟨lastMaps cfg rs⟩ := by
  induction rs using List.reverseRecOn with
  | nil => simp [Machine.run, machine, State.init, lastMaps, registers_nil]
  | append_singleton rs r ih =>
    refine Machine.run_concat _ (ih fun r' hr' => h r' (by simp [hr'])) ?_
    have hindex : r.index < cfg.robotCount := h r (by simp)
    simp only [machine, if_pos hindex, Option.some.injEq]
    exact congrArg State.mk (mapCallback_fst rfl)

theorem run_index (h : (machine trig cfg).run rs = some s) :
    ∀ r ∈ rs, r.index < cfg.robotCount := by
  induction rs using List.reverseRecOn generalizing s with
  | nil => simp
  | append_singleton rs r ih =>
    obtain ⟨t, ht, hs⟩ := Machine.run_concat_inv _ h
    intro r' hr'
    rcases List.mem_append.mp hr' with hr' | hr'
    · exact ih ht r' hr'
    · rw [List.mem_singleton.mp hr']
      by_contra hindex
      simp [machine, hindex] at hs

theorem run_maps (h : (machine trig cfg).run rs = some s) : s = ⟨lastMaps cfg rs⟩ := by
  rw [run_eq (run_index h)] at h
  exact (Option.some.inj h).symm

theorem tryMergeAndPublish_placed {lookups : List (Option (Transform K))} {now : Time}
    (hmaps : s.maps = grids.map fun g => some g.1)
    (hlookups : lookups = grids.map fun g => some g.2) :
    tryMergeAndPublish trig cfg now lookups s = build trig cfg now grids := by
  have hall : s.maps.all (·.isSome) = true := by simp [hmaps]
  have htransforms : lookups.mapM id = some (grids.map Prod.snd) := by
    rw [hlookups]
    clear hmaps hlookups hall
    induction grids with
    | nil => rfl
    | cons g grids ih => simp [List.mapM_cons, ih]
  unfold tryMergeAndPublish build
  rw [hall, htransforms, hmaps]
  simp [List.filterMap_map, List.filterMap_eq_map']

theorem tryMergeAndPublish_missing {lookups : List (Option (Transform K))} {now : Time}
    (hlength : lookups.length = s.maps.length)
    (h : ∀ grids : List (Placed K), s.maps = grids.map (fun g => some g.1) →
      lookups ≠ grids.map fun g => some g.2) :
    tryMergeAndPublish trig cfg now lookups s = .ok none := by
  unfold tryMergeAndPublish
  cases hall : s.maps.all (·.isSome) with
  | false => rfl
  | true =>
    cases htransforms : lookups.mapM id with
    | none => rfl
    | some transforms =>
      obtain ⟨grids, hm, hl⟩ := exists_placed hlength (List.all_eq_true.mp hall)
        (isSome_of_mapM (Option.isSome_of_eq_some htransforms))
      exact absurd hl (h grids hm)

theorem mergedExtent_positive
    (h : (mergedExtent trig (grids.map Prod.fst) (grids.map Prod.snd)).isSome = true) :
    ∀ g ∈ grids, 0 < g.1.info.resolution := by
  intro g hg
  obtain ⟨e, he⟩ := Option.isSome_iff_exists.mp h
  obtain ⟨maxX, maxY, hspans⟩ := mergedExtent_spans he
  exact hspans.positive.trans_le (hspans.resolution_le hg)

variable [IsStrictOrderedRing K]

/-- With the last good maps as its state, the node publishes their merge if it can. -/
theorem tryMergeAndPublish_lastMaps (hs : (machine trig cfg).Reachable s)
    (hmaps : s.maps = lastMaps cfg (rs ++ [r])) (hcount : 0 < cfg.robotCount)
    (hlookups : r.lookups.length = cfg.robotCount) :
    ∃ result, tryMergeAndPublish trig cfg r.now r.lookups s = .ok result ∧
      (result.isSome = true ↔ ∃ grids, Mergeable cfg rs r grids) ∧
      ∀ merged ∈ result, ∃ grids, Mergeable cfg rs r grids ∧ Kept trig grids merged ∧
        Boxed trig grids merged ∧ HoldsLargest trig grids merged := by
  by_cases hready : ∃ grids : List (Placed K), s.maps = grids.map (fun g => some g.1) ∧
      r.lookups = grids.map fun g => some g.2
  · obtain ⟨grids, hm, hl⟩ := hready
    have hne : grids ≠ [] := by
      rintro rfl
      simp only [hl, List.map_nil, List.length_nil] at hlookups
      omega
    rw [tryMergeAndPublish_placed hm hl]
    cases he : mergedExtent trig (grids.map Prod.fst) (grids.map Prod.snd) with
    | none =>
      refine ⟨none, by rw [build_eq, he], ?_, fun merged hmerged => by cases hmerged⟩
      simp only [Option.isSome_none, Bool.false_eq_true, false_iff]
      rintro ⟨grids', hmergeable⟩
      have hm' := hmergeable.maps.symm.trans (hmaps.symm.trans hm)
      have hsame : grids' = grids := placed_inj hm' (hmergeable.lookups.symm.trans hl)
      obtain ⟨e, he'⟩ := mergedExtent_isSome trig hne (hsame ▸ hmergeable.positive)
      rw [he] at he'
      cases he'
    | some e =>
      have hmergeable : Mergeable cfg rs r grids :=
        ⟨hmaps.symm.trans hm, hl, mergedExtent_positive (Option.isSome_of_eq_some he)⟩
      refine ⟨_, build_complete (accepted_complete hs hm) he, ?_, fun merged hmerged => ?_⟩
      · simp only [Option.isSome_some, true_iff]
        exact ⟨grids, hmergeable⟩
      · cases hmerged
        exact ⟨grids, hmergeable, kept_merged he, boxed_merged hmergeable.positive he,
          holdsLargest_merged cfg r.now trig e grids⟩
  · have hlength : r.lookups.length = s.maps.length := by
      rw [hlookups, hmaps, lastMaps, length_registers]
    have hmissing : tryMergeAndPublish trig cfg r.now r.lookups s = .ok none :=
      tryMergeAndPublish_missing hlength fun grids hm hl => hready ⟨grids, hm, hl⟩
    refine ⟨none, hmissing, ?_, fun merged hmerged => by cases hmerged⟩
    simp only [Option.isSome_none, Bool.false_eq_true, false_iff]
    rintro ⟨grids, hmergeable⟩
    exact hready ⟨grids, hmaps.trans hmergeable.maps, hmergeable.lookups⟩

end

/-- In exact, finite arithmetic (no rounding, no NaN or infinity, a width of any size): on
every message the node publishes the merge of the last good maps of the robots, if it has
all of them with their transforms, and nothing else. How the messages of the robots were
interleaved makes no difference. -/
theorem publishes_last_maps {K : Type} [Field K] [LinearOrder K] [IsStrictOrderedRing K]
    [FloorRing K] {trig : Trig K} {cfg : Config} {rs : List (Received K)} {r : Received K}
    {s : State K} (h : (machine trig cfg).run rs = some s) (hindex : r.index < cfg.robotCount)
    (hlookups : r.lookups.length = cfg.robotCount) :
    (∃ result, (mapCallback trig cfg r.now r.lookups r.message r.index s).2 = .ok result ∧
      (result.isSome = true ↔ r.message.accepted = true ∧ ∃ grids, Mergeable cfg rs r grids) ∧
      ∀ merged ∈ result, ∃ grids, Mergeable cfg rs r grids ∧ Kept trig grids merged ∧
        Boxed trig grids merged ∧ HoldsLargest trig grids merged) ∧
    ∀ rs' : List (Received K),
      (∀ i, rs'.filter (fun r => r.index = i) = rs.filter fun r => r.index = i) →
        (machine trig cfg).run rs' = some s := by
  constructor
  · cases hr : r.message.accepted with
    | false =>
      refine ⟨none, by simp [mapCallback, hr], by simp, fun merged hm => ?_⟩
      cases hm
    | true =>
      have hmaps : (mapCallback trig cfg r.now r.lookups r.message r.index s).1.maps =
          lastMaps cfg (rs ++ [r]) := mapCallback_fst (by rw [run_maps h])
      obtain ⟨result, hresult, hiff, hmerged⟩ := tryMergeAndPublish_lastMaps
        ⟨rs ++ [r], Machine.run_concat _ h (if_pos hindex)⟩ hmaps (by omega) hlookups
      refine ⟨result, ?_, by simpa using hiff, hmerged⟩
      rw [← hresult]
      simp [mapCallback, hr]
  · intro rs' hsame
    have hindex' : ∀ r ∈ rs', r.index < cfg.robotCount := by
      intro r' hr'
      have hmem : r' ∈ rs'.filter fun r => r.index = r'.index := by simp [hr']
      rw [hsame] at hmem
      exact run_index h r' (List.mem_of_mem_filter hmem)
    rw [run_eq hindex', run_maps h, lastMaps_congr hsame]

/-- A message on the topic of a robot, when both transforms are there. -/
def received (index : Nat) (g : Placed Rat) : Received Rat :=
  ⟨index, g.1, [some g.2, some g.2], 0⟩

theorem publishes_last_maps_coarseAndFine :
    (∃ result, (mapCallback unrotated {} 0 (received 1 (cellMap 1 0)).lookups (cellMap 1 0).1 1
        ⟨[some (cellMap 2 100).1, none]⟩).2 = .ok result ∧
      (result.isSome = true ↔ (cellMap (1 : Rat) 0).1.accepted = true ∧ ∃ grids,
        Mergeable {} [received 0 (cellMap 2 100)] (received 1 (cellMap 1 0)) grids) ∧
      ∀ merged ∈ result, ∃ grids,
        Mergeable {} [received 0 (cellMap 2 100)] (received 1 (cellMap 1 0)) grids ∧
          Kept unrotated grids merged ∧ Boxed unrotated grids merged ∧
            HoldsLargest unrotated grids merged) ∧
    ∀ rs' : List (Received Rat),
      (∀ i, rs'.filter (fun r => r.index = i) =
        [received 0 (cellMap 2 100)].filter fun r => r.index = i) →
        (machine unrotated {}).run rs' = some ⟨[some (cellMap 2 100).1, none]⟩ :=
  publishes_last_maps (r := received 1 (cellMap 1 0)) rfl (by decide) rfl

end PatrolFleet.MergeMap
