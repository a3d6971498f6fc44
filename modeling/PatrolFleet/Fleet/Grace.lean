import PatrolFleet.Fleet.Audit
import PatrolFleet.Fleet.Dropout
import PatrolFleet.Lib.Streak
import Mathlib.Algebra.Order.Group.Int

/-!
The grace period of a dropout: `confirmed_offline` in terms of the heartbeats
and ticks that the fleet manager has seen.
-/

set_option autoImplicit false

namespace PatrolFleet.Fleet

/-- The time that a heartbeat or a tick of `publish_fleet_state` reads. -/
def Callback.observedAt : Callback → Option Time
  | .other (.heartbeat _ _ now) => some now
  | .other (.publishFleetState now) => some now
  | _ => none

/-- The times of the heartbeats and ticks are positive and do not go back. -/
def Clocked (es : List Callback) : Prop :=
  (es.filterMap Callback.observedAt).Pairwise (· ≤ ·) ∧
    ∀ now ∈ es.filterMap Callback.observedAt, 0 < now

instance (es : List Callback) : Decidable (Clocked es) :=
  inferInstanceAs (Decidable (_ ∧ _))

def Callback.heartbeatOf (robotId : String) : Callback → Option Time
  | .other (.heartbeat id _ now) => if id = robotId then some now else none
  | _ => none

section

variable (cfg : Config) (robotId : String)

/-- A heartbeat has been received and is at most `heartbeat_timeout` old. -/
def onlineAt (past : List Callback) (now : Time) : Bool :=
  (past.filterMap (Callback.heartbeatOf robotId)).any fun heard =>
    now - heard ≤ cfg.heartbeatTimeout

/-- The ticks of `past`, each with whether the robot was not online then. The
latest callback is the first of `past`. -/
def dropouts : List Callback → List (Time × Bool)
  | [] => []
  | .other (.publishFleetState now) :: past =>
    (now, !onlineAt cfg robotId past now) :: dropouts past
  | _ :: past => dropouts past

end

/-! ### What a record keeps of them -/

structure Signs where
  robotId : String
  receivedHeartbeat : Bool
  lastHeartbeat : Time
  offlineSince : Time

def RobotRecord.signs (record : RobotRecord) : Signs where
  robotId := record.robotId
  receivedHeartbeat := record.receivedHeartbeat
  lastHeartbeat := record.lastHeartbeat
  offlineSince := record.offlineSince

def State.signs (s : State) (robotId : String) : Option Signs :=
  (s.records.lookup robotId).map RobotRecord.signs

section

variable (cfg : Config) (now : Time) (x : Signs)

def Signs.isOnline : Bool :=
  x.receivedHeartbeat && decide (now - x.lastHeartbeat ≤ cfg.heartbeatTimeout)

def Signs.timed : Signs :=
  { x with offlineSince :=
      if x.isOnline cfg now then 0 else if x.offlineSince ≤ 0 then now else x.offlineSince }

def Signs.confirmedOffline : Bool :=
  !x.isOnline cfg now && decide (now - (x.timed cfg now).offlineSince ≥ cfg.offlineGrace)

end

section

variable {cfg : Config} {now : Time} {record : RobotRecord} {x : Signs}

theorem Signs.timed_online (h : x.isOnline cfg now = true) :
    x.timed cfg now = { x with offlineSince := 0 } := by
  unfold Signs.timed
  rw [if_pos h]

theorem Signs.timed_offline (h : x.isOnline cfg now = false) : x.timed cfg now =
    { x with offlineSince := if x.offlineSince ≤ 0 then now else x.offlineSince } := by
  unfold Signs.timed
  rw [if_neg (by simp [h])]

@[simp] theorem timed_signs : (record.timed cfg now).signs = record.signs.timed cfg now := by
  cases honline : record.isOnline cfg now with
  | true =>
    have hx : record.signs.isOnline cfg now = true := honline
    rw [timed_online honline, Signs.timed_online hx]
    rfl
  | false =>
    have hx : record.signs.isOnline cfg now = false := honline
    rw [timed_offline honline, Signs.timed_offline hx]
    rfl

@[simp] theorem observed_signs :
    (record.observed cfg now).signs = record.signs.timed cfg now := by
  rw [← timed_signs]
  unfold RobotRecord.observed
  split <;> rfl

theorem report_confirmedOffline :
    (record.report cfg now).confirmedOffline = record.signs.confirmedOffline cfg now := by
  rw [Signs.confirmedOffline, ← timed_signs]
  rfl

theorem Signs.timed_timed (hnow : 0 < now) :
    (x.timed cfg now).timed cfg now = x.timed cfg now := by
  cases honline : x.isOnline cfg now with
  | true =>
    have hagain : (x.timed cfg now).isOnline cfg now = true := honline
    rw [timed_online hagain, timed_online honline]
  | false =>
    have hagain : (x.timed cfg now).isOnline cfg now = false := honline
    have hpos : ¬ (x.timed cfg now).offlineSince ≤ 0 := by
      rw [timed_offline honline]
      dsimp only
      split
      · exact not_le.mpr hnow
      · assumption
    rw [timed_offline hagain, if_neg hpos]

end

/-! ### A tick -/

section

variable {cfg : Config} {now : Time} {acc : State × List FleetRobotState}

theorem signs_insert {s : State} {id : String} {record : RobotRecord} :
    State.signs { s with records := s.records.insert id record } =
      Function.update s.signs id (some record.signs) :=
  UnorderedMap.map_lookup_insert ..

theorem signs_of_records {s t : State} (h : t.records = s.records) : t.signs = s.signs := by
  unfold State.signs
  rw [h]

theorem signs_publishRobot (id : String) : (publishRobot cfg now acc id).1.signs =
    Function.update acc.1.signs id ((acc.1.signs id).map (Signs.timed cfg now)) := by
  cases hlookup : acc.1.records.lookup id with
  | none =>
    have hnone : acc.1.signs id = none := by simp [State.signs, hlookup]
    rw [publishRobot_none hlookup, hnone, Option.map_none, ← hnone, Function.update_eq_self]
  | some record =>
    have hsome : acc.1.signs id = some record.signs := by simp [State.signs, hlookup]
    rw [publishRobot_some hlookup, hsome, Option.map_some, ← observed_signs, ← signs_insert]
    dsimp only
    split
    · exact signs_of_records records_publishEstop
    · rfl

theorem signs_publishRobots (hnow : 0 < now) (ids : List String) :
    (ids.foldl (publishRobot cfg now) acc).1.signs = fun id =>
      if id ∈ ids then (acc.1.signs id).map (Signs.timed cfg now) else acc.1.signs id := by
  induction ids generalizing acc with
  | nil => simp
  | cons id ids ih =>
    rw [List.foldl_cons, ih, signs_publishRobot]
    funext id'
    by_cases heq : id' = id
    · subst heq
      have htwice : ((acc.1.signs id').map (Signs.timed cfg now)).map (Signs.timed cfg now) =
          (acc.1.signs id').map (Signs.timed cfg now) := by
        rw [Option.map_map]
        congr 1
        funext x
        exact Signs.timed_timed hnow
      simp only [Function.update_self, htwice, List.mem_cons, true_or, if_true, ite_self]
    · simp only [Function.update_of_ne heq, List.mem_cons, heq, false_or]

/-- The entry reports on the robot `id` as `signs` has it. -/
def Shows (cfg : Config) (now : Time) (signs : String → Option Signs) (robot : FleetRobotState) :
    Prop :=
  ∃ id x, signs id = some x ∧ robot.robotId = x.robotId ∧ robot.online = x.isOnline cfg now ∧
    robot.confirmedOffline = x.confirmedOffline cfg now

/-- The turns of the other robots and of the robot itself show the same. -/
theorem Shows.back (hnow : 0 < now) {signs : String → Option Signs} {id : String}
    {robot : FleetRobotState}
    (h : Shows cfg now (Function.update signs id ((signs id).map (Signs.timed cfg now))) robot) :
    Shows cfg now signs robot := by
  obtain ⟨id', x, hx, hname, honline, hconfirmed⟩ := h
  by_cases heq : id' = id
  · subst heq
    rw [Function.update_self] at hx
    obtain ⟨x', hx', rfl⟩ := Option.map_eq_some_iff.mp hx
    refine ⟨id', x', hx', hname, honline, hconfirmed.trans ?_⟩
    unfold Signs.confirmedOffline
    rw [Signs.timed_timed hnow]
    rfl
  · rw [Function.update_of_ne heq] at hx
    exact ⟨id', x, hx, hname, honline, hconfirmed⟩

theorem publishRobots_shows (hnow : 0 < now) (ids : List String) :
    ∀ robot ∈ (ids.foldl (publishRobot cfg now) acc).2,
      robot ∈ acc.2 ∨ Shows cfg now acc.1.signs robot := by
  induction ids generalizing acc with
  | nil => exact fun robot hrobot => .inl hrobot
  | cons id ids ih =>
    intro robot hrobot
    rcases ih robot hrobot with hrobot | hshows
    · cases hlookup : acc.1.records.lookup id with
      | none =>
        rw [publishRobot_none hlookup] at hrobot
        exact .inl hrobot
      | some record =>
        rw [publishRobot_some hlookup] at hrobot
        rcases List.mem_append.mp hrobot with hrobot | hrobot
        · exact .inl hrobot
        · rw [List.mem_singleton.mp hrobot]
          have hsome : acc.1.signs id = some record.signs := by simp [State.signs, hlookup]
          exact .inr ⟨id, record.signs, hsome, rfl, rfl, report_confirmedOffline⟩
    · rw [signs_publishRobot] at hshows
      exact .inr (hshows.back hnow)

theorem robots_publishRobot (id : String) : acc.2 <+: (publishRobot cfg now acc id).2 := by
  cases hlookup : acc.1.records.lookup id with
  | none => rw [publishRobot_none hlookup]
  | some record =>
    rw [publishRobot_some hlookup]
    exact List.prefix_append acc.2 [record.report cfg now]

theorem robots_publishRobots (ids : List String) :
    acc.2 <+: (ids.foldl (publishRobot cfg now) acc).2 := by
  induction ids generalizing acc with
  | nil => exact List.prefix_rfl
  | cons id ids ih => exact (robots_publishRobot id).trans ih

theorem publishRobots_entry {ids : List String} {id : String} {x : Signs} (hid : id ∈ ids)
    (hx : acc.1.signs id = some x) :
    ∃ robot ∈ (ids.foldl (publishRobot cfg now) acc).2, robot.robotId = x.robotId := by
  induction ids generalizing acc x with
  | nil => cases hid
  | cons id' ids ih =>
    by_cases heq : id = id'
    · subst heq
      obtain ⟨record, hlookup, rfl⟩ := Option.map_eq_some_iff.mp hx
      have hreport : record.report cfg now ∈ (publishRobot cfg now acc id).2 := by
        rw [publishRobot_some hlookup]
        exact List.mem_append_right _ (List.mem_singleton_self _)
      exact ⟨record.report cfg now, (robots_publishRobots ids).subset hreport, rfl⟩
    · have hrest : id ∈ ids := (List.mem_cons.mp hid).resolve_left heq
      have hkept : (publishRobot cfg now acc id').1.signs id = some x := by
        rw [signs_publishRobot, Function.update_of_ne heq]
        exact hx
      exact ih hrest hkept

end

/-! ### What the fleet manager keeps of a run -/

/-- The signs of a robot after the callbacks of `past`: the last heartbeat, and
the first tick of the dropout that the robot is in. -/
structure Keeps (cfg : Config) (robotId : String) (past : List Callback) (x : Signs) : Prop where
  heartbeat : (if x.receivedHeartbeat then some x.lastHeartbeat else none) =
    (past.filterMap (Callback.heartbeatOf robotId)).head?
  since : x.offlineSince = (Streak.start (dropouts cfg robotId past)).getD 0

structure State.Heeds (cfg : Config) (past : List Callback) (s : State) : Prop where
  named : ∀ id x, s.signs id = some x → x.robotId = id
  kept : ∀ id ∈ cfg.robotIds, ∃ x, s.signs id = some x ∧ Keeps cfg id past x

section

variable {cfg : Config} {robotId : String} {past : List Callback} {e : Callback} {now : Time}
  {s : State} {x : Signs}

theorem clocked_reverse : Clocked past.reverse ↔
    (past.filterMap Callback.observedAt).Pairwise (· ≥ ·) ∧
      ∀ now ∈ past.filterMap Callback.observedAt, 0 < now := by
  unfold Clocked
  rw [List.filterMap_reverse, List.pairwise_reverse]
  simp only [List.mem_reverse]

theorem Clocked.before (h : Clocked (e :: past).reverse) : Clocked past.reverse := by
  obtain ⟨hordered, hpos⟩ := clocked_reverse.mp h
  have hsub : (past.filterMap Callback.observedAt).Sublist
      ((e :: past).filterMap Callback.observedAt) := (List.sublist_cons_self e past).filterMap _
  exact clocked_reverse.mpr ⟨hordered.sublist hsub, fun now hm => hpos now (hsub.subset hm)⟩

theorem heartbeats_sublist (robotId : String) (past : List Callback) :
    (past.filterMap (Callback.heartbeatOf robotId)).Sublist
      (past.filterMap Callback.observedAt) := by
  induction past with
  | nil => exact List.Sublist.refl []
  | cons e past ih =>
    cases hheard : e.heartbeatOf robotId with
    | none =>
      rw [List.filterMap_cons_none hheard]
      exact ih.trans ((List.sublist_cons_self e past).filterMap _)
    | some heard =>
      have hobserved : e.observedAt = some heard := by
        unfold Callback.heartbeatOf at hheard
        split at hheard
        · exact (Option.ite_none_right_eq_some.mp hheard).2
        · cases hheard
      rw [List.filterMap_cons_some hheard, List.filterMap_cons_some hobserved]
      exact ih.cons_cons heard

theorem dropouts_sublist (past : List Callback) :
    ((dropouts cfg robotId past).map Prod.fst).Sublist (past.filterMap Callback.observedAt) := by
  fun_induction dropouts cfg robotId past with
  | case1 => exact List.Sublist.refl []
  | case2 now past ih =>
    exact ih.cons_cons now
  | case3 e past hother ih => exact ih.trans ((List.sublist_cons_self e past).filterMap _)

theorem dropouts_ordered (h : Clocked past.reverse) :
    Streak.Ordered (dropouts cfg robotId past) := by
  exact List.pairwise_map.mp ((clocked_reverse.mp h).1.sublist (dropouts_sublist past))

theorem start_pos (h : Clocked past.reverse) {first : Time}
    (hfirst : Streak.start (dropouts cfg robotId past) = some first) : 0 < first := by
  have hmem := Streak.mem_of_from (Streak.from_of_start hfirst)
  exact (clocked_reverse.mp h).2 first
    ((dropouts_sublist past).subset (List.mem_map_of_mem hmem))

theorem Keeps.isOnline_eq (h : Keeps cfg robotId past x) (hclock : Clocked past.reverse) :
    x.isOnline cfg now = onlineAt cfg robotId past now := by
  have hsub := heartbeats_sublist robotId past
  have hordered := (clocked_reverse.mp hclock).1.sublist hsub
  have hheartbeat := h.heartbeat
  unfold onlineAt Signs.isOnline
  cases hall : past.filterMap (Callback.heartbeatOf robotId) with
  | nil =>
    rw [hall] at hheartbeat
    have hnever : x.receivedHeartbeat = false := by
      cases hr : x.receivedHeartbeat with
      | false => rfl
      | true => simp [hr] at hheartbeat
    simp [hnever]
  | cons last earlier =>
    rw [hall] at hheartbeat hordered
    obtain ⟨hreceived, hlast⟩ := Option.ite_none_right_eq_some.mp hheartbeat
    cases hlast
    have hle := (List.pairwise_cons.mp hordered).1
    rw [hreceived, Bool.true_and, List.any_cons]
    cases hfresh : decide (now - x.lastHeartbeat ≤ cfg.heartbeatTimeout) with
    | true => rfl
    | false =>
      symm
      simp only [Bool.false_or, List.any_eq_false, decide_eq_true_eq]
      intro heard hm
      have hold : ¬ now - x.lastHeartbeat ≤ cfg.heartbeatTimeout := of_decide_eq_false hfresh
      have hearlier : heard ≤ x.lastHeartbeat := hle heard hm
      unfold Time at *
      omega

/-! ### The callbacks -/

/-- The tick sees the robot as the heartbeats have it, and starts, continues or
ends its dropout. -/
theorem Keeps.tick (h : Keeps cfg robotId past x)
    (hclock : Clocked (Callback.other (.publishFleetState now) :: past).reverse) :
    Keeps cfg robotId (.other (.publishFleetState now) :: past) (x.timed cfg now) := by
  refine ⟨h.heartbeat, ?_⟩
  rw [dropouts, Streak.start_cons, ← h.isOnline_eq hclock.before]
  cases honline : x.isOnline cfg now with
  | true =>
    rw [Signs.timed_online honline]
    rfl
  | false =>
    rw [Signs.timed_offline honline]
    dsimp only
    rw [h.since]
    cases hstart : Streak.start (dropouts cfg robotId past) with
    | none => simp
    | some first =>
      have hpos : ¬ first ≤ 0 := not_le.mpr (start_pos hclock.before hstart)
      simp [hpos]

theorem Keeps.heard {message : RobotHeartbeat} (h : Keeps cfg robotId past x) :
    Keeps cfg robotId (.other (.heartbeat robotId message now) :: past)
      { x with receivedHeartbeat := true, lastHeartbeat := now } := by
  refine ⟨?_, h.since⟩
  have hown : Callback.heartbeatOf robotId (.other (.heartbeat robotId message now)) =
      some now := if_pos rfl
  rw [List.filterMap_cons_some hown]
  rfl

theorem Keeps.frame (h : Keeps cfg robotId past x) (hheard : e.heartbeatOf robotId = none)
    (htick : ∀ now, e ≠ .other (.publishFleetState now)) : Keeps cfg robotId (e :: past) x := by
  refine ⟨?_, ?_⟩
  · rw [List.filterMap_cons_none hheard]
    exact h.heartbeat
  · have hsame : dropouts cfg robotId (e :: past) = dropouts cfg robotId past := by
      rw [dropouts]
      exact htick
    rw [hsame]
    exact h.since

theorem heeds_frame {t : State} (h : s.Heeds cfg past) (hsigns : t.signs = s.signs)
    (hheard : ∀ id, e.heartbeatOf id = none)
    (htick : ∀ now, e ≠ .other (.publishFleetState now)) : t.Heeds cfg (e :: past) := by
  refine ⟨?_, fun id hid => ?_⟩
  · rw [hsigns]
    exact h.named
  · obtain ⟨x, hx, hkeeps⟩ := h.kept id hid
    exact ⟨x, (congrFun hsigns id).trans hx, hkeeps.frame (hheard id) htick⟩

theorem heeds_heartbeat {id : String} {message : RobotHeartbeat} (h : s.Heeds cfg past) :
    (heartbeatCallback id message now s).Heeds cfg
      (.other (.heartbeat id message now) :: past) := by
  have hsigns : (heartbeatCallback id message now s).signs = Function.update s.signs id
      ((s.signs id).map fun x => { x with receivedHeartbeat := true, lastHeartbeat := now }) := by
    unfold heartbeatCallback
    cases hlookup : s.records.lookup id with
    | none =>
      have hnone : s.signs id = none := by simp [State.signs, hlookup]
      rw [hnone, Option.map_none, ← hnone, Function.update_eq_self]
    | some record =>
      have hsome : s.signs id = some record.signs := by simp [State.signs, hlookup]
      rw [hsome]
      exact signs_insert
  refine ⟨fun id' x hx => ?_, fun id' hid' => ?_⟩
  · rw [hsigns] at hx
    by_cases heq : id' = id
    · subst heq
      rw [Function.update_self] at hx
      obtain ⟨x', hx', rfl⟩ := Option.map_eq_some_iff.mp hx
      exact h.named id' x' hx'
    · rw [Function.update_of_ne heq] at hx
      exact h.named id' x hx
  · obtain ⟨x, hx, hkeeps⟩ := h.kept id' hid'
    rw [hsigns]
    by_cases heq : id' = id
    · subst heq
      rw [Function.update_self, hx]
      exact ⟨_, rfl, hkeeps.heard⟩
    · rw [Function.update_of_ne heq]
      exact ⟨x, hx, hkeeps.frame (if_neg (Ne.symm heq)) (by simp)⟩

theorem heeds_tick (h : s.Heeds cfg past)
    (hclock : Clocked (Callback.other (.publishFleetState now) :: past).reverse) :
    (publishFleetState cfg now s).Heeds cfg (.other (.publishFleetState now) :: past) := by
  have hnow : 0 < now := (clocked_reverse.mp hclock).2 now List.mem_cons_self
  have hloop : (cfg.robotIds.foldl (publishRobot cfg now) (s, [])).1.signs = fun id =>
      if id ∈ cfg.robotIds then (s.signs id).map (Signs.timed cfg now) else s.signs id :=
    signs_publishRobots hnow cfg.robotIds
  have hsigns : (publishFleetState cfg now s).signs = fun id =>
      if id ∈ cfg.robotIds then (s.signs id).map (Signs.timed cfg now) else s.signs id := hloop
  refine ⟨fun id x hx => ?_, fun id hid => ?_⟩
  · rw [hsigns] at hx
    dsimp only at hx
    split at hx
    · obtain ⟨x', hx', rfl⟩ := Option.map_eq_some_iff.mp hx
      exact h.named id x' hx'
    · exact h.named id x hx
  · obtain ⟨x, hx, hkeeps⟩ := h.kept id hid
    rw [hsigns]
    dsimp only
    rw [if_pos hid, hx]
    exact ⟨_, rfl, hkeeps.tick hclock⟩

theorem signs_releaseEstop (id : String) : (releaseEstop cfg s id).signs = s.signs := by
  have hpublished : (publishEstop cfg id false s).signs = s.signs :=
    signs_of_records records_publishEstop
  unfold releaseEstop
  dsimp only
  cases hlookup : (publishEstop cfg id false s).records.lookup id with
  | none => exact hpublished
  | some record =>
    have hsame : RobotRecord.signs { record with autoEstopped := false } = record.signs := rfl
    exact (view_replace hlookup hsame).trans hpublished

theorem signs_estopReleaseAll (ids : List String) :
    (ids.foldl (releaseEstop cfg) s).signs = s.signs := by
  induction ids generalizing s with
  | nil => rfl
  | cons id ids ih => exact ih.trans (signs_releaseEstop id)

theorem heeds_call (h : s.Heeds cfg past) (hclock : Clocked (e :: past).reverse) :
    (s.call cfg e).Heeds cfg (e :: past) := by
  cases ht : e.touchesRecords with
  | false =>
    have hsigns : (s.call cfg e).signs = s.signs := signs_of_records (records_call ht s)
    refine heeds_frame h hsigns (fun id => ?_) (fun now heq => ?_)
    · unfold Callback.heartbeatOf
      split
      · cases ht
      · rfl
    · subst heq
      cases ht
  | true =>
    cases e with
    | assignMission request serviceIsReady now => cases ht
    | other e =>
      cases e with
      | heartbeat id message now => exact heeds_heartbeat h
      | publishFleetState now => exact heeds_tick h hclock
      | estopReleaseAll =>
        exact heeds_frame h (signs_estopReleaseAll cfg.robotIds) (fun _ => rfl) (by simp)
      | _ => cases ht

theorem heeds_init {store : MissionStore} {fleet : State}
    (h : State.init cfg store = .ok fleet) : fleet.Heeds cfg [] := by
  obtain ⟨hnew, hall⟩ := init_records h
  refine ⟨fun id x hx => ?_, fun id hid => ?_⟩
  · obtain ⟨record, hrecord, rfl⟩ := Option.map_eq_some_iff.mp hx
    rw [hnew id record hrecord]
    rfl
  · obtain ⟨record, hrecord⟩ := Option.isSome_iff_exists.mp (AList.lookup_isSome.mpr (hall id hid))
    refine ⟨record.signs, ?_, ?_⟩
    · unfold State.signs
      rw [hrecord]
      rfl
    · rw [hnew id record hrecord]
      exact ⟨rfl, rfl⟩

/-! ### Whole runs -/

theorem run_heeds {store : MissionStore} {fleet : State}
    (hinit : State.init cfg store = .ok fleet) {w : World} (hclock : Clocked past.reverse)
    (hrun : (machine cfg fleet).run past.reverse = some w) :
    w.manager.Heeds cfg past := by
  induction past generalizing w with
  | nil =>
    cases hrun
    exact heeds_init hinit
  | cons e past ih =>
    rw [List.reverse_cons] at hrun
    obtain ⟨u, hu, hstep⟩ := (machine cfg fleet).run_concat_inv hrun
    rw [step_manager hstep]
    exact heeds_call (ih hclock.before hu) hclock

/-- The dropout was sustained for the grace period: at the tick that `es` ends
with, the robot was not online, nor at any tick back to one that lies at least
`offline_grace` before. -/
def SustainedDropout (cfg : Config) (robotId : String) (es : List Callback) (now : Time) : Prop :=
  ∃ s, Streak.From (dropouts cfg robotId es.reverse) s ∧ cfg.offlineGrace ≤ now - s

theorem confirmedOffline_iff (h : Keeps cfg robotId past x)
    (hclock : Clocked (Callback.other (.publishFleetState now) :: past).reverse) :
    x.confirmedOffline cfg now = true ↔
      SustainedDropout cfg robotId (past.reverse ++ [.other (.publishFleetState now)]) now := by
  have hsince := (h.tick hclock).since
  unfold SustainedDropout Signs.confirmedOffline
  rw [hsince, ← List.reverse_cons, List.reverse_reverse,
    Streak.lasting_iff (dropouts_ordered hclock), dropouts, Streak.start_cons,
    ← h.isOnline_eq hclock.before]
  cases x.isOnline cfg now with
  | true => simp
  | false => simp

theorem onlineAt_reverse (es : List Callback) :
    onlineAt cfg robotId es.reverse now = onlineAt cfg robotId es now := by
  unfold onlineAt
  rw [List.filterMap_reverse, List.any_reverse]

/-- `confirmed_offline` means a sustained dropout, in the entry that any tick of
any run publishes for a robot. -/
theorem confirmed_offline_sustained {store : MissionStore} {fleet : State}
    (hinit : State.init cfg store = .ok fleet) {es : List Callback} {w : World}
    (hclock : Clocked (es ++ [.other (.publishFleetState now)]))
    (hrun : (machine cfg fleet).run (es ++ [.other (.publishFleetState now)]) = some w)
    (hmem : robotId ∈ cfg.robotIds) :
    ∃ message, w.manager.sent.head? = some (.fleetState message) ∧ message.stamp = now ∧
      (∃ robot ∈ message.robots, robot.robotId = robotId) ∧
      ∀ robot ∈ message.robots, robot.robotId = robotId →
        (robot.online = true ↔ onlineAt cfg robotId es now = true) ∧
        (robot.confirmedOffline = true ↔
          SustainedDropout cfg robotId (es ++ [.other (.publishFleetState now)]) now) := by
  obtain ⟨past, rfl⟩ : ∃ past : List Callback, es = past.reverse := ⟨es.reverse, by simp⟩
  obtain ⟨u, hu, hstep⟩ := (machine cfg fleet).run_concat_inv hrun
  rw [← List.reverse_cons] at hclock
  have hheeds := run_heeds hinit hclock.before hu
  obtain ⟨x, hx, hkeeps⟩ := hheeds.kept robotId hmem
  have hnow : 0 < now := (clocked_reverse.mp hclock).2 now List.mem_cons_self
  have hcall : w.manager = u.manager.call cfg (.other (.publishFleetState now)) :=
    step_manager hstep
  generalize hfold : cfg.robotIds.foldl (publishRobot cfg now) (u.manager, []) = acc
  have hentry : ∃ robot ∈ (cfg.robotIds.foldl (publishRobot cfg now) (u.manager, [])).2,
      robot.robotId = x.robotId := publishRobots_entry hmem hx
  have hshows : ∀ robot ∈ (cfg.robotIds.foldl (publishRobot cfg now) (u.manager, [])).2,
      robot ∈ [] ∨ Shows cfg now u.manager.signs robot := publishRobots_shows hnow cfg.robotIds
  rw [hfold] at hentry hshows
  rw [hcall, State.call, State.step, publishFleetState_send hfold]
  refine ⟨⟨now, acc.2⟩, rfl, rfl, ?_, fun robot hrobot hname => ?_⟩
  · rwa [hheeds.named robotId x hx] at hentry
  · obtain ⟨id, x', hx', hname', honline, hconfirmed⟩ :=
      (hshows robot hrobot).resolve_left List.not_mem_nil
    have hid : id = robotId := by
      rw [← hheeds.named id x' hx', ← hname', hname]
    subst hid
    have hsame : x' = x := Option.some.inj (hx'.symm.trans hx)
    subst hsame
    constructor
    · rw [honline, hkeeps.isOnline_eq hclock.before, onlineAt_reverse]
    · rw [hconfirmed]
      exact confirmedOffline_iff hkeeps hclock

end

/-- A robot that is heard again 5 s after the first tick of its dropout: the grace
period starts again with the tick at 14 s. -/
def lostTwiceRun : List Callback :=
  let heard (now : Time) : Callback :=
    .other (.heartbeat "robot1" ⟨"robot1", now, RobotHeartbeat.stateIdle, 90, "", true⟩ now)
  [heard (seconds 1), .other (.publishFleetState (seconds 5)), heard (seconds 10),
    .other (.publishFleetState (seconds 11)), .other (.publishFleetState (seconds 14)),
    .other .estopReleaseAll, .other (.publishFleetState (seconds 30))]

theorem confirmed_offline_restarted : ∃ w message robot,
    (machine {} shipped).run (lostTwiceRun ++ [.other (.publishFleetState (seconds 34))]) =
      some w ∧
    w.manager.sent.head? = some (.fleetState message) ∧ robot ∈ message.robots ∧
    robot.robotId = "robot1" ∧ robot.online = false ∧ robot.confirmedOffline = true := by
  have hclock : Clocked (lostTwiceRun ++ [.other (.publishFleetState (seconds 34))]) := by decide
  have hmem : "robot1" ∈ (({} : Config)).robotIds := by decide
  have hinit : State.init {} {} = .ok shipped := rfl
  obtain ⟨message, hsent, _, ⟨robot, hrobot, hname⟩, hall⟩ :=
    confirmed_offline_sustained hinit hclock rfl hmem
  obtain ⟨honline, hconfirmed⟩ := hall robot hrobot hname
  refine ⟨_, message, robot, rfl, hsent, hrobot, hname, ?_, hconfirmed.mpr ?_⟩
  · rw [Bool.eq_false_iff, Ne, honline]
    decide
  · have hstart : Streak.start (dropouts {} "robot1" (lostTwiceRun ++
        [Callback.other (.publishFleetState (seconds 34))]).reverse) = some (seconds 14) := by
      decide
    exact ⟨seconds 14, Streak.from_of_start hstart, by decide⟩

end PatrolFleet.Fleet
