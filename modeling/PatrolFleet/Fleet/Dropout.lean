import PatrolFleet.Fleet.Effects
import Mathlib.Algebra.Order.Ring.Int

/-!
The dropouts of the robots: since when a robot is offline, and what was last
published on its e-stop topic.
-/

set_option autoImplicit false

namespace PatrolFleet.Fleet

def Sent.tick : Sent → Option FleetState
  | .fleetState message => some message
  | _ => none

def Sent.estopOf (robotId : String) : Sent → Option Bool
  | .estop robotId' active => if robotId' = robotId then some active else none
  | _ => none

/-- The fleet states that were published, the latest first. -/
def State.ticks (s : State) : List FleetState := s.sent.filterMap Sent.tick

def State.lastEstop (s : State) (robotId : String) : Option Bool :=
  s.sent.findSome? (Sent.estopOf robotId)

def ShowsOffline (robotId : String) (message : FleetState) : Prop :=
  ∀ robot ∈ message.robots, robot.robotId = robotId → robot.online = false

/-- The robot was observed not online at the tick `message` and at every tick
since. -/
def State.OfflineSince (s : State) (robotId : String) (message : FleetState) : Prop :=
  ∃ later, later ++ [message] <+: s.ticks ∧ ∀ m ∈ later ++ [message], ShowsOffline robotId m

structure Tracks (s : State) (clock : Time) (robotId : String) (record : RobotRecord) : Prop where
  named : record.robotId = robotId
  estopped : record.autoEstopped = true → s.lastEstop robotId = some true
  since_le : record.offlineSince ≤ clock
  dropout : ∀ message, s.OfflineSince robotId message →
    0 < record.offlineSince ∧ record.offlineSince ≤ message.stamp

def State.Tracked (cfg : Config) (clock : Time) (s : State) : Prop :=
  ∀ robotId ∈ cfg.robotIds, ∃ record, s.records.lookup robotId = some record ∧
    Tracks s clock robotId record

/-! ### Records -/

section

variable {cfg : Config} {now : Time} {record : RobotRecord}

theorem timed_online (h : record.isOnline cfg now = true) :
    record.timed cfg now = { record with offlineSince := 0, autoEstopped := false } := by
  simp [RobotRecord.timed, h]

theorem timed_offline (h : record.isOnline cfg now = false) :
    record.timed cfg now = { record with
      offlineSince := if record.offlineSince ≤ 0 then now else record.offlineSince } := by
  unfold RobotRecord.timed
  rw [if_neg (by simp [h])]
  split <;> rfl

@[simp] theorem timed_robotId : (record.timed cfg now).robotId = record.robotId := by
  unfold RobotRecord.timed
  split
  · rfl
  · split <;> rfl

@[simp] theorem timed_isOnline :
    (record.timed cfg now).isOnline cfg now = record.isOnline cfg now := by
  unfold RobotRecord.timed
  split
  · rfl
  · split <;> rfl

@[simp] theorem observed_robotId : (record.observed cfg now).robotId = record.robotId := by
  unfold RobotRecord.observed
  split <;> exact timed_robotId

@[simp] theorem observed_isOnline :
    (record.observed cfg now).isOnline cfg now = record.isOnline cfg now := by
  unfold RobotRecord.observed
  split <;> exact timed_isOnline

@[simp] theorem observed_offlineSince :
    (record.observed cfg now).offlineSince = (record.timed cfg now).offlineSince := by
  unfold RobotRecord.observed
  split <;> rfl

@[simp] theorem observed_autoEstopped : (record.observed cfg now).autoEstopped =
    (record.estopDue cfg now || (record.timed cfg now).autoEstopped) := by
  unfold RobotRecord.observed
  split <;> simp_all

theorem observed_estopped (hoff : record.isOnline cfg now = false)
    (hauto : 0 < cfg.autoEstopAfterOffline)
    (hlast : cfg.autoEstopAfterOffline ≤ now - (record.observed cfg now).offlineSince) :
    (record.observed cfg now).autoEstopped = true := by
  rw [observed_offlineSince] at hlast
  rw [observed_autoEstopped, RobotRecord.estopDue, hoff, decide_eq_true hauto,
    decide_eq_true hlast]
  cases (record.timed cfg now).autoEstopped <;> rfl

end

/-! ### What a message changes -/

section

variable {cfg : Config} {s t : State} {robotId : String}

@[simp] theorem lastEstop_send {m : Sent} : (s.send m).lastEstop robotId =
    (m.estopOf robotId).or (s.lastEstop robotId) := by
  unfold State.lastEstop State.send
  rw [List.findSome?_cons]
  cases m.estopOf robotId <;> rfl

theorem lastEstop_publishEstop {id : String} {active : Bool} (h : id ∈ cfg.robotIds) :
    (publishEstop cfg id active s).lastEstop robotId =
      if id = robotId then some active else s.lastEstop robotId := by
  have hclient : hasClient cfg id = true := by simpa [hasClient] using h
  simp only [publishEstop, hclient, if_true, lastEstop_send, Sent.estopOf]
  split <;> rfl

theorem records_publishEstop {id : String} {active : Bool} :
    (publishEstop cfg id active s).records = s.records := by
  unfold publishEstop
  split <;> rfl

theorem Effect.ticks (h : Effect (fun m => m.tick = none) s t) : t.ticks = s.ticks := by
  obtain ⟨messages, hsent, hnone⟩ := h.sent
  have hnew : messages.filterMap Sent.tick = [] := List.filterMap_eq_nil_iff.mpr hnone
  rw [State.ticks, hsent, List.filterMap_append, hnew, List.nil_append, State.ticks]

theorem Effect.lastEstop (h : Effect (fun m => m.estopOf robotId = none) s t) :
    t.lastEstop robotId = s.lastEstop robotId := by
  obtain ⟨messages, hsent, hnone⟩ := h.sent
  have hnew : messages.findSome? (Sent.estopOf robotId) = none :=
    List.findSome?_eq_none_iff.mpr hnone
  rw [State.lastEstop, hsent, List.findSome?_append, hnew, Option.none_or, State.lastEstop]

theorem offlineSince_congr (h : t.ticks = s.ticks) {message : FleetState} :
    t.OfflineSince robotId message ↔ s.OfflineSince robotId message := by
  unfold State.OfflineSince
  rw [h]

theorem offlineSince_cons {m message : FleetState} (hticks : t.ticks = m :: s.ticks)
    (h : t.OfflineSince robotId message) :
    ShowsOffline robotId m ∧ (message = m ∨ s.OfflineSince robotId message) := by
  obtain ⟨later, hp, hoff⟩ := h
  rw [hticks] at hp
  cases later with
  | nil =>
    obtain ⟨rfl, _⟩ := List.cons_prefix_cons.mp hp
    exact ⟨hoff _ (by simp), .inl rfl⟩
  | cons x later =>
    rw [List.cons_append] at hp hoff
    obtain ⟨rfl, hrest⟩ := List.cons_prefix_cons.mp hp
    exact ⟨hoff _ (by simp), .inr ⟨later, hrest, fun m hm => hoff m (List.mem_cons_of_mem _ hm)⟩⟩

end

/-! ### A tick -/

/-- In the loop of `publish_fleet_state`: what has become of the robot `robotId`,
whose record was `record` before, and whose turn has come if `seen`. -/
structure Turned (cfg : Config) (now : Time) (robotId : String) (record : RobotRecord)
    (seen : Prop) (acc : State × List FleetRobotState) (current : RobotRecord) : Prop where
  lookup : acc.1.records.lookup robotId = some current
  named : current.robotId = robotId
  online : current.isOnline cfg now = record.isOnline cfg now
  estopped : current.autoEstopped = true → acc.1.lastEstop robotId = some true
  since_le : current.offlineSince ≤ now
  kept : record.isOnline cfg now = false → 0 < record.offlineSince →
    current.offlineSince = record.offlineSince
  since_pos : seen → record.isOnline cfg now = false → 0 < current.offlineSince
  lasting : seen → record.isOnline cfg now = false → 0 < cfg.autoEstopAfterOffline →
    cfg.autoEstopAfterOffline ≤ now - current.offlineSince → current.autoEstopped = true
  shown : seen → ∃ robot ∈ acc.2, robot.robotId = robotId ∧
    robot.online = record.isOnline cfg now

section

variable {cfg : Config} {now : Time} {robotId : String} {record current : RobotRecord}
  {acc : State × List FleetRobotState} {s : State}

theorem Turned.own {seen : Prop} (h : Turned cfg now robotId record seen acc current)
    (hnow : 0 < now) (hmem : robotId ∈ cfg.robotIds) :
    Turned cfg now robotId record True (publishRobot cfg now acc robotId)
      (current.observed cfg now) := by
  have hoffline : ∀ b, current.isOnline cfg now = b → record.isOnline cfg now = b := by
    intro b hb
    rw [← h.online, hb]
  have hestop : ∀ active, (publishEstop cfg robotId active { acc.1 with
      records := acc.1.records.insert robotId (current.observed cfg now) }).lastEstop robotId =
        some active := by
    intro active
    rw [lastEstop_publishEstop hmem, if_pos rfl]
  have hsince : (current.observed cfg now).offlineSince ≤ now ∧
      (current.isOnline cfg now = false → 0 < (current.observed cfg now).offlineSince) := by
    cases hon : current.isOnline cfg now with
    | true => simp [timed_online hon, hnow.le]
    | false =>
      rw [observed_offlineSince, timed_offline hon]
      dsimp only
      split
      · exact ⟨le_refl now, fun _ => hnow⟩
      · exact ⟨h.since_le, fun _ => not_le.mp ‹_›⟩
  rw [publishRobot_some h.lookup]
  constructor
  · dsimp only
    split
    · rw [records_publishEstop]
      exact AList.lookup_insert _
    · exact AList.lookup_insert _
  · rw [observed_robotId, h.named]
  · rw [observed_isOnline, h.online]
  · intro hset
    dsimp only
    split
    · exact hestop true
    · rename_i hdue
      rw [observed_autoEstopped, Bool.eq_false_iff.mpr hdue, Bool.false_or] at hset
      cases hon : current.isOnline cfg now with
      | true => simp [timed_online hon] at hset
      | false =>
        rw [timed_offline hon] at hset
        exact h.estopped hset
  · exact hsince.1
  · intro hoff hpos
    have hcur := h.kept hoff hpos
    rw [observed_offlineSince, timed_offline (h.online.trans hoff)]
    dsimp only
    rw [if_neg (by rw [hcur]; exact not_le.mpr hpos), hcur]
  · exact fun _ hoff => hsince.2 (h.online.trans hoff)
  · exact fun _ hoff hauto hlast => observed_estopped (h.online.trans hoff) hauto hlast
  · refine fun _ => ⟨current.report cfg now, by simp, h.named, h.online⟩

theorem Turned.other {seen : Prop} {id : String}
    (h : Turned cfg now robotId record seen acc current) (hid : id ≠ robotId)
    (hmem : id ∈ cfg.robotIds) :
    Turned cfg now robotId record seen (publishRobot cfg now acc id) current := by
  cases hlookup : acc.1.records.lookup id with
  | none =>
    rw [publishRobot_none hlookup]
    exact h
  | some other =>
    rw [publishRobot_some hlookup]
    refine ⟨?_, h.named, h.online, fun hset => ?_, h.since_le, h.kept, h.since_pos, h.lasting,
      fun hs => ?_⟩
    · dsimp only
      split
      · rw [records_publishEstop, AList.lookup_insert_ne (Ne.symm hid)]
        exact h.lookup
      · rw [AList.lookup_insert_ne (Ne.symm hid)]
        exact h.lookup
    · dsimp only
      split
      · rw [lastEstop_publishEstop hmem, if_neg hid]
        exact h.estopped hset
      · exact h.estopped hset
    · obtain ⟨robot, hrobot, hshown⟩ := h.shown hs
      exact ⟨robot, List.mem_append_left _ hrobot, hshown⟩

theorem Turned.foldl {seen : Prop} {ids : List String} (hnow : 0 < now)
    (hids : ∀ id ∈ ids, id ∈ cfg.robotIds)
    (h : Turned cfg now robotId record seen acc current) :
    ∃ current, Turned cfg now robotId record (seen ∨ robotId ∈ ids)
      (ids.foldl (publishRobot cfg now) acc) current := by
  induction ids generalizing seen acc current with
  | nil => exact ⟨current, by simpa using h⟩
  | cons id ids ih =>
    have hid := hids id (by simp)
    have hrest : ∀ id ∈ ids, id ∈ cfg.robotIds := fun id hm => hids id (List.mem_cons_of_mem _ hm)
    by_cases heq : id = robotId
    · subst heq
      obtain ⟨current', h'⟩ := ih hrest (h.own hnow hid)
      exact ⟨current', by simpa using h'⟩
    · obtain ⟨current', h'⟩ := ih hrest (h.other heq hid)
      refine ⟨current', ?_⟩
      have hmem : robotId ∈ id :: ids ↔ robotId ∈ ids := by simp [Ne.symm heq]
      rwa [hmem]

theorem Tracks.turned (cfg : Config) {clock : Time} (h : Tracks s clock robotId record)
    (hlookup : s.records.lookup robotId = some record) (hclock : clock ≤ now) :
    Turned cfg now robotId record False (s, []) record :=
  ⟨hlookup, h.named, rfl, h.estopped, h.since_le.trans hclock, fun _ _ => rfl, False.elim,
    False.elim, False.elim⟩

/-- A dropout that goes on after the tick has begun no later than its first tick. -/
theorem Turned.dropout {clock : Time} {t : State} {message : FleetState}
    (h : Turned cfg now robotId record True acc current) (htracks : Tracks s clock robotId record)
    (hticks : t.ticks = ⟨now, acc.2⟩ :: s.ticks) (hm : t.OfflineSince robotId message) :
    record.isOnline cfg now = false ∧ 0 < current.offlineSince ∧
      current.offlineSince ≤ message.stamp := by
  obtain ⟨hshows, hm⟩ := offlineSince_cons hticks hm
  have hoff : record.isOnline cfg now = false := by
    obtain ⟨robot, hrobot, hid, hon⟩ := h.shown trivial
    rw [← hon]
    exact hshows robot hrobot hid
  rcases hm with rfl | hm
  · exact ⟨hoff, h.since_pos trivial hoff, h.since_le⟩
  · obtain ⟨hpos, hle⟩ := htracks.dropout message hm
    have hkept := h.kept hoff hpos
    exact ⟨hoff, by rw [hkept]; exact hpos, by rw [hkept]; exact hle⟩

theorem tick_robot {clock : Time} (htracked : s.Tracked cfg clock) (hclock : clock ≤ now)
    (hnow : 0 < now) (hmem : robotId ∈ cfg.robotIds) :
    ∃ record, (publishFleetState cfg now s).records.lookup robotId = some record ∧
      Tracks (publishFleetState cfg now s) now robotId record ∧
      ∀ message, (publishFleetState cfg now s).OfflineSince robotId message →
        0 < cfg.autoEstopAfterOffline → cfg.autoEstopAfterOffline ≤ now - message.stamp →
        record.autoEstopped = true := by
  obtain ⟨record, hlookup, htracks⟩ := htracked robotId hmem
  obtain ⟨current, hturned⟩ :=
    (htracks.turned cfg hlookup hclock).foldl hnow fun id hid => hid
  simp only [hmem, or_true] at hturned
  generalize hfold : cfg.robotIds.foldl (publishRobot cfg now) (s, []) = acc at hturned
  have hloop : Effect (fun m => m.tick = none) s acc.1 := by
    rw [← hfold]
    exact effect_publishRobots (fun _ => rfl) now s
  rw [publishFleetState_send hfold]
  have hticks : (acc.1.send (.fleetState ⟨now, acc.2⟩)).ticks = ⟨now, acc.2⟩ :: s.ticks := by
    rw [← hloop.ticks]
    rfl
  have hestop : (acc.1.send (.fleetState ⟨now, acc.2⟩)).lastEstop robotId =
      acc.1.lastEstop robotId := by
    rw [lastEstop_send]
    rfl
  refine ⟨current, hturned.lookup, ⟨hturned.named, ?_, hturned.since_le, ?_⟩, ?_⟩
  · rw [hestop]
    exact hturned.estopped
  · exact fun message hm => (hturned.dropout htracks hticks hm).2
  · intro message hm hauto hlast
    obtain ⟨hoff, _, hle⟩ := hturned.dropout htracks hticks hm
    have hlong : cfg.autoEstopAfterOffline ≤ now - current.offlineSince :=
      hlast.trans (sub_le_sub_left hle now)
    exact hturned.lasting trivial hoff hauto hlong

end

/-! ### The other callbacks -/

section

variable {cfg : Config} {clock clock' : Time} {s t : State}

/-- What neither publishes a fleet state nor ends an e-stop keeps track of a robot,
whatever it does to the rest of the record. -/
theorem Tracks.frame {robotId : String} {record record' : RobotRecord}
    (h : Tracks s clock robotId record) (hclock : clock ≤ clock') (hticks : t.ticks = s.ticks)
    (hestop : t.lastEstop robotId = s.lastEstop robotId ∨ t.lastEstop robotId = some true)
    (hid : record'.robotId = record.robotId) (hauto : record'.autoEstopped = record.autoEstopped)
    (hsince : record'.offlineSince = record.offlineSince) : Tracks t clock' robotId record' := by
  refine ⟨hid.trans h.named, fun hset => ?_, by rw [hsince]; exact h.since_le.trans hclock, ?_⟩
  · rcases hestop with heq | htrue
    · rw [heq]
      exact h.estopped (hauto.symm.trans hset)
    · exact htrue
  · intro message hm
    rw [hsince]
    exact h.dropout message ((offlineSince_congr hticks).mp hm)

theorem tracked_frame (h : s.Tracked cfg clock) (hclock : clock ≤ clock')
    (hrecords : t.records = s.records) (hticks : t.ticks = s.ticks)
    (hestop : ∀ robotId, t.lastEstop robotId = s.lastEstop robotId ∨
      t.lastEstop robotId = some true) : t.Tracked cfg clock' := by
  intro robotId hmem
  obtain ⟨record, hlookup, htracks⟩ := h robotId hmem
  refine ⟨record, ?_, htracks.frame hclock hticks (hestop robotId) rfl rfl rfl⟩
  rw [hrecords]
  exact hlookup

theorem tracked_publishEstop {id : String} (h : s.Tracked cfg clock) (hid : id ∈ cfg.robotIds) :
    (publishEstop cfg id true s).Tracked cfg clock := by
  have hwrites : Writes (.sending fun m => m.tick = none) s (publishEstop cfg id true s) :=
    writes_publishEstop (by rfl) s
  refine tracked_frame h (le_refl clock) records_publishEstop hwrites.effect.ticks
    fun robotId => ?_
  rw [lastEstop_publishEstop hid]
  split
  · exact .inr rfl
  · exact .inl rfl

theorem tracked_releaseEstop {id : String} (h : s.Tracked cfg clock) (hid : id ∈ cfg.robotIds) :
    (releaseEstop cfg s id).Tracked cfg clock := by
  have hwrites : Writes (.sending fun m => m.tick = none) s (releaseEstop cfg s id) :=
    writes_releaseEstop trivial (fun _ => rfl) s id
  have hticks : (releaseEstop cfg s id).ticks = s.ticks := hwrites.effect.ticks
  have hestop : ∀ robotId, (releaseEstop cfg s id).lastEstop robotId =
      if id = robotId then some false else s.lastEstop robotId := by
    intro robotId
    rw [← lastEstop_publishEstop hid]
    unfold releaseEstop
    dsimp only
    split <;> rfl
  obtain ⟨own, hown, htracks⟩ := h id hid
  have hrecords : (releaseEstop cfg s id).records =
      s.records.insert id { own with autoEstopped := false } := by
    unfold releaseEstop
    simp only [records_publishEstop, hown]
  intro robotId hmem
  rw [hrecords]
  by_cases heq : id = robotId
  · subst heq
    refine ⟨_, AList.lookup_insert _, htracks.named, by simp, htracks.since_le, ?_⟩
    exact fun message hm => htracks.dropout message ((offlineSince_congr hticks).mp hm)
  · obtain ⟨record, hlookup, htracks⟩ := h robotId hmem
    refine ⟨record, ?_, htracks.frame (le_refl clock) hticks (.inl ?_) rfl rfl rfl⟩
    · rw [AList.lookup_insert_ne (Ne.symm heq)]
      exact hlookup
    · rw [hestop, if_neg heq]

theorem tracked_heartbeat {id : String} {message : RobotHeartbeat} {now : Time}
    (h : s.Tracked cfg clock) (hclock : clock ≤ clock') :
    (heartbeatCallback id message now s).Tracked cfg clock' := by
  unfold heartbeatCallback
  cases hlookup : s.records.lookup id with
  | none => exact tracked_frame h hclock rfl rfl fun _ => .inl rfl
  | some own =>
    intro robotId hmem
    obtain ⟨record, hrecord, htracks⟩ := h robotId hmem
    by_cases heq : robotId = id
    · subst heq
      have hsame : own = record := by simpa [hlookup] using hrecord
      subst hsame
      exact ⟨_, AList.lookup_insert _, htracks.frame hclock rfl (.inl rfl) rfl rfl rfl⟩
    · refine ⟨record, ?_, htracks.frame hclock rfl (.inl rfl) rfl rfl rfl⟩
      exact (AList.lookup_insert_ne heq).trans hrecord

theorem tracked_foldl {f : State → String → State} {ids : List String}
    (hf : ∀ s, ∀ id ∈ cfg.robotIds, s.Tracked cfg clock → (f s id).Tracked cfg clock)
    (hids : ∀ id ∈ ids, id ∈ cfg.robotIds) (h : s.Tracked cfg clock) :
    (ids.foldl f s).Tracked cfg clock := by
  induction ids generalizing s with
  | nil => exact h
  | cons id ids ih =>
    exact ih (fun id hm => hids id (List.mem_cons_of_mem _ hm)) (hf s id (hids id (by simp)) h)

/-- With a clock that is positive and does not go back, every robot stays tracked. -/
theorem tracked_call {e : Callback} (h : s.Tracked cfg clock)
    (htime : ∀ now, e.time = some now → 0 < now ∧ clock ≤ now) :
    (s.call cfg e).Tracked cfg (e.time.getD clock) := by
  have hclock : clock ≤ e.time.getD clock := by
    cases ht : e.time with
    | none => exact le_refl clock
    | some now => exact (htime now ht).2
  have heffect := effect_call cfg e s
  have hquiet : e.touchesRecords = false → (∀ m, e.sends m = true → m.tick = none) →
      (∀ robotId m, e.sends m = true → m.estopOf robotId = none) →
      (s.call cfg e).Tracked cfg (e.time.getD clock) := fun hrecords htick hestop =>
    tracked_frame h hclock (records_call hrecords s) (heffect.mono htick).ticks
      fun robotId => .inl (heffect.mono (hestop robotId)).lastEstop
  cases e with
  | assignMission request serviceIsReady now =>
    refine hquiet rfl (fun m hm => ?_) (fun _ m hm => ?_) <;>
      cases m <;> first | rfl | cases hm
  | other e =>
    cases e with
    | heartbeat configuredRobotId message now => exact tracked_heartbeat h hclock
    | publishFleetState now =>
      obtain ⟨hpos, hle⟩ := htime now rfl
      intro robotId hmem
      obtain ⟨record, hlookup, htracks, _⟩ := tick_robot h hle hpos hmem
      exact ⟨record, hlookup, htracks⟩
    | estopAll =>
      exact tracked_foldl (fun _ _ hid h => tracked_publishEstop h hid) (fun _ hid => hid) h
    | estopReleaseAll =>
      exact tracked_foldl (fun _ _ hid h => tracked_releaseEstop h hid) (fun _ hid => hid) h
    | _ =>
      refine hquiet rfl (fun m hm => ?_) (fun _ m hm => ?_) <;>
        cases m <;> first | rfl | cases hm

theorem lookup_addRecord (ids : List String) {records : UnorderedMap String RobotRecord}
    (h : ∀ id record, records.lookup id = some record → record = { robotId := id }) :
    (∀ id record, (ids.foldl addRecord records).lookup id = some record →
      record = { robotId := id }) ∧
    ∀ id, id ∈ ids ∨ id ∈ records → id ∈ ids.foldl addRecord records := by
  induction ids generalizing records with
  | nil => exact ⟨h, fun id hid => by simpa using hid⟩
  | cons id ids ih =>
    have hadd : ∀ id' record, (addRecord records id).lookup id' = some record →
        record = { robotId := id' } := by
      intro id' record hrecord
      unfold addRecord at hrecord
      split at hrecord
      · exact h id' record hrecord
      · by_cases heq : id' = id
        · subst heq
          simpa [eq_comm] using hrecord
        · rw [AList.lookup_insert_ne heq] at hrecord
          exact h id' record hrecord
    have hmem : ∀ id', id' = id ∨ id' ∈ records → id' ∈ addRecord records id := by
      intro id' hid'
      unfold addRecord
      split
      · rcases hid' with rfl | hid'
        · assumption
        · exact hid'
      · simpa using hid'
    obtain ⟨hnew, hall⟩ := ih hadd
    refine ⟨hnew, fun id' hid' => hall id' ?_⟩
    rcases hid' with hid' | hid'
    · rcases List.mem_cons.mp hid' with rfl | hid'
      · exact .inr (hmem id' (.inl rfl))
      · exact .inl hid'
    · exact .inr (hmem id' (.inr hid'))

theorem init_records {store : MissionStore} {fleet : State}
    (h : State.init cfg store = .ok fleet) :
    (∀ id record, fleet.records.lookup id = some record → record = { robotId := id }) ∧
    ∀ id ∈ cfg.robotIds, id ∈ fleet.records := by
  cases init_eq h
  have hempty : ∀ id record, (∅ : UnorderedMap String RobotRecord).lookup id = some record →
      record = { robotId := id } := by
    intro id record hrecord
    simp at hrecord
  obtain ⟨hnew, hall⟩ := lookup_addRecord cfg.robotIds hempty
  exact ⟨hnew, fun id hid => hall id (.inl hid)⟩

theorem tracked_init {store : MissionStore} {fleet : State}
    (h : State.init cfg store = .ok fleet) : fleet.Tracked cfg 0 := by
  obtain ⟨hnew, hall⟩ := init_records h
  intro robotId hmem
  obtain ⟨record, hrecord⟩ := Option.isSome_iff_exists.mp
    (AList.lookup_isSome.mpr (hall robotId hmem))
  have hfresh := hnew robotId record hrecord
  refine ⟨record, hrecord, ?_⟩
  subst hfresh
  refine ⟨rfl, by simp, le_refl _, ?_⟩
  rintro message ⟨later, hp, _⟩
  simp [State.ticks, init_sent h] at hp

end

end PatrolFleet.Fleet
