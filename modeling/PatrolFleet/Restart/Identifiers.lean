import PatrolFleet.Fleet.Audit
import PatrolFleet.Fleet.Rows
import PatrolFleet.Restart.System

/-!
The ids in the tables of the mission store. They are unique exactly as long as one
fleet manager process records incidents, and no number is used for missions of two
scheduler processes.
-/

set_option autoImplicit false

namespace PatrolFleet.Restart

open Fleet (Callback incidentIdOf)
open Scheduler (missionIdOf)
open Numbering

/-- The mission that `enqueue_mission` creates as the `number`-th of a scheduler
process. -/
structure Mission where
  process : Nat
  number : Nat
  deriving DecidableEq

def Mission.missionId (mission : Mission) : String := missionIdOf mission.number

/-- There is a row in `mission_events` that is about a mission of the process. -/
def World.HasRowUnder (w : World) (process : Nat) (missionId : String) : Prop :=
  ∃ row, (some process, row) ∈ w.missionLog ∧ row.missionId = missionId

def World.HasRow (w : World) (mission : Mission) : Prop :=
  w.HasRowUnder mission.process mission.missionId

structure World.UniqueIds (w : World) : Prop where
  incidents : (w.fleet.missionStore.incidents.map (·.incidentId)).Nodup
  missions : ∀ m m' : Mission, w.HasRow m → w.HasRow m' →
    m.missionId = m'.missionId → m = m'

/-- The fleet manager process that records an incident on the event. -/
def World.recorder (w : World) : Event → Option Nat
  | .fleet (.reportIncident request _ _) =>
    if w.fleet.missionStore.isOpen && Fleet.robotExists request.robotId w.fleet then
      some w.fleetProcess
    else none
  | _ => none

/-- The mission that the event brings to the fleet manager: a START of a scheduler,
or an inspection that it has queued. -/
def World.arrival (w : World) : Event → Option (Nat × String)
  | .assignMission process d _ _ =>
    if w.fleet.missionStore.isOpen && Fleet.knows d.request w.fleet then
      some (process, d.missionId)
    else none
  | .queueResponse process _ response =>
    if w.fleet.missionStore.isOpen && response.accepted then some (process, response.missionId)
    else none
  | _ => none

section

variable (cfg : Scheduler.Config) (fcfg : Fleet.Config) (startedAt : Time) (fleet : Fleet.State)
  (es : List Event)

def recorders : List Nat :=
  (machine cfg fcfg startedAt fleet).outputs World.recorder
    (machine cfg fcfg startedAt fleet).init es

def arrivals : List (Nat × String) :=
  (machine cfg fcfg startedAt fleet).outputs World.arrival
    (machine cfg fcfg startedAt fleet).init es

end

/-! ### What an event does to the fleet manager -/

/-- The callback of the fleet manager that the event runs, with the scheduler
process whose mission it is about. -/
def Event.callback : Event → Option (Option Nat × Callback)
  | .fleet e => some (none, .other e)
  | .assignMission process d serviceIsReady now =>
    some (some process, .assignMission d.request serviceIsReady now)
  | .clientRequest request serviceIsReady now =>
    some (none, .assignMission request serviceIsReady now)
  | .robotAnswer about m answer => (answered m answer).map fun e => (about, .other e)
  | .queueResponse process incidentId response =>
    some (some process, .other (.queueResponse incidentId response))
  | _ => none

/-- The fleet manager has run a callback. -/
structure Managed (w : World) (about : Option Nat) (e : Callback) (v : World) : Prop where
  fleet : v.fleet = w.fleet.call w.fleetConfig e
  process : v.fleetProcess = w.fleetProcess
  missionLog : v.missionLog = (w.manage about v.fleet).missionLog
  incidentLog : v.incidentLog = (w.manage about v.fleet).incidentLog
  unanswered : v.unanswered ⊆ (w.manage about v.fleet).unanswered

/-- The fleet manager has stayed as it is. -/
structure Unmanaged (w v : World) : Prop where
  fleet : v.fleet = w.fleet
  process : v.fleetProcess = w.fleetProcess
  missionLog : v.missionLog = w.missionLog
  incidentLog : v.incidentLog = w.incidentLog
  unanswered : v.unanswered ⊆ w.unanswered

/-- A new process has taken over the tables. -/
structure Restarted (w v : World) : Prop where
  counter : v.fleet.incidentCounter = 0
  missionEvents : v.fleet.missionStore.missionEvents = w.fleet.missionStore.missionEvents
  incidents : v.fleet.missionStore.incidents = w.fleet.missionStore.incidents
  process : v.fleetProcess = w.fleetProcess + 1
  missionLog : v.missionLog = w.missionLog
  incidentLog : v.incidentLog = w.incidentLog
  unanswered : v.unanswered = []

section

variable {w v : World} {e : Event}

theorem step_managed {about : Option Nat} {c : Callback} (hc : e.callback = some (about, c))
    (h : w.step e = some v) : Managed w about c v := by
  cases e with
  | fleet e =>
    cases hc
    simp only [World.step] at h
    split at h
    · cases h
    · cases h
      exact ⟨rfl, rfl, rfl, rfl, List.Subset.refl _⟩
  | assignMission process d serviceIsReady now =>
    cases hc
    simp only [World.step] at h
    split at h
    · cases h
      exact ⟨rfl, rfl, rfl, rfl, List.Subset.refl _⟩
    · cases h
  | clientRequest request serviceIsReady now =>
    cases hc
    cases h
    exact ⟨rfl, rfl, rfl, rfl, List.Subset.refl _⟩
  | robotAnswer about' m answer =>
    obtain ⟨e, he, hpair⟩ := Option.map_eq_some_iff.mp hc
    cases hpair
    simp only [World.step, he, Option.map_some] at h
    split at h
    · cases h
      exact ⟨rfl, rfl, rfl, rfl, fun x hx =>
        List.mem_append_right _ (List.mem_of_mem_erase hx)⟩
    · cases h
  | queueResponse process incidentId response =>
    cases hc
    simp only [World.step] at h
    split at h
    · cases h
      exact ⟨rfl, rfl, rfl, rfl, List.Subset.refl _⟩
    · cases h
  | _ => cases hc

theorem step_unmanaged (hc : e.callback = none) (h : w.step e = some v) :
    Unmanaged w v ∨ Restarted w v := by
  cases e with
  | scheduler e =>
    simp only [World.step] at h
    split at h
    · cases h
    · obtain ⟨u, _, rfl⟩ := Option.map_eq_some_iff.mp h
      exact Or.inl ⟨rfl, rfl, rfl, rfl, List.Subset.refl _⟩
  | assignResponse d response now =>
    simp only [World.step] at h
    split at h
    · obtain ⟨u, _, rfl⟩ := Option.map_eq_some_iff.mp h
      exact Or.inl ⟨rfl, rfl, rfl, rfl, List.Subset.refl _⟩
    · cases h
  | assignException d what now =>
    obtain ⟨u, _, rfl⟩ := Option.map_eq_some_iff.mp h
    exact Or.inl ⟨rfl, rfl, rfl, rfl, List.Subset.refl _⟩
  | robotAnswer about m answer =>
    have hnone : answered m answer = none := Option.map_eq_none_iff.mp hc
    simp [World.step, hnone] at h
  | queueMission about incidentId request now =>
    simp only [World.step] at h
    split at h
    · cases h
      exact Or.inl ⟨rfl, rfl, rfl, rfl, List.erase_subset⟩
    · cases h
  | restartScheduler cfg now =>
    cases h
    exact Or.inl ⟨rfl, rfl, rfl, rfl, List.Subset.refl _⟩
  | restartFleet cfg opens =>
    simp only [World.step] at h
    split at h
    · cases h
    next fresh hfresh =>
      cases h
      cases Fleet.init_eq hfresh
      exact Or.inr ⟨rfl, rfl, rfl, rfl, rfl, rfl, rfl⟩
  | _ => cases hc

/-! ### Incidents -/

/-- What a step does to the counter and the table of the incidents. -/
inductive IncidentStep (w v : World) : Option Nat → Prop
  | same (process : v.fleetProcess = w.fleetProcess)
      (isOpen : v.fleet.missionStore.isOpen = w.fleet.missionStore.isOpen)
      (incidents : Fleet.SameIncidents w.fleet v.fleet) (log : v.incidentLog = w.incidentLog) :
      IncidentStep w v none
  | reported (process : v.fleetProcess = w.fleetProcess)
      (isOpen : v.fleet.missionStore.isOpen = w.fleet.missionStore.isOpen)
      (counter : v.fleet.incidentCounter = w.fleet.incidentCounter + 1)
      (rows : v.fleet.missionStore.incidents.map (·.incidentId) =
        w.fleet.missionStore.incidents.map (·.incidentId) ++
          w.fleet.missionStore.insertable (incidentIdOf (w.fleet.incidentCounter + 1)))
      (log : v.incidentLog = w.incidentLog ++
        (w.fleet.missionStore.insertable (incidentIdOf (w.fleet.incidentCounter + 1))).map
          (Prod.mk w.fleetProcess)) :
      IncidentStep w v (if w.fleet.missionStore.isOpen then some w.fleetProcess else none)
  | restarted (h : Restarted w v) : IncidentStep w v none

theorem incidentLog_same {about : Option Nat} {c : Callback} (h : Managed w about c v)
    (hsame : Fleet.SameIncidents w.fleet v.fleet) : v.incidentLog = w.incidentLog := by
  rw [h.incidentLog, World.manage, hsame.rows]
  simp

theorem incidentLog_reported {about : Option Nat} {c : Callback} (h : Managed w about c v)
    {ids : List String} (hids : v.fleet.missionStore.incidents.map (·.incidentId) =
      w.fleet.missionStore.incidents.map (·.incidentId) ++ ids) :
    v.incidentLog = w.incidentLog ++ ids.map (Prod.mk w.fleetProcess) := by
  have hnew : (v.fleet.missionStore.incidents.drop w.fleet.missionStore.incidents.length).map
      (·.incidentId) = ids := by
    rw [List.map_drop, hids, List.drop_left' (List.length_map _)]
  rw [h.incidentLog, World.manage, ← hnew, List.map_map]
  rfl

theorem managed_isOpen {about : Option Nat} {c : Callback} (h : Managed w about c v) :
    v.fleet.missionStore.isOpen = w.fleet.missionStore.isOpen := by
  rw [h.fleet]
  exact (Fleet.effect_call w.fleetConfig c w.fleet).isOpen

theorem callback_report {about : Option Nat} {c : Callback} (hc : e.callback = some (about, c))
    (hreport : c.isReport = true) : ∃ request serviceIsReady now,
      e = .fleet (.reportIncident request serviceIsReady now) ∧
        c = .other (.reportIncident request serviceIsReady now) := by
  cases e with
  | fleet e =>
    cases hc
    cases e with
    | reportIncident request serviceIsReady now => exact ⟨request, serviceIsReady, now, rfl, rfl⟩
    | _ => cases hreport
  | robotAnswer about' m answer =>
    obtain ⟨e, he, hpair⟩ := Option.map_eq_some_iff.mp hc
    cases hpair
    cases m <;> cases he <;> cases hreport
  | assignMission process d serviceIsReady now =>
    cases hc
    cases hreport
  | clientRequest request serviceIsReady now =>
    cases hc
    cases hreport
  | queueResponse process incidentId response =>
    cases hc
    cases hreport
  | _ => cases hc

theorem recorder_none (h : ∀ request serviceIsReady now,
    e ≠ .fleet (.reportIncident request serviceIsReady now)) : w.recorder e = none := by
  cases e with
  | fleet e =>
    cases e with
    | reportIncident request serviceIsReady now => exact absurd rfl (h request serviceIsReady now)
    | _ => rfl
  | _ => rfl

theorem step_incidents (h : w.step e = some v) : IncidentStep w v (w.recorder e) := by
  cases hc : e.callback with
  | none =>
    have hnone : w.recorder e = none := by
      refine recorder_none ?_
      rintro request serviceIsReady now rfl
      cases hc
    rw [hnone]
    rcases step_unmanaged hc h with hs | hr
    · exact .same hs.process (by rw [hs.fleet]) (hs.fleet ▸ .refl _) hs.incidentLog
    · exact .restarted hr
  | some pair =>
    obtain ⟨about, c⟩ := pair
    have hm := step_managed hc h
    by_cases hreport : c.isReport = true
    · obtain ⟨request, serviceIsReady, now, rfl, rfl⟩ := callback_report hc hreport
      cases hknown : Fleet.robotExists request.robotId w.fleet with
      | false =>
        have hsame : v.fleet = w.fleet := hm.fleet.trans (Fleet.reportIncident_unknown hknown)
        have hnone : w.recorder (.fleet (.reportIncident request serviceIsReady now)) = none := by
          simp [World.recorder, hknown]
        rw [hnone]
        exact .same hm.process (managed_isOpen hm) (hsame ▸ .refl _)
          (incidentLog_same hm (hsame ▸ .refl _))
      | true =>
        obtain ⟨hcounter, hrows⟩ :=
          Fleet.reportIncident_known w.fleetConfig serviceIsReady now hknown
        have hfleet : v.fleet = (Fleet.handleReportIncident w.fleetConfig request serviceIsReady
          now w.fleet).2 := hm.fleet
        rw [← hfleet] at hcounter hrows
        have hsome : w.recorder (.fleet (.reportIncident request serviceIsReady now)) =
            if w.fleet.missionStore.isOpen then some w.fleetProcess else none := by
          simp [World.recorder, hknown]
        rw [hsome]
        exact .reported hm.process (managed_isOpen hm) hcounter hrows
          (incidentLog_reported hm hrows)
    · have hsame : Fleet.SameIncidents w.fleet v.fleet := by
        rw [hm.fleet]
        exact Fleet.sameIncidents_call (Bool.eq_false_iff.mpr hreport) w.fleet
      have hnone : w.recorder e = none := by
        refine recorder_none ?_
        rintro request serviceIsReady now rfl
        cases hc
        exact hreport rfl
      rw [hnone]
      exact .same hm.process (managed_isOpen hm) hsame (incidentLog_same hm hsame)

/-- The name that the incident counter gives at `n`. -/
def nextIncidentId (n : Nat) : String := incidentIdOf (n + 1)

theorem nextIncidentId_injective : Function.Injective nextIncidentId := by
  intro a b h
  have := Fleet.incidentIdOf_injective h
  omega

/-- The incidents by the processes that recorded them. -/
structure Incidents (recorded : List Nat) (w : World) : Prop where
  rows : w.incidentLog.map Prod.snd = w.fleet.missionStore.incidents.map (·.incidentId)
  numbered : Numbered nextIncidentId w.incidentLog
  current : written w.fleetProcess w.incidentLog =
    if w.fleet.missionStore.isOpen then
      (List.range w.fleet.incidentCounter).map nextIncidentId
    else []
  earlier : ∀ process ∈ w.incidentLog.map Prod.fst, process ≤ w.fleetProcess
  recorders : w.incidentLog.map Prod.fst = recorded

theorem Incidents.step {recorded : List Nat} {r : Option Nat} (hw : Incidents recorded w)
    (h : IncidentStep w v r) : Incidents (recorded ++ r.toList) v := by
  obtain ⟨hrows, hnumbered, hcurrent, hearlier, hrecorders⟩ := hw
  cases h with
  | same hprocess hopen hsame hlog =>
    refine ⟨?_, ?_, ?_, ?_, ?_⟩
    · rw [hlog, hrows, hsame.rows]
    · rwa [hlog]
    · rw [hlog, hprocess, hopen, hsame.counter, hcurrent]
    · rwa [hlog, hprocess]
    · rw [hlog, hrecorders]
      simp
  | reported hprocess hopen hcounter hids hlog =>
    cases hstore : w.fleet.missionStore.isOpen with
    | false =>
      have hnone : v.incidentLog = w.incidentLog := by
        rw [hlog, Fleet.MissionStore.insertable, hstore]
        simp
      have hsame : v.fleet.missionStore.incidents.map (·.incidentId) =
          w.fleet.missionStore.incidents.map (·.incidentId) := by
        rw [hids, Fleet.MissionStore.insertable, hstore]
        simp
      refine ⟨?_, ?_, ?_, ?_, ?_⟩
      · rw [hnone, hrows, hsame]
      · rwa [hnone]
      · rw [hnone, hprocess, hopen, hcurrent, hstore]
        rfl
      · rwa [hnone, hprocess]
      · rw [hnone, hrecorders]
        simp
    | true =>
      rw [Fleet.MissionStore.insertable, hstore, if_pos rfl] at hids hlog
      rw [hstore, if_pos rfl] at hcurrent
      refine ⟨?_, ?_, ?_, ?_, ?_⟩
      · rw [hlog, List.map_append, hrows, hids]
        rfl
      · rw [hlog]
        exact hnumbered.concat hcurrent
      · rw [hlog, hprocess, List.map_singleton, written_concat_self, hopen, hstore, if_pos rfl,
          hcurrent, hcounter, List.range_succ, List.map_append]
        rfl
      · intro process hmem
        rw [hlog, List.map_append, List.mem_append] at hmem
        rw [hprocess]
        rcases hmem with hmem | hmem
        · exact hearlier process hmem
        · exact (List.mem_singleton.mp hmem).le
      · rw [hlog, List.map_append, hrecorders]
        rfl
  | restarted hr =>
    refine ⟨?_, ?_, ?_, ?_, ?_⟩
    · rw [hr.incidentLog, hrows, hr.incidents]
    · rw [hr.incidentLog]
      exact hnumbered
    · have hnone : written v.fleetProcess w.incidentLog = [] := by
        rw [List.eq_nil_iff_forall_not_mem]
        intro id hid
        have hle := hearlier _ (List.mem_map_of_mem (mem_written.mp hid))
        have hnext := hr.process
        omega
      rw [hr.incidentLog, hnone, hr.counter]
      simp
    · intro process hmem
      rw [hr.incidentLog] at hmem
      rw [hr.process]
      exact (hearlier process hmem).trans (Nat.le_succ _)
    · rw [hr.incidentLog, hrecorders]
      simp

/-! ### Missions -/

theorem managed_rows {about : Option Nat} {c : Callback} (h : Managed w about c v) :
    ∃ rows, v.fleet.missionStore.missionEvents = w.fleet.missionStore.missionEvents ++ rows := by
  rw [h.fleet]
  obtain ⟨rows, hrows⟩ := (Fleet.effect_call w.fleetConfig c w.fleet).rows
  exact ⟨rows, hrows.symm⟩

theorem missionLog_managed {about : Option Nat} {c : Callback} (h : Managed w about c v)
    {rows : List Fleet.MissionEvent} (hrows : v.fleet.missionStore.missionEvents =
      w.fleet.missionStore.missionEvents ++ rows) :
    v.missionLog = w.missionLog ++ rows.map (Prod.mk about) := by
  rw [h.missionLog, World.manage, hrows, List.drop_left]

theorem hasRow_managed {about : Option Nat} {c : Callback} (h : Managed w about c v)
    {rows : List Fleet.MissionEvent} (hrows : v.fleet.missionStore.missionEvents =
      w.fleet.missionStore.missionEvents ++ rows) (process : Nat) (missionId : String) :
    v.HasRowUnder process missionId ↔ w.HasRowUnder process missionId ∨
      about = some process ∧ ∃ row ∈ rows, row.missionId = missionId := by
  unfold World.HasRowUnder
  rw [missionLog_managed h hrows]
  constructor
  · rintro ⟨row, hrow, hid⟩
    rcases List.mem_append.mp hrow with hrow | hrow
    · exact Or.inl ⟨row, hrow, hid⟩
    · obtain ⟨new, hnew, hpair⟩ := List.mem_map.mp hrow
      obtain ⟨habout, rfl⟩ := Prod.mk.inj hpair
      exact Or.inr ⟨habout, new, hnew, hid⟩
  · rintro (⟨row, hrow, hid⟩ | ⟨rfl, row, hrow, hid⟩)
    · exact ⟨row, List.mem_append_left _ hrow, hid⟩
    · exact ⟨row, List.mem_append_right _ (List.mem_map_of_mem hrow), hid⟩

/-- The mission that a request to a robot names. -/
def missionOf : Fleet.Sent → Option String
  | .start _ missionId _ _ => some missionId
  | .stop _ missionId => some missionId
  | _ => none

/-- The missions with rows are those that have arrived, and the requests to the
robots are about such missions. -/
structure Missions (arrived : List (Nat × String)) (w : World) : Prop where
  rows : w.missionLog.map Prod.snd = w.fleet.missionStore.missionEvents
  hasRow : ∀ process missionId, w.HasRowUnder process missionId ↔ (process, missionId) ∈ arrived
  sent : w.fleet.missionStore.isOpen = true → ∀ process m missionId,
    (some process, m) ∈ w.unanswered → missionOf m = some missionId →
    w.HasRowUnder process missionId

theorem Missions.managed_none {arrived : List (Nat × String)} {c : Callback}
    (hw : Missions arrived w) (h : Managed w none c v) : Missions arrived v := by
  obtain ⟨rows, hrows⟩ := managed_rows h
  have hrow : ∀ process missionId,
      v.HasRowUnder process missionId ↔ w.HasRowUnder process missionId := by
    intro process missionId
    rw [hasRow_managed h hrows]
    simp
  refine ⟨?_, ?_, ?_⟩
  · rw [missionLog_managed h hrows, List.map_append, hw.rows, hrows]
    simp
  · intro process missionId
    rw [hrow, hw.hasRow]
  · intro hopen process m missionId hm hmission
    rw [managed_isOpen h] at hopen
    rw [hrow]
    refine hw.sent hopen process m missionId ?_ hmission
    rcases List.mem_append.mp (h.unanswered hm) with hm | hm
    · simp at hm
    · exact hm

theorem Missions.managed_some {arrived : List (Nat × String)} {about : Nat} {c : Callback}
    (hw : Missions arrived w) (h : Managed w (some about) c v) (missionId : String)
    {rows : List Fleet.MissionEvent} (hrows : v.fleet.missionStore.missionEvents =
      w.fleet.missionStore.missionEvents ++ rows) (hid : ∀ row ∈ rows, row.missionId = missionId)
    (hsent : ∀ m ∈ Fleet.sentSince w.fleet v.fleet, ∀ missionId', missionOf m = some missionId' →
      missionId' = missionId ∧ (w.fleet.missionStore.isOpen = true → rows ≠ [])) :
    Missions (arrived ++ if rows = [] then [] else [(about, missionId)]) v := by
  have hnew : ∀ missionId', (∃ row ∈ rows, row.missionId = missionId') ↔
      rows ≠ [] ∧ missionId' = missionId := by
    intro missionId'
    constructor
    · rintro ⟨row, hrow, rfl⟩
      exact ⟨List.ne_nil_of_mem hrow, hid row hrow⟩
    · rintro ⟨hne, rfl⟩
      obtain ⟨row, hrow⟩ := List.exists_mem_of_ne_nil rows hne
      exact ⟨row, hrow, hid row hrow⟩
  refine ⟨?_, ?_, ?_⟩
  · rw [missionLog_managed h hrows, List.map_append, hw.rows, hrows]
    simp
  · intro process missionId'
    rw [hasRow_managed h hrows, hw.hasRow, hnew, List.mem_append]
    by_cases hempty : rows = []
    · simp [hempty]
    · simp [hempty, eq_comm]
  · intro hopen process m missionId' hm hmission
    rw [managed_isOpen h] at hopen
    rw [hasRow_managed h hrows, hnew]
    rcases List.mem_append.mp (h.unanswered hm) with hm | hm
    · obtain ⟨m', hm', hpair⟩ := List.mem_map.mp hm
      obtain ⟨hprocess, rfl⟩ := Prod.mk.inj hpair
      obtain ⟨hsame, hne⟩ := hsent m' hm' missionId' hmission
      exact Or.inr ⟨hprocess, hne hopen, hsame⟩
    · exact Or.inl (hw.sent hopen process m missionId' hm hmission)

theorem sentSince_quiet {s t : Fleet.State} (h : t.sent = s.sent) : Fleet.sentSince s t = [] := by
  simp [Fleet.sentSince, h]

theorem Missions.managed_same {arrived : List (Nat × String)} {about : Nat} {c : Callback}
    (hw : Missions arrived w) (h : Managed w (some about) c v) (hsame : v.fleet = w.fleet) :
    Missions arrived v := by
  have hrows : v.fleet.missionStore.missionEvents = w.fleet.missionStore.missionEvents ++ [] := by
    rw [hsame, List.append_nil]
  have hv := hw.managed_some h "" hrows (by simp)
    (by simp [sentSince_quiet (congrArg Fleet.State.sent hsame)])
  simpa using hv

theorem Missions.of_mem {arrived arrived' : List (Nat × String)} (h : Missions arrived w)
    (hsame : ∀ x, x ∈ arrived ↔ x ∈ arrived') : Missions arrived' w :=
  ⟨h.rows, fun process missionId => (h.hasRow process missionId).trans (hsame _), h.sent⟩

theorem insertable_eq_nil {store : Fleet.MissionStore} {α : Type} {row : α} :
    store.insertable row = [] ↔ store.isOpen = false := by
  unfold Fleet.MissionStore.insertable
  cases store.isOpen <;> simp

theorem answered_rows {m : Fleet.Sent} {answer : Fleet.RobotAnswer} {e : Fleet.Event}
    (h : answered m answer = some e) (cfg : Fleet.Config) (s : Fleet.State) :
    ∃ row, missionOf m = some row.missionId ∧
      (s.step cfg e).missionStore.missionEvents =
        s.missionStore.missionEvents ++ s.missionStore.insertable row ∧
      (s.step cfg e).sent = s.sent := by
  cases m with
  | start robotId missionId missionType request =>
    cases h
    exact ⟨_, rfl, Fleet.missionEvents_recordMissionEvent _ s, Fleet.sent_recordMissionEvent _ s⟩
  | stop robotId missionId =>
    cases h
    exact ⟨_, rfl, Fleet.missionEvents_recordMissionEvent _ s, Fleet.sent_recordMissionEvent _ s⟩
  | _ => cases h

theorem Missions.robotAnswer {arrived : List (Nat × String)} {about : Option Nat}
    {m : Fleet.Sent} {answer : Fleet.RobotAnswer} {c : Fleet.Event} (hw : Missions arrived w)
    (hm : (about, m) ∈ w.unanswered) (hc : answered m answer = some c)
    (h : Managed w about (.other c) v) : Missions arrived v := by
  cases about with
  | none => exact hw.managed_none h
  | some process =>
    obtain ⟨row, hmission, hrows, hsent⟩ := answered_rows hc w.fleetConfig w.fleet
    have hfleet : v.fleet = w.fleet.step w.fleetConfig c := h.fleet
    rw [← hfleet] at hrows hsent
    have hv := hw.managed_some h row.missionId hrows
      (fun row' hrow' => by rw [Fleet.mem_insertable hrow'])
      (by simp [sentSince_quiet hsent])
    refine hv.of_mem ?_
    rintro ⟨process', missionId⟩
    simp only [List.mem_append, insertable_eq_nil]
    cases hopen : w.fleet.missionStore.isOpen with
    | false => simp
    | true =>
      have harrived := (hw.hasRow _ _).mp (hw.sent hopen process m row.missionId hm hmission)
      simp only [Bool.true_eq_false, if_false, List.mem_singleton, Prod.mk.injEq]
      refine or_iff_left_of_imp ?_
      rintro ⟨rfl, rfl⟩
      exact harrived

theorem Missions.assignMission {arrived : List (Nat × String)} {process : Nat}
    {d : Scheduler.Dispatch} {serviceIsReady : Bool} {now : Time} (hw : Missions arrived w)
    (h : Managed w (some process) (.assignMission d.request serviceIsReady now) v) :
    Missions (arrived ++ (w.arrival (.assignMission process d serviceIsReady now)).toList) v := by
  have hfleet : v.fleet =
      (Fleet.handleAssignMission w.fleetConfig d.request serviceIsReady now w.fleet).2 := h.fleet
  have hcommand : d.request.command = AssignMission.commandStart := rfl
  have hrows := Fleet.assignMission_rows w.fleetConfig hcommand serviceIsReady now w.fleet
  rw [← hfleet] at hrows
  simp only [World.arrival]
  cases hknows : Fleet.knows d.request w.fleet with
  | false =>
    rw [hknows, if_neg Bool.false_ne_true] at hrows
    exact (hw.managed_same h hrows).of_mem (by simp)
  | true =>
    rw [hknows, if_pos rfl] at hrows
    obtain ⟨row, hid, hrows⟩ := hrows
    have hwrites : Fleet.Writes (.sending fun m => missionOf m = some d.missionId) w.fleet
        v.fleet := by
      rw [hfleet]
      refine Fleet.writes_handleAssignMission ?_ ?_ ?_ serviceIsReady now w.fleet
      · rfl
      · rfl
      · exact fun _ _ _ => trivial
    have hv := hw.managed_some h d.missionId hrows
      (fun row' hrow' => by rw [Fleet.mem_insertable hrow', hid]; rfl)
      fun m hm missionId hmission => by
        rw [hwrites.effect.sentSince_eq.2 m hm] at hmission
        refine ⟨(Option.some.inj hmission).symm, fun hopen hnone => ?_⟩
        rw [insertable_eq_nil, hopen] at hnone
        cases hnone
    refine hv.of_mem fun x => ?_
    simp only [insertable_eq_nil]
    cases w.fleet.missionStore.isOpen <;> simp

theorem Missions.queueResponse {arrived : List (Nat × String)} {process : Nat}
    {incidentId : String} {response : QueueMission.Response} (hw : Missions arrived w)
    (h : Managed w (some process) (.other (.queueResponse incidentId response)) v) :
    Missions (arrived ++ (w.arrival (.queueResponse process incidentId response)).toList) v := by
  have hfleet : v.fleet = Fleet.queueResponseCallback incidentId response w.fleet := h.fleet
  unfold Fleet.queueResponseCallback at hfleet
  simp only [World.arrival]
  cases haccepted : response.accepted with
  | false =>
    rw [haccepted, if_neg Bool.false_ne_true] at hfleet
    exact (hw.managed_same h hfleet).of_mem (by simp)
  | true =>
    rw [haccepted, if_pos rfl] at hfleet
    have hrows : v.fleet.missionStore.missionEvents = _ :=
      congrArg (·.missionStore.missionEvents) hfleet
    rw [Fleet.missionEvents_recordMissionEvent] at hrows
    have hsent : v.fleet.sent = w.fleet.sent := by
      rw [hfleet, Fleet.sent_recordMissionEvent]
    have hv := hw.managed_some h response.missionId hrows
      (fun row' hrow' => by rw [Fleet.mem_insertable hrow']) (by simp [sentSince_quiet hsent])
    refine hv.of_mem fun x => ?_
    simp only [insertable_eq_nil]
    cases w.fleet.missionStore.isOpen <;> simp

theorem Missions.unmanaged {arrived : List (Nat × String)} (hw : Missions arrived w)
    (h : Unmanaged w v ∨ Restarted w v) : Missions arrived v := by
  have hrow : v.missionLog = w.missionLog → ∀ process missionId,
      v.HasRowUnder process missionId ↔ w.HasRowUnder process missionId := by
    intro hlog process missionId
    rw [World.HasRowUnder, hlog, World.HasRowUnder]
  rcases h with hs | hr
  · refine ⟨?_, ?_, ?_⟩
    · rw [hs.missionLog, hs.fleet, hw.rows]
    · intro process missionId
      rw [hrow hs.missionLog, hw.hasRow]
    · intro hopen process m missionId hm hmission
      rw [hrow hs.missionLog]
      rw [hs.fleet] at hopen
      exact hw.sent hopen process m missionId (hs.unanswered hm) hmission
  · refine ⟨?_, ?_, ?_⟩
    · rw [hr.missionLog, hr.missionEvents, hw.rows]
    · intro process missionId
      rw [hrow hr.missionLog, hw.hasRow]
    · intro _ process m missionId hm
      rw [hr.unanswered] at hm
      cases hm

theorem Missions.step {arrived : List (Nat × String)} (hw : Missions arrived w)
    (h : w.step e = some v) : Missions (arrived ++ (w.arrival e).toList) v := by
  cases hc : e.callback with
  | none =>
    have hnone : w.arrival e = none := by
      cases e <;> first | rfl | cases hc
    rw [hnone, Option.toList_none, List.append_nil]
    exact hw.unmanaged (step_unmanaged hc h)
  | some pair =>
    obtain ⟨about, c⟩ := pair
    have hm := step_managed hc h
    cases e with
    | fleet e =>
      cases hc
      simpa [World.arrival] using hw.managed_none hm
    | clientRequest request serviceIsReady now =>
      cases hc
      simpa [World.arrival] using hw.managed_none hm
    | assignMission process d serviceIsReady now =>
      cases hc
      exact hw.assignMission hm
    | robotAnswer about' m answer =>
      obtain ⟨a, ha, hpair⟩ := Option.map_eq_some_iff.mp hc
      cases hpair
      have hmem : (about, m) ∈ w.unanswered := by
        simp only [World.step] at h
        split at h
        · assumption
        · cases h
      simpa [World.arrival] using hw.robotAnswer hmem ha hm
    | queueResponse process incidentId response =>
      cases hc
      exact hw.queueResponse hm
    | _ => cases hc

end

/-! ### Runs -/

section

variable {cfg : Scheduler.Config} {fcfg : Fleet.Config} {startedAt : Time} {fleet : Fleet.State}
  {es : List Event} {w : World}

theorem run_ids (hinit : Fleet.State.init fcfg {} = .ok fleet)
    (h : (machine cfg fcfg startedAt fleet).run es = some w) :
    Incidents (recorders cfg fcfg startedAt fleet es) w ∧
      Missions (arrivals cfg fcfg startedAt fleet es) w := by
  induction es using List.reverseRecOn generalizing w with
  | nil =>
    have hfleet : fleet.incidentCounter = 0 ∧ fleet.missionStore = {} := by
      cases Fleet.init_eq hinit
      exact ⟨rfl, rfl⟩
    cases h
    refine ⟨⟨?_, Numbered.nil, ?_, ?_, rfl⟩, ⟨?_, ?_, ?_⟩⟩
    · simp [machine, hfleet]
    · simp [machine, hfleet, written]
    · simp [machine]
    · simp [machine, hfleet]
    · intro process missionId
      simp [machine, World.HasRowUnder, arrivals, Machine.outputs]
    · intro _ process m missionId hm
      cases hm
  | append_singleton es e ih =>
    obtain ⟨u, hu, hw⟩ := (machine cfg fcfg startedAt fleet).run_concat_inv h
    obtain ⟨hincidents, hmissions⟩ := ih hu
    have hrecorders : recorders cfg fcfg startedAt fleet (es ++ [e]) =
        recorders cfg fcfg startedAt fleet es ++ (u.recorder e).toList :=
      Machine.outputs_concat hu hw
    have harrivals : arrivals cfg fcfg startedAt fleet (es ++ [e]) =
        arrivals cfg fcfg startedAt fleet es ++ (u.arrival e).toList :=
      Machine.outputs_concat hu hw
    rw [hrecorders, harrivals]
    exact ⟨hincidents.step (step_incidents hw), hmissions.step hw⟩

end

/-- Over any number of restarts, the ids in the two tables are unique if and only
if one process records all the incidents, and no two scheduler processes have a
mission of the same number arrive at the fleet manager. -/
theorem unique_ids_iff {cfg : Scheduler.Config} {fcfg : Fleet.Config} {startedAt : Time}
    {fleet : Fleet.State} (hinit : Fleet.State.init fcfg {} = .ok fleet) {es : List Event}
    {w : World} (h : (machine cfg fcfg startedAt fleet).run es = some w) :
    w.UniqueIds ↔
      (∀ k ∈ recorders cfg fcfg startedAt fleet es, ∀ k' ∈ recorders cfg fcfg startedAt fleet es,
        k = k') ∧
      ∀ n k k', (k, missionIdOf n) ∈ arrivals cfg fcfg startedAt fleet es →
        (k', missionIdOf n) ∈ arrivals cfg fcfg startedAt fleet es → k = k' := by
  obtain ⟨hincidents, hmissions⟩ := run_ids hinit h
  have hnodup := hincidents.numbered.nodup_iff nextIncidentId_injective
  rw [hincidents.rows, hincidents.recorders] at hnodup
  constructor
  · intro hw
    refine ⟨hnodup.mp hw.incidents, fun n k k' hk hk' => ?_⟩
    have hsame := hw.missions ⟨k, n⟩ ⟨k', n⟩ ((hmissions.hasRow _ _).mpr hk)
      ((hmissions.hasRow _ _).mpr hk') rfl
    exact congrArg Mission.process hsame
  · rintro ⟨hone, hdisjoint⟩
    refine ⟨hnodup.mpr hone, ?_⟩
    rintro ⟨k, n⟩ ⟨k', n'⟩ hk hk' hid
    cases Scheduler.missionIdOf_injective hid
    have hsame := hdisjoint n k k' ((hmissions.hasRow _ _).mp hk) ((hmissions.hasRow _ _).mp hk')
    rw [hsame]

/-- An intruder is reported, and an inspection is queued for it. -/
def intruder : List Event :=
  [.fleet (.reportIncident ⟨"robot1", RobotIncident.severityHigh, "intruder", ""⟩ true 0),
    .queueMission none "incident-1" (Fleet.inspectionRequest {}) 0,
    .queueResponse 0 "incident-1"
      ⟨true, "mission-1", "Mission 'mission-1' added to the scheduling queue"⟩]

theorem unique_ids_intruder : ∃ w,
    (machine {} {} 0 Fleet.shipped).run (intruder ++ [.restartScheduler {} 0]) = some w ∧
      w.UniqueIds := by
  have hinit : Fleet.State.init {} {} = .ok Fleet.shipped := rfl
  have hrun : (machine {} {} 0 Fleet.shipped).run (intruder ++ [.restartScheduler {} 0]) =
      some _ := rfl
  have harrivals : arrivals {} {} 0 Fleet.shipped (intruder ++ [.restartScheduler {} 0]) =
      [(0, "mission-1")] := by decide
  refine ⟨_, hrun, (unique_ids_iff hinit hrun).mpr ⟨by decide, ?_⟩⟩
  intro n k k' hk hk'
  rw [harrivals, List.mem_singleton] at hk hk'
  exact congrArg Prod.fst (hk.trans hk'.symm)

/-- The fleet manager is restarted, and the intruder is reported again. -/
def reportedAgain : List Event := intruder ++ [.restartFleet {} true] ++ intruder.take 1

/-- The scheduler is restarted, and a second inspection is queued. -/
def queuedAgain : List Event :=
  intruder ++ [.restartScheduler {} 0] ++ intruder.take 1 ++
    [.queueMission none "incident-2" (Fleet.inspectionRequest {}) 0,
      .queueResponse 1 "incident-2"
        ⟨true, "mission-1", "Mission 'mission-1' added to the scheduling queue"⟩]

/-- Neither the incidents nor the missions keep their ids to themselves. -/
theorem ids_repeated :
    (¬ ∀ cfg fcfg startedAt fleet es w, Fleet.State.init fcfg {} = .ok fleet →
      (machine cfg fcfg startedAt fleet).run es = some w →
      (w.fleet.missionStore.incidents.map (·.incidentId)).Nodup) ∧
    ¬ ∀ cfg fcfg startedAt fleet es w, Fleet.State.init fcfg {} = .ok fleet →
      (machine cfg fcfg startedAt fleet).run es = some w →
      ∀ m m' : Mission, w.HasRow m → w.HasRow m' →
        m.missionId = m'.missionId → m = m' := by
  constructor
  · intro h
    have hnodup := h {} {} 0 Fleet.shipped reportedAgain _ rfl rfl
    revert hnodup
    decide
  · intro h
    have hsame := h {} {} 0 Fleet.shipped queuedAgain _ rfl rfl ⟨0, 1⟩ ⟨1, 1⟩
      ⟨⟨"mission-1", "", "inspect", "QUEUE", "AUTO_QUEUED_FROM_INCIDENT", "incident-1"⟩,
        by decide, rfl⟩
      ⟨⟨"mission-1", "", "inspect", "QUEUE", "AUTO_QUEUED_FROM_INCIDENT", "incident-2"⟩,
        by decide, rfl⟩ rfl
    revert hsame
    decide

end PatrolFleet.Restart
