import PatrolFleet.Scheduler.Order

/-!
What a retry carries over from the failed mission, and the account of the
attempts: only a mission that was on a robot and failed there counts.
-/

set_option autoImplicit false

namespace PatrolFleet.Scheduler

/-! ### The account of a record -/

/-- What a record hands on from the queue to the request, the robot and the retry. -/
structure Account where
  missionId : String
  payload : Payload
  attemptCount : Nat

def QueuedMission.account (m : QueuedMission) : Account := ⟨m.missionId, m.payload, m.attemptCount⟩

def ActiveMission.account (m : ActiveMission) : Account := ⟨m.missionId, m.payload, m.attemptCount⟩

def Dispatch.account (d : Dispatch) : Account := ⟨d.missionId, d.payload, d.attemptCount⟩

/-- The records in `mission_queue_` and `active_missions_`. -/
def State.accounts (s : State) : List Account :=
  s.missionQueue.map (·.account) ++ s.activeMissions.entries.map (·.2.account)

/-- The missions that were classified as failed, the last one first. -/
def failedIds (history : List Happening) : List String :=
  history.filterMap fun
    | .failed missionId _ => some missionId
    | _ => none

/-- The missions that were accepted onto a robot, the last one first. -/
def acceptedIds (history : List Happening) : List String :=
  history.filterMap fun
    | .accepted missionId _ _ => some missionId
    | _ => none

theorem failedIds_append (new old : List Happening) :
    failedIds (new ++ old) = failedIds new ++ failedIds old := List.filterMap_append

theorem acceptedIds_append (new old : List Happening) :
    acceptedIds (new ++ old) = acceptedIds new ++ acceptedIds old := List.filterMap_append

/-- How many missions of a lineage have failed on a robot. -/
def State.failures (s : State) (lineage : String) : Nat :=
  (failedIds s.history).countP (s.lineage · = lineage)

/-- How often a mission of a lineage was accepted onto a robot. -/
def State.acceptances (s : State) (lineage : String) : Nat :=
  (acceptedIds s.history).countP (s.lineage · = lineage)

/-! ### The invariant -/

/-- How many attempts a mission gets: the first one, and the retries that the limit allows
once it is cast to 32 bits. -/
def Config.attemptLimit (cfg : Config) : Int := max 1 (cfg.maxMissionAttempts % UInt32.size)

section

variable (cfg : Config) (Asked : String → Payload → Prop)

/-- The account `x` is in order: it asks for what its lineage was queued for, and
its attempts are the failures. `running` is 1 for a mission on a robot. -/
structure InOrder (s : State) (x : Account) (running : Nat) : Prop where
  asked : Asked (s.lineage x.missionId) x.payload
  attempts : x.attemptCount = s.failures (s.lineage x.missionId)
  bounded : (x.attemptCount : Int) < cfg.attemptLimit
  small : x.attemptCount + 1 < UInt32.size
  accepted : s.acceptances (s.lineage x.missionId) ≤ x.attemptCount + running
  unfailed : x.missionId ∉ failedIds s.history

structure Balanced (s : State) (hand : List Entry) : Prop where
  queued : ∀ m ∈ s.missionQueue, InOrder cfg Asked s m.account 0
  active : ∀ e ∈ hand ++ s.activeMissions.entries, InOrder cfg Asked s e.2.account 1
  failed_issued : ∀ m ∈ failedIds s.history, Issued s.missionCounter m
  accepted_issued : ∀ m ∈ acceptedIds s.history, Issued s.missionCounter m
  failed_nodup : (failedIds s.history).Nodup
  accepted_le : ∀ lineage, (s.acceptances lineage : Int) ≤ cfg.attemptLimit

end

/-- From `s` to `t` the given missions failed and were accepted, and the lineages of
the missions known in `s` are as they were. -/
structure Adds (s t : State) (failed accepted : List String) : Prop where
  lineage : ∀ name, Issued s.missionCounter name → t.lineage name = s.lineage name
  counter : s.missionCounter ≤ t.missionCounter
  failed : failedIds t.history = failed ++ failedIds s.history
  accepted : acceptedIds t.history = accepted ++ acceptedIds s.history

section

variable {cfg : Config} {Asked : String → Payload → Prop} {s t : State}
  {failed accepted : List String} {hand : List Entry}

theorem countP_lineage (h : ∀ name, Issued s.missionCounter name → t.lineage name = s.lineage name)
    {names : List String} (hi : ∀ name ∈ names, Issued s.missionCounter name) (lineage : String) :
    names.countP (t.lineage · = lineage) = names.countP (s.lineage · = lineage) :=
  List.countP_congr fun name hn => by simp [h name (hi name hn)]

theorem Adds.failures (h : Adds s t failed accepted)
    (hi : ∀ m ∈ failedIds s.history, Issued s.missionCounter m) (lineage : String) :
    t.failures lineage = failed.countP (t.lineage · = lineage) + s.failures lineage := by
  unfold State.failures
  rw [h.failed, List.countP_append, countP_lineage h.lineage hi]

theorem Adds.acceptances (h : Adds s t failed accepted)
    (hi : ∀ m ∈ acceptedIds s.history, Issued s.missionCounter m) (lineage : String) :
    t.acceptances lineage = accepted.countP (t.lineage · = lineage) + s.acceptances lineage := by
  unfold State.acceptances
  rw [h.accepted, List.countP_append, countP_lineage h.lineage hi]

/-- An account stays in order while only other lineages fail and are accepted. -/
theorem InOrder.transfer {x : Account} {running : Nat} (hx : InOrder cfg Asked s x running)
    (h : Adds s t failed accepted) (hb : Balanced cfg Asked s hand)
    (hi : Issued s.missionCounter x.missionId)
    (hf : ∀ m ∈ failed, Issued s.missionCounter m ∧ s.lineage m ≠ s.lineage x.missionId)
    (ha : ∀ m ∈ accepted, Issued s.missionCounter m ∧ s.lineage m ≠ s.lineage x.missionId) :
    InOrder cfg Asked t x running := by
  have hsame := h.lineage x.missionId hi
  have hzero : ∀ names : List String,
      (∀ m ∈ names, Issued s.missionCounter m ∧ s.lineage m ≠ s.lineage x.missionId) →
      names.countP (t.lineage · = s.lineage x.missionId) = 0 := by
    intro names hn
    refine List.countP_eq_zero.mpr fun m hm => ?_
    simpa [h.lineage m (hn m hm).1] using (hn m hm).2
  have hfailures : t.failures (s.lineage x.missionId) = s.failures (s.lineage x.missionId) := by
    rw [h.failures hb.failed_issued, hzero failed hf, Nat.zero_add]
  have hacceptances :
      t.acceptances (s.lineage x.missionId) = s.acceptances (s.lineage x.missionId) := by
    rw [h.acceptances hb.accepted_issued, hzero accepted ha, Nat.zero_add]
  refine ⟨hsame ▸ hx.asked, ?_, hx.bounded, hx.small, ?_, ?_⟩
  · rw [hsame, hfailures]
    exact hx.attempts
  · rw [hsame, hacceptances]
    exact hx.accepted
  · rw [h.failed, List.mem_append, not_or]
    exact ⟨fun hm => (hf _ hm).2 rfl, hx.unfailed⟩

theorem queued_issued_hand (hand : List Entry) (ht : s.Tracks (entryIds hand)) {m : QueuedMission}
    (hm : m ∈ s.missionQueue) : Issued s.missionCounter m.missionId := by
  refine Ledger.Tracks.names_issued ht _ (List.mem_append_right _ ?_)
  exact mem_members_of_queued (List.mem_map_of_mem hm)

theorem active_issued_hand (hand : List Entry) (ht : s.Tracks (entryIds hand)) {e : Entry}
    (he : e ∈ hand ++ s.activeMissions.entries) : Issued s.missionCounter e.2.missionId := by
  refine Ledger.Tracks.names_issued ht _ ?_
  rcases List.mem_append.mp he with he | he
  · exact List.mem_append_left _ (List.mem_map_of_mem he)
  · exact List.mem_append_right _ (mem_members_of_active (List.mem_map_of_mem he))

theorem Balanced.part {left : List Entry} (hb : Balanced cfg Asked s hand)
    (ht : s.Tracks (entryIds hand)) (h : Adds s t failed []) (hnodup : failed.Nodup)
    (hf : ∀ f ∈ failed, Issued s.missionCounter f ∧ f ∉ failedIds s.history)
    (hqueue : ∀ m ∈ t.missionQueue, InOrder cfg Asked t m.account 0 ∨
      (m ∈ s.missionQueue ∧ ∀ f ∈ failed, s.lineage f ≠ s.lineage m.missionId))
    (hactive : ∀ e ∈ left ++ t.activeMissions.entries,
      ∃ e' ∈ hand ++ s.activeMissions.entries, e'.2.account = e.2.account ∧
        ∀ f ∈ failed, s.lineage f ≠ s.lineage e'.2.missionId) :
    Balanced cfg Asked t left where
  queued m hm := by
    rcases hqueue m hm with hnew | ⟨hold, hne⟩
    · exact hnew
    · exact (hb.queued m hold).transfer h hb (queued_issued_hand hand ht hold)
        (fun f hmem => ⟨(hf f hmem).1, hne f hmem⟩) (by simp)
  active e he := by
    obtain ⟨e', he', heq, hne⟩ := hactive e he
    rw [← heq]
    exact (hb.active e' he').transfer h hb (active_issued_hand hand ht he')
      (fun f hmem => ⟨(hf f hmem).1, hne f hmem⟩) (by simp)
  failed_issued := by
    rw [h.failed]
    refine List.forall_mem_append.mpr ⟨fun f hmem => ((hf f hmem).1).mono h.counter, ?_⟩
    exact fun f hmem => (hb.failed_issued f hmem).mono h.counter
  accepted_issued := by
    rw [h.accepted]
    exact fun m hmem => (hb.accepted_issued m hmem).mono h.counter
  failed_nodup := by
    rw [h.failed]
    exact List.nodup_append.mpr ⟨hnodup, hb.failed_nodup,
      fun f hmem g hg heq => (hf f hmem).2 (heq ▸ hg)⟩
  accepted_le lineage := by
    rw [h.acceptances hb.accepted_issued]
    simpa using hb.accepted_le lineage

theorem lineage_ne_head {e : Entry} (ht : s.Tracks (entryIds (e :: hand))) {name : String}
    (hn : name ∈ entryIds hand ++ s.members) : s.lineage e.2.missionId ≠ s.lineage name := by
  intro heq
  have hnodup : ((e.2.missionId :: (entryIds hand ++ s.members)).map s.lineage).Nodup :=
    Ledger.Tracks.lineages ht
  rw [List.map_cons, List.nodup_cons] at hnodup
  exact hnodup.1 (heq ▸ List.mem_map_of_mem hn)

theorem mem_entryIds {e : Entry} (he : e ∈ hand ++ s.activeMissions.entries) :
    e.2.missionId ∈ entryIds hand ++ s.members := by
  rcases List.mem_append.mp he with he | he
  · exact List.mem_append_left _ (List.mem_map_of_mem he)
  · exact List.mem_append_right _ (mem_members_of_active (List.mem_map_of_mem he))

variable {queue : List QueuedMission} {active : UnorderedMap String ActiveMission} {ids : Nat}
  {new : List Happening}

theorem Edits.adds (h : Edits s t queue active ids new)
    (hl : ∀ name, Issued s.missionCounter name →
      (ledgerOf (new ++ s.history)).origin name = s.lineage name)
    (hf : failedIds new = failed) (ha : acceptedIds new = accepted) :
    Adds s t failed accepted where
  lineage name hn := by
    unfold State.lineage
    rw [h.ledger]
    exact hl name hn
  counter := by rw [h.missionCounter]; exact Nat.le_add_right _ _
  failed := by rw [h.history, failedIds_append, hf]
  accepted := by rw [h.history, acceptedIds_append, ha]

theorem Edits.balanced (h : Edits s t queue s.activeMissions ids new)
    (hb : Balanced cfg Asked s hand) (ht : s.Tracks (entryIds hand))
    (hl : ∀ name, Issued s.missionCounter name →
      (ledgerOf (new ++ s.history)).origin name = s.lineage name)
    (hf : failedIds new = []) (ha : acceptedIds new = []) {left : List Entry}
    (hleft : left ⊆ hand)
    (hqueue : ∀ m ∈ queue, m ∈ s.missionQueue ∨ InOrder cfg Asked t m.account 0) :
    Balanced cfg Asked t left := by
  refine hb.part ht (h.adds hl hf ha) List.nodup_nil (by simp) ?_ ?_
  · rw [h.missionQueue]
    exact fun m hm => (hqueue m hm).symm.imp id fun hold => ⟨hold, by simp⟩
  · rw [h.activeMissions]
    intro e he
    refine ⟨e, List.mem_append.mpr ?_, rfl, by simp⟩
    exact (List.mem_append.mp he).imp (fun hl => hleft hl) id

theorem Adds.head_failed {e : Entry} (h : Adds s t [e.2.missionId] [])
    (hb : Balanced cfg Asked s (e :: hand)) (ht : s.Tracks (entryIds (e :: hand))) :
    t.failures (s.lineage e.2.missionId) = e.2.attemptCount + 1 ∧
      t.acceptances (s.lineage e.2.missionId) ≤ e.2.attemptCount + 1 := by
  have he := hb.active e List.mem_cons_self
  have hi := active_issued_hand _ ht (e := e) List.mem_cons_self
  constructor
  · rw [h.failures hb.failed_issued]
    have hattempts : e.2.attemptCount = s.failures (s.lineage e.2.missionId) := he.attempts
    simp [h.lineage _ hi]
    omega
  · have haccepted : s.acceptances (s.lineage e.2.missionId) ≤ e.2.attemptCount + 1 := he.accepted
    rw [h.acceptances hb.accepted_issued]
    simpa using haccepted

theorem Edits.balanced_failed {e : Entry} (h : Edits s t queue s.activeMissions ids new)
    (hb : Balanced cfg Asked s (e :: hand)) (ht : s.Tracks (entryIds (e :: hand)))
    (ha : Adds s t [e.2.missionId] [])
    (hqueue : ∀ m ∈ queue, m ∈ s.missionQueue ∨ InOrder cfg Asked t m.account 0) :
    Balanced cfg Asked t hand := by
  have hi := active_issued_hand _ ht (e := e) List.mem_cons_self
  have hun := (hb.active e List.mem_cons_self).unfailed
  refine hb.part ht ha (List.nodup_singleton _) (by simpa using ⟨hi, hun⟩) ?_ ?_
  · rw [h.missionQueue]
    intro m hm
    rcases hqueue m hm with hold | hnew
    · have hmember : m.missionId ∈ entryIds hand ++ s.members :=
        List.mem_append_right _ (mem_members_of_queued (List.mem_map_of_mem hold))
      exact Or.inr ⟨hold, by simpa using lineage_ne_head ht hmember⟩
    · exact Or.inl hnew
  · rw [h.activeMissions]
    intro other ho
    refine ⟨other, List.mem_cons_of_mem _ ho, rfl, ?_⟩
    simpa using lineage_ne_head ht (mem_entryIds ho)

theorem Adds.fresh_unfailed (h : Adds s t failed accepted)
    (hf : ∀ m ∈ failed, Issued s.missionCounter m) (hb : Balanced cfg Asked s hand) :
    missionIdOf (s.missionCounter + 1) ∉ failedIds t.history := by
  rw [h.failed]
  intro hmem
  refine not_issued_fresh s.missionCounter ?_
  exact (List.mem_append.mp hmem).elim (hf _) (hb.failed_issued _)

/-- The counter of a retry does not overflow: it stays below the limit, and the limit
has 32 bits. -/
theorem nextAttemptCount_eq {m : ActiveMission} (h : m.attemptCount + 1 < UInt32.size) :
    m.nextAttemptCount = m.attemptCount + 1 := Nat.mod_eq_of_lt h

theorem attemptLimit_le {cfg : Config} (hpos : 1 ≤ cfg.maxMissionAttempts) :
    cfg.attemptLimit ≤ cfg.maxMissionAttempts := by
  have hsize : (UInt32.size : Int) = 4294967296 := rfl
  refine max_le hpos ?_
  rw [hsize]
  omega

theorem limit_le (cfg : Config) {n : Nat} (h : (n : Int) < cfg.maxMissionAttempts % UInt32.size) :
    (n : Int) < cfg.attemptLimit ∧ n + 1 < UInt32.size := by
  have hsize : (UInt32.size : Int) = 4294967296 := rfl
  have hnat : UInt32.size = 4294967296 := rfl
  refine ⟨lt_max_of_lt_right h, ?_⟩
  rw [hsize] at h
  omega

theorem account_apply {verdict : Verdict} {a b : ActiveMission}
    (h : verdict.apply a = some b) : b.account = a.account := by
  cases verdict with
  | keep => exact Option.some.inj h ▸ rfl
  | confirm => exact Option.some.inj h ▸ rfl
  | complete => cases h
  | fail => cases h

theorem Edits.requeued_inOrder {e : Entry}
    (h : Edits s t queue s.activeMissions 1
      [.requeued e.2.missionId (missionIdOf (s.missionCounter + 1)), .failed e.2.missionId e.1])
    (hadds : Adds s t [e.2.missionId] [])
    (hlt : (e.2.nextAttemptCount : Int) < cfg.maxMissionAttempts % UInt32.size)
    (hb : Balanced cfg Asked s (e :: hand)) (ht : s.Tracks (entryIds (e :: hand))) :
    InOrder cfg Asked t
      ⟨missionIdOf (s.missionCounter + 1), e.2.payload, e.2.nextAttemptCount⟩ 0 := by
  have hi := active_issued_hand _ ht (e := e) List.mem_cons_self
  have he := hb.active e List.mem_cons_self
  have hchild : t.lineage (missionIdOf (s.missionCounter + 1)) = s.lineage e.2.missionId := by
    unfold State.lineage
    rw [h.ledger]
    exact s.ledger.origin_retry_child _ _
  have hnext := nextAttemptCount_eq (m := e.2) he.small
  obtain ⟨hfailures, hacceptances⟩ := hadds.head_failed hb ht
  obtain ⟨hbound, hsmall⟩ := limit_le cfg hlt
  refine ⟨hchild ▸ he.asked, ?_, hbound, hsmall, ?_, ?_⟩
  · change e.2.nextAttemptCount = t.failures (t.lineage (missionIdOf (s.missionCounter + 1)))
    rw [hchild, hfailures, hnext]
  · change t.acceptances (t.lineage (missionIdOf (s.missionCounter + 1))) ≤
      e.2.nextAttemptCount + 0
    rw [hchild, hnext]
    exact hacceptances
  · exact hadds.fresh_unfailed (by simpa using hi) hb

/-- A mission that is queued for the first time is in order: nothing has happened to
its lineage. -/
theorem Edits.enqueued_inOrder {payload : Payload}
    (h : Edits s t queue s.activeMissions 1 [.enqueued (missionIdOf (s.missionCounter + 1))])
    (hasked : Asked (missionIdOf (s.missionCounter + 1)) payload)
    (hb : Balanced cfg Asked s []) (ht : s.Tracks []) :
    InOrder cfg Asked t ⟨missionIdOf (s.missionCounter + 1), payload, 0⟩ 0 := by
  have hfresh := not_issued_fresh s.missionCounter
  have hadds : Adds s t [] [] := h.adds (fun _ _ => rfl) rfl rfl
  have horigin : t.lineage (missionIdOf (s.missionCounter + 1)) =
      missionIdOf (s.missionCounter + 1) := by
    unfold State.lineage
    rw [h.ledger]
    exact Ledger.Tracks.origin_fresh ht hfresh
  have hzero : ∀ names : List String, (∀ m ∈ names, Issued s.missionCounter m) →
      names.countP (s.lineage · = missionIdOf (s.missionCounter + 1)) = 0 := by
    intro names hn
    refine List.countP_eq_zero.mpr fun m hm heq => hfresh ?_
    have hissued := Ledger.Tracks.origin_issued ht (hn m hm)
    simp only [decide_eq_true_eq] at heq
    exact heq ▸ hissued
  have hsmall : 0 + 1 < UInt32.size := by decide
  refine ⟨?_, ?_, lt_max_of_lt_left Int.one_pos, hsmall, ?_, hadds.fresh_unfailed (by simp) hb⟩
  · change Asked (t.lineage (missionIdOf (s.missionCounter + 1))) payload
    rw [horigin]
    exact hasked
  · change 0 = t.failures (t.lineage (missionIdOf (s.missionCounter + 1)))
    rw [horigin, hadds.failures hb.failed_issued, State.failures, hzero _ hb.failed_issued]
    rfl
  · change t.acceptances (t.lineage (missionIdOf (s.missionCounter + 1))) ≤ 0
    rw [horigin, hadds.acceptances hb.accepted_issued, State.acceptances,
      hzero _ hb.accepted_issued]
    exact Nat.le_refl _

theorem part_balanced {asked : Option (String × Payload)} {p q : State × List Entry}
    (hasked : ∀ name payload, asked = some (name, payload) → Asked name payload)
    (hp : Part cfg asked p q) (ht : p.1.Tracks (entryIds p.2))
    (hb : Balanced cfg Asked p.1 p.2) : Balanced cfg Asked q.1 q.2 := by
  cases hp with
  | quiet hand h =>
    exact h.balanced hb ht (fun _ _ => rfl) rfl rfl (List.Subset.refl _) fun _ hm => Or.inl hm
  | @taken s t verdict visit hv h =>
    have hadds : Adds s t [] [] := h.adds (fun _ _ => rfl) rfl rfl
    refine hb.part ht hadds List.nodup_nil (by simp) ?_ ?_
    · rw [h.missionQueue]
      exact fun m hm => Or.inr ⟨hm, by simp⟩
    · rw [h.activeMissions]
      intro e he
      rcases List.mem_append.mp he with he | he
      · refine ⟨e, hv.subset ?_, rfl, by simp⟩
        rcases List.mem_append.mp he with he | he <;> exact (List.mem_filter.mp he).1
      · obtain ⟨a, hmem, happly⟩ := UnorderedMap.mem_filterMapVal.mp he
        exact ⟨⟨e.1, a⟩, hmem, (account_apply happly).symm, by simp⟩
  | completed e hand h =>
    exact h.balanced hb ht (fun _ _ => rfl) rfl rfl (List.subset_cons_self _ _)
      fun _ hm => Or.inl hm
  | dropped e hand h =>
    exact h.balanced_failed hb ht (h.adds (fun _ _ => rfl) rfl rfl) fun _ hm => Or.inl hm
  | @requeued s t e hand hlt h =>
    have hfresh := not_issued_fresh s.missionCounter
    have hadds : Adds s t [e.2.missionId] [] :=
      h.adds (fun name hn => s.ledger.origin_retry_issued _ hfresh hn) rfl rfl
    refine h.balanced_failed hb ht hadds fun m hm => ?_
    rcases List.mem_cons.mp ((enlarged_perm ..).subset hm) with rfl | hold
    · exact Or.inr (h.requeued_inOrder hadds hlt hb ht)
    · exact Or.inl hold
  | enqueued ha h =>
    refine h.balanced hb ht (fun _ _ => rfl) rfl rfl (List.Subset.refl _) fun m hm => ?_
    rcases List.mem_cons.mp ((enlarged_perm ..).subset hm) with rfl | hold
    · exact Or.inr (h.enqueued_inOrder (hasked _ _ ha) hb ht)
    · exact Or.inl hold
  | cancelled hany h =>
    exact h.balanced hb ht (fun _ _ => rfl) rfl rfl (List.Subset.refl _)
      fun _ hm => Or.inl (List.eraseP_subset hm)

/-! ### The dispatch slot -/

theorem Adds.refl (s : State) : Adds s s [] [] := ⟨fun _ _ => rfl, Nat.le_refl _, rfl, rfl⟩

theorem Adds.trans {u : State} {failed' accepted' : List String} (h : Adds s t failed accepted)
    (k : Adds t u failed' accepted') : Adds s u (failed' ++ failed) (accepted' ++ accepted) where
  lineage name hn := (k.lineage name (hn.mono h.counter)).trans (h.lineage name hn)
  counter := Nat.le_trans h.counter k.counter
  failed := by rw [k.failed, h.failed, List.append_assoc]
  accepted := by rw [k.accepted, h.accepted, List.append_assoc]

/-- At most the first mission at hand fails in a part. -/
theorem part_adds {asked : Option (String × Payload)} {p q : State × List Entry}
    (hp : Part cfg asked p q) : ∃ failed, Adds p.1 q.1 failed [] ∧
      (failed = [] ∨ ∃ e hand, p.2 = e :: hand ∧ failed = [e.2.missionId]) := by
  cases hp with
  | quiet hand h => exact ⟨[], h.adds (fun _ _ => rfl) rfl rfl, Or.inl rfl⟩
  | taken verdict hv h => exact ⟨[], h.adds (fun _ _ => rfl) rfl rfl, Or.inl rfl⟩
  | completed e hand h => exact ⟨[], h.adds (fun _ _ => rfl) rfl rfl, Or.inl rfl⟩
  | dropped e hand h => exact ⟨_, h.adds (fun _ _ => rfl) rfl rfl, Or.inr ⟨e, hand, rfl, rfl⟩⟩
  | @requeued s t e hand hlt h =>
    exact ⟨_, h.adds (fun name hn =>
      s.ledger.origin_retry_issued _ (not_issued_fresh s.missionCounter) hn) rfl rfl,
      Or.inr ⟨e, hand, rfl, rfl⟩⟩
  | enqueued ha h => exact ⟨[], h.adds (fun _ _ => rfl) rfl rfl, Or.inl rfl⟩
  | cancelled hany h => exact ⟨[], h.adds (fun _ _ => rfl) rfl rfl, Or.inl rfl⟩

theorem Parts.adds {asked : Option (String × Payload)} {p q : State × List Entry}
    (h : Parts cfg asked p q) : ∃ failed, Adds p.1 q.1 failed [] := by
  induction h with
  | refl => exact ⟨[], Adds.refl _⟩
  | tail _ hpart ih =>
    obtain ⟨failed, hf⟩ := ih
    obtain ⟨failed', hf', _⟩ := part_adds hpart
    exact ⟨failed' ++ failed, hf.trans hf'⟩

theorem part_inOrder {asked : Option (String × Payload)} {p q : State × List Entry} {x : Account}
    (hp : Part cfg asked p q) (ht : p.1.Tracks (entryIds p.2)) (hb : Balanced cfg Asked p.1 p.2)
    (hs : p.1.Secludes (entryIds p.2) x.missionId) (hx : InOrder cfg Asked p.1 x 0) :
    InOrder cfg Asked q.1 x 0 := by
  obtain ⟨failed, hadds, hnone | ⟨e, hand, hhand, hone⟩⟩ := part_adds hp
  · subst hnone
    exact hx.transfer hadds hb hs.issued (by simp) (by simp)
  · subst hone
    refine hx.transfer hadds hb hs.issued (fun m hm => ?_) (by simp)
    have hmem : e.2.missionId ∈ entryIds p.2 := by simp [hhand, entryIds]
    rw [List.mem_singleton.mp hm]
    exact ⟨Ledger.Tracks.names_issued ht _ (List.mem_append_left _ hmem),
      hs.offRobots _ (List.mem_append_left _ hmem)⟩

theorem SlotChange.adds {queue : List QueuedMission} {active : UnorderedMap String ActiveMission}
    {happening : Happening} {generation : Nat} {inProgress : Bool}
    (hc : SlotChange s t queue active happening generation inProgress) :
    Adds s t [] (acceptedIds [happening]) where
  lineage name _ := by
    unfold State.lineage
    rw [hc.ledger]
  counter := hc.missionCounter.ge
  failed := by
    have hslot := hc.ofSlot
    rw [hc.history]
    cases happening <;> simp [Happening.ofSlot] at hslot <;> rfl
  accepted := by
    rw [hc.history, ← List.singleton_append, acceptedIds_append]

theorem SlotChange.balanced {happening : Happening} {generation : Nat} {inProgress : Bool}
    (hc : SlotChange s t s.missionQueue s.activeMissions happening generation inProgress)
    (hnone : acceptedIds [happening] = [])
    (ht : s.Tracks []) (hb : Balanced cfg Asked s []) : Balanced cfg Asked t [] := by
  have hadds : Adds s t [] [] := hnone ▸ hc.adds
  refine hb.part ht hadds List.nodup_nil (by simp) ?_ ?_
  · rw [hc.missionQueue]
    exact fun m hm => Or.inr ⟨hm, by simp⟩
  · rw [hc.activeMissions]
    exact fun e he => ⟨e, he, rfl, by simp⟩

theorem balanced_accepted {d : Dispatch} {now : Time} {generation : Nat}
    (hc : SlotChange s t (s.missionQueue.filter (·.missionId ≠ d.missionId))
      (s.activeMissions.insert d.robotId (d.activated now))
      (.accepted d.missionId d.robotId d.generation) generation false)
    (ht : s.Tracks []) (hs : s.Secludes [] d.missionId) (hb : Balanced cfg Asked s [])
    (hd : InOrder cfg Asked s d.account 0) : Balanced cfg Asked t [] := by
  have hadds : Adds s t [] [d.missionId] := hc.adds
  have hone : ∀ {name : String}, s.lineage d.missionId ≠ s.lineage name →
      ∀ m ∈ [d.missionId], Issued s.missionCounter m ∧ s.lineage m ≠ s.lineage name := by
    intro name hne m hm
    rw [List.mem_singleton.mp hm]
    exact ⟨hs.issued, hne⟩
  have hsame := hadds.lineage d.missionId hs.issued
  have hbefore : s.acceptances (s.lineage d.missionId) ≤ d.attemptCount := hd.accepted
  have hbound : (d.attemptCount : Int) < cfg.attemptLimit := hd.bounded
  have hcount : t.acceptances (s.lineage d.missionId) ≤ d.attemptCount + 1 := by
    rw [hadds.acceptances hb.accepted_issued]
    simp [hsame]
    omega
  refine ⟨?_, ?_, ?_, ?_, ?_, ?_⟩
  · rw [hc.missionQueue]
    intro m hm
    obtain ⟨hold, hne⟩ := List.mem_filter.mp hm
    refine (hb.queued m hold).transfer hadds hb (queued_issued_hand [] ht hold) (by simp)
      (hone fun heq => ?_)
    have hid := hs.queued m.missionId (List.mem_map_of_mem hold) heq.symm
    simp [hid] at hne
  · rw [hc.activeMissions, AList.entries_insert]
    intro e he
    rcases List.mem_cons.mp he with rfl | he
    · refine ⟨hsame ▸ hd.asked, ?_, hd.bounded, hd.small, ?_, ?_⟩
      · change d.attemptCount = t.failures (t.lineage d.missionId)
        have hattempts : d.attemptCount = s.failures (s.lineage d.missionId) := hd.attempts
        rw [hsame, hadds.failures hb.failed_issued]
        simpa using hattempts
      · change t.acceptances (t.lineage d.missionId) ≤ d.attemptCount + 1
        rw [hsame]
        exact hcount
      · rw [hadds.failed]
        exact hd.unfailed
    · have hold : e ∈ s.activeMissions.entries := (List.kerase_sublist _ _).subset he
      refine (hb.active e hold).transfer hadds hb (active_issued_hand [] ht hold) (by simp)
        (hone ?_)
      exact (hs.offRobots _ (List.mem_map_of_mem hold)).symm
  · rw [hadds.failed]
    exact fun m hm => (hb.failed_issued m hm).mono hadds.counter
  · rw [hadds.accepted]
    refine List.forall_mem_append.mpr ⟨by simpa using hs.issued.mono hadds.counter, ?_⟩
    exact fun m hm => (hb.accepted_issued m hm).mono hadds.counter
  · rw [hadds.failed]
    exact hb.failed_nodup
  · intro lineage
    by_cases heq : s.lineage d.missionId = lineage
    · subst heq
      omega
    · rw [hadds.acceptances hb.accepted_issued]
      simpa [hsame, heq] using hb.accepted_le lineage

end

end PatrolFleet.Scheduler
