import PatrolFleet.Scheduler.Retries

/-!
Every request to the fleet manager goes back to what the lineage of its mission was
queued for.
-/

set_option autoImplicit false

namespace PatrolFleet.Scheduler

/-- The mission has an id, and its lineage was queued for the payload. -/
structure World.Traces (Asked : String → Payload → Prop) (w : World) (missionId : String)
    (payload : Payload) : Prop where
  issued : Issued w.node.missionCounter missionId
  asked : Asked (w.node.lineage missionId) payload

section

variable {cfg : Config} {Asked : String → Payload → Prop} {w v : World} {e : Event}

theorem traces_step {missionId : String} {payload : Payload}
    (h : w.Traces Asked missionId payload) (hturn : Turn cfg w e v) :
    v.Traces Asked missionId payload := by
  obtain ⟨failed, accepted, hadds⟩ := adds_step hturn
  exact ⟨h.issued.mono hadds.counter, (hadds.lineage _ h.issued).symm ▸ h.asked⟩

theorem traces_of_sent {d : Dispatch} (hw : w.Inv) (h : w.Accounted cfg Asked)
    (hturn : Turn cfg w e v) (hd : v.calls = d :: w.calls) :
    v.Traces Asked d.missionId d.payload := by
  refine traces_step ?_ hturn
  have hlength := congrArg List.length hd
  cases hturn with
  | parts => simp at hlength
  | cleared => simp at hlength
  | @sent t mission robot now ready hc _ _ hm _ =>
    cases hd
    have hqueued : mission ∈ w.node.missionQueue :=
      hc.freed.missionQueue ▸ List.mem_of_mem_head? hm
    exact ⟨queued_issued hw hqueued, (h.balanced.queued mission hqueued).asked⟩
  | @answered other answer now hmem =>
    have hle := (List.erase_sublist (a := other) (l := w.calls)).length_le
    simp only [List.length_cons] at hlength
    omega

end

end PatrolFleet.Scheduler
