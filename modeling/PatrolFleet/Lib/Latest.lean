import PatrolFleet.Lib.Machine

/-!
The value that the last of several events carries: what a register holds after a
run. Events that carry nothing for the register do not matter, nor how they are
interleaved with those that do.
-/

set_option autoImplicit false

namespace Latest

variable {σ ε α : Type}

/-- The value of the last event that carries one. -/
def latest (f : ε → Option α) (es : List ε) : Option α :=
  es.foldl (fun a e => (f e).or a) none

variable {f : ε → Option α} {es es' : List ε} {a : α}

@[simp] theorem latest_nil : latest f [] = none := rfl

@[simp] theorem latest_concat (e : ε) : latest f (es ++ [e]) = (f e).or (latest f es) := by
  simp [latest]

theorem latest_eq_some : latest f es = some a ↔
    ∃ before e after, es = before ++ e :: after ∧ f e = some a ∧ ∀ d ∈ after, f d = none := by
  induction es using List.reverseRecOn with
  | nil => simp
  | append_singleton es e ih =>
    rw [latest_concat]
    constructor
    · intro h
      cases he : f e with
      | some b =>
        rw [he, Option.some_or] at h
        exact ⟨es, e, [], rfl, he.trans h, by simp⟩
      | none =>
        rw [he, Option.none_or] at h
        obtain ⟨before, d, after, rfl, hd, hafter⟩ := ih.mp h
        refine ⟨before, d, after ++ [e], by simp, hd, fun c hc => ?_⟩
        rcases List.mem_append.mp hc with hc | hc
        · exact hafter c hc
        · rwa [List.mem_singleton.mp hc]
    · rintro ⟨before, d, after, heq, hd, hafter⟩
      rcases List.eq_nil_or_concat after with rfl | ⟨after, c, rfl⟩
      · obtain ⟨rfl, rfl⟩ : es = before ∧ e = d := by simpa using heq
        rw [hd, Option.some_or]
      · obtain ⟨rfl, rfl⟩ : es = before ++ d :: after ∧ e = c := by
          have hsplit : es ++ [e] = (before ++ d :: after) ++ [c] := by simpa using heq
          simpa using List.append_inj' hsplit rfl
        have hnone : f e = none := hafter e (by simp)
        rw [hnone, Option.none_or, ih]
        exact ⟨before, d, after, rfl, hd, fun b hb => hafter b (by simp [hb])⟩

theorem latest_filter {p : ε → Bool} (hp : ∀ e, p e = false → f e = none) :
    latest f (es.filter p) = latest f es := by
  induction es using List.reverseRecOn with
  | nil => rfl
  | append_singleton es e ih =>
    rw [List.filter_append, latest_concat, ← ih]
    cases he : p e with
    | true => simp [he]
    | false => simp [he, hp e he]

theorem latest_congr {p : ε → Bool} (hp : ∀ e, p e = false → f e = none)
    (h : es.filter p = es'.filter p) : latest f es = latest f es' := by
  rw [← latest_filter hp, h, latest_filter hp]

/-- A register that every step overwrites or keeps holds what the last event has written,
if it is there at all. -/
theorem run_register {m : Machine σ ε} {g : σ → Option α}
    (hstep : ∀ s e t, m.Reachable s → m.step s e = some t →
      g t = (g s).map fun a => (f e).getD a) {s : σ}
    (h : m.run es = some s) : g s = (g m.init).map fun a => (latest f es).getD a := by
  induction es using List.reverseRecOn generalizing s with
  | nil =>
    cases h
    simp
  | append_singleton es e ih =>
    obtain ⟨u, hu, hs⟩ := m.run_concat_inv h
    rw [hstep u e s ⟨es, hu⟩ hs, ih hu, Option.map_map, latest_concat]
    congr 1
    funext a
    cases f e <;> rfl

/-! ### The registers of several sources -/

/-- What the last event of each source carries. -/
def registers (f : Nat → ε → Option α) (n : Nat) (es : List ε) : List (Option α) :=
  (List.range n).map fun i => latest (f i) es

variable {f : Nat → ε → Option α} {n : Nat} {e : ε} {k : Nat}

@[simp] theorem length_registers : (registers f n es).length = n := by simp [registers]

theorem registers_nil : registers f n [] = List.replicate n none := by
  simp [registers, List.map_const']

theorem registers_write (hk : f k e = some a) (hother : ∀ i, i ≠ k → f i e = none) :
    registers f n (es ++ [e]) = (registers f n es).set k (some a) := by
  refine List.ext_getElem (by simp) fun i hi hi' => ?_
  rw [List.getElem_set]
  simp only [registers, List.getElem_map, List.getElem_range, latest_concat]
  by_cases h : k = i
  · subst h
    simp [hk]
  · simp [h, hother i (Ne.symm h)]

theorem registers_skip (h : ∀ i, f i e = none) :
    registers f n (es ++ [e]) = registers f n es := by
  simp [registers, h]

theorem registers_congr {p : Nat → ε → Bool} (hp : ∀ i e, p i e = false → f i e = none)
    (h : ∀ i, es.filter (p i) = es'.filter (p i)) : registers f n es = registers f n es' := by
  unfold registers
  congr 1
  funext i
  exact latest_congr (hp i) (h i)

end Latest
