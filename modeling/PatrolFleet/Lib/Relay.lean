import Mathlib.Data.List.Infix
import Mathlib.Data.List.Pairwise

/-!
A state that grows, and readings of it that are passed on through queues and
samplers. Listed from the last receiver back to the source, the readings are
ordered: whoever is farther from the source has seen less.
-/

set_option autoImplicit false

namespace Relay

/-- A message or the state of a receiver, and the readings on which it rests, the latest
first. -/
structure Resting (ι α : Type) where
  value : α
  readings : List ι

/-- The readings `fresh`, the latest first, that come after those of `past`, as messages,
the oldest first. -/
def announce {ι : Type} (past : List ι) : List ι → List (Resting ι ι)
  | [] => []
  | a :: fresh => announce past fresh ++ [⟨a, a :: (fresh ++ past)⟩]

variable {α β ι : Type} {R : α → α → Prop} {front back : List α}

theorem twice {a : α} (hrefl : R a a) (h : (front ++ a :: back).Pairwise R) :
    (front ++ a :: a :: back).Pairwise R := by
  obtain ⟨hfront, hrest, hacross⟩ := List.pairwise_append.mp h
  obtain ⟨ha, _⟩ := List.pairwise_cons.mp hrest
  refine List.pairwise_append.mpr ⟨hfront, List.pairwise_cons.mpr ⟨?_, hrest⟩, ?_⟩
  · intro b hb
    rcases List.mem_cons.mp hb with rfl | hb
    · exact hrefl
    · exact ha b hb
  · intro x hx b hb
    rcases List.mem_cons.mp hb with rfl | hb
    · exact hacross x hx b (List.mem_cons_self ..)
    · exact hacross x hx b hb

theorem send (f : β → α) (front back : List α) (queue : List β) (m : β) (hrefl : R (f m) (f m))
    (h : (front ++ (queue.map f ++ f m :: back)).Pairwise R) :
    (front ++ ((queue ++ [m]).map f ++ f m :: back)).Pairwise R := by
  rw [← List.append_assoc] at h
  simpa using twice hrefl h

theorem lose (f : β → α) (front back : List α) {queue kept : List β} (hkept : kept.Sublist queue)
    (h : (front ++ (queue.map f ++ back)).Pairwise R) :
    (front ++ (kept.map f ++ back)).Pairwise R :=
  h.sublist (((hkept.map f).append_right _).append_left _)

theorem deliver (f : β → α) (front back : List α) {queue : List β} {m : β} {a : α}
    (h : (front ++ a :: ((m :: queue).map f ++ back)).Pairwise R) :
    (front ++ f m :: (queue.map f ++ back)).Pairwise R :=
  h.sublist ((List.sublist_cons_self a _).append_left front)

theorem grow {a b : α} (hab : R a b) (htrans : ∀ {x y z}, R x y → R y z → R x z)
    (h : (front ++ [a]).Pairwise R) : (front ++ [b]).Pairwise R := by
  rw [List.pairwise_append] at h ⊢
  obtain ⟨hfront, _, hlast⟩ := h
  refine ⟨hfront, List.pairwise_singleton R b, fun x hx y hy => ?_⟩
  rw [List.mem_singleton] at hy
  subst hy
  exact htrans (hlast x hx a (List.mem_singleton_self a)) hab

/-- A message of `announce` carries the latest of the readings on which it rests. -/
theorem announce_value {past fresh : List ι} :
    ∀ m ∈ announce past fresh, m.readings.head? = some m.value := by
  induction fresh with
  | nil => simp [announce]
  | cons a fresh ih =>
    intro m hm
    rcases List.mem_append.mp hm with hm | hm
    · exact ih m hm
    · rw [List.mem_singleton.mp hm]
      rfl

/-- The source grows by the readings `fresh` and announces them to its queue. -/
theorem announce_ordered (front : List (List ι)) (queue : List (Resting ι ι))
    (past fresh : List ι)
    (h : (front ++ (queue.map (·.readings) ++ [past])).Pairwise (· <:+ ·)) :
    (front ++ ((queue ++ announce past fresh).map (·.readings) ++
      [fresh ++ past])).Pairwise (· <:+ ·) := by
  induction fresh with
  | nil => simpa [announce] using h
  | cons a fresh ih =>
    have hgrown : (front ++ (queue ++ announce past fresh).map (·.readings) ++
        [a :: (fresh ++ past)]).Pairwise (· <:+ ·) := by
      refine grow (List.suffix_cons a (fresh ++ past)) (fun hxy hyz => hxy.trans hyz) ?_
      simpa using ih
    have hsent := send Resting.readings front [] (queue ++ announce past fresh)
      ⟨a, a :: (fresh ++ past)⟩ List.suffix_rfl (by simpa using hgrown)
    simpa [announce] using hsent

theorem take_append {past later : List ι} (h : past <:+ later) :
    later.take (later.length - past.length) ++ past = later := by
  obtain ⟨fresh, rfl⟩ := h
  simp

/-- Whoever has heard more, and something else last, has heard that after all the rest. -/
theorem heard_after {past later : List ι} {a : ι} (h : past <:+ later)
    (hlast : later.head? = some a) (hpast : past.head? ≠ some a) :
    ∃ before, later = a :: before ∧ past <:+ before := by
  obtain ⟨before, rfl⟩ := List.head?_eq_some_iff.mp hlast
  rcases List.suffix_cons_iff.mp h with heq | hsuffix
  · exact absurd (by rw [heq]; rfl) hpast
  · exact ⟨before, rfl, hsuffix⟩

end Relay
