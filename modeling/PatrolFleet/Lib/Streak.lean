import Mathlib.Algebra.Order.Group.Defs
import Mathlib.Data.List.Infix

/-!
Streaks of a property that is observed from time to time. Observations are pairs
of a time and what was observed then, the latest first.
-/

set_option autoImplicit false

namespace Streak

variable {τ : Type}

/-- The property was observed at a time `s` and in every observation since. -/
def From (observations : List (τ × Bool)) (s : τ) : Prop :=
  ∃ later, later ++ [(s, true)] <+: observations ∧ ∀ o ∈ later, o.2 = true

/-- The first time of the streak that the last observation is part of. One
register is enough to keep it. -/
def start : List (τ × Bool) → Option τ
  | [] => none
  | (now, holds) :: past => if holds then some ((start past).getD now) else none

@[simp] theorem start_nil : start ([] : List (τ × Bool)) = none := rfl

theorem start_cons (now : τ) (holds : Bool) (past : List (τ × Bool)) :
    start ((now, holds) :: past) = if holds then some ((start past).getD now) else none := rfl

theorem from_nil (s : τ) : ¬ From [] s := by
  rintro ⟨later, hp, _⟩
  simp at hp

theorem from_cons {now s : τ} {holds : Bool} {past : List (τ × Bool)} :
    From ((now, holds) :: past) s ↔ holds = true ∧ (s = now ∨ From past s) := by
  constructor
  · rintro ⟨later, hp, hall⟩
    cases later with
    | nil =>
      obtain ⟨heq, _⟩ := List.cons_prefix_cons.mp hp
      cases heq
      exact ⟨rfl, .inl rfl⟩
    | cons o later =>
      rw [List.cons_append] at hp
      obtain ⟨rfl, hrest⟩ := List.cons_prefix_cons.mp hp
      exact ⟨hall (now, holds) (by simp),
        .inr ⟨later, hrest, fun o ho => hall o (List.mem_cons_of_mem _ ho)⟩⟩
  · rintro ⟨rfl, rfl | ⟨later, hp, hall⟩⟩
    · exact ⟨[], by simp, by simp⟩
    · refine ⟨(now, true) :: later, by simpa using hp, fun o ho => ?_⟩
      rcases List.mem_cons.mp ho with rfl | ho
      · rfl
      · exact hall o ho

theorem from_of_start {observations : List (τ × Bool)} {s : τ}
    (h : start observations = some s) : From observations s := by
  induction observations generalizing s with
  | nil => cases h
  | cons o past ih =>
    obtain ⟨now, holds⟩ := o
    rw [start_cons] at h
    obtain ⟨hholds, hs⟩ := Option.ite_none_right_eq_some.mp h
    refine from_cons.mpr ⟨hholds, ?_⟩
    cases hpast : start past with
    | none =>
      rw [hpast] at hs
      exact .inl (Option.some.inj hs).symm
    | some s' =>
      rw [hpast] at hs
      cases hs
      exact .inr (ih hpast)

theorem mem_of_from {observations : List (τ × Bool)} {s : τ} (h : From observations s) :
    (s, true) ∈ observations := by
  obtain ⟨later, hp, _⟩ := h
  exact hp.subset (by simp)

variable [LinearOrder τ]

/-- The times do not go back. -/
def Ordered (observations : List (τ × Bool)) : Prop :=
  observations.Pairwise fun later earlier => earlier.1 ≤ later.1

theorem start_le {observations : List (τ × Bool)} {s : τ} (ho : Ordered observations)
    (h : From observations s) : ∃ first, start observations = some first ∧ first ≤ s := by
  induction observations generalizing s with
  | nil => exact absurd h (from_nil s)
  | cons o past ih =>
    obtain ⟨now, holds⟩ := o
    obtain ⟨hle, hpast⟩ := List.pairwise_cons.mp ho
    obtain ⟨rfl, hs⟩ := from_cons.mp h
    rw [start_cons, if_pos rfl]
    rcases hs with rfl | hs
    · cases hstart : start past with
      | none => exact ⟨s, rfl, le_refl s⟩
      | some first => exact ⟨first, rfl, hle _ (mem_of_from (from_of_start hstart))⟩
    · obtain ⟨first, hstart, hfirst⟩ := ih hpast hs
      rw [hstart]
      exact ⟨first, rfl, hfirst⟩

/-- A streak has lasted for `d` exactly when it has since its start. -/
theorem lasting_iff [AddCommGroup τ] [IsOrderedAddMonoid τ] {observations : List (τ × Bool)}
    (ho : Ordered observations) {now d : τ} :
    (∃ s, From observations s ∧ d ≤ now - s) ↔
      ∃ s, start observations = some s ∧ d ≤ now - s := by
  constructor
  · rintro ⟨s, hs, hd⟩
    obtain ⟨first, hstart, hle⟩ := start_le ho hs
    exact ⟨first, hstart, hd.trans (sub_le_sub_left hle now)⟩
  · rintro ⟨s, hs, hd⟩
    exact ⟨s, from_of_start hs, hd⟩

end Streak
