import Mathlib.Algebra.Order.Field.Basic
import Mathlib.Algebra.Order.Floor.Ring
import Mathlib.Tactic.Linarith
import Mathlib.Tactic.LinearCombination
import Mathlib.Tactic.Ring

/-!
Rigid motions of the plane over an ordered field, and the boxes around the images of
rectangles.
-/

set_option autoImplicit false

namespace Planar

variable {K : Type} [Field K]

/-- A rotation, by its cosine and sine, and then a translation. -/
structure Motion (K : Type) [Field K] where
  cos : K
  sin : K
  dx : K
  dy : K
  unit : cos ^ 2 + sin ^ 2 = 1

namespace Motion

def apply (m : Motion K) (p : K × K) : K × K :=
  (m.dx + m.cos * p.1 - m.sin * p.2, m.dy + m.sin * p.1 + m.cos * p.2)

/-- First `n`, then `m`. -/
def comp (m n : Motion K) : Motion K where
  cos := m.cos * n.cos - m.sin * n.sin
  sin := m.sin * n.cos + m.cos * n.sin
  dx := m.dx + m.cos * n.dx - m.sin * n.dy
  dy := m.dy + m.sin * n.dx + m.cos * n.dy
  unit := by linear_combination (n.cos ^ 2 + n.sin ^ 2) * m.unit + n.unit

theorem comp_apply (m n : Motion K) (p : K × K) : (m.comp n).apply p = m.apply (n.apply p) := by
  simp only [apply, comp, Prod.mk.injEq]
  constructor <;> ring

/-- A rotation by a number of right angles. -/
def IsQuarter (m : Motion K) : Prop :=
  m.cos = 1 ∧ m.sin = 0 ∨ m.cos = -1 ∧ m.sin = 0 ∨ m.cos = 0 ∧ m.sin = 1 ∨
    m.cos = 0 ∧ m.sin = -1

theorem ne_zero (m : Motion K) : m.cos ≠ 0 ∨ m.sin ≠ 0 := by
  by_contra h
  obtain ⟨hcos, hsin⟩ := not_or.mp h
  have hunit := m.unit
  rw [not_not.mp hcos, not_not.mp hsin] at hunit
  simp at hunit

theorem apply_dist (m : Motion K) (p q : K × K) :
    ((m.apply p).1 - (m.apply q).1) ^ 2 + ((m.apply p).2 - (m.apply q).2) ^ 2 =
      (p.1 - q.1) ^ 2 + (p.2 - q.2) ^ 2 := by
  unfold apply
  linear_combination ((p.1 - q.1) ^ 2 + (p.2 - q.2) ^ 2) * m.unit

end Motion

variable [LinearOrder K] [IsStrictOrderedRing K]

/-- A linear form that is not constant is larger at some corner of a rectangle than
anywhere inside. -/
theorem exists_corner_gt {a b u v width height : K} (hab : a ≠ 0 ∨ b ≠ 0) (hu : 0 < u)
    (huw : u < width) (hv : 0 < v) (hvh : v < height) :
    ∃ x ∈ [0, width], ∃ y ∈ [0, height], a * u + b * v < a * x + b * y := by
  have ha : ∃ x ∈ [0, width], a * u ≤ a * x ∧ (a ≠ 0 → a * u < a * x) := by
    rcases lt_trichotomy a 0 with hneg | rfl | hpos
    · have hlt : a * u < a * 0 := mul_lt_mul_of_neg_left hu hneg
      exact ⟨0, by simp, hlt.le, fun _ => hlt⟩
    · exact ⟨0, by simp, by simp, fun h => absurd rfl h⟩
    · have hlt : a * u < a * width := mul_lt_mul_of_pos_left huw hpos
      exact ⟨width, by simp, hlt.le, fun _ => hlt⟩
  have hb : ∃ y ∈ [0, height], b * v ≤ b * y ∧ (b ≠ 0 → b * v < b * y) := by
    rcases lt_trichotomy b 0 with hneg | rfl | hpos
    · have hlt : b * v < b * 0 := mul_lt_mul_of_neg_left hv hneg
      exact ⟨0, by simp, hlt.le, fun _ => hlt⟩
    · exact ⟨0, by simp, by simp, fun h => absurd rfl h⟩
    · have hlt : b * v < b * height := mul_lt_mul_of_pos_left hvh hpos
      exact ⟨height, by simp, hlt.le, fun _ => hlt⟩
  obtain ⟨x, hx, hxle, hxlt⟩ := ha
  obtain ⟨y, hy, hyle, hylt⟩ := hb
  refine ⟨x, hx, y, hy, ?_⟩
  rcases hab with h | h
  · exact add_lt_add_of_lt_of_le (hxlt h) hyle
  · exact add_lt_add_of_le_of_lt hxle (hylt h)

theorem exists_corner_lt {a b u v width height : K} (hab : a ≠ 0 ∨ b ≠ 0) (hu : 0 < u)
    (huw : u < width) (hv : 0 < v) (hvh : v < height) :
    ∃ x ∈ [0, width], ∃ y ∈ [0, height], a * x + b * y < a * u + b * v := by
  have hneg : -a ≠ 0 ∨ -b ≠ 0 := by simpa using hab
  obtain ⟨x, hx, y, hy, hlt⟩ := exists_corner_gt hneg hu huw hv hvh
  exact ⟨x, hx, y, hy, by linarith⟩

/-- A linear form is no larger anywhere in a rectangle than at some corner. -/
theorem exists_corner_ge {a b u v width height : K} (hu : 0 ≤ u) (huw : u ≤ width) (hv : 0 ≤ v)
    (hvh : v ≤ height) : ∃ x ∈ [0, width], ∃ y ∈ [0, height], a * u + b * v ≤ a * x + b * y := by
  have hside : ∀ {c t side : K}, 0 ≤ t → t ≤ side → ∃ z ∈ [0, side], c * t ≤ c * z := by
    intro c t side ht hts
    rcases le_total 0 c with hc | hc
    · exact ⟨side, by simp, mul_le_mul_of_nonneg_left hts hc⟩
    · exact ⟨0, by simp, mul_le_mul_of_nonpos_left ht hc⟩
  obtain ⟨x, hx, hxle⟩ := hside (c := a) hu huw
  obtain ⟨y, hy, hyle⟩ := hside (c := b) hv hvh
  exact ⟨x, hx, y, hy, add_le_add hxle hyle⟩

theorem exists_corner_le {a b u v width height : K} (hu : 0 ≤ u) (huw : u ≤ width) (hv : 0 ≤ v)
    (hvh : v ≤ height) : ∃ x ∈ [0, width], ∃ y ∈ [0, height], a * x + b * y ≤ a * u + b * v := by
  obtain ⟨x, hx, y, hy, hle⟩ := exists_corner_ge (a := -a) (b := -b) hu huw hv hvh
  exact ⟨x, hx, y, hy, by linarith⟩

/-- A point that lies strictly between two bounds falls into one of the steps into
which the distance of the bounds is divided. -/
theorem floor_lt_ceil [FloorRing K] {lower upper step x : K} (hstep : 0 < step)
    (hlower : lower < x) (hupper : x < upper) :
    0 ≤ ⌊(x - lower) / step⌋ ∧ ⌊(x - lower) / step⌋ < ⌈(upper - lower) / step⌉ := by
  have hpos : 0 < (x - lower) / step := div_pos (sub_pos.mpr hlower) hstep
  have hlt : (x - lower) / step < (upper - lower) / step :=
    div_lt_div_of_pos_right (sub_lt_sub_right hupper lower) hstep
  refine ⟨Int.floor_nonneg.mpr hpos.le, ?_⟩
  have hcast : ((⌊(x - lower) / step⌋ : Int) : K) < (⌈(upper - lower) / step⌉ : Int) :=
    calc
      ((⌊(x - lower) / step⌋ : Int) : K) ≤ (x - lower) / step := Int.floor_le _
      _ < (upper - lower) / step := hlt
      _ ≤ (⌈(upper - lower) / step⌉ : Int) := Int.le_ceil _
  exact_mod_cast hcast

theorem middle_near {t step : K} (hstep : 0 ≤ step) (ht : 0 ≤ t) (ht' : t ≤ 1) :
    |(t - 1 / 2) * step| ≤ step / 2 := by
  have hhalf : |t - 1 / 2| ≤ 1 / 2 := abs_le.mpr ⟨by linarith, by linarith⟩
  calc
    |(t - 1 / 2) * step| = |t - 1 / 2| * step := by rw [abs_mul, abs_of_nonneg hstep]
    _ ≤ 1 / 2 * step := mul_le_mul_of_nonneg_right hhalf hstep
    _ = step / 2 := by ring

/-- A point that is no more than half a step from the middle of a step falls into
this step, unless it lies on a line between two. -/
theorem floor_of_near [FloorRing K] {step x d : K} {i : Nat} (hstep : 0 < step)
    (hd : |d| ≤ step / 2) (hi : (i + 1 / 2) * step = x + d) (hline : ∀ k : Int, x ≠ k * step) :
    ⌊x / step⌋ = i := by
  obtain ⟨hlow, hhigh⟩ := abs_le.mp hd
  have hle : (i : K) * step ≤ x := by linarith
  have hge : x ≤ ((i : K) + 1) * step := by linarith
  have hne : x ≠ ((i : K) + 1) * step := by simpa using hline (i + 1)
  rw [Int.floor_eq_iff, Int.cast_natCast]
  exact ⟨(le_div_iff₀ hstep).mpr hle, (div_lt_iff₀ hstep).mpr (lt_of_le_of_ne hge hne)⟩

end Planar
