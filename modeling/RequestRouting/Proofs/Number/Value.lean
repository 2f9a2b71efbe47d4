import Mathlib.Algebra.Order.Field.Basic
import Mathlib.Algebra.Order.Ring.Rat
import Mathlib.Order.Compare
import Mathlib.Tactic.NormNum
import RequestRouting.Number.Binary32

/-! The values of floating-point numbers. Numbers that have a value compare as their values do, so
nothing but a NaN is out of order. -/
namespace RequestRouting.Number.Binary32

variable {x y : Binary32} {p q : ℚ}

/-- The value, which an infinity and a NaN do not have. -/
def toRat? : Binary32 → Option ℚ
  | .finite negative units => some ((signed negative units : ℤ) / 2 ^ 149 : ℚ)
  | _ => none

@[simp] theorem toRat?_finite (negative : Bool) (units : Nat) :
    (finite negative units).toRat? = some ((signed negative units : ℤ) / 2 ^ 149 : ℚ) := rfl

theorem toRat?_one : one.toRat? = some 1 := by
  rw [one, toRat?_finite, signed, Nat.one_shiftLeft]
  norm_num

theorem div_units_lt_iff {m n : ℤ} : (m : ℚ) / 2 ^ 149 < n / 2 ^ 149 ↔ m < n := by
  have hpos : (0 : ℚ) < 2 ^ 149 := by norm_num
  rw [div_lt_div_iff_of_pos_right hpos, Int.cast_lt]

theorem compare?_eq (hx : x.toRat? = some p) (hy : y.toRat? = some q) :
    x.compare? y = some (compare p q) := by
  have hmono : StrictMono fun n : ℤ => (n : ℚ) / 2 ^ 149 := fun _ _ => div_units_lt_iff.2
  cases x with
  | finite s m =>
    cases y with
    | finite t n =>
      rw [toRat?_finite, Option.some.injEq] at hx hy
      rw [← hx, ← hy, compare?, ← cmp_eq_compare, ← cmp_eq_compare, hmono.cmp_map_eq]
    | infinite t => contradiction
    | nan t => contradiction
  | infinite s => contradiction
  | nan s => contradiction

theorem isUnitInterval_iff :
    x.isUnitInterval = true ↔ ∃ p, x.toRat? = some p ∧ 0 ≤ p ∧ p ≤ 1 := by
  cases x with
  | finite negative units =>
    have hpos : (0 : ℚ) < 2 ^ 149 := by norm_num
    simp only [toRat?_finite, Option.some.injEq, exists_eq_left']
    rw [le_div_iff₀ hpos, div_le_one₀ hpos, zero_mul, isUnitInterval, Nat.one_shiftLeft]
    norm_cast
    cases negative with
    | true =>
      simp only [signed, if_true, Bool.not_true, Bool.false_and, Bool.or_false, decide_eq_true_eq]
      omega
    | false =>
      simp only [signed, if_false, Bool.not_false, Bool.true_and, Bool.or_eq_true,
        decide_eq_true_eq, Bool.false_eq_true]
      omega
  | infinite negative => simp [isUnitInterval, toRat?]
  | nan negative => simp [isUnitInterval, toRat?]

end RequestRouting.Number.Binary32
