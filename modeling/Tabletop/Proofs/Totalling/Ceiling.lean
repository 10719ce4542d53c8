import Mathlib.Data.Rat.Floor
import Tabletop.Proofs.Totalling.Exact

/-! Division that goes up. The quotient goes toward zero first and is raised by one where there is a
remainder, so it is the ceiling of the exact quotient unless that is negative: there the quotient
toward zero is the ceiling already, and what comes out lies above it by one. -/
namespace Tabletop

theorem ceil_div_of_pos {a b z : Int} (positive : 0 < b) :
    ⌈(a : ℚ) / b⌉ = z ↔ (z - 1) * b < a ∧ a ≤ z * b := by
  have above : (0 : ℚ) < b := Int.cast_pos.mpr positive
  rw [Int.ceil_eq_iff, lt_div_iff₀ above, div_le_iff₀ above]
  norm_cast

theorem tmod_nonpos {a : Int} (b : Int) (negative : a ≤ 0) : a.tmod b ≤ 0 := by
  have opposite := Int.tmod_nonneg b (Int.neg_nonneg_of_nonpos negative)
  rw [Int.neg_tmod] at opposite
  omega

theorem ceil_div_of_pos_eq (a : Int) {b : Int} (positive : 0 < b) :
    ⌈(a : ℚ) / b⌉ = if a.tmod b = 0 ∨ a < 0 then a.tdiv b else a.tdiv b + 1 := by
  rw [ceil_div_of_pos positive]
  have parts := Int.mul_tdiv_add_tmod a b
  rw [Int.mul_comm] at parts
  have upper := Int.tmod_lt_of_pos a positive
  have lower := Int.lt_tmod_of_pos a positive
  split
  · next down =>
    have rest : a.tmod b ≤ 0 :=
      down.elim Int.le_of_eq fun negative => tmod_nonpos b (Int.le_of_lt negative)
    rw [Int.sub_mul, Int.one_mul]
    omega
  · next up =>
    have rest := Int.tmod_nonneg b (Int.not_lt.mp (not_or.mp up).2)
    rw [Int.add_sub_cancel, Int.add_mul, Int.one_mul]
    omega

theorem ceil_div_eq (a : Int) {b : Int} (divides : b ≠ 0) :
    ⌈(a : ℚ) / b⌉ = if a.tmod b = 0 ∨ (a : ℚ) / b < 0 then a.tdiv b else a.tdiv b + 1 := by
  rcases Int.lt_or_gt_of_ne divides with negative | positive
  · have sign : (a : ℚ) / b < 0 ↔ -a < 0 := by
      rw [div_lt_iff_of_neg (Int.cast_lt_zero.mpr negative), zero_mul, Int.cast_pos,
        Int.neg_neg_iff_pos]
    have swapped := ceil_div_of_pos_eq (-a) (Int.neg_pos_of_neg negative)
    rw [Int.cast_neg, Int.cast_neg, neg_div_neg_eq, Int.neg_tmod, Int.tmod_neg, Int.neg_tdiv,
      Int.tdiv_neg, Int.neg_neg] at swapped
    rw [swapped]
    simp only [sign, Int.neg_eq_zero]
  · have sign : (a : ℚ) / b < 0 ↔ a < 0 := by
      rw [div_lt_iff₀ (Int.cast_pos.mpr positive), zero_mul, Int.cast_lt_zero]
    rw [ceil_div_of_pos_eq a positive]
    simp only [sign]

namespace Op

theorem value?_divUp (a : Int) {b : Int} (divides : b ≠ 0) :
    value? .divUp a b = some (⌈(a : ℚ) / b⌉ + if a.tmod b = 0 ∨ 0 ≤ (a : ℚ) / b then 0 else 1) := by
  rw [value?, if_neg divides, ceil_div_eq a divides]
  by_cases whole : a.tmod b = 0
  · simp [whole]
  · by_cases negative : (a : ℚ) / b < 0
    · simp [whole, negative]
    · simp [whole, negative, not_lt.mp negative]

/-- Where the ceiling of the exact quotient is an amount there is a result, and it is the ceiling
exactly when the quotient is whole or not negative; otherwise it is greater by one. -/
theorem divUp_ceil {a b c : Amount} (divides : b.value ≠ 0)
    (fits : c.value = ⌈(a.value : ℚ) / b.value⌉) :
    ∃ n, apply .divUp a b = .ok n ∧ (n = c ↔ b.value ∣ a.value ∨ 0 ≤ (a.value : ℚ) / b.value) ∧
      (n ≠ c → n.value = c.value + 1) := by
  have value := value?_divUp a.value divides
  rw [← fits] at value
  simp only [Int.dvd_iff_tmod_eq_zero]
  by_cases up : a.value.tmod b.value = 0 ∨ 0 ≤ (a.value : ℚ) / b.value
  · rw [if_pos up, Int.add_zero] at value
    exact ⟨c, apply_eq_ok_iff.mpr value, iff_of_true rfl up, fun other => absurd rfl other⟩
  · rw [if_neg up] at value
    have below : c.value ≤ 0 := by
      rw [fits, Int.ceil_le, Int.cast_zero]
      exact le_of_not_ge (not_or.mp up).2
    have lower := c.lower
    let n : Amount := ⟨c.value + 1, by omega, by omega⟩
    have other : n ≠ c := fun same => by
      have equal : c.value + 1 = c.value := congrArg Amount.value same
      omega
    exact ⟨n, apply_eq_ok_iff.mpr value, iff_of_false other up, fun _ => rfl⟩

theorem divUp_ceil_below_zero :
    let a : Amount := ⟨7, by decide, by decide⟩
    let b : Amount := ⟨-2, by decide, by decide⟩
    let c : Amount := ⟨-3, by decide, by decide⟩
    b.value ≠ 0 ∧ c.value = ⌈(a.value : ℚ) / b.value⌉ ∧
      ∃ n, apply .divUp a b = .ok n ∧ (n = c ↔ b.value ∣ a.value ∨ 0 ≤ (a.value : ℚ) / b.value) ∧
        (n ≠ c → n.value = c.value + 1) := by
  intro a b c
  have divides : b.value ≠ 0 := by decide
  have fits : c.value = ⌈(a.value : ℚ) / b.value⌉ :=
    (Int.ceil_eq_iff.mpr (by norm_num [a, b, c])).symm
  exact ⟨divides, fits, divUp_ceil divides fits⟩

/-- The half of minus one lies above minus one and not above zero, but it comes out as one. -/
theorem divUp_raised :
    let a : Amount := ⟨-1, by decide, by decide⟩
    let b : Amount := ⟨2, by decide, by decide⟩
    ⌈(a.value : ℚ) / b.value⌉ = 0 ∧ apply .divUp a b = .ok ⟨1, by decide, by decide⟩ := by
  intro a b
  exact ⟨(ceil_div_of_pos (by decide)).mpr (by decide), rfl⟩

end Op

end Tabletop
