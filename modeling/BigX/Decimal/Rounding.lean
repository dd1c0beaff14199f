import Mathlib.Algebra.Order.Floor.Ring
import Mathlib.Data.Nat.Digits.Lemmas
import Mathlib.Data.Rat.Floor
import Mathlib.Algebra.Order.Field.Rat

set_option autoImplicit false

/- A decimal number's digits past some position are rounded away, half to even. When does that
change its whole part? -/
namespace BigX.Decimal

def digits (coef : Nat) : Nat := (Nat.digits 10 coef).length

/-- The last `dropped` digits are more than half a unit, or half a unit above an odd number. -/
def RoundsUp (coef dropped : Nat) : Prop :=
  10 ^ dropped < 2 * (coef % 10 ^ dropped) ∨
    2 * (coef % 10 ^ dropped) = 10 ^ dropped ∧ coef / 10 ^ dropped % 2 = 1

instance (coef dropped : Nat) : Decidable (RoundsUp coef dropped) :=
  inferInstanceAs (Decidable (_ ∨ _))

def halfEven (coef dropped : Nat) : Nat :=
  if RoundsUp coef dropped then coef / 10 ^ dropped + 1 else coef / 10 ^ dropped

/-- The whole part of `coef * 10 ^ exp`. -/
def truncate (coef : Nat) (exp : Int) : Nat :=
  if 0 ≤ exp then coef * 10 ^ exp.toNat else coef / 10 ^ (-exp).toNat

/-- With `f` digits after the point: where digits of whole units are dropped, they are all zero,
and where none is, the digits that are kept are not rounded up to whole units. -/
def Kept (coef dropped : Nat) (exp : Int) : Prop :=
  ((-exp).toNat < dropped → coef / 10 ^ (-exp).toNat % 10 ^ (dropped - (-exp).toNat) = 0) ∧
    (dropped ≤ (-exp).toNat → 10 ^ ((-exp).toNat - dropped) ∣ coef / 10 ^ dropped + 1 →
      ¬ RoundsUp coef dropped)

instance (coef dropped : Nat) (exp : Int) : Decidable (Kept coef dropped exp) :=
  inferInstanceAs (Decidable (_ ∧ _))

theorem lt_pow_digits (coef : Nat) : coef < 10 ^ digits coef :=
  Nat.lt_base_pow_length_digits (by decide)

theorem digits_le_iff {coef limit : Nat} : digits coef ≤ limit ↔ coef < 10 ^ limit :=
  Nat.digits_length_le_iff (by decide) coef

theorem truncate_natCast (coef n : Nat) : truncate coef n = coef * 10 ^ n := by
  rw [truncate, if_pos (Int.natCast_nonneg n), Int.toNat_natCast]

theorem truncate_neg_natCast (coef n : Nat) : truncate coef (-n) = coef / 10 ^ n := by
  rcases Nat.eq_zero_or_pos n with rfl | positive
  · simp [truncate]
  · rw [truncate, if_neg (by omega), neg_neg, Int.toNat_natCast]

theorem truncate_eq_floor (coef : Nat) (exp : Int) :
    (truncate coef exp : Int) = ⌊(coef : ℚ) * 10 ^ exp⌋ := by
  rcases Int.eq_nat_or_neg exp with ⟨n, rfl | rfl⟩
  · rw [truncate_natCast, zpow_natCast]
    exact_mod_cast (Int.floor_natCast (coef * 10 ^ n)).symm
  · rw [truncate_neg_natCast, zpow_neg, zpow_natCast, ← div_eq_mul_inv]
    exact_mod_cast (Rat.floor_natCast_div_natCast coef (10 ^ n)).symm

/-- A number with a whole part has a digit before the point. -/
theorem digits_of_truncate_pos {coef : Nat} {exp : Int} (whole : 0 < truncate coef exp) :
    1 ≤ digits coef + exp := by
  have below := lt_pow_digits coef
  rcases Int.eq_nat_or_neg exp with ⟨n, rfl | rfl⟩
  · rw [truncate_natCast] at whole
    have some : digits coef ≠ 0 := by
      intro none
      rw [none, pow_zero] at below
      rw [Nat.lt_one_iff.mp below, Nat.zero_mul] at whole
      exact absurd whole (Nat.lt_irrefl 0)
    omega
  · rw [truncate_neg_natCast] at whole
    have reaches : 10 ^ n ≤ coef := Nat.le_of_not_lt (mt Nat.div_eq_of_lt whole.ne')
    have fewer : n < digits coef :=
      (Nat.pow_lt_pow_iff_right (by decide)).mp (reaches.trans_lt below)
    omega

/-- A zero is moved from the coefficient to the exponent. -/
theorem truncate_mul_ten (coef : Nat) (exp : Int) :
    truncate (coef * 10) exp = truncate coef (exp + 1) := by
  have floors : (truncate (coef * 10) exp : Int) = truncate coef (exp + 1) := by
    rw [truncate_eq_floor, truncate_eq_floor, zpow_add_one₀ (by norm_num)]
    push_cast
    rw [mul_assoc, mul_comm (10 : ℚ)]
  exact_mod_cast floors

theorem not_roundsUp_of_small {coef dropped : Nat}
    (small : 2 * (coef % 10 ^ dropped) < 10 ^ dropped) : ¬ RoundsUp coef dropped := by
  rintro (more | ⟨half, -⟩) <;> omega

theorem halfEven_of_small {coef dropped : Nat}
    (small : 2 * (coef % 10 ^ dropped) < 10 ^ dropped) :
    halfEven coef dropped = coef / 10 ^ dropped :=
  if_neg (not_roundsUp_of_small small)

/-- Digits of whole units are dropped: only zeros leave the number as it is. -/
theorem whole_kept_iff {coef fraction dropped : Nat} (lower : fraction < dropped) :
    halfEven coef dropped * 10 ^ (dropped - fraction) = coef / 10 ^ fraction ↔
      coef / 10 ^ fraction % 10 ^ (dropped - fraction) = 0 := by
  have split : 10 ^ dropped = 10 ^ fraction * 10 ^ (dropped - fraction) := by
    rw [← pow_add, Nat.add_sub_cancel' lower.le]
  constructor
  · intro same
    rw [← same, Nat.mul_mod_left]
  · intro zeros
    have below : coef % 10 ^ dropped / 10 ^ fraction = 0 := by
      rw [split, Nat.mod_mul_right_div_self, zeros]
    have rest : coef % 10 ^ dropped < 10 ^ fraction := by
      rcases (Nat.div_eq_zero_iff).mp below with none | inside
      · exact absurd none (by positivity)
      · exact inside
    have tenth : 10 * 10 ^ fraction ≤ 10 ^ dropped := by
      rw [← pow_succ']
      exact Nat.pow_le_pow_right (by decide) lower
    rw [halfEven_of_small (by omega), split, ← Nat.div_div_eq_div_mul]
    exact Nat.div_mul_cancel (Nat.dvd_of_mod_eq_zero zeros)

/-- Only digits after the point are dropped: the whole part changes with a carry. -/
theorem fraction_kept_iff {coef fraction dropped : Nat} (upper : dropped ≤ fraction) :
    halfEven coef dropped / 10 ^ (fraction - dropped) = coef / 10 ^ fraction ↔
      (10 ^ (fraction - dropped) ∣ coef / 10 ^ dropped + 1 → ¬ RoundsUp coef dropped) := by
  have split : coef / 10 ^ fraction = coef / 10 ^ dropped / 10 ^ (fraction - dropped) := by
    rw [Nat.div_div_eq_div_mul, ← pow_add, Nat.add_sub_cancel' upper]
  rw [split]
  by_cases up : RoundsUp coef dropped
  · rw [halfEven, if_pos up, Nat.succ_div]
    split
    next carries => exact iff_of_false (Nat.succ_ne_self _) (fun none => none carries up)
    next stays => exact iff_of_true rfl (fun carries => absurd carries stays)
  · rw [halfEven, if_neg up]
    exact iff_of_true rfl (fun _ => up)

/-- `truncate_halfEven_iff` for an exponent that is not positive. -/
theorem truncate_halfEven_neg_iff (coef dropped fraction : Nat) :
    truncate (halfEven coef dropped) (-fraction + dropped) = truncate coef (-fraction) ↔
      Kept coef dropped (-fraction) := by
  rw [truncate_neg_natCast, Kept, neg_neg, Int.toNat_natCast]
  rcases Nat.lt_or_ge fraction dropped with lower | upper
  · have exponent : -(fraction : Int) + dropped = (dropped - fraction : Nat) := by omega
    rw [exponent, truncate_natCast, whole_kept_iff lower]
    exact ⟨fun zeros => ⟨fun _ => zeros, fun upper => absurd lower (by omega)⟩,
      fun kept => kept.1 lower⟩
  · have exponent : -(fraction : Int) + dropped = -(fraction - dropped : Nat) := by omega
    rw [exponent, truncate_neg_natCast, fraction_kept_iff upper]
    exact ⟨fun carries => ⟨fun lower => absurd lower (by omega), fun _ => carries⟩,
      fun kept => kept.2 upper⟩

/-- Rounding keeps the whole part exactly if the digits that it drops are such. -/
theorem truncate_halfEven_iff (coef dropped : Nat) (exp : Int) :
    truncate (halfEven coef dropped) (exp + dropped) = truncate coef exp ↔
      Kept coef dropped exp := by
  rcases Int.eq_nat_or_neg exp with ⟨n, rfl | rfl⟩
  · -- no digit stands after the point, so that the zeros of the exponent do not matter
    have atZero := truncate_halfEven_neg_iff coef dropped 0
    have kept : Kept coef dropped n ↔ Kept coef dropped (-(0 : Nat)) := by
      simp [Kept]
    have exponent : (n : Int) + dropped = (n + dropped : Nat) := by omega
    rw [kept, ← atZero, exponent, truncate_natCast, truncate_natCast, pow_add, ← mul_assoc,
      mul_right_comm, Nat.mul_left_inj (by positivity)]
    simp [truncate]
  · exact truncate_halfEven_neg_iff coef dropped n

/-- Zeros are dropped without a loss. -/
theorem kept_of_dvd {coef dropped : Nat} (exp : Int) (zeros : 10 ^ dropped ∣ coef) :
    Kept coef dropped exp := by
  have rest : coef % 10 ^ dropped = 0 := Nat.mod_eq_zero_of_dvd zeros
  refine ⟨fun lower => ?_, fun _ _ => not_roundsUp_of_small (by rw [rest]; positivity)⟩
  have split : 10 ^ dropped = 10 ^ (-exp).toNat * 10 ^ (dropped - (-exp).toNat) := by
    rw [← pow_add, Nat.add_sub_cancel' lower.le]
  rw [← Nat.mod_mul_right_div_self, ← split, rest, Nat.zero_div]

end BigX.Decimal
