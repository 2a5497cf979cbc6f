import Mathlib.Algebra.Field.Rat
import Mathlib.Algebra.Order.Ring.Int
import Mathlib.Algebra.Order.Ring.Rat
import Mathlib.Data.Int.Cast.Lemmas
import StatsQuery.Proofs.Numeric.Rounding

namespace StatsQuery.Double

variable {x y : Double}

theorem roundDiv_mul (n : Nat) (h : 0 < den) : roundDiv (n * den) den = n := by
  have hm : n * den % den = 0 := Nat.mul_mod_left n den
  have hd : n * den / den = n := Nat.mul_div_cancel n h
  simp [roundDiv, hm, hd, h]

-- The significand of a normal magnitude has fifty-three binary places, and all else is a shift.
theorem log2_units (h : span ≤ m) : (units m).log2 = 52 + (m / span - 1) := by
  have hp := Nat.two_pow_pos (m / span - 1)
  have hl : m % span < span := Nat.mod_lt m (by decide)
  rw [units, if_neg (Nat.not_lt.mpr h), Nat.shiftLeft_eq]
  refine (Nat.log2_eq_iff (Nat.mul_ne_zero (by omega) hp.ne')).mpr ⟨?_, ?_⟩
  case refine_1 =>
    rw [Nat.pow_add]
    exact Nat.mul_le_mul_right _ (Nat.le_add_right span _)
  case refine_2 =>
    rw [Nat.add_right_comm, Nat.pow_add]
    have hs : span + m % span < 2 ^ (52 + 1) := Nat.add_lt_add_left hl span
    exact Nat.mul_lt_mul_of_pos_right hs hp

theorem nearestUnits_units (m : Nat) : nearestUnits (units m) = m := by
  by_cases h : m < span
  case pos =>
    have hl : m.log2 - 52 = 0 := by
      by_cases hm : m = 0
      case pos => simp [hm]
      case neg => exact Nat.sub_eq_zero_of_le <| Nat.le_of_lt <| (Nat.log2_lt hm).mpr h
    simpa [units, h, nearestUnits, hl] using roundDiv_mul m Nat.one_pos
  case neg =>
    have hs := Nat.not_lt.mp h
    have hq : 1 ≤ m / span := (Nat.one_le_div_iff (by decide)).mpr hs
    have hm := Nat.div_add_mod' m span
    rw [nearestUnits, log2_units hs, Nat.add_sub_cancel_left, units, if_neg h, Nat.shiftLeft_eq,
      Nat.one_shiftLeft, roundDiv_mul _ (Nat.two_pow_pos _), ← Nat.add_assoc, ← Nat.succ_mul]
    rwa [Nat.succ_eq_add_one, Nat.sub_add_cancel hq]

theorem units_injective (h : units m = units n) : m = n := by
  rw [← nearestUnits_units m, h, nearestUnits_units]

theorem units_eq_zero_iff : units m = 0 ↔ m = 0 :=
  ⟨fun h => units_injective (h.trans units_zero.symm), fun h => h ▸ units_zero⟩

theorem natAbs_scaled (x : Double) : x.scaled.natAbs = units x.magnitude := by
  unfold scaled
  split <;> simp

theorem negative_iff (h : x ≠ zero true) : x.negative = true ↔ x.scaled < 0 := by
  cases hn : x.negative
  case false => simp [scaled, hn]
  case true =>
    have hm : x.magnitude ≠ 0 := fun hm => h (Double.ext hn hm)
    simpa [scaled, hn] using Nat.pos_of_ne_zero (mt units_eq_zero_iff.mp hm)

theorem eq_of_scaled_eq (h : x.scaled = y.scaled) (hx : x ≠ zero true) (hy : y ≠ zero true) : x = y := by
  refine Double.ext (Bool.eq_iff_iff.mpr ?_) (units_injective ?_)
  case refine_1 => rw [negative_iff hx, negative_iff hy, h]
  case refine_2 => rw [← natAbs_scaled, ← natAbs_scaled, h]

-- How many units there are to one. The number is too large to be written out in proofs.
@[irreducible]
def perOne : Nat := 1 <<< 1074

theorem mul_perOne (n : Nat) : n * perOne = n <<< 1074 := by
  rw [perOne, Nat.one_shiftLeft, Nat.shiftLeft_eq]

theorem perOne_pos : 0 < perOne := by
  have h (n : Nat) : 0 < 1 <<< n := Nat.one_shiftLeft n ▸ Nat.two_pow_pos n
  rw [perOne]
  exact h 1074

theorem ofInt_eq_of_scaled {z : Int} (h : x.scaled = z * perOne) (hx : x ≠ zero true) : ofInt z = x := by
  have hu : z.natAbs <<< 1074 = units x.magnitude := by
    rw [← natAbs_scaled, h, Int.natAbs_mul, Int.natAbs_natCast, mul_perOne]
  have hm : nearest z.natAbs 1 = x.magnitude := by
    rw [nearest_one, hu, nearestUnits_units]
  have hn : z < 0 ↔ x.negative = true := by
    have hl : z * perOne < 0 * perOne ↔ z < 0 := Int.mul_lt_mul_right (Int.natCast_pos.mpr perOne_pos)
    rw [negative_iff hx, h, ← hl, Int.zero_mul]
  refine Double.ext ?_ ?_
  case refine_1 => exact Bool.eq_iff_iff.mpr <| decide_eq_true_iff.trans hn
  case refine_2 => exact (Nat.min_eq_left (hm.trans_le (Nat.le_sub_one_of_lt x.finite))).trans hm

theorem ofInt_ne_negative_zero (z : Int) : ofInt z ≠ zero true := by
  intro h
  have hz : z < 0 := of_decide_eq_true (congrArg negative h)
  have hr : (ofInt z).rank ≤ (ofInt (-1)).rank := rank_ofInt_mono <| Int.le_sub_one_of_lt hz
  have hl : (ofInt (-1)).rank < (zero true).rank := by decide +kernel
  exact absurd (h ▸ hr) (Int.not_le.mpr hl)

def value (x : Double) : ℚ :=
  x.scaled / perOne

theorem value_eq_iff : x.value = y.value ↔ x.scaled = y.scaled := by
  have hp : (perOne : ℚ) ≠ 0 := Nat.cast_ne_zero.mpr perOne_pos.ne'
  rw [value, value, div_left_inj' hp, Int.cast_inj]

theorem value_eq_intCast_iff {z : Int} : x.value = z ↔ x.scaled = z * perOne := by
  have hp : (perOne : ℚ) ≠ 0 := Nat.cast_ne_zero.mpr perOne_pos.ne'
  rw [value, div_eq_iff hp]
  norm_cast

theorem value_zero (negative : Bool) : (zero negative).value = 0 := by
  simp [value, scaled_zero]

end StatsQuery.Double
