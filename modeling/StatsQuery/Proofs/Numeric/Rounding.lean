import StatsQuery.Numeric.Double

namespace StatsQuery.Double

variable {m n den : Nat}

theorem le_roundDiv (num den : Nat) : num / den ≤ roundDiv num den := by
  simp only [roundDiv]
  split <;> (try split) <;> omega

theorem roundDiv_le (num den : Nat) : roundDiv num den ≤ num / den + 1 := by
  simp only [roundDiv]
  split <;> (try split) <;> omega

theorem roundDiv_mono (h : m ≤ n) : roundDiv m den ≤ roundDiv n den := by
  cases Nat.lt_or_eq_of_le (Nat.div_le_div_right h : m / den ≤ n / den)
  case inl hq => exact Nat.le_trans (roundDiv_le m den) <| Nat.le_trans hq (le_roundDiv n den)
  case inr hq =>
    have hr : m % den ≤ n % den := by
      have hm := Nat.div_add_mod m den
      have hn := Nat.div_add_mod n den
      rw [hq] at hm
      omega
    simp only [roundDiv, hq]
    grind

def nearestUnits (units : Nat) : Nat :=
  (units.log2 - 52) * span + roundDiv units (1 <<< (units.log2 - 52))

theorem nearest_one (n : Nat) : nearest n 1 = nearestUnits (n <<< 1074) := by
  simp [nearest, nearestUnits]

-- Rounding does not pass the first magnitude of the next exponent.
theorem nearestUnits_le (n : Nat) : nearestUnits n ≤ (n.log2 - 52 + 2) * span := by
  have hq : n / (1 <<< (n.log2 - 52)) < 2 * span := by
    rw [Nat.one_shiftLeft, Nat.div_lt_iff_lt_mul (Nat.two_pow_pos _)]
    calc
      n < 2 ^ (n.log2 + 1) := Nat.lt_log2_self
      _ ≤ 2 ^ (53 + (n.log2 - 52)) := Nat.pow_le_pow_right (by decide) (by omega)
      _ = 2 * span * 2 ^ (n.log2 - 52) := Nat.pow_add 2 53 _
  have hr := roundDiv_le n (1 <<< (n.log2 - 52))
  rw [nearestUnits, Nat.add_mul]
  omega

theorem le_nearestUnits (h : 52 ≤ n.log2) : (n.log2 - 52 + 1) * span ≤ nearestUnits n := by
  have hn : n ≠ 0 := by
    intro hn
    simp [hn] at h
  have hq : span ≤ n / (1 <<< (n.log2 - 52)) := by
    rw [Nat.one_shiftLeft, Nat.le_div_iff_mul_le (Nat.two_pow_pos _)]
    calc
      span * 2 ^ (n.log2 - 52) = 2 ^ (52 + (n.log2 - 52)) := (Nat.pow_add 2 52 _).symm
      _ = 2 ^ n.log2 := by rw [Nat.add_sub_cancel' h]
      _ ≤ n := Nat.log2_self_le hn
  have hr := le_roundDiv n (1 <<< (n.log2 - 52))
  rw [nearestUnits, Nat.add_mul]
  omega

theorem log2_mono (h : m ≤ n) : m.log2 ≤ n.log2 := by
  cases m
  case zero => simp
  case succ m =>
    have hn : n ≠ 0 := by omega
    exact (Nat.le_log2 hn).mpr <| Nat.le_trans (Nat.log2_self_le (by simp)) h

theorem nearestUnits_mono (h : m ≤ n) : nearestUnits m ≤ nearestUnits n := by
  cases Nat.lt_or_eq_of_le (Nat.sub_le_sub_right (log2_mono h) 52)
  case inr hs =>
    rw [nearestUnits, nearestUnits, hs]
    exact Nat.add_le_add_left (roundDiv_mono h) _
  case inl hs =>
    calc
      nearestUnits m ≤ (m.log2 - 52 + 2) * span := nearestUnits_le m
      _ ≤ (n.log2 - 52 + 1) * span := Nat.mul_le_mul_right _ (by omega)
      _ ≤ nearestUnits n := le_nearestUnits (by omega)

theorem nearest_mono (h : m ≤ n) : nearest m 1 ≤ nearest n 1 := by
  rw [nearest_one, nearest_one, Nat.shiftLeft_eq, Nat.shiftLeft_eq]
  exact nearestUnits_mono <| Nat.mul_le_mul_right _ h

theorem rank_ofInt_mono (h : a ≤ b) : (ofInt a).rank ≤ (ofInt b).rank := by
  simp only [rank, ofInt, decide_eq_true_eq]
  split <;> split
  case isTrue.isTrue =>
    have := nearest_mono (by omega : b.natAbs ≤ a.natAbs)
    omega
  case isFalse.isFalse =>
    have := nearest_mono (by omega : a.natAbs ≤ b.natAbs)
    omega
  all_goals omega

end StatsQuery.Double
