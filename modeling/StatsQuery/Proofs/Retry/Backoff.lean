import Mathlib.Algebra.BigOperators.Intervals
import StatsQuery.Retry

namespace StatsQuery

namespace Duration

variable {d : Duration} {m n : Nat}

theorem seconds_add_subseconds (d : Duration) : d.seconds * second + d.subseconds = d.nanoseconds :=
  Nat.div_add_mod' d.nanoseconds second

theorem carry_seconds (d : Duration) (n : Nat) :
    d.seconds * n + d.subseconds * n / second = d.nanoseconds * n / second := by
  rw [← seconds_add_subseconds d, Nat.add_mul, Nat.mul_right_comm, Nat.add_comm (_ * second),
    Nat.add_mul_div_right _ _ (by decide), Nat.add_comm]

theorem carry_subseconds (d : Duration) (n : Nat) : d.subseconds * n % second = d.nanoseconds * n % second := by
  rw [← seconds_add_subseconds d, Nat.add_mul, Nat.mul_right_comm, Nat.add_comm, Nat.add_mul_mod_self_right]

theorem seconds_lt_iff (n : Nat) : n / second < UInt64.size ↔ n ≤ max.nanoseconds := by
  rw [Nat.div_lt_iff_lt_mul (by decide)]
  exact Nat.lt_iff_le_pred (by decide)

theorem nanoseconds_times (d : Duration) (n : Nat) :
    (d.times n).nanoseconds = min (d.nanoseconds * n) max.nanoseconds := by
  simp only [times, carry_seconds, carry_subseconds, seconds_lt_iff]
  split
  case isTrue h  => rw [Nat.min_eq_left h, Nat.div_add_mod']
  case isFalse h => rw [Nat.min_eq_right (Nat.le_of_not_le h)]

end Duration

namespace RetryPolicy

variable {p q : RetryPolicy} {k n : Nat}

theorem factor_of_le (h : k ≤ 33) : factor k = 2 ^ (k - 2) := by
  rw [factor, if_pos (by omega), Nat.one_shiftLeft]

theorem factor_of_lt (h : 33 < k) : factor k = 2 ^ 32 - 1 :=
  if_neg (by omega)

theorem factor_mono (h : k ≤ n) : factor k ≤ factor n := by
  have last : factor 33 = 2 ^ 31 := rfl
  have doubled {k n : Nat} (h : k ≤ n) (hn : n ≤ 33) : factor k ≤ factor n := by
    rw [factor_of_le hn, factor_of_le (h.trans hn)]
    exact Nat.pow_le_pow_right (by decide) (by omega)
  by_cases hn : n ≤ 33
  case pos => exact doubled h hn
  case neg =>
    rw [factor_of_lt (Nat.lt_of_not_le hn)]
    by_cases hk : k ≤ 33
    case pos => exact (doubled hk le_rfl).trans (by omega)
    case neg => rw [factor_of_lt (Nat.lt_of_not_le hk)]

theorem delayBefore_first (p : RetryPolicy) (h : k ≤ 1) : p.delayBefore k = .zero :=
  if_pos h

theorem nanoseconds_delayBefore (p : RetryPolicy) (h : 1 < k) :
    (p.delayBefore k).nanoseconds = min (p.baseBackoff.nanoseconds * factor k) Duration.max.nanoseconds := by
  rw [delayBefore, if_neg (Nat.not_le_of_lt h), Duration.nanoseconds_times]

theorem nanoseconds_delayBefore_le (p : RetryPolicy) (h : k ≤ n) :
    (p.delayBefore k).nanoseconds ≤ (p.delayBefore n).nanoseconds := by
  by_cases hk : k ≤ 1
  case pos =>
    rw [delayBefore_first p hk]
    exact Nat.zero_le _
  case neg =>
    rw [nanoseconds_delayBefore p (by omega), nanoseconds_delayBefore p (by omega)]
    exact min_le_min_right _ <| Nat.mul_le_mul_left _ <| factor_mono h

theorem nanoseconds_delayBefore_le_of_le (h : p.baseBackoff.nanoseconds ≤ q.baseBackoff.nanoseconds) :
    (p.delayBefore k).nanoseconds ≤ (q.delayBefore k).nanoseconds := by
  by_cases hk : k ≤ 1
  case pos => rw [delayBefore_first p hk, delayBefore_first q hk]
  case neg =>
    rw [nanoseconds_delayBefore p (by omega), nanoseconds_delayBefore q (by omega)]
    exact min_le_min_right _ <| Nat.mul_le_mul_right _ h

theorem sum_delayBefore
    (hn : n ≤ 32)
    (h : ∀ k ∈ Finset.Icc 2 (n + 1), p.baseBackoff.nanoseconds * 2 ^ (k - 2) ≤ Duration.max.nanoseconds) :
    ∑ k ∈ Finset.Icc 1 (n + 1), (p.delayBefore k).nanoseconds = p.baseBackoff.nanoseconds * (2 ^ n - 1) := by
  induction n with
  | zero      => simp [delayBefore_first, Duration.zero]
  | succ n hi =>
    have hd : (p.delayBefore (n + 2)).nanoseconds = p.baseBackoff.nanoseconds * 2 ^ n := by
      rw [nanoseconds_delayBefore p (by omega), factor_of_le (by omega)]
      exact min_eq_left <| h _ <| Finset.mem_Icc.mpr ⟨by omega, le_rfl⟩
    have hp : 2 ^ n - 1 + 2 ^ n = 2 ^ (n + 1) - 1 := by
      have := Nat.one_le_two_pow (n := n)
      omega
    have hi := hi (by omega) fun k hk => h k <| Finset.Icc_subset_Icc_right (by omega) hk
    rw [Finset.sum_Icc_succ_top (by omega), hi, hd, ← Nat.mul_add, hp]

-- There is no wait before the first attempt. Before the second one the base is waited, and from then on twice as long
-- each time, up to the attempt after which the factor does not fit into 32 bits; where a wait would exceed the longest
-- span, it is the longest span. Later attempts and longer bases never have shorter waits. Where no wait is cut off, the
-- waits before some first attempts are together one base shorter than the next wait.
theorem delayBefore_doubles (p : RetryPolicy) :
    (∀ k ≤ 1, (p.delayBefore k).nanoseconds = 0) ∧
    (∀ k, 2 ≤ k → k ≤ 33 →
      (p.delayBefore k).nanoseconds = min (p.baseBackoff.nanoseconds * 2 ^ (k - 2)) Duration.max.nanoseconds) ∧
    (∀ k ≥ 34,
      (p.delayBefore k).nanoseconds = min (p.baseBackoff.nanoseconds * (2 ^ 32 - 1)) Duration.max.nanoseconds) ∧
    (∀ k n, k ≤ n → (p.delayBefore k).nanoseconds ≤ (p.delayBefore n).nanoseconds) ∧
    (∀ (q : RetryPolicy) (k : Nat), p.baseBackoff.nanoseconds ≤ q.baseBackoff.nanoseconds →
      (p.delayBefore k).nanoseconds ≤ (q.delayBefore k).nanoseconds) ∧
    ∀ n, 1 ≤ n → n ≤ 33 →
      (∀ k ∈ Finset.Icc 2 n, p.baseBackoff.nanoseconds * 2 ^ (k - 2) ≤ Duration.max.nanoseconds) →
      ∑ k ∈ Finset.Icc 1 n, (p.delayBefore k).nanoseconds = p.baseBackoff.nanoseconds * (2 ^ (n - 1) - 1) := by
  refine ⟨?first, ?doubled, ?bounded, ?later, ?longer, ?sum⟩
  case first   => exact fun k h => congrArg Duration.nanoseconds <| delayBefore_first p h
  case doubled => exact fun k h hl => by rw [nanoseconds_delayBefore p h, factor_of_le hl]
  case bounded => exact fun k h => by rw [nanoseconds_delayBefore p (by omega), factor_of_lt h]
  case later   => exact fun k n => nanoseconds_delayBefore_le p
  case longer  => exact fun q k => nanoseconds_delayBefore_le_of_le
  case sum     =>
    intro n hn hl h
    obtain ⟨n, rfl⟩ := Nat.exists_eq_add_of_le' hn
    exact sum_delayBefore (by omega) h

theorem delayBefore_doubles_carried :
    let p : RetryPolicy := { baseBackoff := .ofMilliseconds 1500 }
    let q : RetryPolicy := { baseBackoff := .ofSeconds 0x8000000000000000 }
    (∀ k ∈ Finset.Icc 2 5, p.baseBackoff.nanoseconds * 2 ^ (k - 2) ≤ Duration.max.nanoseconds) ∧
      ∑ k ∈ Finset.Icc 1 5, (p.delayBefore k).nanoseconds = 22500000000 ∧
      (p.delayBefore 40).nanoseconds = 1500000000 * 4294967295 ∧
      (q.delayBefore 3).nanoseconds = 18446744073709551615999999999 ∧
      (p.delayBefore 40).nanoseconds ≤ (q.delayBefore 40).nanoseconds := by
  intro p q
  have ⟨_, _, hb, _, hl, hs⟩ := delayBefore_doubles p
  have h : ∀ k ∈ Finset.Icc 2 5, p.baseBackoff.nanoseconds * 2 ^ (k - 2) ≤ Duration.max.nanoseconds := by decide
  refine ⟨h, (hs 5 (by decide) (by decide) h).trans (by decide), ?_, ?_, hl q 40 (by decide)⟩
  · exact (hb 40 (by decide)).trans (by decide)
  · exact ((delayBefore_doubles q).right.left 3 (by decide) (by decide)).trans (by decide)

end RetryPolicy

end StatsQuery
