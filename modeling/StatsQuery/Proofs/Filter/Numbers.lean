import Mathlib.Tactic.NormNum
import StatsQuery.Filter
import StatsQuery.Proofs.Json.Preorder
import StatsQuery.Proofs.Numeric.Exact

namespace StatsQuery

namespace Number

variable {m n : Number}

def value : Number → ℚ
  | int z _ => z
  | real x  => x.value

def negativeZero : Number :=
  .real (.zero true)

-- Two numbers that are not compared by their values. Either they differ and are rounded to one double, or they
-- are zeros with different signs.
inductive Mistaken (m n : Number) : Prop
  | rounded :
    (m.value ≠ n.value) → (m.toSigned? = none ∨ n.toSigned? = none) → (m.toDouble = n.toDouble) → Mistaken m n
  | zeros :
    (m.value = 0) → (n.value = 0) → (m = negativeZero ↔ n ≠ negativeZero) → Mistaken m n

theorem value_of_signed (h : m.toSigned? = some a) : m.value = a := by
  cases m <;> simp [toSigned?] at h
  case int => simp [value, h.right]

theorem ne_negativeZero_of_signed (h : m.toSigned? = some a) : m ≠ negativeZero := by
  rintro rfl
  simp [toSigned?, negativeZero] at h

theorem toDouble_eq_negative_zero_iff : m.toDouble = .zero true ↔ m = negativeZero := by
  cases m
  case int z _ => simp [toDouble, negativeZero, Double.ofInt_ne_negative_zero]
  case real x  => simp [toDouble, negativeZero]

theorem toDouble_eq_of_value_eq (h : m.value = n.value) (hm : m ≠ negativeZero) (hn : n ≠ negativeZero) :
    m.toDouble = n.toDouble := by
  cases m <;> cases n
  case int.int a _ b _ => rw [toDouble, toDouble, Int.cast_inj.mp h]
  case int.real a _ y =>
    exact Double.ofInt_eq_of_scaled (Double.value_eq_intCast_iff.mp h.symm) (mt (congrArg real) hn)
  case real.int x b _ =>
    exact (Double.ofInt_eq_of_scaled (Double.value_eq_intCast_iff.mp h) (mt (congrArg real) hm)).symm
  case real.real x y =>
    exact Double.eq_of_scaled_eq (Double.value_eq_iff.mp h) (mt (congrArg real) hm) (mt (congrArg real) hn)

theorem toDouble_by_value_iff (h : m.toSigned? = none ∨ n.toSigned? = none) :
    (m.toDouble = n.toDouble ↔ m.value = n.value) ↔ ¬m.Mistaken n := by
  have hz : negativeZero.value = 0 := Double.value_zero true
  constructor
  case mp =>
    intro hd hm
    cases hm
    case rounded hv _ he => exact hv <| hd.mp he
    case zeros hm hn hs =>
      have he : m.toDouble = n.toDouble := hd.mpr (hm.trans hn.symm)
      rw [← toDouble_eq_negative_zero_iff, he, ne_eq, ← toDouble_eq_negative_zero_iff] at hs
      exact iff_not_self hs
  case mpr =>
    intro hn
    refine ⟨fun he => ?_, fun hv => ?_⟩
    case refine_1 => exact Decidable.of_not_not fun hv => hn <| .rounded hv h he
    case refine_2 =>
      -- Values decide the double except for the sign of zero, so one of the two being -0.0 is a case of its own.
      by_cases hs : m = negativeZero ↔ n ≠ negativeZero
      case pos =>
        have h0 : m.value = 0 := by
          by_cases hm : m = negativeZero
          case pos => rw [hm, hz]
          case neg => rw [hv, Decidable.of_not_not (mt hs.mpr hm), hz]
        exact absurd (.zeros h0 (hv ▸ h0) hs) hn
      case neg =>
        by_cases hm : m = negativeZero
        case pos =>
          have hn : n = negativeZero := Decidable.of_not_not fun hn => hs <| iff_of_true hm hn
          rw [hm, hn]
        case neg =>
          have hn : n ≠ negativeZero := fun hn => hs <| iff_of_false hm <| not_not_intro hn
          exact toDouble_eq_of_value_eq hv hm hn

theorem not_mistaken_of_signed (hm : m.toSigned? = some a) (hn : n.toSigned? = some b) : ¬m.Mistaken n := by
  intro h
  cases h
  case rounded h _ => simp [hm, hn] at h
  case zeros h     => exact ne_negativeZero_of_signed hm <| h.mpr <| ne_negativeZero_of_signed hn

theorem compare_by_value_iff (m n : Number) : (m.compare n = .eq ↔ m.value = n.value) ↔ ¬m.Mistaken n := by
  cases signed_or_not m n
  case inl h =>
    have ⟨a, b, hm, hn⟩ := h
    have hv : m.value = n.value ↔ a = b := by
      rw [value_of_signed hm, value_of_signed hn, Int.cast_inj]
    rw [compare_of_signed hm hn, hv, Int.compare_eq_eq]
    exact iff_of_true Iff.rfl (not_mistaken_of_signed hm hn)
  case inr h =>
    have hd : m.compare n = .eq ↔ m.toDouble = n.toDouble := by
      rw [compare_of_not_signed h, Int.compare_eq_eq]
      exact ⟨fun hr => Double.rank_injective hr, fun hr => hr ▸ rfl⟩
    rw [hd, toDouble_by_value_iff h]

end Number

namespace Criterion

open Number (negativeZero)

theorem holds_equals_num : (equals (.num n)).holds (some (.num m)) = true ↔ m.compare n = .eq :=
  beq_iff_eq

-- A number meets a criterion on numbers by its value exactly where the two are not mistaken. In a list of values
-- it meets any number that it would meet by itself.
theorem holds_by_value_iff (m : Number) :
    (∀ n : Number,
      ((equals (.num n)).holds (some (.num m)) = true ↔ m.value = n.value) ↔ ¬m.Mistaken n) ∧
    (∀ wanted : List Json,
      (memberOf wanted).holds (some (.num m)) = true ↔
        ∃ n, .num n ∈ wanted ∧ (equals (.num n)).holds (some (.num m)) = true) := by
  refine ⟨fun n => ?_, fun wanted => ?_⟩
  case refine_1 => rw [holds_equals_num, Number.compare_by_value_iff]
  case refine_2 =>
    simp only [holds, List.any_eq_true]
    refine ⟨fun ⟨j, hj, h⟩ => ?_, fun ⟨n, hn, h⟩ => ⟨_, hn, h⟩⟩
    cases j
    case num n => exact ⟨n, hj, h⟩
    all_goals contradiction

theorem holds_not_by_value :
    let large : Number := .int 0x8000000000000000 (by decide)
    let larger : Number := .int 0x8000000000000001 (by decide)
    let zero : Number := .int 0 (by decide)
    (larger.value ≠ large.value ∧
      ∀ c ∈ [equals (.num large), memberOf [.num large]], c.holds (some (.num larger)) = true) ∧
    (negativeZero.value = zero.value ∧
      ∀ c ∈ [equals (.num zero), memberOf [.num zero]], c.holds (some (.num negativeZero)) = false) := by
  intro large larger zero
  have hl : larger.compare large = .eq := by decide +kernel
  have hz : negativeZero.compare zero = .lt := by decide +kernel
  refine ⟨⟨by norm_num [Number.value, large, larger], ?_⟩, Double.value_zero true, ?_⟩
  case refine_1 => simp [holds, Json.sameValue, hl]
  case refine_2 => simp [holds, Json.sameValue, hz]

end Criterion

end StatsQuery
