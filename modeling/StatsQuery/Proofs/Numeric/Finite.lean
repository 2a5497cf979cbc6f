import StatsQuery.Numeric.Extended
import StatsQuery.Proofs.Numeric.Rounding
import StatsQuery.Proofs.Text.Runs

namespace StatsQuery

namespace Double

variable {num den k m n : Nat}

theorem roundDiv_le_of_lt (h : 2 * num < (2 * k + 1) * den) : roundDiv num den ≤ k := by
  have hd : 0 < den := Nat.pos_of_mul_pos_left (Nat.zero_lt_of_lt h)
  have hn := Nat.div_add_mod num den
  have hr := Nat.mod_lt num hd
  have hq : num / den ≤ k := Nat.le_of_lt_succ <| (Nat.div_lt_iff_lt_mul hd).mpr (by grind)
  cases Nat.lt_or_eq_of_le hq
  case inl hl => exact Nat.le_trans (roundDiv_le num den) hl
  case inr he =>
    rw [he] at hn
    simp only [roundDiv, he]
    exact Nat.le_of_eq <| if_pos (by grind)

theorem lt_roundDiv_of_le (hd : 0 < den) (hk : k % 2 = 1) (h : (2 * k + 1) * den ≤ 2 * num) : k < roundDiv num den := by
  have hn := Nat.div_add_mod num den
  have hr := Nat.mod_lt num hd
  have hq : k ≤ num / den := (Nat.le_div_iff_mul_le hd).mpr (by grind)
  cases Nat.lt_or_eq_of_le hq
  case inl hl => exact Nat.lt_of_lt_of_le hl (le_roundDiv num den)
  case inr he =>
    rw [← he] at hn
    simp only [roundDiv, ← he]
    rw [if_neg (by grind)]
    split <;> omega

theorem shiftLeft_pos (h : 0 < n) (k : Nat) : 0 < n <<< k := by
  rw [Nat.shiftLeft_eq]
  exact Nat.mul_pos h (Nat.two_pow_pos k)

theorem shiftLeft_lt_shiftLeft_iff : m <<< k < n <<< k ↔ m < n := by
  rw [Nat.shiftLeft_eq, Nat.shiftLeft_eq, Nat.mul_lt_mul_right (Nat.two_pow_pos k)]

def places (num den : Nat) : Nat :=
  ((num <<< 1074) / den).log2 - 52

theorem nearest_eq (num den : Nat) :
    nearest num den = places num den * span + roundDiv (num <<< 1074) (den <<< places num den) := rfl

theorem le_places_iff (hd : 0 < den) (hk : 0 < k) : k ≤ places num den ↔ span * (den <<< k) ≤ num <<< 1074 := by
  have hs : span * (den <<< k) = 2 ^ (52 + k) * den := by
    rw [Nat.shiftLeft_eq, Nat.pow_add, Nat.mul_comm den, Nat.mul_assoc]
  rw [hs, ← Nat.le_div_iff_mul_le hd, places]
  by_cases hq : (num <<< 1074) / den = 0
  case pos =>
    rw [hq, Nat.log2_zero]
    have := Nat.two_pow_pos (52 + k)
    omega
  case neg =>
    rw [← Nat.le_log2 hq]
    omega

theorem span_shiftLeft_succ (den k : Nat) : span * (den <<< (k + 1)) = 2 * span * (den <<< k) := by
  rw [Nat.shiftLeft_succ, ← Nat.mul_assoc, Nat.mul_comm span]

-- What is left when the places are dropped has at most fifty-three of them, and that many if there were more.
theorem nearest_le (hd : 0 < den) (num : Nat) : nearest num den ≤ (places num den + 2) * span := by
  have hp := shiftLeft_pos hd (places num den)
  have hs : ¬span * (den <<< (places num den + 1)) ≤ num <<< 1074 :=
    (le_places_iff hd (Nat.succ_pos _)).not.mp (Nat.not_succ_le_self _)
  have hq : num <<< 1074 / (den <<< places num den) < 2 * span := by
    rw [Nat.not_le, span_shiftLeft_succ] at hs
    exact (Nat.div_lt_iff_lt_mul hp).mpr hs
  have hr := roundDiv_le (num <<< 1074) (den <<< places num den)
  rw [nearest_eq, Nat.add_mul]
  omega

theorem le_nearest (hd : 0 < den) (hp : 0 < places num den) : (places num den + 1) * span ≤ nearest num den := by
  have hs := (le_places_iff hd hp).mp (Nat.le_refl _)
  have hq : span ≤ num <<< 1074 / (den <<< places num den) :=
    (Nat.le_div_iff_mul_le <| shiftLeft_pos hd _).mpr hs
  have hr := le_roundDiv (num <<< 1074) (den <<< places num den)
  rw [nearest_eq, Nat.add_mul]
  omega

def bound : Nat :=
  0x3FFFFFFFFFFFFF <<< 970

theorem lt_bound_iff : num < bound * den ↔ 2 * (num <<< 1074) < (2 * (2 * span - 1) + 1) * (den <<< 2045) := by
  have hb : (2 * (2 * span - 1) + 1) * (den <<< 2045) = (bound * den) <<< 1075 := by
    have hk : 2 * (2 * span - 1) + 1 = 0x3FFFFFFFFFFFFF := by decide
    rw [hk, Nat.shiftLeft_add den 970 1075, bound]
    simp only [Nat.shiftLeft_eq, Nat.mul_assoc, Nat.mul_comm den]
  rw [hb, ← Nat.shiftLeft_succ, shiftLeft_lt_shiftLeft_iff]

-- A number is rounded to a finite double exactly below the bound.
theorem nearest_lt_limit_iff (hd : 0 < den) : nearest num den < limit ↔ num < bound * den := by
  have hl : limit = 2047 * span := by decide
  have hz : 0 < span := by decide
  rw [lt_bound_iff, hl]
  -- The last exponent of the doubles drops 2045 places.
  rcases Nat.lt_trichotomy (places num den) 2045 with h | h | h
  · have hn : nearest num den ≤ 2046 * span :=
      Nat.le_trans (nearest_le hd num) <| Nat.mul_le_mul_right span (by omega)
    have hs : num <<< 1074 < span * (den <<< 2045) :=
      Nat.not_le.mp <| (le_places_iff hd (by decide)).not.mp (by omega)
    have hb : 2 * (span * (den <<< 2045)) ≤ (2 * (2 * span - 1) + 1) * (den <<< 2045) := by
      rw [← Nat.mul_assoc]
      exact Nat.mul_le_mul_right _ (by decide)
    exact iff_of_true (by omega) <| Nat.lt_of_lt_of_le (Nat.mul_lt_mul_of_pos_left hs (by decide)) hb
  · rw [nearest_eq, h]
    -- At this exponent the bound is half a step above the largest significand, which is odd, so that a tie goes up.
    constructor
    case mp =>
      intro hn
      refine Nat.not_le.mp fun hb => ?_
      have := lt_roundDiv_of_le (shiftLeft_pos hd 2045) (by decide) hb
      omega
    case mpr =>
      intro hb
      have := roundDiv_le_of_lt hb
      omega
  · have hn : 2047 * span ≤ nearest num den :=
      Nat.le_trans (Nat.mul_le_mul_right span (by omega)) <| le_nearest hd (by omega)
    have hs := (le_places_iff hd (by decide)).mp h
    have hb : (2 * (2 * span - 1) + 1) * (den <<< 2045) ≤ 2 * (2 * span * (den <<< 2045)) := by
      rw [← Nat.mul_assoc]
      exact Nat.mul_le_mul_right _ (by decide)
    rw [Nat.succ_eq_add_one, span_shiftLeft_succ] at hs
    exact iff_of_false (by omega) <| Nat.not_lt.mpr <| Nat.le_trans hb (Nat.mul_le_mul_left 2 hs)

theorem ofRatio?_isSome_iff (negative : Bool) (hd : 0 < den) :
    (ofRatio? negative num den).isSome ↔ num < bound * den := by
  rw [← nearest_lt_limit_iff hd, ofRatio?]
  split <;> simp_all

end Double

namespace Extended

structure Magnitude (whole fraction : List Char) : Prop where
  digits : ∀ c ∈ whole ++ fraction, c.isDigit
  digit  : whole ++ fraction ≠ []
  finite : Nat.ofDigitChars 10 (whole ++ fraction) 0 < Double.bound * Nat.pow 10 fraction.length

inductive IsDecimal : List Char → Prop
  | whole : Magnitude whole [] → IsDecimal whole
  | point : Magnitude whole fraction → IsDecimal (whole ++ '.' :: fraction)

variable {cs whole fraction rest : List Char}

theorem isFinite_ofDecimal_iff {negative : Bool} (digits scale : Nat) :
    (ofDecimal negative ⟨digits, 0 - scale⟩).isFinite ↔ digits < Double.bound * Nat.pow 10 scale := by
  have hn : ((0 : Int) - scale).toNat = 0 := by omega
  have hd : (-((0 : Int) - scale)).toNat = scale := by omega
  have hp : 0 < Nat.pow 10 scale := Nat.pow_pos (by decide)
  rw [← Double.ofRatio?_isSome_iff negative hp]
  simp only [ofDecimal, hn, hd]
  have ho : Nat.pow 10 0 = 1 := rfl
  rw [ho, Nat.mul_one]
  cases Double.ofRatio? negative digits (Nat.pow 10 scale) <;> simp [isFinite]

theorem significand?_eq_some (h : significand? cs = some ((whole, fraction), rest)) :
    (∀ c ∈ whole ++ fraction, c.isDigit) ∧ whole ++ fraction ≠ [] ∧
      (fraction = [] ∧ cs = whole ++ rest ∨ cs = whole ++ '.' :: (fraction ++ rest)) := by
  have hd (ds : List Char) : ∀ c ∈ ds.takeWhile Char.isDigit, c.isDigit := List.all_eq_true.mp List.all_takeWhile
  have hc := cs.takeWhile_append_dropWhile (p := Char.isDigit)
  simp only [significand?, List.span_eq_takeWhile_dropWhile] at h
  split at h
  case h_1 ds hs =>
    split at h <;> cases h
    have hf := ds.takeWhile_append_dropWhile (p := Char.isDigit)
    refine ⟨List.forall_mem_append.mpr ⟨hd cs, hd ds⟩, by simp_all, .inr ?_⟩
    rw [hf, ← hs, hc]
  case h_2 =>
    split at h <;> cases h
    refine ⟨List.forall_mem_append.mpr ⟨hd cs, nofun⟩, by simp_all, .inl ⟨rfl, hc.symm⟩⟩

theorem significand?_whole (hd : ∀ c ∈ whole, c.isDigit) (hn : whole ≠ []) :
    significand? whole = some ((whole, []), []) := by
  have hs : (whole ++ []).span Char.isDigit = (whole, []) := span_append hd (by simp)
  rw [List.append_nil] at hs
  simp only [significand?, hs]
  simpa using hn

theorem significand?_point (hd : ∀ c ∈ whole ++ fraction, c.isDigit) (hn : whole ++ fraction ≠ []) :
    significand? (whole ++ '.' :: fraction) = some ((whole, fraction), []) := by
  have ⟨hw, hf⟩ := List.forall_mem_append.mp hd
  have hs : (whole ++ '.' :: fraction).span Char.isDigit = (whole, '.' :: fraction) := span_append hw (by simp)
  have ht : (fraction ++ []).span Char.isDigit = (fraction, []) := span_append hf (by simp)
  rw [List.append_nil] at ht
  simp only [significand?, hs, ht]
  simpa using hn

theorem word?_not_finite (h : word? negative cs = some x) : x.isFinite = false := by
  unfold word? at h
  split at h <;> cases h <;> rfl

theorem exponent?_of_plain (h : exponent? cs = some e) (hp : ∀ c ∈ cs, c ≠ 'e' ∧ c ≠ 'E') : cs = [] ∧ e = 0 := by
  unfold exponent? at h
  split at h
  case h_1 => exact ⟨rfl, (Option.some.inj h).symm⟩
  case h_2 =>
    have hc := hp _ List.mem_cons_self
    simp [hc] at h

theorem IsDecimal.plain (h : IsDecimal cs) : ∀ c ∈ cs, c.isDigit ∨ c = '.' := by
  cases h with
  | whole hm => exact fun c hc => .inl <| hm.digits c <| List.mem_append_left _ hc
  | point hm =>
    have ⟨hw, hf⟩ := List.forall_mem_append.mp hm.digits
    exact List.forall_mem_append.mpr
      ⟨fun c hc => .inl (hw c hc), List.forall_mem_cons.mpr ⟨.inr rfl, fun c hc => .inl (hf c hc)⟩⟩

theorem IsDecimal.ne_nil (h : IsDecimal cs) : cs ≠ [] := by
  cases h with
  | whole hm => simpa using hm.digit
  | point    => simp

theorem Magnitude.read (h : Magnitude whole fraction) (hs : significand? cs = some ((whole, fraction), [])) :
    ∃ x, unsigned? negative cs = some x ∧ x.isFinite := by
  refine ⟨ofDecimal negative ⟨_, 0 - fraction.length⟩, ?_, (isFinite_ofDecimal_iff _ _).mpr h.finite⟩
  simp [unsigned?, decimal?, hs, exponent?]

-- What is read as a finite double without an exponent is a decimal, and every decimal is read as one.
theorem unsigned?_finite_iff (hp : ∀ c ∈ cs, c ≠ 'e' ∧ c ≠ 'E') :
    (∃ x, unsigned? negative cs = some x ∧ x.isFinite) ↔ IsDecimal cs := by
  constructor
  case mpr =>
    intro h
    cases h with
    | whole hm => exact hm.read <| significand?_whole (by simpa using hm.digits) (by simpa using hm.digit)
    | point hm => exact hm.read <| significand?_point hm.digits hm.digit
  case mp =>
    intro ⟨x, hx, hf⟩
    unfold unsigned? at hx
    split at hx
    case h_2 => simp [word?_not_finite hx] at hf
    case h_1 d hd =>
      cases hx
      obtain ⟨⟨⟨whole, fraction⟩, rest⟩, hs, hd⟩ := Option.bind_eq_some_iff.mp hd
      obtain ⟨e, he, hd⟩ := Option.bind_eq_some_iff.mp hd
      have ⟨hw, hn, hc⟩ := significand?_eq_some hs
      have hr : ∀ c ∈ rest, c ∈ cs := by
        rcases hc with ⟨_, rfl⟩ | rfl <;> simp +contextual
      obtain ⟨rfl, rfl⟩ := exponent?_of_plain he fun c hm => hp c (hr c hm)
      cases hd
      have hm : Magnitude whole fraction := ⟨hw, hn, (isFinite_ofDecimal_iff _ _).mp hf⟩
      rcases hc with ⟨rfl, rfl⟩ | rfl
      · simpa using IsDecimal.whole hm
      · simpa using IsDecimal.point hm

end Extended

end StatsQuery
