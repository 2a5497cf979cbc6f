import StatsQuery.Proofs.Calendar.Reading

namespace StatsQuery

namespace Calendar

def LeapYear (year : Int) : Prop :=
  4 ∣ year ∧ (100 ∣ year → 400 ∣ year)

inductive IsDay (year : Int) : Nat → Nat → Prop
  | long     : month ∈ [1, 3, 5, 7, 8, 10, 12] → 1 ≤ day → day ≤ 31 → IsDay year month day
  | short    : month ∈ [4, 6, 9, 11] → 1 ≤ day → day ≤ 30 → IsDay year month day
  | february : 1 ≤ day → day ≤ 28 → IsDay year 2 day
  | leapDay  : LeapYear year → IsDay year 2 29

variable {year : Int} {month day : Nat}

theorem isLeap_iff : isLeap year ↔ LeapYear year := by
  simp only [isLeap, LeapYear, Bool.and_eq_true, Bool.or_eq_true, beq_iff_eq, bne_iff_ne]
  omega

theorem daysIn_february : daysIn year 2 = if isLeap year then 29 else 28 := rfl

theorem daysIn_short (h : month ∈ [4, 6, 9, 11]) : daysIn year month = 30 := by
  simp only [List.mem_cons, List.not_mem_nil, or_false] at h
  rcases h with rfl | rfl | rfl | rfl <;> rfl

theorem daysIn_long (h : month ∈ [1, 3, 5, 7, 8, 10, 12]) : daysIn year month = 31 := by
  simp only [List.mem_cons, List.not_mem_nil, or_false] at h
  rcases h with rfl | rfl | rfl | rfl | rfl | rfl | rfl <;> rfl

theorem mem_months (h : 1 ≤ month ∧ month ≤ 12) :
    month ∈ [1, 3, 5, 7, 8, 10, 12] ∨ month ∈ [4, 6, 9, 11] ∨ month = 2 := by
  simp only [List.mem_cons, List.not_mem_nil, or_false]
  omega

theorem isDay_iff :
    IsDay year month day ↔ (1 ≤ month ∧ month ≤ 12) ∧ (1 ≤ day ∧ day ≤ daysIn year month) := by
  constructor
  case mp =>
    intro h
    cases h with
    | long hm h₁ h₂ =>
      rw [daysIn_long hm]
      simp only [List.mem_cons, List.not_mem_nil, or_false] at hm
      omega
    | short hm h₁ h₂ =>
      rw [daysIn_short hm]
      simp only [List.mem_cons, List.not_mem_nil, or_false] at hm
      omega
    | february h₁ h₂ =>
      rw [daysIn_february]
      split <;> omega
    | leapDay hl =>
      rw [daysIn_february, if_pos (isLeap_iff.mpr hl)]
      omega
  case mpr =>
    intro ⟨hm, h₁, h₂⟩
    rcases mem_months hm with hl | hs | rfl
    · exact .long hl h₁ (daysIn_long hl ▸ h₂)
    · exact .short hs h₁ (daysIn_short hs ▸ h₂)
    · rw [daysIn_february] at h₂
      -- Only the last day of February depends on the year.
      split at h₂
      case isTrue hl =>
        by_cases h : day = 29
        case pos => exact h ▸ .leapDay (isLeap_iff.mp hl)
        case neg => exact .february h₁ (by omega)
      case isFalse => exact .february h₁ h₂

end Calendar

namespace Date

variable {year : Int} {month day : Nat}

theorem exists_date_iff :
    (∃ d : Date, d.year = year ∧ d.month = month ∧ d.day = day) ↔
      (-262143 ≤ year ∧ year ≤ 262142) ∧ Calendar.IsDay year month day := by
  rw [Calendar.isDay_iff]
  constructor
  case mp =>
    rintro ⟨d, rfl, rfl, rfl⟩
    exact ⟨d.year_mem, d.month_mem, d.day_mem⟩
  case mpr =>
    intro ⟨hy, hm, hd⟩
    exact ⟨⟨year, month, day, hy, hm, hd⟩, rfl, rfl, rfl⟩

-- A text is read as the date that it spells. Whatever the spelling is, the text that is written for the date is read as the
-- same date, and so it is for every day of the calendar.
theorem toString_reads_back :
    (∀ (text : String) (d : Date), parse text = .ok d ↔ Spells text.toList d) ∧
    (∀ (text : String) (d : Date), parse text = .ok d → parse d.toString = .ok d) ∧
    (∀ (year : Int) (month day : Nat), -262143 ≤ year → year ≤ 262142 → Calendar.IsDay year month day →
      ∃ d : Date, d.year = year ∧ d.month = month ∧ d.day = day ∧ parse d.toString = .ok d) := by
  have hw (d : Date) : parse d.toString = .ok d := by
    rw [parse_eq_ok_iff_spells, toString, String.toList_ofList]
    exact spells_text d
  refine ⟨fun _ _ => parse_eq_ok_iff_spells, fun _ d _ => hw d, fun year month day hf hl hd => ?_⟩
  have ⟨d, hy, hm, hd⟩ := exists_date_iff.mpr ⟨⟨hf, hl⟩, hd⟩
  exact ⟨d, hy, hm, hd, hw d⟩

theorem toString_reads_back_leapDay :
    (∃ d : Date, parse " +2024-\t2-29" = .ok d ∧ d.toString = "2024-02-29" ∧ parse d.toString = .ok d) ∧
    (Calendar.IsDay (-262140) 2 29 ∧ ∃ d : Date, d.year = -262140 ∧ parse d.toString = .ok d) := by
  have ⟨_, hp, hd⟩ := toString_reads_back
  have hl : Calendar.IsDay (-262140) 2 29 := .leapDay ⟨by decide, by decide⟩
  refine ⟨⟨_, rfl, rfl, hp " +2024-\t2-29" _ rfl⟩, hl, ?_⟩
  have ⟨d, hy, _, _, hr⟩ := hd _ _ _ (by decide) (by decide) hl
  exact ⟨d, hy, hr⟩

end Date

end StatsQuery
