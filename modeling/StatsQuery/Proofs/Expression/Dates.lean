import StatsQuery.Proofs.Calendar.Reading
import StatsQuery.Proofs.Expression.Grammar

namespace StatsQuery

namespace Date

open Text

def Plain (cs : List Char) : Prop :=
  ∃ ys ms ds, cs = ys ++ '-' :: (ms ++ '-' :: ds) ∧ (∀ c ∈ ys ++ ms ++ ds, c.isDigit) ∧
    ys.length = 4 ∧ ms.length = 2 ∧ ds.length = 2

variable {d : Date} {cs : List Char}

theorem Plain.isDigit_head (h : Plain cs) : ∀ c ∈ cs.head?, c.isDigit := by
  obtain ⟨ys, ms, ds, rfl, hd, hy, _⟩ := h
  have ⟨c, ys, hc⟩ := List.exists_cons_of_length_eq_add_one hy
  subst hc
  simpa using hd c (by simp)

theorem plain_text_iff (d : Date) : Plain d.text ↔ 0 ≤ d.year ∧ d.year ≤ 9999 := by
  rw [text_eq, yearText]
  constructor
  case mp =>
    intro h
    have hd := h.isDigit_head
    split at hd
    case isTrue => exact absurd (hd '-' rfl) (by decide)
    case isFalse hn =>
      split at hd
      case isTrue => exact absurd (hd '+' rfl) (by decide)
      case isFalse => omega
  case mpr =>
    intro ⟨hl, hu⟩
    have hm := d.month_mem
    have hd := d.day_mem
    have hb := daysIn_le d.year d.month
    have hy : d.year.natAbs < 10000 := by omega
    rw [if_neg (by omega), if_neg (by omega)]
    refine ⟨_, _, _, rfl, ?_, length_padded (by decide) hy, length_padded (by decide) ?_, length_padded (by decide) ?_⟩
    case refine_1 =>
      simp only [List.forall_mem_append]
      exact ⟨⟨fun _ => isDigit_padded, fun _ => isDigit_padded⟩, fun _ => isDigit_padded⟩
    case refine_2 => exact Nat.lt_of_le_of_lt hm.right (by decide)
    case refine_3 => exact Nat.lt_of_le_of_lt (hd.right.trans hb) (by decide)

theorem not_quote_mem_text (d : Date) : '\x27' ∉ d.text := by
  have hp {width n : Nat} : '\x27' ∉ padded width n := fun h => absurd (isDigit_padded h) (by decide)
  have hy : '\x27' ∉ yearText d.year := by
    unfold yearText
    split
    case isTrue  => simp [hp]
    case isFalse => split <;> simp [hp]
  simp [text_eq, hp, hy]

end Date

namespace Expression

theorem quoteChars_of_not_mem {cs : List Char} (h : '\x27' ∉ cs) : quoteChars cs = '\x27' :: (cs ++ ['\x27']) := by
  have hm : (cs.flatMap fun c => if c = '\x27' then [c, c] else [c]) = cs := by
    induction cs with
    | nil          => rfl
    | cons c cs hi =>
      have ⟨hc, hs⟩ := not_or.mp <| List.mem_cons.not.mp h
      rw [List.flatMap_cons, if_neg (Ne.symm hc), hi hs]
      rfl
  rw [quoteChars, hm, List.cons_append]

theorem Clause.conjunction_cons (c : Clause) (cs : List Clause) :
    ∃ rest, conjunction (c :: cs) = c.text ++ rest ∧ (rest = [] ∨ ∃ more, rest = " and ".toList ++ more) := by
  cases cs with
  | nil      => exact ⟨[], by simp [conjunction], .inl rfl⟩
  | cons d _ => exact ⟨_, conjunction_cons_cons c d _, .inr ⟨_, rfl⟩⟩

end Expression

namespace Primary

open Expression

variable {p : Primary} {start finish text : String} {first last : Date}

theorem selection_eq_dates (hs : p.startSeason = none ∨ p.endSeason = none) (hf : p.startDate = some start)
    (hl : p.endDate = some finish) :
    p.selection = do return .dates (← Date.parse start) (← Date.parse finish) := by
  unfold selection
  rw [hf, hl]
  rcases hs with hs | hs <;> rw [hs]
  cases p.startSeason <;> rfl

theorem conjunction_dates (first last : Date) (cs : List Clause) :
    ∃ rest,
      Clause.conjunction ((Selection.dates first last).clauses ++ cs) =
        "gameDate<='".toList ++ last.text ++ "' and gameDate>='".toList ++ first.text ++ '\x27' :: rest ∧
      (rest = [] ∨ ∃ more, rest = " and ".toList ++ more) := by
  have hq (operator : String) (d : Date) :
      (Clause.relation "gameDate" operator (.quoted d.toString)).text =
        "gameDate".toList ++ operator.toList ++ '\x27' :: (d.text ++ ['\x27']) := by
    have hd : quoteChars d.toString.toList = '\x27' :: (d.text ++ ['\x27']) := by
      rw [Date.toString, String.toList_ofList, quoteChars_of_not_mem d.not_quote_mem_text]
    exact congrArg ("gameDate".toList ++ operator.toList ++ ·) hd
  obtain ⟨rest, hr, ha⟩ := Clause.conjunction_cons (.relation "gameDate" ">=" (.quoted first.toString)) cs
  refine ⟨rest, ?_, ha⟩
  rw [Selection.clauses, List.cons_append, List.singleton_append, Clause.conjunction_cons_cons, hr, hq, hq]
  simp

-- In a filter by dates the two days are those that are given, and each of them is written with four digits, two and two
-- exactly if its year has at most four digits and no sign.
theorem compile_dates_plain_iff
    (hs : p.startSeason = none ∨ p.endSeason = none) (hf : p.startDate = some start) (hl : p.endDate = some finish)
    (h : p.compile = .ok text) :
    ∃ (first last : Date) (lower upper rest : List Char),
      Date.Spells start.toList first ∧ Date.Spells finish.toList last ∧
      text.toList = "gameDate<='".toList ++ upper ++ "' and gameDate>='".toList ++ lower ++ '\x27' :: rest ∧
      '\x27' ∉ upper ∧ '\x27' ∉ lower ∧ (rest = [] ∨ ∃ more, rest = " and ".toList ++ more) ∧
      Date.Spells upper last ∧ Date.Spells lower first ∧
      (Date.Plain upper ↔ 0 ≤ last.year ∧ last.year ≤ 9999) ∧
      (Date.Plain lower ↔ 0 ≤ first.year ∧ first.year ≤ 9999) := by
  obtain ⟨s, hp, ht⟩ := compile_eq_ok_iff.mp h
  simp only [selection_eq_dates hs hf hl, bind_eq_ok_iff, pure, Except.pure, Except.ok.injEq] at hp
  obtain ⟨first, hf, last, hl, rfl⟩ := hp
  obtain ⟨rest, hr, ha⟩ := conjunction_dates first last p.predicates
  refine ⟨first, last, first.text, last.text, rest, Date.parse_eq_ok_iff_spells.mp hf, Date.parse_eq_ok_iff_spells.mp hl, ?_,
    last.not_quote_mem_text, first.not_quote_mem_text, ha, last.spells_text, first.spells_text, last.plain_text_iff,
    first.plain_text_iff⟩
  rw [← ht, String.toList_ofList, hr]

theorem compile_dates_plain_iff_spelled :
    let p : Primary := { startDate := some "+2023-10-1", endDate := some " 2024-2-29", gameType := some 2 }
    let text := "gameDate<='2024-02-29' and gameDate>='2023-10-01' and gameTypeId=2"
    p.compile = .ok text ∧
      ∃ (first last : Date) (lower upper rest : List Char),
        text.toList = "gameDate<='".toList ++ upper ++ "' and gameDate>='".toList ++ lower ++ '\x27' :: rest ∧
        (Date.Spells upper last ∧ Date.Plain upper) ∧ (Date.Spells lower first ∧ Date.Plain lower) := by
  intro p text
  have hc : p.compile = .ok text := rfl
  have ⟨first, last, lower, upper, rest, hf, hl, ht, _, _, _, hu, hd, hpu, hpd⟩ :=
    compile_dates_plain_iff (.inl rfl) rfl rfl hc
  have hf : Date.parse "+2023-10-1" = .ok first := Date.parse_eq_ok_iff_spells.mpr hf
  have hl : Date.parse " 2024-2-29" = .ok last := Date.parse_eq_ok_iff_spells.mpr hl
  cases hf
  cases hl
  exact ⟨hc, _, _, lower, upper, rest, ht, ⟨hu, hpu.mpr (by decide)⟩, ⟨hd, hpd.mpr (by decide)⟩⟩

theorem compile_dates_not_plain :
    let p : Primary := { startDate := some "2024-01-01", endDate := some "+10000-01-01" }
    p.compile = .ok "gameDate<='+10000-01-01' and gameDate>='2024-01-01'" ∧ ¬Date.Plain "+10000-01-01".toList := by
  refine ⟨rfl, fun h => ?_⟩
  exact absurd (h.isDigit_head '+' rfl) (by decide)

end Primary

end StatsQuery
