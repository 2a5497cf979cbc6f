import StatsQuery.Calendar.Date
import StatsQuery.Proofs.Text.Runs

namespace StatsQuery

namespace Text

theorem isDigit_numeral (h : c ∈ numeral n) : c.isDigit :=
  Nat.isDigit_of_mem_toDigits (by decide) (by decide) h

theorem numeral_ne_nil : numeral n ≠ [] :=
  Nat.toDigits_ne_nil

theorem numeral_injective (h : numeral m = numeral n) : m = n := by
  have hm := numeral?_numeral m
  rw [h, numeral?_numeral n] at hm
  exact (Option.some.inj hm).symm

theorem decimal_injective (h : decimal m = decimal n) : m = n :=
  numeral_injective (String.ofList_injective h)

theorem isDigit_padded (h : c ∈ padded width n) : c.isDigit := by
  cases List.mem_append.mp h
  case inl h => rw [List.eq_of_mem_replicate h]; decide
  case inr h => exact isDigit_numeral h

theorem length_padded (hw : 0 < width) (h : n < Nat.pow 10 width) : (padded width n).length = width := by
  have : (numeral n).length ≤ width := (Nat.length_toDigits_le_iff (by decide) hw).mpr h
  simp [padded]
  omega

theorem numeral?_padded : numeral? (padded width n) = some n := by
  have hd : isNumeral (padded width n) := by
    simp only [isNumeral, Bool.and_eq_true, List.all_eq_true]
    exact ⟨by simp [padded, numeral_ne_nil], fun _ => isDigit_padded⟩
  rw [numeral?, if_pos hd, padded, Nat.ofDigitChars_append, Nat.ofDigitChars_replicate_zero, Nat.mul_zero,
    numeral, Nat.ofDigitChars_toDigits (by decide) (by decide)]

theorem isBlank_of_isDigit (h : c.isDigit) : isBlank c = false := by
  rw [Char.isDigit_iff_toNat] at h
  simp [isBlank, blankRanges] at h ⊢
  omega

variable {blanks cs : List Char}

theorem trimLeft_append (h : ∀ c ∈ blanks, isBlank c) (hc : ∀ c ∈ cs.head?, isBlank c = false) :
    trimLeft (blanks ++ cs) = cs :=
  (while_append cs h hc).right

theorem isDigit_of_numeral? (h : numeral? cs = some n) : ∀ c ∈ cs, c.isDigit := by
  unfold numeral? at h
  split at h
  case isTrue hn => exact List.all_eq_true.mp (Bool.and_eq_true_iff.mp hn).right
  case isFalse   => contradiction

theorem exists_cons_of_numeral? (h : numeral? cs = some n) : ∃ c ds, cs = c :: ds ∧ c.isDigit := by
  cases cs with
  | nil       => contradiction
  | cons c ds => exact ⟨c, ds, rfl, isDigit_of_numeral? h c List.mem_cons_self⟩

end Text

namespace Date

open Text

-- The spellings of a year. Without a sign it has four digits at most.
inductive SpellsYear : List Char → Int → Prop
  | unsigned : numeral? ds = some n → ds.length ≤ 4 → SpellsYear ds n
  | plus     : numeral? ds = some n → SpellsYear ('+' :: ds) n
  | minus    : numeral? ds = some n → SpellsYear ('-' :: ds) (-n)

inductive SpellsPart : List Char → Nat → Prop
  | intro : (∀ c ∈ blanks, isBlank c) → numeral? ds = some n → ds.length ≤ 2 → SpellsPart (blanks ++ ds) n

inductive Spells : List Char → Date → Prop
  | intro : (∀ c ∈ blanks, isBlank c) → SpellsYear ys d.year → SpellsPart ms d.month → SpellsPart ds d.day →
      Spells (blanks ++ (ys ++ '-' :: (ms ++ '-' :: ds))) d

variable {d : Date} {cs ds rest : List Char} {year : Int} {month day n width : Nat} {text : String}

section Reading

theorem number?_append
    (h : ∀ c ∈ ds, c.isDigit) (hw : ds.length ≤ width) (hr : ∀ c ∈ rest.head?, c.isDigit = false) :
    number? width (ds ++ rest) = (numeral? ds).map (·, rest) := by
  have hd : ((ds ++ rest).take width).takeWhile Char.isDigit = ds := by
    rw [List.take_append, List.take_of_length_le hw, List.takeWhile_append_of_pos h]
    cases rest <;> cases width - ds.length <;> simp_all
  simp [number?, hd]

theorem exists_of_number? (h : number? width cs = some (n, rest)) :
    ∃ ds, cs = ds ++ rest ∧ numeral? ds = some n ∧ ds.length ≤ width := by
  unfold number? at h
  have ⟨m, hm, he⟩ := Option.map_eq_some_iff.mp h
  obtain ⟨rfl, rfl⟩ := Prod.mk.inj he
  set ds := (cs.take width).takeWhile Char.isDigit
  have hp : ds <+: cs := (List.takeWhile_prefix _).trans (List.take_prefix width cs)
  refine ⟨ds, (List.prefix_iff_eq_append.mp hp).symm, hm, ?_⟩
  exact Nat.le_trans (List.takeWhile_prefix _).length_le (List.length_take_le width cs)

theorem number?_of_numeral? (h : numeral? ds = some n) (hw : ds.length ≤ width) (hr : ∀ c ∈ rest.head?, c.isDigit = false) :
    number? width (ds ++ rest) = some (n, rest) := by
  rw [number?_append (isDigit_of_numeral? h) hw hr, h]
  rfl

theorem year?_blanks (blanks cs : List Char) (h : ∀ c ∈ blanks, isBlank c) : year? (blanks ++ cs) = year? cs := by
  have ht : trimLeft (blanks ++ cs) = trimLeft cs := List.dropWhile_append_of_pos h
  rw [year?, year?, ht]

theorem year?_minus : year? ('-' :: cs) = (number? cs.length cs).map fun (n, rest) => (-n, rest) := by
  simp [year?, trimLeft_of_not_blank (show isBlank '-' = false by decide)]

theorem year?_plus : year? ('+' :: cs) = (number? cs.length cs).map fun (n, rest) => ((n : Int), rest) := by
  simp [year?, trimLeft_of_not_blank (show isBlank '+' = false by decide)]

theorem year?_of_isDigit (h : c.isDigit) :
    year? (c :: cs) = (number? 4 (c :: cs)).map fun (n, rest) => ((n : Int), rest) := by
  rw [year?, trimLeft_of_not_blank (isBlank_of_isDigit h)]
  split
  case h_1 hc => exact absurd ((List.cons.inj hc).left ▸ h) (by decide)
  case h_2 hc => exact absurd ((List.cons.inj hc).left ▸ h) (by decide)
  case h_3    => rfl

theorem SpellsYear.year?_eq (h : SpellsYear cs year) (rest : List Char) (hr : ∀ c ∈ rest.head?, c.isDigit = false) :
    year? (cs ++ rest) = some (year, rest) := by
  cases h with
  | plus h  => rw [List.cons_append, year?_plus, number?_of_numeral? h (by simp) hr, Option.map_some]
  | minus h => rw [List.cons_append, year?_minus, number?_of_numeral? h (by simp) hr, Option.map_some]
  | unsigned h hl =>
    have hn := number?_of_numeral? h hl hr
    obtain ⟨c, ds, rfl, hc⟩ := exists_cons_of_numeral? h
    rw [List.cons_append] at hn ⊢
    rw [year?_of_isDigit hc, hn, Option.map_some]

theorem exists_of_map_number? {f : Nat → Int}
    (h : ((number? width cs).map fun (n, rest) => (f n, rest)) = some (year, rest)) :
    ∃ ds n, cs = ds ++ rest ∧ numeral? ds = some n ∧ ds.length ≤ width ∧ year = f n := by
  obtain ⟨⟨n, _⟩, hn, he⟩ := Option.map_eq_some_iff.mp h
  obtain ⟨rfl, rfl⟩ := Prod.mk.inj he
  have ⟨ds, hc, hd, hl⟩ := exists_of_number? hn
  exact ⟨ds, n, hc, hd, hl, rfl⟩

theorem exists_of_year? (h : year? cs = some (year, rest)) :
    ∃ blanks ys, (∀ c ∈ blanks, isBlank c) ∧ SpellsYear ys year ∧ cs = blanks ++ (ys ++ rest) := by
  obtain ⟨blanks, hb, hs⟩ := exists_run isBlank cs
  suffices ∃ ys, SpellsYear ys year ∧ trimLeft cs = ys ++ rest by
    have ⟨ys, hy, hc⟩ := this
    exact ⟨blanks, ys, hb, hy, hs.trans <| congrArg _ hc⟩
  unfold year? at h
  split at h
  case h_1 hc =>
    obtain ⟨ds, n, rfl, hd, _, rfl⟩ := exists_of_map_number? (f := fun n => -(n : Int)) h
    exact ⟨'-' :: ds, .minus hd, hc⟩
  case h_2 hc =>
    obtain ⟨ds, n, rfl, hd, _, rfl⟩ := exists_of_map_number? (f := Nat.cast) h
    exact ⟨'+' :: ds, .plus hd, hc⟩
  case h_3 =>
    obtain ⟨ds, n, hc, hd, hl, rfl⟩ := exists_of_map_number? (f := Nat.cast) h
    exact ⟨ds, .unsigned hd hl, hc⟩

theorem SpellsPart.part?_eq (h : SpellsPart cs n) (rest : List Char) (hr : ∀ c ∈ rest.head?, c.isDigit = false) :
    part? ('-' :: (cs ++ rest)) = some (n, rest) := by
  cases h with
  | intro hb hn hl =>
    have hr := number?_of_numeral? hn hl hr
    obtain ⟨c, ds, rfl, hc⟩ := exists_cons_of_numeral? hn
    rw [part?, List.append_assoc, trimLeft_append hb (by simpa using isBlank_of_isDigit hc), hr]

theorem exists_of_part? (h : part? cs = some (n, rest)) : ∃ ms, SpellsPart ms n ∧ cs = '-' :: (ms ++ rest) := by
  unfold part? at h
  split at h
  case h_2     => contradiction
  case h_1 cs =>
    obtain ⟨blanks, hb, hs⟩ := exists_run isBlank cs
    obtain ⟨ds, hc, hd, hl⟩ := exists_of_number? h
    refine ⟨blanks ++ ds, .intro hb hd hl, ?_⟩
    rw [List.append_assoc, ← hc]
    exact congrArg _ hs

theorem of?_eq_some_iff : of? year month day = some d ↔ d.year = year ∧ d.month = month ∧ d.day = day := by
  unfold of?
  split
  case isTrue =>
    cases d
    simp [eq_comm]
  case isFalse h =>
    refine ⟨fun hd => by contradiction, ?_⟩
    rintro ⟨rfl, rfl, rfl⟩
    exact absurd ⟨d.year_mem, d.month_mem, d.day_mem⟩ h

end Reading

theorem read?_eq_some_iff : read? cs = some d ↔ Spells cs d := by
  constructor
  case mp =>
    intro h
    simp only [read?, Option.bind_eq_bind, Option.bind_eq_some_iff] at h
    obtain ⟨⟨year, cs₁⟩, hy, ⟨month, cs₂⟩, hm, ⟨day, cs₃⟩, hd, h⟩ := h
    split at h
    case isFalse => contradiction
    case isTrue he =>
      obtain rfl := List.isEmpty_iff.mp he
      obtain ⟨rfl, rfl, rfl⟩ := of?_eq_some_iff.mp h
      obtain ⟨blanks, ys, hb, hys, rfl⟩ := exists_of_year? hy
      obtain ⟨ms, hms, rfl⟩ := exists_of_part? hm
      obtain ⟨ds, hds, rfl⟩ := exists_of_part? hd
      rw [List.append_nil]
      exact .intro hb hys hms hds
  case mpr =>
    intro h
    cases h with
    | @intro blanks ys ms ds _ hb hy hm hd =>
      have hy := hy.year?_eq ('-' :: (ms ++ '-' :: ds)) (by simp)
      have hm := hm.part?_eq ('-' :: ds) (by simp)
      have hd := hd.part?_eq [] (by simp)
      rw [List.append_nil] at hd
      simp [read?, year?_blanks _ _ hb, hy, hm, hd, of?_eq_some_iff]

theorem parse_eq_ok_iff_spells : parse text = .ok d ↔ Spells text.toList d := by
  rw [← read?_eq_some_iff, parse]
  cases read? text.toList <;> simp

section Writing

theorem spellsYear_yearText (year : Int) : SpellsYear (yearText year) year := by
  have hn : numeral? (padded 4 year.natAbs) = some year.natAbs := numeral?_padded
  unfold yearText
  split
  case isTrue h =>
    have hy : (-year.natAbs : Int) = year := by omega
    simpa only [hy] using SpellsYear.minus hn
  case isFalse h =>
    have hy : (year.natAbs : Int) = year := by omega
    split
    case isTrue => simpa only [hy] using SpellsYear.plus hn
    case isFalse hs =>
      have hl : year.natAbs < 10000 := by omega
      simpa only [hy] using SpellsYear.unsigned hn (Nat.le_of_eq <| length_padded (by decide) hl)

theorem spellsPart_padded (h : n < 100) : SpellsPart (padded 2 n) n := by
  have hl : (padded 2 n).length = 2 := length_padded (by decide) h
  rw [← List.nil_append (padded 2 n)]
  exact .intro nofun numeral?_padded (Nat.le_of_eq hl)

theorem daysIn_le (year : Int) (month : Nat) : Calendar.daysIn year month ≤ 31 := by
  unfold Calendar.daysIn
  split <;> (try split) <;> decide

theorem text_eq (d : Date) : d.text = yearText d.year ++ '-' :: (padded 2 d.month ++ '-' :: padded 2 d.day) := by
  simp [text]

theorem spells_text (d : Date) : Spells d.text d := by
  have hm := d.month_mem
  have hd := d.day_mem
  have hl := daysIn_le d.year d.month
  rw [text_eq, ← List.nil_append (yearText d.year ++ _)]
  exact .intro nofun (spellsYear_yearText _) (spellsPart_padded (by omega)) (spellsPart_padded (by omega))

theorem read?_text (d : Date) : read? d.text = some d :=
  read?_eq_some_iff.mpr d.spells_text

theorem toString_inj {d e : Date} : d.toString = e.toString ↔ d = e := by
  refine ⟨fun h => ?_, fun h => h ▸ rfl⟩
  have hd := read?_text d
  rw [String.ofList_injective h, read?_text e] at hd
  exact (Option.some.inj hd).symm

end Writing

end Date

end StatsQuery
