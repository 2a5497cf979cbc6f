import StatsQuery.Json.Numeral
import StatsQuery.Json.Quoted
import StatsQuery.Proofs.Text.Runs

namespace StatsQuery

theorem Text.hexValue?_lt (h : hexValue? c = some n) : n < 16 := by
  unfold hexValue? at h
  split at h
  case isTrue hd =>
    have : 48 ≤ c.toNat ∧ c.toNat ≤ 57 := Char.isDigit_iff_toNat.mp hd
    cases h
    simp only [Char.reduceToNat]
    omega
  case isFalse =>
    have upper {a b : Char} (h : a ≤ c ∧ c ≤ b) : c.toNat ≤ b.toNat := UInt32.le_iff_toNat_le.mp h.right
    split at h
    case isTrue hl =>
      have := upper hl
      cases h
      simp only [Char.reduceToNat] at *
      omega
    case isFalse =>
      split at h
      case isTrue hu =>
        have := upper hu
        cases h
        simp only [Char.reduceToNat] at *
        omega
      case isFalse => contradiction

namespace Json

namespace Quoted

open Text (hexValue?)

-- What a character of a string is written as. Any character that is not a control character, a quote or a backslash
-- can be written as itself, and any character by the number of its code point, or the two numbers of a pair of
-- surrogates.
inductive IsChar : List Char → Char → Prop
  | plain : c ≠ '"' → c ≠ '\\' → 0x20 ≤ c.toNat → IsChar [c] c
  | short : short? e = some c → IsChar ['\\', e] c
  | point : unit? a₁ a₂ a₃ a₄ = some c.toNat → IsChar ['\\', 'u', a₁, a₂, a₃, a₄] c
  | pair  : unit? a₁ a₂ a₃ a₄ = some high → unit? b₁ b₂ b₃ b₄ = some low → isHigh high → isLow low →
      c.toNat = 0x10000 + (high - 0xD800) * 0x400 + (low - 0xDC00) →
      IsChar ['\\', 'u', a₁, a₂, a₃, a₄, '\\', 'u', b₁, b₂, b₃, b₄] c

inductive IsInside : List Char → List Char → Prop
  | nil  : IsInside [] []
  | cons : IsChar cs c → IsInside ds rest → IsInside (cs ++ ds) (c :: rest)

variable {cs ds rest text : List Char} {c : Char} {n : Nat}

theorem unit?_lt (h : unit? a b c d = some n) : n < 0x10000 := by
  simp only [unit?, Option.bind_eq_bind, Option.bind_eq_some_iff, Option.pure_def, Option.some.injEq] at h
  obtain ⟨_, ha, _, hb, _, hc, _, hd, rfl⟩ := h
  have ha := Text.hexValue?_lt ha
  have hb := Text.hexValue?_lt hb
  have hc := Text.hexValue?_lt hc
  have hd := Text.hexValue?_lt hd
  omega

theorem toNat_ofNat (h : n < 0xD800 ∨ 0xDFFF < n ∧ n < 0x110000) : (Char.ofNat n).toNat = n := by
  have hv : n.isValidChar := h
  rw [Char.ofNat, dif_pos hv]
  rfl

theorem toNat_paired (hh : isHigh high) (hl : isLow low) :
    (paired high low).toNat = 0x10000 + (high - 0xD800) * 0x400 + (low - 0xDC00) := by
  simp only [isHigh, isLow, Bool.and_eq_true, decide_eq_true_eq] at hh hl
  exact toNat_ofNat (by omega)

theorem toNat_unit (h : n < 0x10000) (hh : ¬isHigh n) (hl : ¬isLow n) : (Char.ofNat n).toNat = n := by
  simp only [isHigh, isLow, Bool.and_eq_true, decide_eq_true_eq] at hh hl
  exact toNat_ofNat (by omega)

theorem not_surrogate (c : Char) : isHigh c.toNat = false ∧ isLow c.toNat = false := by
  have hv : c.toNat < 0xD800 ∨ 0xDFFF < c.toNat ∧ c.toNat < 0x110000 := c.valid
  simp only [isHigh, isLow, Bool.and_eq_false_iff, decide_eq_false_iff_not]
  omega

theorem isLow_of_isHigh (h : isHigh n) : isLow n = false := by
  simp only [isHigh, isLow, Bool.and_eq_true, Bool.and_eq_false_iff, decide_eq_true_eq, decide_eq_false_iff_not] at *
  omega

theorem exists_of_char? (h : char? cs = some (c, rest)) (hq : ∀ ds, cs ≠ '"' :: ds) :
    ∃ text, cs = text ++ rest ∧ IsChar text c := by
  unfold char? at h
  split at h
  case h_1 a b c d cs =>
    simp only [Option.bind_eq_bind, Option.bind_eq_some_iff] at h
    obtain ⟨n, hn, h⟩ := h
    split at h
    case isTrue => contradiction
    case isFalse hl =>
      split at h
      -- A high half needs a low half behind it, and both together are one character.
      case isTrue hh =>
        split at h
        case h_2 => contradiction
        case h_1 =>
          simp only [Option.bind_eq_some_iff] at h
          obtain ⟨low, hm, h⟩ := h
          split at h
          case isFalse => contradiction
          case isTrue hl =>
            obtain ⟨rfl, rfl⟩ := Prod.mk.inj (Option.some.inj h)
            exact ⟨_, rfl, .pair hn hm hh hl (toNat_paired hh hl)⟩
      case isFalse hh =>
        obtain ⟨rfl, rfl⟩ := Prod.mk.inj (Option.some.inj h)
        exact ⟨_, rfl, .point <| by rw [hn, toNat_unit (unit?_lt hn) hh hl]⟩
  case h_2 =>
    obtain ⟨_, hs, he⟩ := Option.map_eq_some_iff.mp h
    obtain ⟨rfl, rfl⟩ := Prod.mk.inj he
    exact ⟨_, rfl, .short hs⟩
  case h_3 =>
    split at h
    case isTrue => contradiction
    case isFalse hn =>
      obtain ⟨rfl, rfl⟩ := Prod.mk.inj (Option.some.inj h)
      obtain ⟨hb, hc⟩ := not_or.mp hn
      exact ⟨_, rfl, .plain (fun hc => hq _ (congrArg (· :: _) hc)) hb (Nat.not_lt.mp hc)⟩
  case h_4 => contradiction

theorem IsChar.char?_eq (h : IsChar text c) (rest : List Char) : char? (text ++ rest) = some (c, rest) := by
  cases h with
  | plain _ hb hc =>
    rw [List.singleton_append, char?.eq_def]
    split <;> simp_all
  | @short e _ hs =>
    have hu : e ≠ 'u' := by
      rintro rfl
      contradiction
    simp [char?, hu, hs]
  | point hn =>
    obtain ⟨hh, hl⟩ := not_surrogate c
    simp [char?, hn, hh, hl]
  | pair hn hm hh hl hc =>
    simp [char?, hn, hm, hh, hl, isLow_of_isHigh hh, paired, ← hc, Char.ofNat_toNat]

theorem IsChar.head_ne (h : IsChar text c) (rest ds : List Char) : text ++ rest ≠ '"' :: ds := by
  cases h with
  | plain hq => simp [hq]
  | _        => simp

theorem decode_of_char? (h : char? cs = some (c, rest)) (hq : ∀ ds, cs ≠ '"' :: ds) :
    decode cs = (decode rest).map fun (ds, rest) => (c :: ds, rest) := by
  rw [decode.eq_def]
  split
  case h_1 => exact absurd rfl (hq _)
  case h_2 =>
    split
    case h_1 hn => simp [hn] at h
    case h_2 hs =>
      obtain ⟨rfl, rfl⟩ := Prod.mk.inj (Option.some.inj (hs.symm.trans h))
      rfl

theorem IsInside.decode_eq (h : IsInside text ds) (rest : List Char) : decode (text ++ '"' :: rest) = some (ds, rest) := by
  induction h with
  | nil          => simp [decode]
  | cons hc _ hi => rw [List.append_assoc, decode_of_char? (hc.char?_eq _) (hc.head_ne _), hi, Option.map_some]

theorem exists_of_decode (h : decode cs = some (ds, rest)) : ∃ text, cs = text ++ '"' :: rest ∧ IsInside text ds := by
  fun_induction decode cs generalizing ds with
  | case1 =>
    obtain ⟨rfl, rfl⟩ := Prod.mk.inj (Option.some.inj h)
    exact ⟨[], rfl, .nil⟩
  | case2 => contradiction
  | case3 cs hq c rest' hc _ hi =>
    obtain ⟨⟨es, _⟩, hd, he⟩ := Option.map_eq_some_iff.mp h
    obtain ⟨rfl, rfl⟩ := Prod.mk.inj he
    obtain ⟨text, rfl, ht⟩ := hi hd
    obtain ⟨first, rfl, hf⟩ := exists_of_char? hc hq
    exact ⟨first ++ text, (List.append_assoc ..).symm, .cons hf ht⟩

end Quoted

namespace Numeral

inductive IsWhole : List Char → Prop
  | zero   : IsWhole ['0']
  | digits : c ≠ '0' → (∀ d ∈ c :: cs, d.isDigit) → IsWhole (c :: cs)

inductive IsFraction : List Char → Option (List Char) → Prop
  | absent : IsFraction [] none
  | digits : Text.isNumeral ds → IsFraction ('.' :: ds) (some ds)

inductive IsMinus : List Char → Bool → Prop
  | absent  : IsMinus [] false
  | present : IsMinus ['-'] true

inductive IsSign : List Char → Bool → Prop
  | minus : IsMinus cs b → IsSign cs b
  | plus  : IsSign ['+'] false

inductive IsExponent : List Char → Option (Bool × List Char) → Prop
  | absent : IsExponent [] none
  | digits : e = 'e' ∨ e = 'E' → IsSign sign b → Text.isNumeral ds → IsExponent (e :: (sign ++ ds)) (some (b, ds))

inductive IsNumeral : List Char → Numeral → Prop
  | intro : IsMinus sign b → IsWhole ds → IsFraction fs f? → IsExponent es e? →
      IsNumeral (sign ++ (ds ++ (fs ++ es))) ⟨b, ds, f?, e?⟩

def Ends (rest : List Char) : Prop :=
  ∀ c ∈ rest.head?, c.isDigit = false ∧ c ≠ '.' ∧ c ≠ 'e' ∧ c ≠ 'E'

variable {cs ds rest text : List Char} {n : Numeral} {f? : Option (List Char)} {e? : Option (Bool × List Char)}

theorem isNumeral_iff : Text.isNumeral ds ↔ ds ≠ [] ∧ ∀ c ∈ ds, c.isDigit := by
  simp [Text.isNumeral]

theorem exists_of_span (h : cs.span Char.isDigit = (ds, rest)) : cs = ds ++ rest ∧ ∀ c ∈ ds, c.isDigit := by
  rw [List.span_eq_takeWhile_dropWhile] at h
  obtain ⟨rfl, rfl⟩ := Prod.mk.inj h
  exact ⟨List.takeWhile_append_dropWhile.symm, List.all_eq_true.mp List.all_takeWhile⟩

theorem isWhole_iff : IsWhole ds ↔ Text.isNumeral ds ∧ ∀ d es, ds ≠ '0' :: d :: es := by
  rw [isNumeral_iff]
  constructor
  case mp =>
    intro h
    cases h with
    | zero         => simp
    | digits hc hd => exact ⟨⟨List.cons_ne_nil _ _, hd⟩, fun _ _ he => hc (List.cons.inj he).left⟩
  case mpr =>
    intro ⟨⟨hn, hd⟩, hz⟩
    match ds with
    | []      => contradiction
    | c :: es =>
      by_cases hc : c = '0'
      case neg => exact .digits hc hd
      case pos =>
        subst hc
        cases es with
        | nil      => exact .zero
        | cons d _ => exact absurd rfl (hz d _)

theorem exists_of_whole? (h : whole? cs = some (ds, rest)) : cs = ds ++ rest ∧ IsWhole ds := by
  unfold whole? at h
  split at h
  case h_1 => contradiction
  case h_2 => contradiction
  case h_3 hn hz hs =>
    obtain ⟨rfl, rfl⟩ := Prod.mk.inj (Option.some.inj h)
    have ⟨hc, hd⟩ := exists_of_span hs
    exact ⟨hc, isWhole_iff.mpr ⟨isNumeral_iff.mpr ⟨hn, hd⟩, hz⟩⟩

theorem IsWhole.whole?_eq (h : IsWhole ds) (hr : ∀ c ∈ rest.head?, c.isDigit = false) :
    whole? (ds ++ rest) = some (ds, rest) := by
  have ⟨hn, hz⟩ := isWhole_iff.mp h
  have ⟨hn, hd⟩ := isNumeral_iff.mp hn
  rw [whole?, span_append hd hr]
  split <;> simp_all

theorem exists_of_fraction? (h : fraction? cs = some (f?, rest)) : ∃ fs, cs = fs ++ rest ∧ IsFraction fs f? := by
  unfold fraction? at h
  split at h
  case h_1 =>
    split at h
    case h_1 => contradiction
    case h_2 hn hs =>
      obtain ⟨rfl, rfl⟩ := Prod.mk.inj (Option.some.inj h)
      obtain ⟨rfl, hd⟩ := exists_of_span hs
      exact ⟨_, rfl, .digits <| isNumeral_iff.mpr ⟨hn, hd⟩⟩
  case h_2 =>
    obtain ⟨rfl, rfl⟩ := Prod.mk.inj (Option.some.inj h)
    exact ⟨[], rfl, .absent⟩

theorem IsFraction.fraction?_eq (h : IsFraction cs f?) (hr : ∀ c ∈ rest.head?, c.isDigit = false ∧ c ≠ '.') :
    fraction? (cs ++ rest) = some (f?, rest) := by
  cases h with
  | absent =>
    rw [List.nil_append, fraction?.eq_def]
    split <;> simp_all
  | digits hd =>
    have ⟨hn, hd⟩ := isNumeral_iff.mp hd
    rw [List.cons_append, fraction?, span_append hd fun c hc => (hr c hc).left]
    split <;> simp_all

theorem exists_of_unsigned {b : Bool} {e : Bool × List Char} (h : exponent?.unsigned b cs = some (e, rest)) :
    ∃ ds, cs = ds ++ rest ∧ Text.isNumeral ds ∧ e = (b, ds) := by
  unfold exponent?.unsigned at h
  split at h
  case h_1 => contradiction
  case h_2 hn hs =>
    obtain ⟨rfl, rfl⟩ := Prod.mk.inj (Option.some.inj h)
    obtain ⟨rfl, hd⟩ := exists_of_span hs
    exact ⟨_, rfl, isNumeral_iff.mpr ⟨hn, hd⟩, rfl⟩

theorem unsigned_eq {b : Bool} (h : Text.isNumeral ds) (hr : ∀ c ∈ rest.head?, c.isDigit = false) :
    exponent?.unsigned b (ds ++ rest) = some ((b, ds), rest) := by
  have ⟨hn, hd⟩ := isNumeral_iff.mp h
  rw [exponent?.unsigned, span_append hd hr]
  split <;> simp_all

theorem exists_of_digits {e : Bool × List Char} (h : exponent?.digits cs = some (e, rest)) :
    ∃ sign ds, cs = sign ++ ds ++ rest ∧ IsSign sign e.1 ∧ Text.isNumeral ds ∧ e = (e.1, ds) := by
  unfold exponent?.digits at h
  split at h
  case h_1 =>
    obtain ⟨ds, rfl, hd, rfl⟩ := exists_of_unsigned h
    exact ⟨['-'], ds, rfl, .minus .present, hd, rfl⟩
  case h_2 =>
    obtain ⟨ds, rfl, hd, rfl⟩ := exists_of_unsigned h
    exact ⟨['+'], ds, rfl, .plus, hd, rfl⟩
  case h_3 =>
    obtain ⟨ds, rfl, hd, rfl⟩ := exists_of_unsigned h
    exact ⟨[], ds, rfl, .minus .absent, hd, rfl⟩

theorem digits_eq {b : Bool} (hs : IsSign cs b) (hd : Text.isNumeral ds) (hr : ∀ c ∈ rest.head?, c.isDigit = false) :
    exponent?.digits (cs ++ (ds ++ rest)) = some ((b, ds), rest) := by
  cases hs with
  | plus    => exact unsigned_eq hd hr
  | minus h =>
    cases h with
    | present => exact unsigned_eq hd hr
    | absent  =>
      obtain ⟨hn, hd'⟩ := isNumeral_iff.mp hd
      obtain ⟨c, ds, rfl⟩ := List.exists_cons_of_ne_nil hn
      have hc := hd' c List.mem_cons_self
      rw [List.nil_append, List.cons_append, exponent?.digits.eq_def]
      split
      case h_1 he => exact absurd ((List.cons.inj he).left ▸ hc) (by decide)
      case h_2 he => exact absurd ((List.cons.inj he).left ▸ hc) (by decide)
      case h_3    => exact unsigned_eq hd hr

theorem exists_of_exponent? (h : exponent? cs = some (e?, rest)) : ∃ es, cs = es ++ rest ∧ IsExponent es e? := by
  have marked {cs : List Char} {e : Char} (he : e = 'e' ∨ e = 'E')
      (h : ((exponent?.digits cs).map fun p => (some p.1, p.2)) = some (e?, rest)) :
      ∃ es, e :: cs = es ++ rest ∧ IsExponent es e? := by
    obtain ⟨_, hd, hm⟩ := Option.map_eq_some_iff.mp h
    obtain ⟨rfl, rfl⟩ := Prod.mk.inj hm
    obtain ⟨sign, ds, rfl, hs, hn, hp⟩ := exists_of_digits hd
    exact ⟨e :: (sign ++ ds), rfl, hp ▸ .digits he hs hn⟩
  unfold exponent? at h
  split at h
  case h_1 => exact marked (.inl rfl) h
  case h_2 => exact marked (.inr rfl) h
  case h_3 =>
    obtain ⟨rfl, rfl⟩ := Prod.mk.inj (Option.some.inj h)
    exact ⟨[], rfl, .absent⟩

theorem IsExponent.exponent?_eq (h : IsExponent cs e?) (hr : Ends rest) : exponent? (cs ++ rest) = some (e?, rest) := by
  cases h with
  | absent =>
    rw [List.nil_append, exponent?.eq_def]
    split
    case h_1 => exact absurd rfl (hr 'e' rfl).right.right.left
    case h_2 => exact absurd rfl (hr 'E' rfl).right.right.right
    case h_3 => rfl
  | digits he hs hd =>
    have hd := digits_eq hs hd fun c hc => (hr c hc).left
    rw [List.cons_append, List.append_assoc]
    rcases he with rfl | rfl <;> rw [exponent?, hd] <;> rfl

theorem exists_of_read? (h : read? cs = some (n, rest)) : ∃ text, cs = text ++ rest ∧ IsNumeral text n := by
  unfold read? at h
  split at h
  case h_1 b cs' hm =>
    have ⟨sign, hs, hc⟩ : ∃ sign, IsMinus sign b ∧ cs = sign ++ cs' := by
      split at hm <;> obtain ⟨rfl, rfl⟩ := Prod.mk.inj hm
      case h_1 => exact ⟨['-'], .present, rfl⟩
      case h_2 => exact ⟨[], .absent, rfl⟩
    simp only [Option.bind_eq_bind, Option.bind_eq_some_iff] at h
    obtain ⟨⟨ds, cs₁⟩, hd, ⟨f?, cs₂⟩, hf, ⟨e?, cs₃⟩, he, h⟩ := h
    obtain ⟨rfl, rfl⟩ := Prod.mk.inj (Option.some.inj h)
    obtain ⟨rfl, hds⟩ := exists_of_whole? hd
    obtain ⟨fs, rfl, hfs⟩ := exists_of_fraction? hf
    obtain ⟨es, rfl, hes⟩ := exists_of_exponent? he
    exact ⟨sign ++ (ds ++ (fs ++ es)), by simp [hc], .intro hs hds hfs hes⟩

theorem IsExponent.head (h : IsExponent cs e?) (hr : Ends rest) : ∀ c ∈ (cs ++ rest).head?, c.isDigit = false ∧ c ≠ '.' := by
  cases h with
  | absent        => exact fun c hc => ⟨(hr c hc).left, (hr c hc).right.left⟩
  | digits he _ _ => rcases he with rfl | rfl <;> simp

theorem IsFraction.head (h : IsFraction cs f?) (hr : ∀ c ∈ rest.head?, c.isDigit = false ∧ c ≠ '.') :
    ∀ c ∈ (cs ++ rest).head?, c.isDigit = false := by
  cases h with
  | absent   => exact fun c hc => (hr c hc).left
  | digits _ => simp

theorem IsWhole.head (h : IsWhole ds) : ∃ c es, ds = c :: es ∧ c.isDigit := by
  cases h with
  | zero        => exact ⟨_, _, rfl, rfl⟩
  | digits _ hd => exact ⟨_, _, rfl, hd _ List.mem_cons_self⟩

theorem IsNumeral.head (h : IsNumeral text n) : ∃ c es, text = c :: es ∧ (c = '-' ∨ c.isDigit) := by
  cases h with
  | intro hs hd _ _ =>
    cases hs with
    | present => exact ⟨'-', _, rfl, .inl rfl⟩
    | absent  =>
      obtain ⟨c, es, rfl, hc⟩ := hd.head
      exact ⟨c, _, rfl, .inr hc⟩

theorem IsNumeral.read?_eq (h : IsNumeral text n) (hr : Ends rest) : read? (text ++ rest) = some (n, rest) := by
  cases h with
  | intro hs hd hf he =>
    have hh := he.head hr
    obtain ⟨c, _, hw, hc⟩ := hd.head
    have hd := hd.whole?_eq (hf.head hh)
    have hf := hf.fraction?_eq hh
    have he := he.exponent?_eq hr
    simp only [List.append_assoc]
    cases hs with
    | present => simp [read?, hd, hf, he]
    | absent  =>
      have hm : c ≠ '-' := by
        rintro rfl
        contradiction
      simp only [hw, List.cons_append] at hd ⊢
      simp [read?, hm, hd, hf, he]

end Numeral

end Json

end StatsQuery
