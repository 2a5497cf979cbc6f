import Mathlib.Data.List.TakeWhile
import StatsQuery.Json.Parser
import StatsQuery.Proofs.Json.Tokens

namespace StatsQuery.Json

section Grammar

variable (Text : List Char → α → Prop)

def IsBlank (cs : List Char) : Prop :=
  ∀ c ∈ cs, isSpace c

inductive IsList : List Char → List α → Prop
  | one  : Text cs a → IsBlank after → IsList (cs ++ after) [a]
  | more : Text cs a → IsBlank after → IsBlank before → IsList ds as →
      IsList (cs ++ (after ++ ',' :: (before ++ ds))) (a :: as)

inductive IsEnclosed : List Char → List α → Prop
  | empty : IsBlank cs → IsEnclosed cs []
  | list  : IsBlank before → IsList Text cs as → IsEnclosed (before ++ cs) as

inductive IsMember : List Char → String × α → Prop
  | intro : Quoted.IsInside cs name → IsBlank before → IsBlank after → Text ds a →
      IsMember ('"' :: (cs ++ '"' :: (before ++ ':' :: (after ++ ds)))) (.ofList name, a)

end Grammar

inductive IsScalar : List Char → Json → Prop
  | null  : IsScalar "null".toList null
  | true  : IsScalar "true".toList (bool true)
  | false : IsScalar "false".toList (bool false)
  | num   : Numeral.IsNumeral cs n → n.toNumber? = some x → IsScalar cs (num x)
  | str   : Quoted.IsInside cs ds → IsScalar ('"' :: (cs ++ ['"'])) (str (.ofList ds))

inductive IsNested (Text : List Char → Json → Prop) : List Char → Json → Prop
  | arr : IsEnclosed Text cs js → IsNested Text ('[' :: (cs ++ [']'])) (arr js)
  | obj : IsEnclosed (IsMember Text) cs ms → IsNested Text ('\x7b' :: (cs ++ ['\x7d'])) (ofMembers ms)

def IsValue : Nat → List Char → Json → Prop
  | 0         => IsScalar
  | depth + 1 => fun cs j => IsScalar cs j ∨ IsNested (IsValue depth) cs j

inductive IsText : List Char → Json → Prop
  | intro : IsBlank before → IsValue maxDepth cs j → IsBlank after → IsText (before ++ (cs ++ after)) j

def isEnd (c : Char) : Bool :=
  isSpace c || c == ',' || c == ']' || c == '\x7d'

def Ends (rest : List Char) : Prop :=
  ∀ c ∈ rest.head?, isEnd c

def Begins (cs : List Char) : Prop :=
  ∃ c ds, cs = c :: ds ∧ isEnd c = false

-- Exactly the texts of a rule are taken off the front of a text, as long as what is left does not go on with them.
-- They do not begin with what ends a value.
structure Reads (reader : Reader α) (Text : List Char → α → Prop) : Prop where
  begins   : Text text a → Begins text
  sound    : reader cs = some (a, rest) → ∃ text, cs = text ++ rest ∧ Text text a
  complete : Text text a → Ends rest → reader (text ++ rest) = some (a, rest)

section Blanks

variable {cs rest blanks : List Char} {c : Char}

theorem isEnd_of_isSpace (h : isSpace c) : isEnd c := by
  simp [isEnd, h]

theorem IsBlank.nil : IsBlank [] :=
  nofun

theorem exists_blank (cs : List Char) : ∃ blanks, IsBlank blanks ∧ cs = blanks ++ skip cs :=
  exists_run isSpace cs

theorem IsBlank.skip_eq (h : IsBlank blanks) (hc : ∀ c ∈ cs.head?, isSpace c = false) : skip (blanks ++ cs) = cs :=
  (while_append cs h hc).right

theorem IsBlank.ends (h : IsBlank blanks) (hr : Ends rest) : Ends (blanks ++ rest) := by
  cases blanks with
  | nil      => exact hr
  | cons b _ => simpa [Ends] using isEnd_of_isSpace (h b List.mem_cons_self)

theorem Begins.append (h : Begins cs) (rest : List Char) : Begins (cs ++ rest) := by
  obtain ⟨c, ds, rfl, hc⟩ := h
  exact ⟨c, ds ++ rest, rfl, hc⟩

theorem Begins.skip_eq (h : Begins cs) (hb : IsBlank blanks) : skip (blanks ++ cs) = cs := by
  obtain ⟨c, ds, rfl, hc⟩ := h
  have hs : isSpace c = false := Bool.eq_false_iff.mpr fun hs => by simp [isEnd_of_isSpace hs] at hc
  exact hb.skip_eq (by simpa using hs)

theorem Ends.numeral (h : Ends rest) : Numeral.Ends rest := by
  intro c hc
  have he := h c hc
  simp only [isEnd, isSpace, Bool.or_eq_true, beq_iff_eq] at he
  rcases he with (((((rfl | rfl) | rfl) | rfl) | rfl) | rfl) | rfl <;> decide

end Blanks

section Brackets

variable {entry : Reader α} {Text : List Char → α → Prop} {cs rest text : List Char} {as : List α} {close : Char}

theorem Reads.exists_of_entries (h : Reads entry Text) (he : entries entry close fuel cs = some (as, rest)) :
    ∃ text, cs = text ++ close :: rest ∧ IsList Text text as := by
  induction fuel generalizing cs as with
  | zero         => contradiction
  | succ fuel hi =>
    rw [entries, Option.bind_eq_bind, Option.bind_eq_some_iff] at he
    obtain ⟨⟨a, cs₁⟩, ha, he⟩ := he
    obtain ⟨first, rfl, hf⟩ := h.sound ha
    obtain ⟨after, hb, hs⟩ := exists_blank cs₁
    simp only at he
    split at he
    case h_1 cs₂ hc =>
      obtain ⟨⟨as, _⟩, hl, hm⟩ := Option.map_eq_some_iff.mp he
      obtain ⟨rfl, rfl⟩ := Prod.mk.inj hm
      obtain ⟨before, hb', hs'⟩ := exists_blank cs₂
      obtain ⟨text, ht, hl⟩ := hi hl
      rw [hc] at hs
      rw [ht] at hs'
      exact ⟨first ++ (after ++ ',' :: (before ++ text)), by rw [hs, hs']; simp, .more hf hb hb' hl⟩
    case h_2 hc =>
      split at he
      case isFalse => contradiction
      case isTrue hk =>
        obtain ⟨rfl, rfl⟩ := Prod.mk.inj (Option.some.inj he)
        rw [hc, hk] at hs
        exact ⟨first ++ after, by rw [hs, List.append_assoc], .one hf hb⟩
    case h_3 => contradiction

theorem Reads.exists_of_enclosed (h : Reads entry Text) (he : enclosed entry close cs = some (as, rest)) :
    ∃ text, cs = text ++ close :: rest ∧ IsEnclosed Text text as := by
  obtain ⟨before, hb, hs⟩ := exists_blank cs
  unfold enclosed at he
  split at he
  case h_1 => contradiction
  case h_2 hc =>
    split at he
    case isTrue hk =>
      obtain ⟨rfl, rfl⟩ := Prod.mk.inj (Option.some.inj he)
      exact ⟨before, hk ▸ hc ▸ hs, .empty hb⟩
    case isFalse =>
      obtain ⟨text, ht, hl⟩ := h.exists_of_entries he
      rw [hc, ht] at hs
      exact ⟨before ++ text, by rw [hs, List.append_assoc], .list hb hl⟩

theorem IsList.begins (h : Reads entry Text) (hl : IsList Text text as) : Begins text := by
  cases hl with
  | one ht _      => exact (h.begins ht).append _
  | more ht _ _ _ => exact (h.begins ht).append _

section Closing

variable (hc : close = ']' ∨ close = '\x7d')
include hc

theorem ends_close (rest : List Char) : Ends (close :: rest) := by
  rcases hc with rfl | rfl <;> simp [Ends, isEnd]

theorem skip_close (h : IsBlank after) (rest : List Char) : skip (after ++ close :: rest) = close :: rest := by
  refine h.skip_eq ?_
  rcases hc with rfl | rfl <;> simp [isSpace]

theorem Reads.entries_eq (h : Reads entry Text) (hl : IsList Text text as) (hf : text.length ≤ fuel) (rest : List Char) :
    entries entry close (fuel + 1) (text ++ close :: rest) = some (as, rest) := by
  induction hl generalizing fuel with
  | one ht hb =>
    have hr := h.complete ht (hb.ends (ends_close hc rest))
    have hs := skip_close hc hb rest
    rw [List.append_assoc, entries, hr]
    rcases hc with rfl | rfl <;> simp [hs]
  | @more cs a after before ds as ht hb hb' hl hi =>
    cases fuel with
    | zero      => simp at hf
    | succ fuel =>
      have hi : entries entry close (fuel + 1) (skip (before ++ (ds ++ close :: rest))) = some (as, rest) := by
        rw [((hl.begins h).append _).skip_eq hb']
        refine hi ?_
        simp only [List.length_append, List.length_cons] at hf
        omega
      have hs : skip (after ++ ',' :: (before ++ (ds ++ close :: rest))) = ',' :: (before ++ (ds ++ close :: rest)) :=
        hb.skip_eq (by simp [isSpace])
      have he : Ends (',' :: (before ++ (ds ++ close :: rest))) := by simp [Ends, isEnd]
      have hr := h.complete ht (hb.ends he)
      simp only [List.append_assoc, List.cons_append]
      rw [entries, hr]
      simp [hs, hi]

theorem Reads.enclosed_eq (h : Reads entry Text) (hl : IsEnclosed Text text as) (rest : List Char) :
    enclosed entry close (text ++ close :: rest) = some (as, rest) := by
  cases hl with
  | empty hb => simp [enclosed, skip_close hc hb]
  | @list before text _ hb hl =>
    have hn := (hl.begins h).append (close :: rest)
    have hs := hn.skip_eq hb
    obtain ⟨c, cs, hd, he⟩ := hn
    have hk : c ≠ close := by
      rintro rfl
      rcases hc with rfl | rfl <;> contradiction
    have hf : text.length ≤ cs.length := by
      have := congrArg List.length hd
      simp only [List.length_append, List.length_cons] at this
      omega
    rw [List.append_assoc, enclosed, hs, hd]
    exact (if_neg hk).trans <| hd ▸ h.entries_eq hc hl hf rest

end Closing

end Brackets

section Values

variable {depth : Nat} {cs rest text : List Char} {j : Json}

theorem after?_eq_some_iff {ws : List Char} : after? ws cs = some rest ↔ cs = ws ++ rest := by
  induction ws generalizing cs with
  | nil          => simp [after?]
  | cons w ws hi =>
    cases cs with
    | nil      => simp [after?]
    | cons c _ => by_cases hw : c = w <;> simp [after?, hw, hi]

theorem reads_member {Text : List Char → Json → Prop} {value : Reader Json} (h : Reads value Text) :
    Reads (member value) (IsMember Text) where
  begins ht := by
    cases ht with
    | intro => exact ⟨'"', _, rfl, rfl⟩
  sound hm := by
    unfold member at hm
    split at hm
    case h_2 => contradiction
    case h_1 cs =>
      simp only [Option.bind_eq_bind, Option.bind_eq_some_iff] at hm
      obtain ⟨⟨name, cs₁⟩, hn, hm⟩ := hm
      obtain ⟨text, rfl, ht⟩ := Quoted.exists_of_decode hn
      obtain ⟨before, hb, hs⟩ := exists_blank cs₁
      split at hm
      case h_2 => contradiction
      case h_1 cs₂ hc =>
        obtain ⟨⟨j, _⟩, hv, he⟩ := Option.map_eq_some_iff.mp hm
        obtain ⟨rfl, rfl⟩ := Prod.mk.inj he
        obtain ⟨after, hb', hs'⟩ := exists_blank cs₂
        obtain ⟨ds, hd, hj⟩ := h.sound hv
        rw [hc] at hs
        rw [hd] at hs'
        refine ⟨'"' :: (text ++ '"' :: (before ++ ':' :: (after ++ ds))), ?_, .intro ht hb hb' hj⟩
        rw [hs, hs']
        simp
  complete {_ _ rest} ht hr := by
    cases ht with
    | @intro cs name before after ds j hi hb hb' hj =>
      have hs : skip (before ++ ':' :: (after ++ (ds ++ rest))) = ':' :: (after ++ (ds ++ rest)) := hb.skip_eq (by simp [isSpace])
      have hs' := ((h.begins hj).append rest).skip_eq hb'
      simp only [List.cons_append, List.append_assoc, member, hi.decode_eq]
      simp [hs, hs', h.complete hj hr]

def isLeading (c : Char) : Bool :=
  c != '[' && c != '\x7b' && !isEnd c

theorem isLeading_of_numeral {c : Char} (h : c = '-' ∨ c.isDigit) : isLeading c := by
  rcases h with rfl | h
  case inl => rfl
  case inr =>
    have hn {d : Char} (hd : d.isDigit = false) : (c == d) = false := beq_false_of_ne fun he => by simp [← he, h] at hd
    simp [isLeading, isEnd, isSpace, hn, bne]

theorem IsScalar.head (h : IsScalar text j) : ∃ c ds, text = c :: ds ∧ isLeading c := by
  cases h with
  | num hn _ =>
    have ⟨c, ds, ht, hc⟩ := hn.head
    exact ⟨c, ds, ht, isLeading_of_numeral hc⟩
  | _ => exact ⟨_, _, rfl, rfl⟩

theorem scalar_of_numeral {c : Char} (h : c = '-' ∨ c.isDigit) :
    scalar (c :: cs) = do
      let (n, rest) ← Numeral.read? (c :: cs)
      return (num (← n.toNumber?), rest) := by
  have hn {d : Char} (hd : d.isDigit = false) (hm : d ≠ '-') (ds : List Char) : c :: cs ≠ d :: ds := by
    intro he
    obtain ⟨rfl, _⟩ := List.cons.inj he
    rcases h with rfl | h
    · contradiction
    · simp [h] at hd
  rw [scalar.eq_def]
  split
  case h_5 => rfl
  all_goals exact absurd ‹_› (hn rfl (by decide) _)

theorem reads_scalar : Reads scalar IsScalar where
  begins ht := by
    obtain ⟨c, ds, ht, hc⟩ := ht.head
    simp [isLeading] at hc
    exact ⟨c, ds, ht, hc.right⟩
  sound {cs j rest} hs := by
    -- The three words are read in one way.
    have word {cs ws : List Char} {k : Json} (h : (after? ws cs).map (fun rest => (k, rest)) = some (j, rest)) :
        cs = ws ++ rest ∧ j = k := by
      obtain ⟨_, ha, he⟩ := Option.map_eq_some_iff.mp h
      obtain ⟨rfl, rfl⟩ := Prod.mk.inj he
      exact ⟨after?_eq_some_iff.mp ha, rfl⟩
    unfold scalar at hs
    split at hs
    case h_1 =>
      obtain ⟨⟨ds, _⟩, hd, he⟩ := Option.map_eq_some_iff.mp hs
      obtain ⟨rfl, rfl⟩ := Prod.mk.inj he
      obtain ⟨text, rfl, ht⟩ := Quoted.exists_of_decode hd
      exact ⟨'"' :: (text ++ ['"']), by simp, .str ht⟩
    case h_2 =>
      obtain ⟨rfl, rfl⟩ := word hs
      exact ⟨"null".toList, rfl, .null⟩
    case h_3 =>
      obtain ⟨rfl, rfl⟩ := word hs
      exact ⟨"true".toList, rfl, .true⟩
    case h_4 =>
      obtain ⟨rfl, rfl⟩ := word hs
      exact ⟨"false".toList, rfl, .false⟩
    case h_5 =>
      simp only [Option.bind_eq_bind, Option.bind_eq_some_iff] at hs
      obtain ⟨⟨n, _⟩, hn, x, hx, he⟩ := hs
      obtain ⟨rfl, rfl⟩ := Prod.mk.inj (Option.some.inj he)
      obtain ⟨text, rfl, ht⟩ := Numeral.exists_of_read? hn
      exact ⟨text, rfl, .num ht hx⟩
  complete {_ _ rest} ht hr := by
    cases ht with
    | null  => rfl
    | true  => rfl
    | false => rfl
    | str hi => simp [scalar, hi.decode_eq]
    | num hn hx =>
      have hr := hn.read?_eq hr.numeral
      obtain ⟨c, ds, rfl, hc⟩ := hn.head
      rw [List.cons_append] at hr ⊢
      simp [scalar_of_numeral hc, hr, hx]

theorem value_of_isLeading (h : isLeading c) : value depth (c :: cs) = scalar (c :: cs) := by
  simp only [isLeading, Bool.and_eq_true, bne_iff_ne] at h
  rw [value.eq_def]
  split
  case h_1 he => exact absurd (List.cons.inj he).left h.left.left
  case h_2 he => exact absurd (List.cons.inj he).left h.left.right
  case h_3    => rfl

theorem IsScalar.value_eq (h : IsScalar text j) (depth : Nat) (rest : List Char) :
    value depth (text ++ rest) = scalar (text ++ rest) := by
  obtain ⟨c, ds, rfl, hc⟩ := h.head
  exact value_of_isLeading hc

theorem reads_value_zero : Reads (value 0) (IsValue 0) where
  begins         := reads_scalar.begins
  complete ht hr := (ht.value_eq 0 _).trans (reads_scalar.complete ht hr)
  sound h        := by
    rw [value.eq_def] at h
    split at h
    case h_1 => contradiction
    case h_2 => contradiction
    case h_3 => exact reads_scalar.sound h

theorem reads_value_succ (hv : Reads (value depth) (IsValue depth)) : Reads (value (depth + 1)) (IsValue (depth + 1)) where
  begins ht := by
    rcases ht with hs | hn
    case inl => exact reads_scalar.begins hs
    case inr =>
      cases hn with
      | arr => exact ⟨'[', _, rfl, rfl⟩
      | obj => exact ⟨'\x7b', _, rfl, rfl⟩
  sound h := by
    rw [value.eq_def] at h
    split at h
    case h_1 =>
      obtain ⟨⟨js, _⟩, he, hm⟩ := Option.map_eq_some_iff.mp h
      obtain ⟨rfl, rfl⟩ := Prod.mk.inj hm
      obtain ⟨text, rfl, ht⟩ := hv.exists_of_enclosed he
      exact ⟨'[' :: (text ++ [']']), by simp, .inr (.arr ht)⟩
    case h_2 =>
      obtain ⟨⟨ms, _⟩, he, hm⟩ := Option.map_eq_some_iff.mp h
      obtain ⟨rfl, rfl⟩ := Prod.mk.inj hm
      obtain ⟨text, rfl, ht⟩ := (reads_member hv).exists_of_enclosed he
      exact ⟨'\x7b' :: (text ++ ['\x7d']), by simp, .inr (.obj ht)⟩
    case h_3 =>
      obtain ⟨text, hc, ht⟩ := reads_scalar.sound h
      exact ⟨text, hc, .inl ht⟩
  complete ht hr := by
    rcases ht with hs | hn
    case inl => exact (hs.value_eq _ _).trans (reads_scalar.complete hs hr)
    case inr =>
      cases hn with
      | arr he => simp [value, hv.enclosed_eq (.inl rfl) he]
      | obj he => simp [value, (reads_member hv).enclosed_eq (.inr rfl) he]

theorem reads_value (depth : Nat) : Reads (value depth) (IsValue depth) := by
  induction depth with
  | zero      => exact reads_value_zero
  | succ _ hv => exact reads_value_succ hv

-- A text is read as the value that it denotes by the grammar.
theorem parseChars?_eq_some_iff : parseChars? cs = some j ↔ IsText cs j := by
  constructor
  case mp =>
    intro h
    simp only [parseChars?, Option.bind_eq_bind, Option.bind_eq_some_iff] at h
    obtain ⟨⟨_, rest⟩, hv, h⟩ := h
    split at h
    case isFalse => contradiction
    case isTrue he =>
      cases h
      obtain ⟨before, hb, hs⟩ := exists_blank cs
      obtain ⟨after, hb', hs'⟩ := exists_blank rest
      obtain ⟨text, ht, hj⟩ := (reads_value maxDepth).sound hv
      rw [List.isEmpty_iff.mp he, List.append_nil] at hs'
      rw [hs, ht, hs']
      exact .intro hb hj hb'
  case mpr =>
    intro h
    cases h with
    | @intro before text _ after hb hj hb' =>
      have hs := (((reads_value maxDepth).begins hj).append after).skip_eq hb
      have he : skip after = [] := List.dropWhile_eq_nil_iff.mpr hb'
      have hn : Ends [] := nofun
      have hv := (reads_value maxDepth).complete hj (by simpa using hb'.ends hn)
      simp [parseChars?, hs, hv, he]

theorem parse?_eq_some_iff {text : String} : parse? text = some j ↔ IsText text.toList j :=
  parseChars?_eq_some_iff

end Values

end StatsQuery.Json
