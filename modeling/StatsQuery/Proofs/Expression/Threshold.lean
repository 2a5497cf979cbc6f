import StatsQuery.Expression.Fact
import StatsQuery.Proofs.Error.Steps
import StatsQuery.Proofs.Expression.Grammar
import StatsQuery.Proofs.Numeric.Finite

namespace StatsQuery

open Expression.Grammar (IsName operators)
open Extended (IsDecimal)

namespace Threshold

inductive IsValue : List Char → Prop
  | plain : IsDecimal cs → IsValue cs
  | minus : IsDecimal cs → IsValue ('-' :: cs)

structure WellFormed (t : Threshold) : Prop where
  property   : IsName t.property.toList
  comparator : t.comparator ∈ operators
  value      : IsValue t.value.toList

-- The error for a threshold names the first of its parts that is out of order.
inductive Faulty (t : Threshold) : Error → Prop
  | property   : ¬IsName t.property.toList → Faulty t (.badProperty t.property)
  | comparator : IsName t.property.toList → t.comparator ∉ operators → Faulty t (.badComparator t.comparator)
  | value      : IsName t.property.toList → t.comparator ∈ operators → ¬IsValue t.value.toList →
      Faulty t (.badFactValue t.value)

section Parts

variable {cs : List Char}

theorem isProperty_iff : isProperty cs ↔ IsName cs := by
  constructor
  case mp =>
    intro h
    cases cs with
    | nil       => contradiction
    | cons c cs =>
      have ⟨hc, hs⟩ := Bool.and_eq_true_iff.mp h
      exact .letter hc fun d hd => by simpa using List.all_eq_true.mp hs d hd
  case mpr =>
    intro h
    cases h with
    | letter hc hs => simpa [isProperty, hc] using hs

theorem isPlain_minus_iff : isPlain ('-' :: cs) ↔ isPlain cs := by
  simp [isPlain]

theorem isPlain_of_decimal (h : IsDecimal cs) : isPlain cs := by
  refine List.all_eq_true.mpr fun c hc => ?_
  simpa using h.plain c <| (List.dropWhile_sublist _).mem hc

theorem IsDecimal.head_ne (h : IsDecimal (c :: cs)) : c ≠ '-' ∧ c ≠ '+' := by
  have := h.plain c List.mem_cons_self
  constructor <;> rintro rfl <;> simp at this

theorem mem_of_isPlain (h : isPlain cs) : ∀ c ∈ cs, c = '-' ∨ c.isDigit ∨ c = '.' := by
  rw [← List.takeWhile_append_dropWhile (p := (· == '-')) (l := cs), List.forall_mem_append]
  constructor
  case left  => exact fun c hc => .inl <| by simpa using List.all_eq_true.mp List.all_takeWhile c hc
  case right => exact fun c hc => .inr <| by simpa using List.all_eq_true.mp h c hc

-- There are no letters in a plain text, so it has no exponent.
theorem ne_exponent_of_isPlain (h : isPlain cs) : ∀ c ∈ cs, c ≠ 'e' ∧ c ≠ 'E' := by
  intro c hc
  have := mem_of_isPlain h c hc
  constructor <;> rintro rfl <;> simp at this

theorem isValue_iff : isValue cs ↔ IsValue cs := by
  rw [isValue, Bool.and_eq_true_iff, Option.any_eq_true]
  constructor
  case mp =>
    intro ⟨hp, x, hx, hf⟩
    have he := ne_exponent_of_isPlain hp
    unfold Extended.ofText? at hx
    split at hx
    case h_1 => exact .minus <| (Extended.unsigned?_finite_iff (List.forall_mem_cons.mp he).right).mp ⟨x, hx, hf⟩
    case h_2 => exact absurd (mem_of_isPlain hp _ List.mem_cons_self) (by decide)
    case h_3 => exact .plain <| (Extended.unsigned?_finite_iff he).mp ⟨x, hx, hf⟩
  case mpr =>
    intro h
    cases h with
    | minus hd =>
      have hp := isPlain_of_decimal hd
      exact ⟨isPlain_minus_iff.mpr hp, (Extended.unsigned?_finite_iff <| ne_exponent_of_isPlain hp).mpr hd⟩
    | plain hd =>
      have hp := isPlain_of_decimal hd
      refine ⟨hp, ?_⟩
      unfold Extended.ofText?
      split
      case h_1 => exact absurd rfl (IsDecimal.head_ne hd).left
      case h_2 => exact absurd rfl (IsDecimal.head_ne hd).right
      case h_3 => exact (Extended.unsigned?_finite_iff <| ne_exponent_of_isPlain hp).mpr hd

end Parts

variable {t : Threshold}

theorem Faulty.unique (h : t.Faulty e) (h' : t.Faulty e') : e = e' := by
  cases h <;> cases h' <;> first | rfl | contradiction

theorem Faulty.not_wellFormed (h : t.Faulty e) : ¬t.WellFormed := by
  intro ⟨hp, hc, hv⟩
  cases h <;> contradiction

theorem check_cases (t : Threshold) : t.WellFormed ∧ t.check = .ok () ∨ ∃ e, t.Faulty e ∧ t.check = .error e := by
  have hc : comparators.contains t.comparator ↔ t.comparator ∈ operators := List.contains_iff_mem
  unfold check
  split
  case isTrue hp => exact .inr ⟨_, .property (by simpa [← isProperty_iff] using hp), rfl⟩
  case isFalse hp =>
    have hp : IsName t.property.toList := by simpa [← isProperty_iff] using hp
    split
    case isTrue ho => exact .inr ⟨_, .comparator hp (by simpa [← hc] using ho), rfl⟩
    case isFalse ho =>
      have ho : t.comparator ∈ operators := by simpa [← hc] using ho
      split
      case isTrue hv  => exact .inr ⟨_, .value hp ho (by simpa [← isValue_iff] using hv), rfl⟩
      case isFalse hv => exact .inl ⟨⟨hp, ho, by simpa [← isValue_iff] using hv⟩, rfl⟩

theorem check_eq_ok_iff : t.check = .ok () ↔ t.WellFormed := by
  rcases check_cases t with ⟨hw, hc⟩ | ⟨_, hf, hc⟩
  · exact iff_of_true hc hw
  · exact iff_of_false (by simp [hc]) hf.not_wellFormed

theorem ofLists_eq_ok_iff {properties comparators values : List String} :
    ofLists properties comparators values = .ok ts ↔
      ts.map property = properties ∧ ts.map comparator = comparators ∧ ts.map value = values := by
  unfold ofLists
  split
  case isTrue h =>
    have ⟨hc, hv⟩ := h
    have hl : (comparators.zip values).length = properties.length := by simp [← hc, ← hv]
    constructor
    case mp =>
      rintro ⟨⟩
      have hs := List.map_snd_zip hl.le
      refine ⟨?_, ?_, ?_⟩ <;> rw [List.map_map]
      · exact List.map_fst_zip hl.ge
      · have hf := List.map_fst_zip (hc.symm.trans hv).le
        rwa [← hs, List.map_map] at hf
      · have hf := List.map_snd_zip (hv.symm.trans hc).le
        rwa [← hs, List.map_map] at hf
    case mpr =>
      rintro ⟨rfl, rfl, rfl⟩
      rw [List.zip_map', List.zip_map', List.map_map]
      exact congrArg _ <| List.map_id ts
  case isFalse h =>
    refine iff_of_false nofun fun ⟨hp, hc, hv⟩ => h ?_
    simp [← hp, ← hc, ← hv]

end Threshold

namespace Fact

def Aligned (f : Fact) : Prop :=
  (OneOrMany.listOf f.property).length = (OneOrMany.listOf f.comparator).length ∧
    (OneOrMany.listOf f.property).length = (OneOrMany.listOf f.value).length

structure WellFormed (f : Fact) : Prop where
  aligned    : f.Aligned
  property   : ∀ property ∈ OneOrMany.listOf f.property, IsName property.toList
  comparator : ∀ comparator ∈ OneOrMany.listOf f.comparator, comparator ∈ operators
  value      : ∀ value ∈ OneOrMany.listOf f.value, Threshold.IsValue value.toList

structure Lists (f : Fact) (ts : List Threshold) : Prop where
  property   : ts.map Threshold.property = OneOrMany.listOf f.property
  comparator : ts.map Threshold.comparator = OneOrMany.listOf f.comparator
  value      : ts.map Threshold.value = OneOrMany.listOf f.value

inductive Faulty (f : Fact) : Error → Prop
  | arity : ¬f.Aligned →
      Faulty f (.factArity (OneOrMany.listOf f.property).length (OneOrMany.listOf f.comparator).length
        (OneOrMany.listOf f.value).length)
  | threshold : f.Lists (before ++ t :: after) → (∀ u ∈ before, u.WellFormed) → t.Faulty e → Faulty f e

variable {f : Fact} {ts : List Threshold}

theorem lists_iff :
    Threshold.ofLists (OneOrMany.listOf f.property) (OneOrMany.listOf f.comparator) (OneOrMany.listOf f.value) = .ok ts ↔
      f.Lists ts :=
  Threshold.ofLists_eq_ok_iff.trans ⟨fun ⟨hp, hc, hv⟩ => ⟨hp, hc, hv⟩, fun ⟨hp, hc, hv⟩ => ⟨hp, hc, hv⟩⟩

theorem Lists.aligned (h : f.Lists ts) : f.Aligned := by
  simp [Aligned, ← h.property, ← h.comparator, ← h.value]

theorem Lists.wellFormed_iff (h : f.Lists ts) : f.WellFormed ↔ ∀ t ∈ ts, t.WellFormed := by
  constructor
  case mp =>
    intro ⟨_, hp, hc, hv⟩ t ht
    rw [← h.property, List.forall_mem_map] at hp
    rw [← h.comparator, List.forall_mem_map] at hc
    rw [← h.value, List.forall_mem_map] at hv
    exact ⟨hp t ht, hc t ht, hv t ht⟩
  case mpr =>
    intro hw
    refine ⟨h.aligned, ?_, ?_, ?_⟩
    · rw [← h.property, List.forall_mem_map]
      exact fun t ht => (hw t ht).property
    · rw [← h.comparator, List.forall_mem_map]
      exact fun t ht => (hw t ht).comparator
    · rw [← h.value, List.forall_mem_map]
      exact fun t ht => (hw t ht).value

theorem thresholds_eq_ok_iff : f.thresholds = .ok ts ↔ f.Lists ts ∧ ∀ t ∈ ts, t.WellFormed := by
  have hw (us : List Threshold) : us.forM Threshold.check = .ok () ↔ ∀ t ∈ us, t.WellFormed :=
    forM_eq_ok_iff.trans <| forall₂_congr fun _ _ => Threshold.check_eq_ok_iff
  simp only [thresholds, bind_eq_ok_iff, lists_iff]
  constructor
  case mp  => exact fun ⟨us, hl, _, hc, he⟩ => Except.ok.inj he ▸ ⟨hl, (hw us).mp hc⟩
  case mpr => exact fun ⟨hl, hc⟩ => ⟨ts, hl, (), (hw ts).mpr hc, rfl⟩

end Fact

section Reading

def Fact.clauses : List Char → List (List Char)
  | ' ' :: 'a' :: 'n' :: 'd' :: ' ' :: cs => [] :: clauses cs
  | c :: cs                               => (clauses cs).modifyHead (c :: ·)
  | []                                    => [[]]

def Threshold.isMark (c : Char) : Bool :=
  c == '<' || c == '>' || c == '=' || c == '!'

def Fact.bounds (f : Fact) : List Threshold :=
  ⟨"gamesPlayed", ">=", Text.decimal f.minGamesPlayed.toNat⟩ ::
    (f.maxGamesPlayed.map fun n => ⟨"gamesPlayed", "<=", Text.decimal n.toNat⟩).toList

namespace Threshold

variable {t : Threshold} {c : Char}

theorem IsValue.plain_chars (h : IsValue cs) : ∀ c ∈ cs, c = '-' ∨ c.isDigit ∨ c = '.' :=
  mem_of_isPlain (Bool.and_eq_true_iff.mp <| isValue_iff.mpr h).left

theorem WellFormed.chars (h : t.WellFormed) :
    ∀ c ∈ t.property.toList ++ t.value.toList, c.isAlphanum ∨ c = '_' ∨ c = '-' ∨ c = '.' := by
  rw [List.forall_mem_append]
  constructor
  case left =>
    intro c hc
    have := h.property.alphanum c hc
    tauto
  case right =>
    intro c hc
    have := h.value.plain_chars c hc
    have := @isAlphanum_of_isDigit c
    tauto

end Threshold

namespace Fact

variable {f : Fact} {cs : List Char}

theorem gamesPlayed_eq (f : Fact) : f.gamesPlayed = f.bounds.map Threshold.text := by
  cases h : f.maxGamesPlayed <;> simp [gamesPlayed, bounds, Threshold.text, Text.decimal, h]

end Fact

end Reading

namespace Fact

variable {f : Fact} {text : String}

theorem compile_eq_ok_iff :
    f.compile = .ok text ↔
      ∃ ts, (f.Lists ts ∧ ∀ t ∈ ts, t.WellFormed) ∧
        .ofList (List.intercalate " and ".toList ((f.bounds ++ ts).map Threshold.text)) = text := by
  simp only [compile, bind_eq_ok_iff, thresholds_eq_ok_iff, gamesPlayed_eq, List.map_append]
  exact exists_congr fun _ => and_congr_right fun _ => ⟨Except.ok.inj, congrArg _⟩

end Fact

end StatsQuery
