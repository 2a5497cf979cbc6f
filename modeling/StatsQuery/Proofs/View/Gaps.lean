import StatsQuery.Proofs.View.Composition

namespace StatsQuery.Path

variable {text : String} {p : Path} {names : List String}

structure Gapless (text : String) : Prop where
  nonempty : text ≠ ""
  front    : ¬['.'] <+: text.toList
  back     : ¬['.'] <:+ text.toList
  inside   : ¬['.', '.'] <:+: text.toList

theorem exists_parse_iff : (∃ p, parse text = .ok p) ↔ "" ∉ split text := by
  constructor
  case mp =>
    intro ⟨p, hp⟩ hm
    exact (p.segment "" (parse_eq_ok_iff.mp hp ▸ hm)).left rfl
  case mpr => exact fun h => parse_of_not_empty fun hm => h <| List.mem_map_of_mem hm

theorem not_gapless_of_mem (hm : "" ∈ split text) : ¬Gapless text := by
  intro h
  have ⟨before, after, hs⟩ := List.append_of_mem hm
  have ht : ".".intercalate (before ++ "" :: after) = text := hs ▸ intercalate_split text
  cases before with
  | nil =>
    cases after with
    | nil      => exact h.nonempty (by simpa using ht.symm)
    | cons _ _ =>
      rw [List.nil_append, String.intercalate_cons_cons] at ht
      exact h.front (by simp [← ht])
  | cons b bs =>
    rw [String.intercalate_append_of_ne_nil (List.cons_ne_nil b bs) (List.cons_ne_nil "" after)] at ht
    cases after with
    | nil      => exact h.back (by simp [← ht])
    | cons a more =>
      rw [String.intercalate_cons_cons] at ht
      refine h.inside ⟨(".".intercalate (b :: bs)).toList, (".".intercalate (a :: more)).toList, ?_⟩
      simp only [← ht, String.toList_append, List.append_assoc]
      rfl

theorem empty_mem_split_empty : "" ∈ split "" := by
  simp [split]

theorem gapless_of_not_mem (h : "" ∉ split text) : Gapless text where
  nonempty := by
    intro he
    exact h (he ▸ empty_mem_split_empty)
  front := by
    intro ⟨cs, he⟩
    have ht : text = "" ++ "." ++ .ofList cs := by simp [← String.toList_inj, ← he]
    rw [ht, split_append] at h
    exact h <| List.mem_append_left _ empty_mem_split_empty
  back := by
    intro ⟨cs, he⟩
    have ht : text = .ofList cs ++ "." ++ "" := by simp [← String.toList_inj, ← he]
    rw [ht, split_append] at h
    exact h <| List.mem_append_right _ empty_mem_split_empty
  inside := by
    intro ⟨cs, ds, he⟩
    have ht : text = .ofList cs ++ "." ++ ("" ++ "." ++ .ofList ds) := by simp [← String.toList_inj, ← he]
    rw [ht, split_append, split_append] at h
    exact h <| List.mem_append_right _ <| List.mem_append_left _ empty_mem_split_empty

theorem gapless_iff : Gapless text ↔ "" ∉ split text :=
  ⟨fun h hm => not_gapless_of_mem hm h, gapless_of_not_mem⟩

theorem parse_intercalate (hn : names ≠ []) (h : ∀ s ∈ names, Segment s) :
    parse (".".intercalate names) = .ok ⟨names, hn, h⟩ :=
  parse_toString ⟨names, hn, h⟩

-- The texts without gaps are paths, and no other texts are. The names of a path are not empty and have no dots, and with
-- dots between them they are its text again. Whatever names are not empty and have no dots are read back from such a text.
theorem parse_gapless :
    (∀ text, (∃ p, parse text = .ok p) ↔ Gapless text) ∧
    (∀ text, parse text = .error (.emptySegment text) ↔ ¬Gapless text) ∧
    (∀ text p, parse text = .ok p →
      p.segments ≠ [] ∧ (∀ s ∈ p.segments, s ≠ "" ∧ '.' ∉ s.toList) ∧ p.toString = text) ∧
    (∀ names : List String, names ≠ [] → (∀ s ∈ names, s ≠ "" ∧ '.' ∉ s.toList) →
      ∃ p, parse (".".intercalate names) = .ok p ∧ p.segments = names) := by
  have hs s : Segment s ↔ s ≠ "" ∧ '.' ∉ s.toList := by simp [Segment]
  have hp text : (∃ p, parse text = .ok p) ↔ Gapless text := exists_parse_iff.trans gapless_iff.symm
  refine ⟨hp, fun text => ?_, fun text p h => ?_, fun names hn h => ?_⟩
  case refine_1 =>
    rw [← hp]
    constructor
    case mp  => intro h ⟨_, ho⟩; cases ho.symm.trans h
    case mpr => exact fun h => parse_error_of_not_ok (not_exists.mp h)
  case refine_2 => exact ⟨p.nonempty, fun s hm => (hs s).mp (p.segment s hm), toString_of_parse h⟩
  case refine_3 => exact ⟨_, parse_intercalate hn fun s hm => (hs s).mpr (h s hm), rfl⟩

end StatsQuery.Path
