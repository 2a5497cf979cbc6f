import StatsQuery.Proofs.Shaping.FilterFirst

namespace StatsQuery.Shaping

variable {s : Shaping} {page : Page}

def survivors (s : Shaping) (page : Page) : List Json :=
  page.data.filter s.survives

def properTotal (s : Shaping) (page : Page) : Nat :=
  if (s.survivors page).length = page.data.length then page.total.toNat else (s.survivors page).length

-- The records of a page are counted although none of them is dropped, and their number is not the total that the
-- server reports.
structure Recounts (s : Shaping) (page : Page) : Prop where
  filtered : s.filter.isSome || s.exclude.isSome
  kept     : (s.survivors page).length = page.data.length
  other    : page.data.length ≠ page.total.toNat

def pageTotal (s : Shaping) (page : Page) : Nat :=
  if s.filter.isSome || s.exclude.isSome then (s.survivors page).length else page.total.toNat

theorem length_survivors_of_not_filtered (h : (s.filter.isSome || s.exclude.isSome) = false) :
    (s.survivors page).length = page.data.length := by
  simp only [Bool.or_eq_false_iff, Option.isSome_eq_false_iff, Option.isNone_iff_eq_none] at h
  simp [survivors, survives, h]

theorem applyPage_eq (s : Shaping) (page : Page) :
    ∃ selected,
      List.Forall₂ s.Selects ((SortSpec.apply ⟨s.keys⟩ page.data).filter s.survives) selected ∧
      s.applyPage page = s.finish selected (s.pageTotal page) := by
  have hs := s.step_fields ((SortSpec.apply ⟨s.keys⟩ page.data).filter s.survives)
  have hp : ((SortSpec.apply ⟨s.keys⟩ page.data).filter s.survives).length = (s.survivors page).length :=
    (SortSpec.apply_perm.filter s.survives).length_eq
  refine ⟨_, hs, ?_⟩
  simp only [applyPage, pageTotal, process_eq, ← hs.length_eq, hp]

theorem pageTotal_of_recounts (h : s.Recounts page) : s.pageTotal page = page.data.length := by
  rw [pageTotal, if_pos h.filtered, h.kept]

theorem pageTotal_eq_properTotal_iff : s.pageTotal page = s.properTotal page ↔ ¬s.Recounts page := by
  constructor
  case mp =>
    intro h hr
    rw [pageTotal_of_recounts hr, properTotal, if_pos hr.kept] at h
    exact hr.other h
  case mpr =>
    intro hr
    rw [pageTotal, properTotal]
    by_cases hk : (s.survivors page).length = page.data.length
    case neg =>
      have hf : (s.filter.isSome || s.exclude.isSome) = true :=
        eq_true_of_ne_false fun hf => hk (length_survivors_of_not_filtered hf)
      rw [if_pos hf, if_neg hk]
    case pos =>
      rw [if_pos hk]
      split
      case isFalse => rfl
      case isTrue hf =>
        rw [hk]
        exact Decidable.of_not_not fun ho => hr ⟨hf, hk, ho⟩

-- Without a view, a page becomes its sorted and selected survivors with a total. That is the proper total except
-- where the records are recounted, and there it is the number of records on the page.
theorem applyPage_total_iff (s : Shaping) (page : Page) (h : s.view = none) :
    ∃ selected total,
      List.Forall₂ s.Selects ((SortSpec.apply ⟨s.keys⟩ page.data).filter s.survives) selected ∧
      s.applyPage page = .ok (some (.obj [("data", .arr selected), ("total", .ofNat total)])) ∧
      (total = s.properTotal page ↔ ¬s.Recounts page) ∧
      (s.Recounts page → total = page.data.length) := by
  have ⟨selected, hs, hp⟩ := s.applyPage_eq page
  refine ⟨selected, s.pageTotal page, hs, ?_, pageTotal_eq_properTotal_iff, pageTotal_of_recounts⟩
  rw [hp, finish, h]
  rfl

theorem applyPage_total_dropped :
    let points : Path := ⟨["points"], by decide, by decide⟩
    let s : Shaping := {
      exclude := some ⟨[(points, .equals (.ofNat 3))]⟩
      sort    := some ⟨[⟨points, .descending⟩]⟩
      fields  := some ["id"] }
    let record (id points : Nat) : Json := .obj [("id", .ofNat id), ("points", .ofNat points)]
    let page : Page := ⟨[record 1 5, record 2 3, record 3 8], 812⟩
    s.view = none ∧ ¬s.Recounts page ∧
      ∃ selected,
        List.Forall₂ (Json.Restricts ["id"]) [record 3 8, record 1 5] selected ∧
        s.applyPage page = .ok (some (.obj [("data", .arr selected), ("total", .ofNat 2)])) := by
  intro points s record page
  have hr : ¬s.Recounts page := fun hr => absurd hr.kept (by decide)
  have hl : (SortSpec.apply ⟨s.keys⟩ page.data).filter s.survives = [record 3 8, record 1 5] := rfl
  have ⟨selected, total, hs, hp, ht, _⟩ := s.applyPage_total_iff page rfl
  have ht : total = 2 := ht.mpr hr
  exact ⟨rfl, hr, selected, hl ▸ hs, ht ▸ hp⟩

theorem applyPage_not_properTotal :
    let s : Shaping := { filter := some ⟨[(⟨["id"], by decide, by decide⟩, .equals (.ofNat 1))]⟩ }
    let page : Page := ⟨[.obj [("id", .ofNat 1)]], 812⟩
    s.properTotal page = 812 ∧
      s.applyPage page = .ok (some (.obj [("data", .arr page.data), ("total", .ofNat 1)])) :=
  ⟨rfl, rfl⟩

end StatsQuery.Shaping
