import StatsQuery.View

namespace StatsQuery.Json

inductive Restricts (fields : List String) : Json → Json → Prop
  | object :
    (Members.Sorted kept) →
    (∀ name, kept.lookup name = if name ∈ fields then ms.lookup name else none) →
      Restricts fields (obj ms) (obj kept)
  | other : (∀ ms, j ≠ obj ms) → Restricts fields j j

namespace Members

variable {ms kept : Members} {fields : List String} {key : String} {value : Json}

theorem mem_insert (h : m ∈ insert key value ms) : m = (key, value) ∨ m ∈ ms := by
  induction ms
  case nil => simpa [insert] using h
  case cons n ms hi =>
    simp only [insert] at h
    split at h
    case isTrue => simpa using h
    case isFalse =>
      split at h
      case isTrue =>
        cases List.mem_cons.mp h
        case inl h => exact .inl h
        case inr h => exact .inr (.tail n h)
      case isFalse =>
        cases List.mem_cons.mp h
        case inl h => exact .inr (h ▸ List.mem_cons_self)
        case inr h => exact (hi h).imp_right (.tail n)

theorem sorted_insert (h : Sorted ms) : Sorted (insert key value ms) := by
  induction ms
  case nil => simp [insert, Sorted]
  case cons m ms hi =>
    obtain ⟨hm, hs⟩ := List.pairwise_cons.mp h
    simp only [insert]
    split
    case isTrue hlt =>
      refine .cons (fun n hn => ?_) h
      cases List.mem_cons.mp hn
      case inl hn => exact hn ▸ hlt
      case inr hn => exact String.lt_trans hlt (hm n hn)
    case isFalse hlt =>
      split
      case isTrue he => exact .cons (fun n hn => he ▸ hm n hn) hs
      case isFalse he =>
        have hgt : m.1 < key := by
          refine Decidable.of_not_not fun hn => he ?_
          exact String.le_antisymm (String.not_lt.mp hn) (String.not_lt.mp hlt)
        refine .cons (fun n hn => ?_) (hi hs)
        cases mem_insert hn
        case inl hn => exact hn ▸ hgt
        case inr hn => exact hm n hn

theorem lookup_ofList (name : String) : (ofList ms).lookup name = ms.reverse.lookup name := by
  have h (acc : Members) :
      (ms.foldl (fun ms m => insert m.1 m.2 ms) acc).lookup name = (ms.reverse.lookup name).or (acc.lookup name) := by
    induction ms generalizing acc with
    | nil          => rfl
    | cons m ms hi =>
      obtain ⟨key, value⟩ := m
      rw [List.foldl_cons, hi, List.reverse_cons, List.lookup_append, Option.or_assoc]
      refine congrArg _ ?_
      by_cases hn : name = key
      case pos => simp [hn, lookup_insert_self]
      case neg => simp [lookup_insert_ne hn, List.lookup_cons, beq_false_of_ne hn]
  exact (h []).trans <| Option.or_none

theorem sorted_ofList : (ofList ms).Sorted :=
  List.foldlRecOn ms _ .nil fun _ h _ _ => sorted_insert h

theorem mem_iff_lookup (h : Sorted ms) : (key, value) ∈ ms ↔ ms.lookup key = some value := by
  induction ms with
  | nil => simp
  | cons m ms hi =>
    obtain ⟨k, v⟩ := m
    obtain ⟨hk, hs⟩ := List.pairwise_cons.mp h
    by_cases he : key = k
    case pos =>
      subst he
      have hn : (key, value) ∉ ms := fun hm => String.lt_irrefl key (hk _ hm)
      simp [hn, eq_comm]
    case neg => simp [List.lookup_cons, beq_false_of_ne he, he, hi hs]

def take (ms : Members) (kept : Members) (field : String) : Members :=
  (ms.lookup field).elim kept (insert field · kept)

theorem pick_eq_foldl : pick ms fields = fields.foldl (take ms) [] := rfl

theorem sorted_take (h : Sorted kept) : Sorted (take ms kept field) := by
  unfold take
  cases ms.lookup field
  case none => exact h
  case some => exact sorted_insert h

theorem lookup_take :
    (take ms kept field).lookup name =
      if name = field then (ms.lookup field).or (kept.lookup name) else kept.lookup name := by
  unfold take
  cases ms.lookup field
  case none => simp
  case some j =>
    split
    case isTrue h  => simp [h, lookup_insert_self]
    case isFalse h => simp [lookup_insert_ne h]

theorem sorted_pick : Sorted (pick ms fields) :=
  List.foldlRecOn fields _ .nil fun _ h _ _ => sorted_take h

-- A member that has been taken stays the same, also when its name comes up again.
theorem lookup_foldl_take (kept : Members) :
    (fields.foldl (take ms) kept).lookup name =
      if name ∈ fields then (ms.lookup name).or (kept.lookup name) else kept.lookup name := by
  induction fields generalizing kept
  case nil => simp
  case cons field fields hi =>
    rw [List.foldl_cons, hi, lookup_take]
    by_cases hn : name = field
    case neg => simp [hn]
    case pos =>
      subst hn
      cases ms.lookup name <;> simp

theorem lookup_pick (name : String) :
    (pick ms fields).lookup name = if name ∈ fields then ms.lookup name else none := by
  simp [pick_eq_foldl, lookup_foldl_take]

end Members

theorem restricts_restrict (fields : List String) (j : Json) : Restricts fields j (j.restrict fields) := by
  cases j
  case obj ms => exact .object Members.sorted_pick Members.lookup_pick
  all_goals exact .other (by simp)

end StatsQuery.Json
