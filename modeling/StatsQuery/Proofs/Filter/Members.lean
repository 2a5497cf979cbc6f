import Mathlib.Data.List.Forall2
import StatsQuery.Filter
import StatsQuery.Proofs.Error.Steps

namespace StatsQuery.Criteria

variable {field : String} {value record : Json} {cs : Criteria}

structure Stands (field : String) (value : Json) (c : Path × Criterion) : Prop where
  path      : Path.parse field = .ok c.1
  criterion : criterionOf field value = .ok c.2

def Meets (field : String) (value record : Json) : Prop :=
  ∃ c, Stands field value c ∧ c.2.holds (c.1.resolve record) = true

theorem exists_stands_iff :
    (∃ c, Stands field value c) ↔ (∃ path, Path.parse field = .ok path) ∧ ∀ ms, value ≠ .obj ms := by
  constructor
  case mp =>
    intro ⟨c, hp, hc⟩
    refine ⟨⟨c.1, hp⟩, fun ms hv => ?_⟩
    rw [hv] at hc
    contradiction
  case mpr =>
    intro ⟨⟨path, hp⟩, hv⟩
    cases value
    case obj ms => exact absurd rfl (hv ms)
    all_goals exact ⟨(path, _), hp, rfl⟩

def takeMember (cs : Criteria) (m : String × Json) : Except Error Criteria :=
  criterionOf m.1 m.2 >>= cs.add m.1

theorem takeMember_eq_ok_iff {cs' : Criteria} :
    cs.takeMember m = .ok cs' ↔ ∃ c, Stands m.1 m.2 c ∧ cs' = ⟨cs.criteria ++ [c]⟩ := by
  have ha (c : Criterion) :
      cs.add m.1 c = .ok cs' ↔ ∃ path, Path.parse m.1 = .ok path ∧ ⟨cs.criteria ++ [(path, c)]⟩ = cs' := by
    simp only [add, bind_eq_ok_iff, pure, Except.pure, Except.ok.injEq]
  simp only [takeMember, bind_eq_ok_iff, ha]
  exact ⟨fun ⟨c, hc, path, hp, h⟩ => ⟨(path, c), ⟨hp, hc⟩, h.symm⟩,
    fun ⟨c, ⟨hp, hc⟩, h⟩ => ⟨c.2, hc, c.1, hp, h.symm⟩⟩

-- An object is refused before the path is looked at.
inductive Fault (m : String × Json) : Error → Prop
  | object : (m.2 = .obj ms) → Fault m (.badCriterion m.1 .objectValue)
  | path   : (∀ ms, m.2 ≠ .obj ms) → (∀ path, Path.parse m.1 ≠ .ok path) → Fault m (.emptySegment m.1)

theorem Fault.takeMember_eq (h : Fault m e) : cs.takeMember m = .error e := by
  obtain ⟨field, value⟩ := m
  unfold takeMember
  cases h
  case object hv =>
    cases hv
    rfl
  case path hv hp =>
    have hf (c : Criterion) : cs.add field c = .error (.emptySegment field) := by
      rw [add, Path.parse_error_of_not_ok hp]
      rfl
    cases value
    case obj ms => exact absurd rfl (hv ms)
    all_goals exact hf _

theorem stands_or_fault (m : String × Json) : (∃ c, Stands m.1 m.2 c) ∨ ∃ e, Fault m e := by
  by_cases hv : ∃ ms, m.2 = .obj ms
  case pos =>
    have ⟨ms, hv⟩ := hv
    exact .inr ⟨_, .object hv⟩
  case neg =>
    have hv : ∀ ms, m.2 ≠ .obj ms := not_exists.mp hv
    by_cases hp : ∃ path, Path.parse m.1 = .ok path
    case pos => exact .inl <| exists_stands_iff.mpr ⟨hp, hv⟩
    case neg => exact .inr ⟨_, .path hv (not_exists.mp hp)⟩

theorem takeMember_eq_error_iff : cs.takeMember m = .error e ↔ Fault m e := by
  refine ⟨fun h => ?_, Fault.takeMember_eq⟩
  cases stands_or_fault m
  case inl hc =>
    have ⟨c, hc⟩ := hc
    rw [takeMember_eq_ok_iff.mpr ⟨c, hc, rfl⟩] at h
    contradiction
  case inr hf =>
    have ⟨_, hf⟩ := hf
    rw [hf.takeMember_eq] at h
    cases h
    exact hf

theorem foldlM_takeMember_eq_ok_iff {ms : Json.Members} {first : Criteria} :
    ms.foldlM takeMember first = .ok cs ↔
      ∃ later, List.Forall₂ (fun m => Stands m.1 m.2) ms later ∧ cs = ⟨first.criteria ++ later⟩ := by
  induction ms generalizing first with
  | nil => simp [pure, Except.pure, eq_comm]
  | cons m ms hi =>
    simp only [List.foldlM_cons, bind_eq_ok_iff, takeMember_eq_ok_iff, hi, List.forall₂_cons_left_iff]
    constructor
    case mp =>
      intro ⟨_, ⟨c, hc, hf⟩, later, hl, h⟩
      exact ⟨c :: later, ⟨c, later, hc, hl, rfl⟩, by simp [h, hf]⟩
    case mpr =>
      intro ⟨_, ⟨c, later, hc, hl, hcl⟩, h⟩
      exact ⟨_, ⟨c, hc, rfl⟩, later, hl, by simp [h, hcl]⟩

theorem ofJson_eq_ok_iff {ms : Json.Members} :
    ofJson (.obj ms) = .ok cs ↔ List.Forall₂ (fun m => Stands m.1 m.2) ms cs.criteria := by
  change ms.foldlM takeMember empty = .ok cs ↔ _
  rw [foldlM_takeMember_eq_ok_iff]
  exact ⟨fun ⟨_, hl, h⟩ => h ▸ hl, fun h => ⟨_, h, rfl⟩⟩

theorem exists_forall₂_iff {R : α → β → Prop} {as : List α} :
    (∃ bs, List.Forall₂ R as bs) ↔ ∀ a ∈ as, ∃ b, R a b := by
  induction as with
  | nil          => simp
  | cons a as hi =>
    rw [List.forall_mem_cons, ← hi]
    constructor
    case mp =>
      intro ⟨_, h⟩
      have ⟨b, bs, hb, hbs, _⟩ := List.forall₂_cons_left_iff.mp h
      exact ⟨⟨b, hb⟩, bs, hbs⟩
    case mpr =>
      intro ⟨⟨b, hb⟩, bs, hbs⟩
      exact ⟨b :: bs, .cons hb hbs⟩

theorem exists_ofJson_iff {ms : Json.Members} :
    (∃ cs, ofJson (.obj ms) = .ok cs) ↔ ∀ m ∈ ms, ∃ c, Stands m.1 m.2 c := by
  simp only [ofJson_eq_ok_iff, ← exists_forall₂_iff]
  exact ⟨fun ⟨cs, h⟩ => ⟨cs.criteria, h⟩, fun ⟨l, h⟩ => ⟨⟨l⟩, h⟩⟩

theorem Stands.deterministic {c d : Path × Criterion} (h : Stands field value c) (h' : Stands field value d) : c = d :=
  Prod.ext (Except.ok.inj (h.path.symm.trans h'.path)) (Except.ok.inj (h.criterion.symm.trans h'.criterion))

theorem Stands.meets_iff {c : Path × Criterion} (h : Stands field value c) :
    Meets field value record ↔ c.2.holds (c.1.resolve record) = true :=
  ⟨fun ⟨_, hd, hh⟩ => h.deterministic hd ▸ hh, fun hh => ⟨c, h, hh⟩⟩

theorem all_holds_iff {ms : Json.Members} {l : List (Path × Criterion)}
    (h : List.Forall₂ (fun m => Stands m.1 m.2) ms l) :
    (l.all fun (p, c) => c.holds (p.resolve record)) = true ↔ ∀ m ∈ ms, Meets m.1 m.2 record := by
  induction h with
  | nil          => simp
  | cons hc _ hi => rw [List.all_cons, Bool.and_eq_true, hi, List.forall_mem_cons, hc.meets_iff]

theorem accepts_iff {ms : Json.Members} (h : ofJson (.obj ms) = .ok cs) :
    cs.accepts record = true ↔ ∀ m ∈ ms, Meets m.1 m.2 record :=
  all_holds_iff (ofJson_eq_ok_iff.mp h)

end StatsQuery.Criteria
