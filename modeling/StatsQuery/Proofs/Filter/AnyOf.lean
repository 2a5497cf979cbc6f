import StatsQuery.Proofs.Filter.Pairs

namespace StatsQuery.Criteria

variable {pairs others : List String} {field : String} {value record j : Json} {values : List Json} {path : Path}

def AcceptedBy (pair : String) (record : Json) : Prop :=
  ∃ cs, ofPairs [pair] = .ok (some cs) ∧ cs.accepts record = true

def AnyOf (pairs : List String) (record : Json) : Prop :=
  ∀ field, given pairs field ≠ [] → ∃ pair ∈ pairs, (∃ value, read? pair = some (field, value)) ∧ AcceptedBy pair record

def Present (field : String) (record : Json) : Prop :=
  ∃ path, Path.parse field = .ok path ∧ path.resolve record ≠ none

def RepeatedPresent (pairs : List String) (record : Json) : Prop :=
  ∀ field, 1 < (given pairs field).length → Present field record

-- No pair gives a list to a field that another one before it has named.
def ListsFirst (pairs : List String) : Prop :=
  ∀ field js, .arr js ∉ (given pairs field).tail

theorem present_iff (hp : Path.parse field = .ok path) : Present field record ↔ path.resolve record ≠ none :=
  ⟨fun ⟨_, h, hr⟩ => Except.ok.inj (h.symm.trans hp) ▸ hr, fun hr => ⟨path, hp, hr⟩⟩

theorem sameValue_null (j : Json) : j.sameValue .null = j.isNull := by
  cases j <;> rfl

-- In a field that is present, each value stands for itself or for the ones of a list, `null` included.
theorem meets_iff_spread (hp : Path.parse field = .ok path) (hr : path.resolve record = some j)
    (hv : ∀ ms, value ≠ .obj ms) : Meets field value record ↔ ∃ wanted ∈ spread value, j.sameValue wanted = true := by
  have hm {c : Criterion} (hc : criterionOf field value = .ok c) :
      Meets field value record ↔ c.holds (some j) = true := by
    rw [Stands.meets_iff (c := (path, c)) ⟨hp, hc⟩, hr]
  cases value
  case obj ms => exact absurd rfl (hv ms)
  case arr js => simp [hm rfl, Criterion.holds, spread]
  case null   => simp [hm rfl, Criterion.holds, spread, sameValue_null]
  all_goals simp [hm rfl, Criterion.holds, spread]

theorem not_meets_arr (hp : Path.parse field = .ok path) (hr : path.resolve record = none) :
    ¬Meets field (.arr js) record := by
  rw [Stands.meets_iff (c := (path, .memberOf js)) ⟨hp, rfl⟩, hr]
  simp [Criterion.holds]

theorem flatMap_spread (h : ∀ js, .arr js ∉ values) : values.flatMap spread = values := by
  induction values with
  | nil => rfl
  | cons v vs hi =>
    have hs : spread v = [v] := by
      cases v
      case arr js => exact absurd List.mem_cons_self (h js)
      all_goals rfl
    rw [List.flatMap_cons, hs, hi fun js hj => h js (.tail v hj)]
    rfl

theorem meets_joined_iff (hj : joined values = some value) (hp : Path.parse field = .ok path)
    (hv : ∀ v ∈ values, ∀ ms, v ≠ .obj ms) (hl : ∀ js, .arr js ∉ values.tail) :
    Meets field value record ↔
      (∃ v ∈ values, Meets field v record) ∧ (1 < values.length → Present field record) := by
  rcases joined_eq_some_iff.mp hj with he | ⟨first, second, rest, he, hw⟩
  case inl => simp [he]
  case inr =>
    subst he hw
    rw [present_iff hp]
    cases hr : path.resolve record with
    | none   => simp [not_meets_arr hp hr]
    | some j =>
      have hs : spread first ++ second :: rest = (first :: second :: rest).flatMap spread := by
        have hf : (second :: rest).flatMap spread = second :: rest := flatMap_spread hl
        rw [List.flatMap_cons, hf]
      rw [meets_iff_spread hp hr (by simp), spread, hs]
      simp only [List.mem_flatMap, ne_eq, reduceCtorEq, not_false_eq_true, implies_true, and_true]
      constructor
      case mp =>
        intro ⟨w, ⟨v, hm, hw⟩, h⟩
        exact ⟨v, hm, (meets_iff_spread hp hr (hv v hm)).mpr ⟨w, hw, h⟩⟩
      case mpr =>
        intro ⟨v, hm, h⟩
        have ⟨w, hw, h⟩ := (meets_iff_spread hp hr (hv v hm)).mp h
        exact ⟨w, ⟨v, hm, hw⟩, h⟩

theorem acceptedBy_iff (h : read? pair = some (field, value)) : AcceptedBy pair record ↔ Meets field value record := by
  constructor
  case mp =>
    intro ⟨cs, hp, ha⟩
    exact (accepts_singleton_iff hp h).mp ha
  case mpr =>
    intro hm
    have ⟨c, hc, _⟩ := hm
    have ⟨cs, hp⟩ := (accepted_singleton_iff h).mpr ⟨c, hc⟩
    exact ⟨cs, hp, (accepts_singleton_iff hp h).mpr hm⟩

theorem exists_given_iff :
    (∃ v ∈ given pairs field, Meets field v record) ↔
      ∃ pair ∈ pairs, (∃ v, read? pair = some (field, v)) ∧ AcceptedBy pair record := by
  simp only [mem_given_iff]
  constructor
  case mp =>
    intro ⟨v, ⟨pair, hp, hr⟩, hm⟩
    exact ⟨pair, hp, ⟨v, hr⟩, (acceptedBy_iff hr).mpr hm⟩
  case mpr =>
    intro ⟨pair, hp, ⟨v, hr⟩, hm⟩
    exact ⟨v, ⟨pair, hp, hr⟩, (acceptedBy_iff hr).mp hm⟩

theorem exists_stands_of_mem_given (ha : ∀ pair ∈ pairs, Accepted [pair]) (hv : value ∈ given pairs field) :
    ∃ c, Stands field value c := by
  have ⟨pair, hp, hr⟩ := mem_given_iff.mp hv
  exact (accepted_singleton_iff hr).mp (ha pair hp)

theorem meets_given_iff (ha : ∀ pair ∈ pairs, Accepted [pair]) (hl : ListsFirst pairs)
    (hj : joined (given pairs field) = some value) :
    Meets field value record ↔
      (∃ pair ∈ pairs, (∃ v, read? pair = some (field, v)) ∧ AcceptedBy pair record) ∧
      (1 < (given pairs field).length → Present field record) := by
  have hs v (hv : v ∈ given pairs field) := exists_stands_iff.mp (exists_stands_of_mem_given ha hv)
  obtain ⟨first, hf⟩ := List.exists_mem_of_ne_nil _ (ne_nil_of_joined hj)
  obtain ⟨path, hp⟩ := (hs first hf).left
  rw [meets_joined_iff hj hp (fun v hv => (hs v hv).right) (hl field), exists_given_iff]

theorem accepts_iff_anyOf (h : ofPairs pairs = .ok (some cs)) (ha : ∀ pair ∈ pairs, Accepted [pair])
    (hl : ListsFirst pairs) : cs.accepts record = true ↔ AnyOf pairs record ∧ RepeatedPresent pairs record := by
  rw [accepts_ofPairs_iff h]
  constructor
  case mp =>
    intro hm
    have hg field (hn : given pairs field ≠ []) :=
      have ⟨value, hj⟩ := exists_joined hn
      (meets_given_iff ha hl hj).mp (hm field value hj)
    refine ⟨fun field hn => (hg field hn).left, fun field hn => (hg field ?_).right hn⟩
    exact List.ne_nil_of_length_pos (Nat.zero_lt_of_lt hn)
  case mpr =>
    intro ⟨ho, hp⟩ field value hj
    exact (meets_given_iff ha hl hj).mpr ⟨ho field (ne_nil_of_joined hj), hp field⟩

theorem given_perm (h : pairs.Perm others) (field : String) : (given pairs field).Perm (given others field) :=
  h.filterMap _

theorem anyOf_perm (h : pairs.Perm others) : AnyOf pairs record ↔ AnyOf others record := by
  have hn field : given pairs field = [] ↔ given others field = [] := by
    rw [← List.length_eq_zero_iff, (given_perm h field).length_eq, List.length_eq_zero_iff]
  simp only [AnyOf, ne_eq, hn, h.mem_iff]

theorem repeatedPresent_perm (h : pairs.Perm others) : RepeatedPresent pairs record ↔ RepeatedPresent others record := by
  simp only [RepeatedPresent, (given_perm h _).length_eq]

theorem exists_criteria (hn : pairs ≠ []) (ha : ∀ pair ∈ pairs, Accepted [pair]) : Accepted pairs :=
  (accepted_iff_forall hn).mpr fun pair hp => .inl (ha pair hp)

-- Pairs that are accepted one by one are accepted together. Their criteria accept the records that one of the
-- pairs for each field accepts, except for records without a field that is named more than once; and so they do
-- in any other order in which lists come first as well.
theorem ofPairs_any_of (hn : pairs ≠ []) (ha : ∀ pair ∈ pairs, Accepted [pair]) (hl : ListsFirst pairs) :
    ∃ cs, ofPairs pairs = .ok (some cs) ∧
      (∀ record, cs.accepts record = true ↔ AnyOf pairs record ∧ RepeatedPresent pairs record) ∧
      ∀ others, others.Perm pairs → ListsFirst others →
        ∃ cs', ofPairs others = .ok (some cs') ∧ ∀ record, cs'.accepts record = cs.accepts record := by
  have ⟨cs, hc⟩ := exists_criteria hn ha
  refine ⟨cs, hc, fun record => accepts_iff_anyOf hc ha hl, fun others hp hl' => ?_⟩
  have ha' : ∀ pair ∈ others, Accepted [pair] := fun pair hm => ha pair (hp.mem_iff.mp hm)
  have hn' : others ≠ [] := fun ho => hn (List.nil_perm.mp (ho ▸ hp))
  have ⟨cs', hc'⟩ := exists_criteria hn' ha'
  refine ⟨cs', hc', fun record => Bool.eq_iff_iff.mpr ?_⟩
  rw [accepts_iff_anyOf hc ha hl, accepts_iff_anyOf hc' ha' hl', anyOf_perm hp, repeatedPresent_perm hp]

theorem ofPairs_any_of_mixed :
    let pairs := ["teamId=[7,10]", "position=D", "teamId=null", "teamId=8"]
    pairs ≠ [] ∧ (∀ pair ∈ pairs, Accepted [pair]) ∧ ListsFirst pairs ∧
      ∃ cs, ofPairs pairs = .ok (some cs) ∧
        ∀ record, cs.accepts record = true ↔ AnyOf pairs record ∧ RepeatedPresent pairs record := by
  intro pairs
  have hr₁ : read? "teamId=[7,10]" = some ("teamId", .arr [.ofNat 7, .ofNat 10]) := rfl
  have hr₂ : read? "position=D" = some ("position", .str "D") := rfl
  have hr₃ : read? "teamId=null" = some ("teamId", .null) := rfl
  have hr₄ : read? "teamId=8" = some ("teamId", .ofNat 8) := rfl
  have hs {field : String} {value : Json} {path : Path} (hp : Path.parse field = .ok path)
      (hv : ∀ ms, value ≠ .obj ms) : ∃ c, Stands field value c :=
    exists_stands_iff.mpr ⟨⟨path, hp⟩, hv⟩
  have hn : pairs ≠ [] := by simp [pairs]
  have ha : ∀ pair ∈ pairs, Accepted [pair] := by
    simp only [pairs, List.forall_mem_cons, accepted_singleton_iff hr₁, accepted_singleton_iff hr₂,
      accepted_singleton_iff hr₃, accepted_singleton_iff hr₄]
    exact ⟨hs rfl (by simp), hs rfl (by simp), hs rfl (by simp), hs rfl (by simp [Json.ofNat]), by simp⟩
  have hl : ListsFirst pairs := by
    intro field js
    by_cases hp : "position" = field <;> by_cases ht : "teamId" = field <;>
      simp [given, pairs, hr₁, hr₂, hr₃, hr₄, hp, ht, Json.ofNat]
  obtain ⟨cs, hc, hr, _⟩ := ofPairs_any_of hn ha hl
  exact ⟨hn, ha, hl, cs, hc, hr⟩

theorem two_not_any_of {v w : Json} (hv : read? a = some (field, v)) (hw : read? b = some (field, w))
    (hp : Path.parse field = .ok path) (hj : ∀ value ∈ [v, w], ∀ ms, value ≠ .obj ms)
    (ho : ∃ value ∈ [v, w], Meets field value record) (hn : ¬Meets field (.arr (spread v ++ [w])) record) :
    (∀ pair ∈ [a, b], Accepted [pair]) ∧ AnyOf [a, b] record ∧
      ∃ cs, ofPairs [a, b] = .ok (some cs) ∧ cs.accepts record = false := by
  have hg (name : String) : given [a, b] name = if field = name then [v, w] else [] := by
    by_cases h : field = name <;> simp [given, hv, hw, h]
  have ha : ∀ pair ∈ [a, b], Accepted [pair] := by
    simp only [List.forall_mem_cons, accepted_singleton_iff hv, accepted_singleton_iff hw, exists_stands_iff] at hj ⊢
    exact ⟨⟨⟨path, hp⟩, hj.left⟩, ⟨⟨path, hp⟩, hj.right.left⟩, by simp⟩
  obtain ⟨cs, hc⟩ := exists_criteria (by simp) ha
  refine ⟨ha, fun name hm => exists_given_iff.mp ?_, cs, hc, ?_⟩
  case refine_1 =>
    rw [hg] at hm ⊢
    split at hm
    case isTrue h  => simpa [h] using ho
    case isFalse h => contradiction
  case refine_2 =>
    refine Bool.eq_false_iff.mpr fun h => hn ?_
    refine (accepts_ofPairs_iff hc).mp h field _ ?_
    rw [hg, if_pos rfl, joined_cons_cons]

theorem ofPairs_not_any_of :
    (let pairs := ["deathDate=null", "deathDate=2001-01-01"]
     let record := Json.obj []
     (∀ pair ∈ pairs, Accepted [pair]) ∧ AnyOf pairs record ∧
      ∃ cs, ofPairs pairs = .ok (some cs) ∧ cs.accepts record = false) ∧
    (let pairs := ["teamId=8", "teamId=[7,10]"]
     let record := Json.obj [("teamId", .ofNat 7)]
     (∀ pair ∈ pairs, Accepted [pair]) ∧ AnyOf pairs record ∧
      ∃ cs, ofPairs pairs = .ok (some cs) ∧ cs.accepts record = false) := by
  constructor
  case left =>
    have hv : read? "deathDate=null" = some ("deathDate", .null) := rfl
    have hw : read? "deathDate=2001-01-01" = some ("deathDate", .str "2001-01-01") := rfl
    let path : Path := ⟨["deathDate"], by decide, by decide⟩
    have hp : Path.parse "deathDate" = .ok path := rfl
    have hm : Meets "deathDate" .null (.obj []) := ⟨(path, .absent), ⟨hp, rfl⟩, rfl⟩
    exact two_not_any_of hv hw hp (by simp) ⟨_, .head _, hm⟩ (not_meets_arr hp rfl)
  case right =>
    let first : Json := .ofNat 8
    let list : List Json := [.ofNat 7, .ofNat 10]
    let record : Json := .obj [("teamId", .ofNat 7)]
    have hv : read? "teamId=8" = some ("teamId", first) := rfl
    have hw : read? "teamId=[7,10]" = some ("teamId", .arr list) := rfl
    let path : Path := ⟨["teamId"], by decide, by decide⟩
    have hp : Path.parse "teamId" = .ok path := rfl
    have hm : Meets "teamId" (.arr list) record := ⟨(path, .memberOf list), ⟨hp, rfl⟩, rfl⟩
    have hn : ¬Meets "teamId" (.arr [first, .arr list]) record := by
      rw [Stands.meets_iff (c := (path, .memberOf [first, .arr list])) ⟨hp, rfl⟩]
      decide
    exact two_not_any_of hv hw hp (by simp [first, Json.ofNat]) ⟨_, .tail _ (.head _), hm⟩ hn

end StatsQuery.Criteria
