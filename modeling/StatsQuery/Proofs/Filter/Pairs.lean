import StatsQuery.Filter.Pairs
import StatsQuery.Proofs.Filter.Members
import StatsQuery.Proofs.View.Restriction

namespace StatsQuery

namespace Criteria

variable {pairs : List String} {field : String} {value record : Json} {cs : Criteria}

def join : Option Json → Json → Json
  | none, value           => value
  | some (.arr js), value => .arr (js ++ [value])
  | some first, value     => .arr [first, value]

theorem collect_eq_insert (ms : Json.Members) (field : String) (value : Json) :
    collect ms field value = ms.insert field (join (ms.lookup field) value) := by
  unfold collect
  cases ms.lookup field with
  | none   => rfl
  | some j => cases j <;> rfl

theorem lookup_collect {ms : Json.Members} :
    (collect ms name value).lookup field =
      if name = field then some (join (ms.lookup field) value) else ms.lookup field := by
  rw [collect_eq_insert]
  split
  case isTrue h  => rw [h, Json.Members.lookup_insert_self]
  case isFalse h => exact Json.Members.lookup_insert_ne (Ne.symm h)

def spread : Json → List Json
  | .arr js => js
  | j       => [j]

theorem join_some (first value : Json) : join (some first) value = .arr (spread first ++ [value]) := by
  cases first <;> rfl

def joined (values : List Json) : Option Json :=
  values.foldl (fun j value => some (join j value)) none

theorem joined_cons_cons (first second : Json) (rest : List Json) :
    joined (first :: second :: rest) = some (.arr (spread first ++ second :: rest)) := by
  have h (js vs : List Json) :
      vs.foldl (fun j value => some (join j value)) (some (.arr js)) = some (.arr (js ++ vs)) := by
    induction vs generalizing js with
    | nil          => simp
    | cons v vs hi =>
      have hj : join (some (.arr js)) v = .arr (js ++ [v]) := rfl
      rw [List.foldl_cons, hj, hi, List.append_assoc, List.singleton_append]
  rw [joined, List.foldl_cons, List.foldl_cons, join, join_some, h, List.append_assoc, List.singleton_append]

theorem joined_eq_some_iff {values : List Json} :
    joined values = some value ↔
      values = [value] ∨
      ∃ first second rest, values = first :: second :: rest ∧ value = .arr (spread first ++ second :: rest) := by
  rcases values with _ | ⟨first, _ | ⟨second, rest⟩⟩
  case nil       => simp [joined]
  case cons.nil  => simp [joined, join]
  case cons.cons => simp [joined_cons_cons, eq_comm]

theorem ne_nil_of_joined {values : List Json} (h : joined values = some value) : values ≠ [] := by
  rintro rfl
  contradiction

theorem exists_joined {values : List Json} (h : values ≠ []) : ∃ value, joined values = some value := by
  rcases values with _ | ⟨first, _ | ⟨second, rest⟩⟩
  case nil       => contradiction
  case cons.nil  => exact ⟨first, rfl⟩
  case cons.cons => exact ⟨_, joined_cons_cons first second rest⟩

def read? (pair : String) : Option (String × Json) :=
  (splitPair? pair).map fun (field, text) => (field, valueOf text)

def given (pairs : List String) (field : String) : List Json :=
  pairs.filterMap fun pair => (read? pair).bind fun m => if m.1 = field then some m.2 else none

def collected (ms : Json.Members) (pairs : List String) : Json.Members :=
  (pairs.filterMap read?).foldl (fun ms m => collect ms m.1 m.2) ms

theorem lookup_collected (ms : Json.Members) (pairs : List String) (field : String) :
    (collected ms pairs).lookup field =
      (given pairs field).foldl (fun j value => some (join j value)) (ms.lookup field) := by
  induction pairs generalizing ms with
  | nil => rfl
  | cons pair pairs hi =>
    cases hr : read? pair with
    | none   => simpa [collected, given, List.filterMap_cons, hr] using hi ms
    | some m =>
      have hc := hi (collect ms m.1 m.2)
      rw [lookup_collect] at hc
      by_cases hf : m.1 = field <;> simpa [collected, given, List.filterMap_cons, hr, hf] using hc

theorem sorted_collected (pairs : List String) : (collected [] pairs).Sorted :=
  List.foldlRecOn _ _ .nil fun _ h _ _ => collect_eq_insert .. ▸ Json.Members.sorted_insert h

theorem mem_collected_iff : (field, value) ∈ collected [] pairs ↔ joined (given pairs field) = some value := by
  rw [Json.Members.mem_iff_lookup (sorted_collected pairs), lookup_collected]
  rfl

theorem membersOf_eq_ok_iff {ms : Json.Members} :
    membersOf pairs = .ok ms ↔ (∀ pair ∈ pairs, read? pair ≠ none) ∧ ms = collected [] pairs := by
  have h (acc : Json.Members) :
      pairs.foldlM membersOf.step acc = .ok ms ↔
        (∀ pair ∈ pairs, read? pair ≠ none) ∧ ms = collected acc pairs := by
    induction pairs generalizing acc with
    | nil => simp [collected, pure, Except.pure, eq_comm]
    | cons pair pairs hi =>
      rw [List.foldlM_cons, membersOf.step, collected, List.filterMap_cons]
      cases hp : splitPair? pair with
      | none   => simp [read?, hp, bind, Except.bind]
      | some m =>
        have hr : read? pair = some (m.1, valueOf m.2) := by rw [read?, hp]; rfl
        simp [hr, bind, Except.bind, hi, collected]
  exact h []

theorem ofPairs_eq_bind (h : pairs ≠ []) :
    ofPairs pairs = (membersOf pairs >>= fun ms => ofJson (.obj ms)).map some := by
  rw [ofPairs, if_neg (by simpa using h)]
  cases membersOf pairs with
  | error => rfl
  | ok ms => cases h : ofJson (.obj ms) <;> simp [h, bind, Except.bind, pure, Except.pure, Except.map]

theorem ofPairs_eq_ok_iff (h : pairs ≠ []) :
    ofPairs pairs = .ok (some cs) ↔
      (∀ pair ∈ pairs, read? pair ≠ none) ∧ ofJson (.obj (collected [] pairs)) = .ok cs := by
  have hs {r : Except Error Criteria} : r.map some = .ok (some cs) ↔ r = .ok cs := by
    cases r <;> simp [Except.map]
  rw [ofPairs_eq_bind h, hs]
  simp [bind_eq_ok_iff, membersOf_eq_ok_iff, and_assoc]

def Accepted (pairs : List String) : Prop :=
  ∃ cs, ofPairs pairs = .ok (some cs)

theorem accepted_iff (h : pairs ≠ []) :
    Accepted pairs ↔
      (∀ pair ∈ pairs, read? pair ≠ none) ∧
      ∀ field value, joined (given pairs field) = some value → ∃ c, Stands field value c := by
  simp only [Accepted, ofPairs_eq_ok_iff h, exists_and_left, exists_ofJson_iff, Prod.forall, mem_collected_iff]

theorem accepts_ofPairs_iff (h : ofPairs pairs = .ok (some cs)) :
    cs.accepts record = true ↔
      ∀ field value, joined (given pairs field) = some value → Meets field value record := by
  have hn : pairs ≠ [] := by
    rintro rfl
    cases h
  rw [accepts_iff ((ofPairs_eq_ok_iff hn).mp h).right, Prod.forall]
  simp only [mem_collected_iff]

theorem mem_given_iff : value ∈ given pairs field ↔ ∃ pair ∈ pairs, read? pair = some (field, value) := by
  have h (pair : String) :
      ((read? pair).bind fun m => if m.1 = field then some m.2 else none) = some value ↔
        read? pair = some (field, value) := by
    cases read? pair with
    | none   => simp
    | some m => simp [Prod.ext_iff]
  simp only [given, List.mem_filterMap, h]

theorem joined_singleton_iff (h : read? pair = some (name, first)) :
    joined (given [pair] field) = some value ↔ name = field ∧ first = value := by
  by_cases hn : name = field <;> simp [given, h, hn, joined, join]

theorem accepted_singleton_iff (h : read? pair = some (field, value)) :
    Accepted [pair] ↔ ∃ c, Stands field value c := by
  simp [accepted_iff, h, joined_singleton_iff h]

theorem accepts_singleton_iff (hp : ofPairs [pair] = .ok (some cs)) (h : read? pair = some (field, value)) :
    cs.accepts record = true ↔ Meets field value record := by
  simp [accepts_ofPairs_iff hp, joined_singleton_iff h]

theorem read?_ne_none (h : Accepted [pair]) : read? pair ≠ none :=
  ((accepted_iff (by simp)).mp h).left pair (by simp)

-- A pair that is refused by itself for its object. Among several values for its field the object is let through.
inductive Hidden (pairs : List String) (pair : String) : Prop
  | intro :
    (read? pair = some (name, .obj ms)) → (Path.parse name = .ok path) → (1 < (given pairs name).length) →
      Hidden pairs pair

theorem accepted_or_hidden_iff :
    Accepted [pair] ∨ Hidden pairs pair ↔
      ∃ field value, read? pair = some (field, value) ∧ (∃ path, Path.parse field = .ok path) ∧
        (1 < (given pairs field).length ∨ ∀ ms, value ≠ .obj ms) := by
  constructor
  case mp =>
    intro h
    cases h
    case inl h =>
      obtain ⟨⟨field, value⟩, hr⟩ := Option.ne_none_iff_exists'.mp (read?_ne_none h)
      have ⟨hp, hv⟩ := exists_stands_iff.mp <| (accepted_singleton_iff hr).mp h
      exact ⟨field, value, hr, hp, .inr hv⟩
    case inr h =>
      cases h
      case intro hr hp hn => exact ⟨_, _, hr, ⟨_, hp⟩, .inl hn⟩
  case mpr =>
    intro ⟨field, value, hr, hp, hv⟩
    by_cases ho : ∃ ms, value = .obj ms
    case pos =>
      have ⟨ms, ho⟩ := ho
      exact .inr <| .intro (ho ▸ hr) hp.choose_spec (hv.resolve_right fun hv => hv ms ho)
    case neg =>
      have hc := exists_stands_iff.mpr ⟨hp, fun ms he => ho ⟨ms, he⟩⟩
      exact .inl <| (accepted_singleton_iff hr).mpr hc

theorem accepted_iff_forall (h : pairs ≠ []) :
    Accepted pairs ↔ ∀ pair ∈ pairs, Accepted [pair] ∨ Hidden pairs pair := by
  simp only [accepted_iff h, accepted_or_hidden_iff]
  constructor
  case mp =>
    intro ⟨hr, hs⟩ pair hp
    obtain ⟨⟨field, value⟩, hv⟩ := Option.ne_none_iff_exists'.mp (hr pair hp)
    have hg : value ∈ given pairs field := mem_given_iff.mpr ⟨pair, hp, hv⟩
    have ⟨_, hj⟩ := exists_joined (List.ne_nil_of_mem hg)
    have ⟨hp, hc⟩ := exists_stands_iff.mp (hs field _ hj)
    refine ⟨field, value, hv, hp, ?_⟩
    -- A single value is a criterion of its own. One among several only stands in a list.
    rcases joined_eq_some_iff.mp hj with hl | ⟨_, _, _, hl, _⟩
    case inl => exact .inr <| List.mem_singleton.mp (hl ▸ hg) ▸ hc
    case inr => exact .inl <| by simp [hl]
  case mpr =>
    intro ha
    refine ⟨fun pair hp => ?_, fun field value hj => exists_stands_iff.mpr ?_⟩
    case refine_1 =>
      have ⟨_, _, hr, _⟩ := ha pair hp
      simp [hr]
    case refine_2 =>
      -- The path is that of any pair for the field, and an object has to be the only value.
      have ⟨first, hf⟩ := List.exists_mem_of_ne_nil _ (ne_nil_of_joined hj)
      have ⟨pair, hp, hr⟩ := mem_given_iff.mp hf
      have ⟨_, _, hr', hp, hv⟩ := ha pair hp
      cases hr.symm.trans hr'
      refine ⟨hp, ?_⟩
      rcases joined_eq_some_iff.mp hj with hl | ⟨_, _, _, _, he⟩
      case inl =>
        rw [hl, List.mem_singleton] at hf
        exact hf ▸ hv.resolve_left (by simp [hl])
      case inr => simp [he]

theorem error_iff_not_accepted (h : pairs ≠ []) : (∃ e, ofPairs pairs = .error e) ↔ ¬Accepted pairs := by
  rw [Accepted, ofPairs_eq_bind h]
  cases membersOf pairs >>= fun ms => ofJson (.obj ms) <;> simp [Except.map]

theorem ofPairs_singleton (h : read? pair = some m) : ofPairs [pair] = (empty.takeMember m).map some := by
  have hm : membersOf [pair] = .ok [m] := membersOf_eq_ok_iff.mpr ⟨by simp [h], by simp [collected, h]; rfl⟩
  rw [ofPairs_eq_bind (by simp), hm]
  change ([m].foldlM takeMember empty).map some = _
  simp

inductive Refused (pair : String) : Error → Prop
  | unequal : (splitPair? pair = none) → Refused pair (.badCriterion pair .noEqualsSign)
  | member  : (read? pair = some m) → Fault m e → Refused pair e

theorem ofPairs_singleton_eq_error_iff : ofPairs [pair] = .error e ↔ Refused pair e := by
  cases hs : splitPair? pair with
  | none   =>
    have he : ofPairs [pair] = .error (.badCriterion pair .noEqualsSign) := by
      rw [ofPairs_eq_bind (by simp), membersOf, List.foldlM_cons, membersOf.step, hs]
      rfl
    rw [he]
    refine ⟨fun h => ?_, fun h => ?_⟩
    case refine_1 => cases h; exact .unequal hs
    case refine_2 =>
      cases h
      case unequal     => rfl
      case member hr _ => simp [read?, hs] at hr
  | some s =>
    have hr : read? pair = some (s.1, valueOf s.2) := by rw [read?, hs]; rfl
    have he {r : Except Error Criteria} : r.map some = .error e ↔ r = .error e := by
      cases r <;> simp [Except.map]
    rw [ofPairs_singleton hr, he, takeMember_eq_error_iff]
    refine ⟨.member hr, fun h => ?_⟩
    cases h
    case unequal h     => simp [hs] at h
    case member hr' hf => cases hr.symm.trans hr'; exact hf

-- Pairs are refused together if one of them is refused by itself and not hidden among other values. By itself, a
-- pair is refused without an equals sign, for an object, or for a malformed path.
theorem ofPairs_error_iff (pairs : List String) :
    ((∃ e, ofPairs pairs = .error e) ↔
      ∃ pair ∈ pairs, (∃ e, ofPairs [pair] = .error e) ∧ ¬Hidden pairs pair) ∧
    (∀ pair e, ofPairs [pair] = .error e ↔ Refused pair e) := by
  refine ⟨?_, fun _ _ => ofPairs_singleton_eq_error_iff⟩
  by_cases hn : pairs = []
  case pos => simp [hn, ofPairs]
  case neg =>
    rw [error_iff_not_accepted hn, accepted_iff_forall hn]
    simp [error_iff_not_accepted]

theorem ofPairs_hides_object :
    ofPairs ["id=\x7b\x7d"] = .error (.badCriterion "id" .objectValue) ∧
    ∃ cs, ofPairs ["id=\x7b\x7d", "id=1"] = .ok (some cs) :=
  ⟨rfl, _, rfl⟩

end Criteria
end StatsQuery
