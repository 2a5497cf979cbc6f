import StatsQuery.Proofs.Filter.Pairs
import StatsQuery.Proofs.Sort.Lexicographic
import StatsQuery.Proofs.View.Dotted

namespace StatsQuery

theorem Direction.name_inj {d d' : Direction} : d.name = d'.name ↔ d = d' := by
  cases d <;> cases d' <;> decide

section Members

variable {keys : List SortKey} {field : Path}

def SortKey.member (key : SortKey) : String × Json :=
  (key.field.toString, .str key.direction.name)

theorem SortKey.lookup_member :
    (keys.map member).lookup field.toString = (keys.find? (·.field = field)).map fun key => .str key.direction.name := by
  induction keys with
  | nil            => rfl
  | cons key keys hi =>
    by_cases hf : key.field = field
    case pos => simp [member, hf]
    case neg =>
      have hn : field.toString ≠ key.field.toString := fun h => hf (Path.toString_inj.mp h).symm
      simp [member, hf, List.lookup_cons, beq_false_of_ne hn, ← hi]

end Members

namespace SortKey

variable {key key' : SortKey} {keys : List SortKey} {a b : Json}

theorem compare_eq_of_field_eq (hf : key.field = key'.field) (h : key.compare a b = .eq) : key'.compare a b = .eq := by
  have hv (r : Json) : key'.valueOf r = key.valueOf r := by rw [valueOf, valueOf, hf]
  simp only [compare, hv] at h ⊢
  split at h
  case h_4 =>
    have hc : (key.valueOf a).compare (key.valueOf b) = .eq := by
      cases hd : key.direction <;> simpa [hd] using h
    cases hd : key'.direction <;> simp [hc]
  all_goals simp_all

theorem compareAll_filter {p : SortKey → Bool} (h : ∀ key ∈ keys, p key = false → key.compare a b = .eq) :
    compareAll (keys.filter p) a b = compareAll keys a b := by
  induction keys with
  | nil            => rfl
  | cons key keys hi =>
    have ⟨hk, hs⟩ := List.forall_mem_cons.mp h
    cases hp : p key with
    | true  => rw [List.filter_cons_of_pos hp, compareAll, compareAll, hi hs]
    | false => rw [List.filter_cons_of_neg (by simp [hp]), hi hs, compareAll, hk hp, Ordering.eq_then]

-- The keys that decide: the first one of each field.
def leading : List SortKey → List SortKey
  | []          => []
  | key :: keys => key :: (leading keys).filter (·.field ≠ key.field)

theorem leading_sublist (keys : List SortKey) : (leading keys).Sublist keys := by
  induction keys with
  | nil              => exact .slnil
  | cons key keys hi => exact (List.filter_sublist.trans hi).cons_cons key

theorem leading_distinct (keys : List SortKey) : (leading keys).Pairwise (·.field ≠ ·.field) := by
  induction keys with
  | nil              => exact .nil
  | cons key keys hi =>
    refine .cons (fun key' hk => ?_) (hi.filter _)
    exact Ne.symm <| by simpa using (List.mem_filter.mp hk).right

theorem mem_leading_iff : key ∈ leading keys ↔ keys.find? (·.field = key.field) = some key := by
  induction keys with
  | nil                => simp [leading]
  | cons first keys hi =>
    by_cases hf : first.field = key.field
    case pos => simp [leading, hf, eq_comm]
    case neg =>
      have hn : key ≠ first := fun h => hf (h ▸ rfl)
      simp [leading, hf, hn, hi, Ne.symm hf]

-- Behind the first key of a field, another one finds no difference that the first one has not found.
theorem compareAll_leading (keys : List SortKey) (a b : Json) : compareAll (leading keys) a b = compareAll keys a b := by
  induction keys with
  | nil              => rfl
  | cons key keys hi =>
    rw [leading, compareAll, compareAll]
    cases hk : key.compare a b with
    | lt | gt => rfl
    | eq      =>
      rw [Ordering.eq_then, Ordering.eq_then, ← hi]
      refine compareAll_filter fun key' _ hf => compare_eq_of_field_eq (Eq.symm ?_) hk
      simpa using hf

end SortKey

namespace SortSpec

variable {s : SortSpec} {field : Path} {direction : Direction} {records : List Json}
variable {direction? direction?' : Path → Option Direction}

def first? (s : SortSpec) (field : Path) : Option Direction :=
  (s.keys.find? (·.field = field)).map (·.direction)

def last? (s : SortSpec) (field : Path) : Option Direction :=
  (s.keys.reverse.find? (·.field = field)).map (·.direction)

def leading (s : SortSpec) : SortSpec :=
  ⟨SortKey.leading s.keys⟩

inductive Tells (direction? : Path → Option Direction) : Json → Prop
  | intro :
    (Json.Members.Sorted ms) →
    (∀ name j, (name, j) ∈ ms ↔ ∃ field d, direction? field = some d ∧ name = field.toString ∧ j = .str d.name) →
      Tells direction? (.obj ms)

theorem Tells.unique (h : Tells direction? j) (h' : Tells direction?' j) : direction? = direction?' := by
  cases h with | intro _ hm =>
  cases h' with | intro _ hm' =>
  have hd (field d) : direction? field = some d ↔ direction?' field = some d := by
    have hs := (hm field.toString (.str d.name)).symm.trans <| hm' field.toString (.str d.name)
    simpa [Path.toString_inj, Direction.name_inj, and_comm] using hs
  exact funext fun field => Option.ext <| hd field

theorem summary_tells_last (s : SortSpec) : Tells s.last? s.summary := by
  refine .intro Json.Members.sorted_ofList fun name j => ?_
  rw [Json.Members.mem_iff_lookup Json.Members.sorted_ofList, Json.Members.lookup_ofList, ← List.map_reverse]
  have hl (field : Path) :
      (s.keys.reverse.map SortKey.member).lookup field.toString = some j ↔
        ∃ d, s.last? field = some d ∧ j = .str d.name := by
    simp only [SortKey.lookup_member, last?, Option.map_eq_some_iff]
    exact ⟨fun ⟨key, hk, hj⟩ => ⟨_, ⟨key, hk, rfl⟩, hj.symm⟩, fun ⟨_, ⟨key, hk, hd⟩, hj⟩ => ⟨key, hk, hd ▸ hj.symm⟩⟩
  constructor
  case mp =>
    intro h
    have ⟨before, after, he, _⟩ := List.lookup_eq_some_iff.mp h
    have hm : (name, j) ∈ s.keys.reverse.map SortKey.member := he ▸ List.mem_append_right before List.mem_cons_self
    have ⟨key, _, hk⟩ := List.mem_map.mp hm
    have hn : name = key.field.toString := (Prod.mk.inj hk).left.symm
    have ⟨d, hd, hj⟩ := (hl key.field).mp (hn ▸ h)
    exact ⟨key.field, d, hd, hn, hj⟩
  case mpr =>
    rintro ⟨field, d, hd, rfl, hj⟩
    exact (hl field).mpr ⟨d, hd, hj⟩

theorem first?_eq_some_iff : s.first? field = some direction ↔ ⟨field, direction⟩ ∈ s.leading.keys := by
  simp only [first?, leading, SortKey.mem_leading_iff, Option.map_eq_some_iff]
  constructor
  case mp =>
    intro ⟨key, hk, hd⟩
    have hf : key.field = field := by simpa using List.find?_some hk
    rw [hk, ← hd, ← hf]
  case mpr => exact fun h => ⟨_, h, rfl⟩

theorem apply_leading (h : ∀ key ∈ s.keys, Json.TransitiveOn (key.values records)) :
    s.leading.apply records = s.apply records := by
  have hc : SortKey.compareAll (SortKey.leading s.keys) = SortKey.compareAll s.keys :=
    funext₂ <| SortKey.compareAll_leading s.keys
  have ha := apply_arranged fun key hk => h key <| (SortKey.leading_sublist s.keys).mem hk
  exact (hc ▸ ha).unique (SortKey.preorderOn_all h) (apply_arranged h)

-- A summary has the fields of all keys, each with the direction of its last key. The first key of each field is the one
-- that decides: without the others, the records are sorted alike. So the summary tells the directions in force exactly if
-- no field has another direction in its last key than in its first one.
theorem summary_tells_first_iff (s : SortSpec) :
    Tells s.last? s.summary ∧
    (Tells s.first? s.summary ↔ s.first? = s.last?) ∧
    (∀ field direction, s.first? field = some direction ↔ ⟨field, direction⟩ ∈ s.leading.keys) ∧
    s.leading.keys.Sublist s.keys ∧ s.leading.keys.Pairwise (·.field ≠ ·.field) ∧
    ∀ records, (∀ key ∈ s.keys, Json.TransitiveOn (key.values records)) → s.leading.apply records = s.apply records := by
  have hl := summary_tells_last s
  refine ⟨hl, ⟨fun hf => hf.unique hl, fun he => he ▸ hl⟩, ?_⟩
  exact ⟨fun _ _ => first?_eq_some_iff, SortKey.leading_sublist _, SortKey.leading_distinct _, fun _ => apply_leading⟩

theorem summary_tells_first_iff_repeated :
    let goals : Path := ⟨["goals"], by decide, by decide⟩
    let points : Path := ⟨["points"], by decide, by decide⟩
    let s : SortSpec := ⟨[⟨goals, .ascending⟩, ⟨points, .descending⟩, ⟨goals, .descending⟩]⟩
    let a := Json.obj [("goals", .ofNat 7), ("points", .ofNat 9)]
    let b := Json.obj [("goals", .ofNat 3), ("points", .ofNat 4)]
    let c := Json.obj [("goals", .ofNat 3), ("points", .ofNat 8)]
    (∀ key ∈ s.keys, Json.TransitiveOn (key.values [a, b, c])) ∧
      s.leading.keys = [⟨goals, .ascending⟩, ⟨points, .descending⟩] ∧
      s.leading.apply [a, b, c] = s.apply [a, b, c] ∧ s.apply [a, b, c] = [c, b, a] := by
  intro goals points s a b c
  have ht (ns : List Nat) (hn : ∀ n ∈ ns, (Number.ofNat n).toSigned? ≠ none) : Json.TransitiveOn (ns.map .ofNat) :=
    Json.transitiveOn_of_signed <| List.forall_mem_map.mpr hn
  have hg : Json.TransitiveOn ([a, b, c].filterMap goals.resolve) := ht [7, 3, 3] (by decide)
  have hp : Json.TransitiveOn ([a, b, c].filterMap points.resolve) := ht [9, 4, 8] (by decide)
  have h : ∀ key ∈ s.keys, Json.TransitiveOn (key.values [a, b, c]) :=
    List.forall_mem_cons.mpr ⟨hg, List.forall_mem_cons.mpr ⟨hp, List.forall_mem_singleton.mpr hg⟩⟩
  have ha := (summary_tells_first_iff s).right.right.right.right.right [a, b, c] h
  exact ⟨h, rfl, ha, rfl⟩

theorem summary_not_tells_first :
    let goals : Path := ⟨["goals"], by decide, by decide⟩
    let s : SortSpec := ⟨[⟨goals, .ascending⟩, ⟨goals, .descending⟩]⟩
    let one := Json.obj [("goals", .ofNat 1)]
    let two := Json.obj [("goals", .ofNat 2)]
    s.apply [two, one] = [one, two] ∧ s.summary = .obj [("goals", .str "DESC")] ∧ ¬Tells s.first? s.summary := by
  intro goals s one two
  have hs : s.summary = .obj [("goals", .str "DESC")] := by
    simp [s, goals, summary, Json.ofMembers, Json.Members.ofList, Json.Members.insert, Path.toString, Direction.name]
  refine ⟨rfl, hs, fun h => ?_⟩
  have hd : s.first? goals = s.last? goals := congrFun (h.unique <| summary_tells_last s) goals
  exact absurd hd (by decide)

end SortSpec

end StatsQuery
