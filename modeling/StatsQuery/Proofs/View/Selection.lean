import Mathlib.Data.List.Forall2
import Mathlib.Data.List.Induction
import Mathlib.Data.List.Sort
import StatsQuery.Proofs.View.Restriction

namespace StatsQuery.Json

namespace Members

variable {ms ns kept : Members} {fields : List String} {key : String} {p : String → Bool}

theorem ext_lookup (h : Sorted ms) (h' : Sorted ns) (hl : ∀ name, ms.lookup name = ns.lookup name) : ms = ns := by
  have : Std.Irrefl fun m n : String × Json => m.1 < n.1 := ⟨fun _ => String.lt_irrefl _⟩
  have : Std.Antisymm fun m n : String × Json => m.1 < n.1 :=
    ⟨fun _ _ h h' => absurd (String.lt_trans h h') (String.lt_irrefl _)⟩
  exact h.eq_of_mem_iff h' fun (key, value) => by rw [mem_iff_lookup h, mem_iff_lookup h', hl]

theorem lookup_filter (name : String) : (ms.filter (p ·.1)).lookup name = if p name then ms.lookup name else none := by
  induction ms with
  | nil          => simp
  | cons m ms hi =>
    obtain ⟨key, value⟩ := m
    by_cases hn : name = key
    case pos =>
      subst hn
      cases hp : p name <;> simp [hp, hi]
    case neg => cases hp : p key <;> simp [hp, hi, List.lookup_cons, beq_false_of_ne hn]

theorem pick_eq_filter (h : Sorted ms) : pick ms fields = ms.filter (·.1 ∈ fields) := by
  refine ext_lookup sorted_pick (h.filter _) fun name => ?_
  rw [lookup_pick, lookup_filter (p := (· ∈ fields))]
  simp

theorem pick_pick (ms : Members) (fields others : List String) :
    pick (pick ms fields) others = pick ms (fields.filter (· ∈ others)) := by
  refine ext_lookup sorted_pick sorted_pick fun name => ?_
  by_cases hf : name ∈ fields <;> by_cases ho : name ∈ others <;> simp [lookup_pick, hf, ho]

theorem pick_congr (h : ∀ field, field ∈ fields ↔ field ∈ others) : pick ms fields = pick ms others :=
  ext_lookup sorted_pick sorted_pick fun name => by simp only [lookup_pick, h]

def move (s : Members × Members) (field : String) : Members × Members :=
  (s.1.erase field, take s.1 s.2 field)

-- A name that comes up again finds nothing any more, and what has been kept for it stays.
theorem foldl_move (ms : Members) (fields : List String) :
    fields.foldl move (ms, []) = (ms.filter (·.1 ∉ fields), pick ms fields) := by
  induction fields using List.reverseRecOn with
  | nil                           => simp [pick]
  | append_singleton fields field hi =>
    rw [List.foldl_append, hi, List.foldl_cons, List.foldl_nil, move]
    refine Prod.ext ?left ?kept
    case left =>
      simp only [erase, List.filter_filter, List.mem_append, List.mem_singleton, not_or]
      exact List.filter_congr fun m _ => by simp [and_comm]
    case kept =>
      refine ext_lookup (sorted_take sorted_pick) sorted_pick fun name => ?_
      rw [lookup_take, lookup_pick, lookup_pick, lookup_filter (p := (· ∉ fields))]
      by_cases hn : name = field <;> by_cases hf : name ∈ fields <;> simp_all

end Members

def only (fields : List String) : Json → Json
  | obj ms => obj (ms.filter (·.1 ∈ fields))
  | j      => j

variable {records : List Json} {record : Json} {fields others : List String}

theorem restrict_eq_only (h : record.WellFormed) : record.restrict fields = only fields record := by
  cases record with
  | obj ms => exact congrArg obj <| Members.pick_eq_filter h.left
  | _      => rfl

theorem restrict_restrict (record : Json) (fields others : List String) :
    (record.restrict fields).restrict others = record.restrict (fields.filter (· ∈ others)) := by
  cases record with
  | obj ms => exact congrArg obj <| Members.pick_pick ms fields others
  | _      => rfl

theorem restrict_congr (h : ∀ field, field ∈ fields ↔ field ∈ others) : record.restrict fields = record.restrict others := by
  cases record with
  | obj ms => exact congrArg obj <| Members.pick_congr h
  | _      => rfl

theorem selectFields_congr (h : ∀ field, field ∈ fields ↔ field ∈ others) :
    selectFields records fields = selectFields records others :=
  List.map_congr_left fun _ _ => restrict_congr h

theorem selectFields_selectFields (records : List Json) (fields others : List String) :
    selectFields (selectFields records fields) others = selectFields records (fields.filter (· ∈ others)) := by
  rw [selectFields, selectFields, selectFields, List.map_map]
  exact List.map_congr_left fun record _ => restrict_restrict record fields others

-- Each record keeps its place and loses the members that are not listed, also if members are moved out of it by name after
-- name. So selecting fields twice selects the fields that are listed both times, selecting them again changes nothing, and
-- how they are ordered and repeated makes no difference.
theorem selectFields_composes (records : List Json) (fields others : List String) :
    List.Forall₂ (Restricts fields) records (selectFields records fields) ∧
    ((∀ record ∈ records, record.WellFormed) → selectFields records fields = records.map (only fields)) ∧
    (∀ ms : Members, fields.foldl Members.move (ms, []) = (ms.filter (·.1 ∉ fields), ms.pick fields)) ∧
    selectFields (selectFields records fields) others = selectFields records (fields.filter (· ∈ others)) ∧
    selectFields (selectFields records fields) fields = selectFields records fields ∧
    ∀ same, (∀ field, field ∈ same ↔ field ∈ fields) → selectFields records same = selectFields records fields := by
  refine ⟨?restricts, ?only, fun ms => Members.foldl_move ms fields, selectFields_selectFields .., ?again,
    fun _ h => selectFields_congr h⟩
  case restricts =>
    refine List.forall₂_map_right_iff.mpr <| List.forall₂_same.mpr fun record _ => ?_
    exact restricts_restrict fields record
  case only => exact fun h => List.map_congr_left fun record hr => restrict_eq_only (h record hr)
  case again =>
    rw [selectFields_selectFields]
    exact selectFields_congr fun field => by simp

theorem selectFields_composes_repeated :
    let record := Json.obj [("goals", .ofNat 3), ("id", .ofNat 1), ("name", .str "A")]
    let records := [record, .str "x"]
    let selected := [Json.obj [("goals", .ofNat 3), ("id", .ofNat 1)], .str "x"]
    (∀ record ∈ records, record.WellFormed) ∧ (∀ field, field ∈ ["id", "goals"] ↔ field ∈ ["goals", "id", "goals"]) ∧
      selectFields records ["goals", "id", "goals"] = selected ∧ selectFields records ["id", "goals"] = selected ∧
      selectFields selected ["name", "id"] = selectFields records ["id"] := by
  intro record records selected
  have hm : Members.Sorted [("goals", .ofNat 3), ("id", .ofNat 1), ("name", .str "A")] := by
    unfold Members.Sorted
    decide
  have hw : ∀ record ∈ records, record.WellFormed :=
    List.forall_mem_cons.mpr ⟨⟨hm, trivial, trivial, trivial, trivial⟩, List.forall_mem_singleton.mpr trivial⟩
  have hf : ∀ field, field ∈ ["id", "goals"] ↔ field ∈ ["goals", "id", "goals"] := by simp [or_comm]
  have ⟨_, ho, _, hc, _, hs⟩ := selectFields_composes records ["goals", "id", "goals"] ["name", "id"]
  have hr : selectFields records ["goals", "id", "goals"] = selected := (ho hw).trans rfl
  exact ⟨hw, hf, hr, (hs _ hf).trans hr, hr ▸ hc⟩

end StatsQuery.Json
