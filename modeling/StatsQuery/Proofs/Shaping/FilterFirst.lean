import Mathlib.Data.List.Forall2
import StatsQuery.Proofs.Sort.Lexicographic
import StatsQuery.Proofs.View.Restriction
import StatsQuery.Shaping

namespace StatsQuery

namespace Shaping

variable {s : Shaping} {records : List Json}

def keys (s : Shaping) : List SortKey :=
  s.sort.elim [] (·.keys)

def survives (s : Shaping) (record : Json) : Bool :=
  s.filter.all (fun cs => cs.isEmpty || cs.accepts record) &&
    s.exclude.all (fun cs => cs.isEmpty || !cs.accepts record)

def Selects (s : Shaping) (record selected : Json) : Prop :=
  s.fields.elim (selected = record) (Json.Restricts · record selected)

theorem step_sort (s : Shaping) (records : List Json) :
    step s.sort (fun rs spec => spec.apply rs) records = SortSpec.apply ⟨s.keys⟩ records := by
  cases h : s.sort <;> simp only [step, keys, h] <;> rfl

theorem step_filter (criteria : Option Criteria) (mode : FilterMode) (records : List Json) :
    step criteria (fun rs cs => filterRecords rs cs mode) records =
      records.filter fun r => criteria.all fun cs => cs.isEmpty || mode.admits (cs.accepts r) := by
  cases criteria
  case none => simp [step]
  case some cs => cases h : cs.isEmpty <;> simp [step, filterRecords, h]

theorem step_fields (s : Shaping) (records : List Json) :
    List.Forall₂ s.Selects records (step s.fields Json.selectFields records) := by
  unfold Selects
  cases s.fields
  case none => exact List.forall₂_same.mpr fun _ _ => rfl
  case some fields =>
    exact List.forall₂_map_right_iff.mpr <|
      List.forall₂_same.mpr fun record _ => Json.restricts_restrict fields record

theorem process_eq (s : Shaping) (records : List Json) :
    s.process records =
      step s.fields Json.selectFields ((SortSpec.apply ⟨s.keys⟩ records).filter s.survives) := by
  simp only [process, step_sort, step_filter, List.filter_filter]
  congr 2
  funext record
  simp only [survives, FilterMode.admits, Bool.and_comm]

-- Shaping keeps the records that the filters let through, as often as they occur, sorts what is left, cuts
-- each record down to the selected fields, counts the records and drills into the result. Sorting all of the
-- records and dropping some of them afterwards makes no difference.
theorem apply_filter_first
    (s : Shaping) (h : ∀ key ∈ s.keys, Json.TransitiveOn (key.values records)) :
    let survivors := records.filter s.survives
    let sorted := SortSpec.apply ⟨s.keys⟩ survivors
    Arranged (SortKey.compareAll s.keys) survivors sorted ∧
    (SortSpec.apply ⟨s.keys⟩ records).filter s.survives = sorted ∧
    ∃ selected, List.Forall₂ s.Selects sorted selected ∧
      s.apply records =
        (Json.obj [("data", .arr selected), ("total", .ofNat survivors.length)]).project s.view s.viewMode := by
  intro survivors sorted
  have hf := SortSpec.filter_apply h s.survives
  have hp : sorted.Perm survivors := SortSpec.apply_perm
  have hs := s.step_fields sorted
  refine ⟨?arranged, hf, _, hs, ?shaped⟩
  case arranged => exact SortSpec.apply_arranged fun key hk => SortKey.transitiveOn_filter (h key hk) _
  case shaped =>
    rw [apply, process_eq, hf, ← hs.length_eq, hp.length_eq]
    rfl

theorem apply_filter_first_dropped :
    let points : SortKey := ⟨⟨["points"], by decide, by decide⟩, .descending⟩
    let position : Path := ⟨["position"], by decide, by decide⟩
    let id : Path := ⟨["id"], by decide, by decide⟩
    let s : Shaping := {
      filter  := some ⟨[(position, .memberOf [.str "C", .str "L"])]⟩
      exclude := some ⟨[(id, .equals (.ofNat 3))]⟩
      sort    := some ⟨[points]⟩
      fields  := some ["id"]
      view    := some "data" }
    let a := Json.obj [("id", .ofNat 1), ("points", .ofNat 80), ("position", .str "C")]
    let b := Json.obj [("id", .ofNat 2), ("points", .ofNat 99), ("position", .str "D")]
    let c := Json.obj [("id", .ofNat 3), ("points", .ofNat 60), ("position", .str "L")]
    let d := Json.obj [("id", .ofNat 4), ("points", .ofNat 95), ("position", .str "C")]
    (∀ key ∈ s.keys, Json.TransitiveOn (key.values [a, b, c, d])) ∧
      ∃ selected, List.Forall₂ (Json.Restricts ["id"]) [d, a] selected ∧
        s.apply [a, b, c, d] =
          (Json.obj [("data", .arr selected), ("total", .ofNat 2)]).project (some "data") .lenient := by
  intro points position id s a b c d
  have hv : points.values [a, b, c, d] = [80, 99, 60, 95].map .ofNat := rfl
  have hn : ∀ n ∈ [80, 99, 60, 95], (Number.ofNat n).toSigned? ≠ none := by decide
  have h : ∀ key ∈ s.keys, Json.TransitiveOn (key.values [a, b, c, d]) := by
    intro key hk
    rw [List.mem_singleton.mp hk, hv]
    refine Json.transitiveOn_of_signed ?_
    simpa [Json.NumbersIn, Json.ofNat] using hn
  have hs : SortSpec.apply ⟨s.keys⟩ ([a, b, c, d].filter s.survives) = [d, a] := rfl
  obtain ⟨selected, hl, hr⟩ := (apply_filter_first s h).right.right
  exact ⟨h, selected, hs ▸ hl, hr⟩

end Shaping
end StatsQuery
