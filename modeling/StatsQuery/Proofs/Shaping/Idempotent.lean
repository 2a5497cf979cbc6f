import StatsQuery.Proofs.Shaping.FilterFirst

namespace StatsQuery

theorem SortSpec.apply_of_ordered {keys : List SortKey} {records : List Json}
    (h : ∀ key ∈ keys, Json.TransitiveOn (key.values records))
    (ho : records.Pairwise fun a b => (SortKey.compareAll keys a b).isLE) : apply ⟨keys⟩ records = records :=
  (apply_arranged h).eq_of_ordered (SortKey.preorderOn_all h) ho

-- The records that an answer carries: those of its `data`, or its own items.
inductive Json.Carries : Json → List Json → Prop
  | data  : (response.get? "data" = some (.arr records)) → Carries response records
  | items : Carries (.arr records) records

theorem Json.Carries.unique {response : Json} (h : response.Carries records) (h' : response.Carries records') :
    records = records' := by
  cases h with
  | items  => cases h' with
    | items   => rfl
    | data h' => contradiction
  | data h => cases h' with
    | items   => contradiction
    | data h' => cases h.symm.trans h'; rfl

namespace Shaping

variable {s : Shaping} {response : Json} {records : List Json}

theorem applyToResponse_of_carries (h : response.Carries records) : s.applyToResponse response = s.apply records := by
  cases h with
  | data h => simp only [applyToResponse, h]
  | items  => rfl

theorem applyToResponse_of_not_carries (h : ∀ records, ¬response.Carries records) :
    s.applyToResponse response = response.project s.view s.viewMode := by
  unfold applyToResponse
  split
  case h_1 hd => exact absurd (.data hd) (h _)
  case h_2    => exact absurd .items (h _)
  case h_3    => rfl

theorem process_of_no_fields (hf : s.fields = none) :
    s.process records = (SortSpec.apply ⟨s.keys⟩ records).filter s.survives := by
  rw [process_eq, hf]
  rfl

theorem process_process
    (hf : s.fields = none) (h : ∀ key ∈ s.keys, Json.TransitiveOn (key.values records)) :
    s.process (s.process records) = s.process records := by
  rw [process_of_no_fields hf, process_of_no_fields hf]
  have hs : (SortSpec.apply ⟨s.keys⟩ records).filter s.survives ⊆ records :=
    fun _ ha => SortSpec.apply_perm.subset <| List.filter_sublist.subset ha
  have ho := (SortSpec.apply_ordered h).filter s.survives
  rw [SortSpec.apply_of_ordered (fun key hk => SortKey.transitiveOn_mono (h key hk) hs) ho, List.filter_filter]
  simp only [Bool.and_self]

theorem apply_of_no_view (hv : s.view = none) :
    s.apply records = .ok (some (envelope (s.process records) (s.process records).length)) := by
  rw [apply, finish, hv]
  rfl

-- Whatever the filters and the sort are, an answer has an outcome, and shaping that again changes nothing.
theorem applyToResponse_idempotent
    (s : Shaping) (response : Json) (hf : s.fields = none) (hv : s.view = none)
    (h : ∀ records, response.Carries records → ∀ key ∈ s.keys, Json.TransitiveOn (key.values records)) :
    ∃ out, s.applyToResponse response = .ok (some out) ∧ s.applyToResponse out = .ok (some out) := by
  by_cases hc : ∃ records, response.Carries records
  case pos =>
    have ⟨records, hc⟩ := hc
    have he : (envelope (s.process records) (s.process records).length).Carries (s.process records) := .data rfl
    refine ⟨_, (applyToResponse_of_carries hc).trans <| apply_of_no_view hv, ?_⟩
    rw [applyToResponse_of_carries he, apply_of_no_view hv, process_process hf (h records hc)]
  case neg =>
    have hn := not_exists.mp hc
    have hr : s.applyToResponse response = .ok (some response) := by
      rw [applyToResponse_of_not_carries hn, hv]
      rfl
    exact ⟨response, hr, hr⟩

theorem applyToResponse_idempotent_envelope :
    let points : SortKey := ⟨⟨["points"], by decide, by decide⟩, .descending⟩
    let id : Path := ⟨["id"], by decide, by decide⟩
    let s : Shaping := {
      filter  := some .empty
      exclude := some ⟨[(id, .equals (.ofNat 3))]⟩
      sort    := some ⟨[points]⟩ }
    let record (id points : Nat) : Json := .obj [("id", .ofNat id), ("points", .ofNat points)]
    let response := Json.obj
      [("data", .arr [record 1 5, record 2 8, record 3 9]), ("next", .null), ("total", .ofNat 812)]
    let out := envelope [record 2 8, record 1 5] 2
    (s.fields = none ∧ s.view = none ∧
      ∀ records, response.Carries records → ∀ key ∈ s.keys, Json.TransitiveOn (key.values records)) ∧
    s.applyToResponse response = .ok (some out) ∧ s.applyToResponse out = .ok (some out) := by
  intro points id s record response out
  have hv : points.values [record 1 5, record 2 8, record 3 9] = [5, 8, 9].map .ofNat := rfl
  have hn : ∀ n ∈ [5, 8, 9], (Number.ofNat n).toSigned? ≠ none := by decide
  have h : ∀ records, response.Carries records → ∀ key ∈ s.keys, Json.TransitiveOn (key.values records) := by
    intro records hr key hk
    rw [List.mem_singleton.mp hk, hr.unique (.data rfl), hv]
    refine Json.transitiveOn_of_signed ?_
    simpa [Json.NumbersIn, Json.ofNat] using hn
  have hr : s.applyToResponse response = .ok (some out) := rfl
  obtain ⟨out', hr', ho⟩ := applyToResponse_idempotent s response rfl rfl h
  cases hr.symm.trans hr'
  exact ⟨⟨rfl, rfl, h⟩, hr, ho⟩

end Shaping
end StatsQuery
