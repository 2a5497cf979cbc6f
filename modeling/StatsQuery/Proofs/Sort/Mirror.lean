import StatsQuery.Proofs.Filter.Partition
import StatsQuery.Proofs.Sort.Lexicographic

namespace StatsQuery

section

variable {cmp cmp' : α → α → Ordering} {p : α → Bool} {as sorted : List α}

theorem filter_append_filter_not (h : as.Pairwise fun a b => p b → p a) : as.filter p ++ as.filter (!p ·) = as := by
  induction as with
  | nil          => rfl
  | cons a as hi =>
    have ⟨ha, h⟩ := List.pairwise_cons.mp h
    cases hp : p a with
    | true  => simp [hp, hi h]
    | false =>
      have hn : ∀ b ∈ as, p b = false := fun b hb => by simpa [hp] using ha b hb
      have hf : as.filter p = [] := List.filter_eq_nil_iff.mpr fun b hb => by simp [hn b hb]
      rw [← hi h, hf]
      simp [hp]

-- Read backwards, an arrangement of the reversed items arranges them by the reversed comparison.
theorem Arranged.mirror
    (hs : Arranged cmp as.reverse sorted) (h : PreorderOn cmp as) (hc : ∀ a ∈ as, ∀ b ∈ as, cmp' a b = cmp b a) :
    Arranged cmp' as sorted.reverse := by
  have hm : ∀ a ∈ sorted, a ∈ as := fun a ha => List.mem_reverse.mp <| hs.perm.mem_iff.mp ha
  refine ⟨sorted.reverse_perm.trans <| hs.perm.trans as.reverse_perm, ?ordered, fun a ha => ?stable⟩
  case ordered =>
    rw [List.pairwise_reverse]
    refine hs.ordered.imp_of_mem fun hb ha hba => ?_
    rwa [hc _ (hm _ ha) _ (hm _ hb)]
  case stable =>
    have ht : ∀ b ∈ as, (cmp' a b == .eq) = (cmp a b == .eq) := by
      intro b hb
      rw [hc a ha b hb, h.swap b a]
      cases cmp a b <;> rfl
    calc sorted.reverse.filter (cmp' a · == .eq)
      _ = (sorted.filter (cmp a · == .eq)).reverse := by
        rw [List.filter_reverse, List.filter_congr fun b hb => ht b (hm b hb)]
      _ = as.filter (cmp a · == .eq) := by
        rw [hs.stable a (List.mem_reverse.mpr ha), List.filter_reverse, List.reverse_reverse]
      _ = as.filter (cmp' a · == .eq) := (List.filter_congr ht).symm

end

def Criteria.absent (field : Path) : Criteria :=
  ⟨[(field, .absent)]⟩

namespace SortKey

variable {key : SortKey} {field : Path} {direction : Direction} {a b j k : Json} {records : List Json}

theorem accepts_absent_iff : (Criteria.absent key.field).accepts a = true ↔ key.Lacks a := by
  simp only [Criteria.absent, Criteria.accepts, List.all_cons, List.all_nil, Bool.and_true, Lacks]
  cases key.field.resolve a with
  | none   => simp [Criterion.holds]
  | some j => cases j <;> simp [Criterion.holds, Json.isNull]

theorem absent_ne_nil (field : Path) : (Criteria.absent field).criteria ≠ [] :=
  List.cons_ne_nil _ _

theorem holds_of_mem_exclude (key : SortKey) (h : a ∈ filterRecords records (.absent key.field) .exclude) :
    a ∈ records ∧ ∃ j, key.Holds a j := by
  rw [filterRecords_of_ne_nil (absent_ne_nil _), List.mem_filter] at h
  refine ⟨h.left, (key.lacks_or_holds a).resolve_left fun hl => ?_⟩
  simp [FilterMode.admits, accepts_absent_iff.mpr hl] at h

theorem Lacks.of_isLE (hb : key.Lacks b) (h : (key.compare a b).isLE) : key.Lacks a := by
  refine (key.lacks_or_holds a).resolve_right fun ⟨_, ha⟩ => ?_
  have ⟨k, hk⟩ := ha.of_isLE h
  exact hk.not_null <| hb k hk.resolve

theorem Holds.turn (h : Holds ⟨field, direction⟩ a j) (direction' : Direction) : Holds ⟨field, direction'⟩ a j :=
  ⟨h.resolve, h.not_null⟩

theorem compare_descending (ha : Holds ⟨field, .ascending⟩ a j) (hb : Holds ⟨field, .ascending⟩ b k) :
    SortKey.compare ⟨field, .descending⟩ a b = SortKey.compare ⟨field, .ascending⟩ b a := by
  rw [(Ranks.descending rfl (ha.turn _) (hb.turn _)).compare_eq, (Ranks.ascending rfl hb ha).compare_eq,
    ← Json.compare_swap]

theorem compareAll_singleton (key : SortKey) : compareAll [key] = key.compare := by
  funext a b
  exact Ordering.then_eq

end SortKey

namespace SortSpec

variable {key : SortKey} {field : Path} {records : List Json}

theorem apply_singleton_arranged (h : Json.TransitiveOn (key.values records)) :
    Arranged key.compare records (apply ⟨[key]⟩ records) :=
  SortKey.compareAll_singleton key ▸ apply_arranged (by simpa using h)

theorem apply_lacking_first (h : Json.TransitiveOn (key.values records)) :
    apply ⟨[key]⟩ records =
      filterRecords records (.absent key.field) .keep ++
        apply ⟨[key]⟩ (filterRecords records (.absent key.field) .exclude) := by
  have hl : ∀ key' ∈ [key], ∀ a ∈ records, ∀ b ∈ records,
      (Criteria.absent key.field).accepts a → (Criteria.absent key.field).accepts b → key'.compare a b = .eq := by
    intro key' hk a _ b _ ha hb
    rw [List.mem_singleton.mp hk]
    exact (SortKey.Ranks.neither (SortKey.accepts_absent_iff.mp ha) (SortKey.accepts_absent_iff.mp hb)).compare_eq
  have hp : (apply ⟨[key]⟩ records).Pairwise fun a b =>
      (Criteria.absent key.field).accepts b → (Criteria.absent key.field).accepts a := by
    refine (apply_singleton_arranged h).ordered.imp fun hab hb => ?_
    exact SortKey.accepts_absent_iff.mpr <| (SortKey.accepts_absent_iff.mp hb).of_isLE hab
  rw [filterRecords_keep, filterRecords_of_ne_nil (SortKey.absent_ne_nil _)]
  simp only [FilterMode.admits]
  rw [← filter_apply (by simpa using h), ← apply_filter hl, filter_append_filter_not hp]

theorem apply_descending
    (hh : ∀ a ∈ records, ∃ j, SortKey.Holds ⟨field, .ascending⟩ a j)
    (h : ∀ direction, Json.TransitiveOn (SortKey.values ⟨field, direction⟩ records)) :
    apply ⟨[⟨field, .descending⟩]⟩ records = (apply ⟨[⟨field, .ascending⟩]⟩ records.reverse).reverse := by
  have hr : Json.TransitiveOn (SortKey.values ⟨field, .ascending⟩ records.reverse) :=
    SortKey.transitiveOn_mono (h .ascending) fun _ => List.mem_reverse.mp
  have ha := apply_singleton_arranged hr
  have hd := apply_singleton_arranged (h .descending)
  refine hd.unique (SortKey.preorderOn (h .descending)) <| ha.mirror (SortKey.preorderOn (h .ascending)) ?_
  intro a ha b hb
  have ⟨_, ha⟩ := hh a ha
  have ⟨_, hb⟩ := hh b hb
  exact SortKey.compare_descending ha hb

-- Sorting by a field in either direction yields the records without it, as they were, and then the others in order, and
-- their ties as they were. In descending order these are the reversed records in ascending order, read backwards.
theorem apply_mirrored
    (field : Path) (records : List Json) (h : Json.TransitiveOn (records.filterMap field.resolve)) :
    let sorted (direction : Direction) (records : List Json) := apply ⟨[⟨field, direction⟩]⟩ records
    let lacking (records : List Json) := filterRecords records (.absent field) .keep
    let others (records : List Json) := filterRecords records (.absent field) .exclude
    (∀ direction, ∃ rest, sorted direction records = lacking records ++ rest ∧
      Arranged (SortKey.compare ⟨field, direction⟩) (others records) rest) ∧
    ∃ rest mirrored,
      sorted .descending records = lacking records ++ rest ∧
      sorted .ascending records.reverse = lacking records.reverse ++ mirrored ∧
      rest = mirrored.reverse := by
  intro sorted lacking others
  have hh : ∀ a ∈ others records, a ∈ records ∧ ∃ j, SortKey.Holds ⟨field, .ascending⟩ a j :=
    fun _ => SortKey.holds_of_mem_exclude ⟨field, .ascending⟩
  have ho (direction : Direction) : Json.TransitiveOn (SortKey.values ⟨field, direction⟩ (others records)) :=
    SortKey.transitiveOn_mono h fun a ha => (hh a ha).left
  have hr : Json.TransitiveOn (SortKey.values ⟨field, .ascending⟩ records.reverse) :=
    SortKey.transitiveOn_mono h fun _ => List.mem_reverse.mp
  constructor
  case left  => exact fun direction => ⟨_, apply_lacking_first h, apply_singleton_arranged (ho direction)⟩
  case right =>
    refine ⟨_, _, apply_lacking_first h, apply_lacking_first hr, ?_⟩
    rw [filterRecords_reverse]
    exact apply_descending (fun a ha => (hh a ha).right) ho

theorem apply_mirrored_goals :
    let goals : Path := ⟨["goals"], by decide, by decide⟩
    let x := Json.obj [("goals", .ofNat 3), ("name", .str "x")]
    let y := Json.obj [("goals", .ofNat 7), ("name", .str "y")]
    let z := Json.obj [("goals", .ofNat 3), ("name", .str "z")]
    let missing := Json.obj [("name", .str "missing")]
    let unset := Json.obj [("goals", .null)]
    Json.TransitiveOn ([x, missing, y, unset, z].filterMap goals.resolve) ∧
      ∃ rest, apply ⟨[⟨goals, .descending⟩]⟩ [x, missing, y, unset, z] = [missing, unset] ++ rest ∧
        apply ⟨[⟨goals, .ascending⟩]⟩ [z, unset, y, missing, x] = [unset, missing, z, x, y] ∧
        rest.reverse = [z, x, y] := by
  intro goals x y z missing unset
  have hv : [x, missing, y, unset, z].filterMap goals.resolve = [.ofNat 3, .ofNat 7, .null, .ofNat 3] := rfl
  have hn : ∀ n ∈ [3, 7, 3], (Number.ofNat n).toSigned? ≠ none := by decide
  have h : Json.TransitiveOn ([x, missing, y, unset, z].filterMap goals.resolve) := by
    refine hv ▸ Json.transitiveOn_of_signed ?_
    simpa [Json.NumbersIn, Json.ofNat] using hn
  obtain ⟨rest, mirrored, hd, ha, hr⟩ := (apply_mirrored goals [x, missing, y, unset, z] h).right
  have hm : [unset, missing] ++ [z, x, y] = [unset, missing] ++ mirrored := ha
  refine ⟨h, rest, hd, rfl, ?_⟩
  rw [hr, List.reverse_reverse, ← List.append_cancel_left hm]

end SortSpec

end StatsQuery
