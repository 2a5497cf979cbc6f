import StatsQuery.Proofs.Sort.Insertion

namespace StatsQuery

def Json.TransitiveOn (js : List Json) : Prop :=
  ∀ a ∈ js, ∀ b ∈ js, ∀ c ∈ js, (a.compare b).isLE → (b.compare c).isLE → (a.compare c).isLE

theorem Json.TransitiveOn.mono (h : TransitiveOn js) (hs : ks ⊆ js) : TransitiveOn ks :=
  fun a ha b hb c hc => h a (hs ha) b (hs hb) c (hs hc)

-- Numbers that are signed integers throughout are enough for that: without another number there is no clash.
theorem Json.transitiveOn_of_signed (h : ∀ j ∈ js, j.NumbersIn (·.toSigned? ≠ none)) : TransitiveOn js := by
  have hf : Number.ClashFree (·.toSigned? ≠ none) := fun _ _ _ _ hn _ ⟨_, hn', _, _, _, _⟩ => hn hn'
  exact fun a ha b hb c hc => isLE_trans hf (h a ha) (h b hb) (h c hc)

namespace SortKey

def values (key : SortKey) (records : List Json) : List Json :=
  records.filterMap key.field.resolve

def Lacks (key : SortKey) (record : Json) : Prop :=
  ∀ j, key.field.resolve record = some j → j = .null

structure Holds (key : SortKey) (record j : Json) : Prop where
  resolve  : key.field.resolve record = some j
  not_null : j ≠ .null

-- What a key says about two records. Those without the field come first, in either direction.
inductive Ranks (key : SortKey) (a b : Json) : Ordering → Prop
  | neither    : (key.Lacks a) → (key.Lacks b) → Ranks key a b .eq
  | onlySecond : (key.Lacks a) → (key.Holds b k) → Ranks key a b .lt
  | onlyFirst  : (key.Holds a j) → (key.Lacks b) → Ranks key a b .gt
  | ascending  :
    (key.direction = .ascending) → (key.Holds a j) → (key.Holds b k) → Ranks key a b (j.compare k)
  | descending :
    (key.direction = .descending) → (key.Holds a j) → (key.Holds b k) →
      Ranks key a b (j.compare k).swap

def compareAll : List SortKey → Json → Json → Ordering
  | [], _, _          => .eq
  | key :: keys, a, b => (key.compare a b).then (compareAll keys a b)

inductive RanksAll (a b : Json) : List SortKey → Ordering → Prop
  | tied    : RanksAll a b [] .eq
  | decided : (key.Ranks a b o) → (o ≠ .eq) → RanksAll a b (key :: keys) o
  | later   : (key.Ranks a b .eq) → (RanksAll a b keys o) → RanksAll a b (key :: keys) o

variable {key : SortKey} {a b : Json} {o : Ordering} {records records' : List Json}

theorem lacks_or_holds (key : SortKey) (record : Json) :
    key.Lacks record ∨ ∃ j, key.Holds record j := by
  cases h : key.field.resolve record
  case none => exact .inl fun _ hj => by simp [h] at hj
  case some j =>
    cases j
    case null => exact .inl fun _ hj => by simpa [h, eq_comm] using hj
    all_goals exact .inr ⟨_, h, by simp⟩

theorem Lacks.isNull_eq (h : key.Lacks a) : (key.valueOf a).isNull = true := by
  cases hr : key.field.resolve a
  case none   => simp [valueOf, hr, Json.isNull]
  case some j => simp [valueOf, hr, h j hr, Json.isNull]

theorem Holds.valueOf_eq (h : key.Holds a j) : key.valueOf a = j := by
  simp [valueOf, h.resolve]

theorem Holds.isNull_eq (h : key.Holds a j) : (key.valueOf a).isNull = false := by
  rw [h.valueOf_eq]
  cases j
  case null => exact absurd rfl h.not_null
  all_goals rfl

theorem Holds.mem_values (h : key.Holds a j) (ha : a ∈ records) : j ∈ key.values records :=
  List.mem_filterMap.mpr ⟨a, ha, h.resolve⟩

namespace Ranks

theorem compare_eq (h : key.Ranks a b o) : key.compare a b = o := by
  cases h with
  | neither ha hb | onlySecond ha hb | onlyFirst ha hb => simp only [compare, ha.isNull_eq, hb.isNull_eq]
  | ascending hd ha hb | descending hd ha hb =>
    simp only [compare, ha.isNull_eq, hb.isNull_eq]
    simp only [hd, ha.valueOf_eq, hb.valueOf_eq]

theorem swap (h : key.Ranks a b o) : key.Ranks b a o.swap := by
  cases h with
  | neither ha hb       => exact .neither hb ha
  | onlySecond ha hb    => exact .onlyFirst hb ha
  | onlyFirst ha hb     => exact .onlySecond hb ha
  | ascending hd ha hb  => exact Json.compare_swap _ _ ▸ .ascending hd hb ha
  | descending hd ha hb => exact Json.compare_swap _ _ ▸ .descending hd hb ha

end Ranks

theorem ranks_compare (key : SortKey) (a b : Json) : key.Ranks a b (key.compare a b) := by
  have ⟨o, h⟩ : ∃ o, key.Ranks a b o := by
    cases key.lacks_or_holds a <;> cases key.lacks_or_holds b
    case inl.inl ha hb => exact ⟨_, .neither ha hb⟩
    case inl.inr ha hb => exact ⟨_, .onlySecond ha hb.choose_spec⟩
    case inr.inl ha hb => exact ⟨_, .onlyFirst ha.choose_spec hb⟩
    case inr.inr ha hb =>
      cases hd : key.direction
      case ascending  => exact ⟨_, .ascending hd ha.choose_spec hb.choose_spec⟩
      case descending => exact ⟨_, .descending hd ha.choose_spec hb.choose_spec⟩
  exact h.compare_eq ▸ h

theorem transitiveOn_mono (h : Json.TransitiveOn (key.values records)) (hs : records' ⊆ records) :
    Json.TransitiveOn (key.values records') :=
  h.mono <| List.filterMap_subset _ hs

theorem transitiveOn_filter (h : Json.TransitiveOn (key.values records)) (p : Json → Bool) :
    Json.TransitiveOn (key.values (records.filter p)) :=
  transitiveOn_mono h List.filter_sublist.subset

theorem Holds.of_isLE (ha : key.Holds a j) (h : (key.compare a b).isLE) :
    ∃ k, key.Holds b k := by
  refine (key.lacks_or_holds b).resolve_left fun hb => ?_
  simp [(Ranks.onlyFirst ha hb).compare_eq] at h

theorem preorderOn (h : Json.TransitiveOn (key.values records)) : PreorderOn key.compare records where
  swap  := fun a b => (key.ranks_compare b a).swap.compare_eq
  trans := by
    intro a ha b hb c hc h₁ h₂
    cases key.lacks_or_holds a
    case inl hla =>
      cases key.lacks_or_holds c
      case inl hlc => simp [(Ranks.neither hla hlc).compare_eq]
      case inr hhc => simp [(Ranks.onlySecond hla hhc.choose_spec).compare_eq]
    case inr hha =>
      have ⟨x, hx⟩ := hha
      have ⟨y, hy⟩ := hx.of_isLE h₁
      have ⟨z, hz⟩ := hy.of_isLE h₂
      have hx' := hx.mem_values ha
      have hy' := hy.mem_values hb
      have hz' := hz.mem_values hc
      cases hd : key.direction
      case ascending =>
        rw [(Ranks.ascending hd hx hy).compare_eq] at h₁
        rw [(Ranks.ascending hd hy hz).compare_eq] at h₂
        rw [(Ranks.ascending hd hx hz).compare_eq]
        exact h x hx' y hy' z hz' h₁ h₂
      case descending =>
        rw [(Ranks.descending hd hx hy).compare_eq, ← Json.compare_swap] at h₁
        rw [(Ranks.descending hd hy hz).compare_eq, ← Json.compare_swap] at h₂
        rw [(Ranks.descending hd hx hz).compare_eq, ← Json.compare_swap]
        exact h z hz' y hy' x hx' h₂ h₁

theorem ranksAll_iff : RanksAll a b keys o ↔ compareAll keys a b = o := by
  constructor
  case mp =>
    intro h
    induction h with
    | tied         => rfl
    | later h _ hi => rw [compareAll, h.compare_eq, hi, Ordering.eq_then]
    | @decided o _ _ h hn =>
      rw [compareAll, h.compare_eq]
      cases o <;> simp at hn ⊢
  case mpr =>
    intro h
    subst h
    induction keys
    case nil => exact .tied
    case cons key keys hi =>
      have h := key.ranks_compare a b
      rw [compareAll]
      generalize key.compare a b = o at h
      cases o
      case eq      => exact .later h hi
      case lt | gt => exact .decided h (by simp)

theorem compare_eq_of_compareAll (h : compareAll keys a b = .eq) : ∀ key ∈ keys, key.compare a b = .eq := by
  induction keys
  case nil => simp
  case cons key keys hi =>
    have ⟨hk, hks⟩ := Ordering.then_eq_eq.mp h
    simpa using ⟨hk, hi hks⟩

theorem preorderOn_all (h : ∀ key ∈ keys, Json.TransitiveOn (key.values records)) :
    PreorderOn (compareAll keys) records := by
  induction keys
  case nil => exact ⟨fun _ _ => rfl, fun _ _ _ _ _ _ _ _ => rfl⟩
  case cons key keys hi =>
    exact (preorderOn (h key (by simp))).followedBy (hi fun key hk => h key (.tail _ hk))

end SortKey

namespace SortSpec

variable {keys : List SortKey} {records : List Json}

theorem apply_cons : apply ⟨key :: keys⟩ records = key.sort (apply ⟨keys⟩ records) := rfl

-- Each pass keeps what the passes before it have done to its ties.
theorem apply_ordered (h : ∀ key ∈ keys, Json.TransitiveOn (key.values records)) :
    (apply ⟨keys⟩ records).Pairwise fun a b => (SortKey.compareAll keys a b).isLE := by
  induction keys
  case nil => exact List.pairwise_of_forall fun _ _ => rfl
  case cons key keys hi =>
    have hp : PreorderOn key.compare (apply ⟨keys⟩ records) :=
      (SortKey.preorderOn (h key (by simp))).mono apply_perm.subset
    have hi := hi fun key hk => h key (.tail _ hk)
    exact (insertionSort_pairwise hp hi).imp ThenBy.then_isLE

theorem apply_filter {p : Json → Bool}
    (h : ∀ key ∈ keys, ∀ a ∈ records, ∀ b ∈ records, p a → p b → key.compare a b = .eq) :
    (apply ⟨keys⟩ records).filter p = records.filter p := by
  induction keys
  case nil => rfl
  case cons key keys hi =>
    rw [apply_cons, ← hi fun key hk => h key (.tail _ hk)]
    refine insertionSort_filter fun a ha b hb hpa hpb => ?_
    have ha := apply_perm.mem_iff.mp ha
    have hb := apply_perm.mem_iff.mp hb
    simp [h key (by simp) a ha b hb hpa hpb]

theorem apply_arranged (h : ∀ key ∈ keys, Json.TransitiveOn (key.values records)) :
    Arranged (SortKey.compareAll keys) records (apply ⟨keys⟩ records) where
  perm    := apply_perm
  ordered := apply_ordered h
  stable  := by
    intro a ha
    refine apply_filter fun key hk b hb c hc hab hac => ?_
    have hab := SortKey.compare_eq_of_compareAll (by simpa using hab) key hk
    have hac := SortKey.compare_eq_of_compareAll (by simpa using hac) key hk
    exact (SortKey.preorderOn (h key hk)).tie_trans ha hb hc hab hac

theorem filter_apply (h : ∀ key ∈ keys, Json.TransitiveOn (key.values records)) (p : Json → Bool) :
    (apply ⟨keys⟩ records).filter p = apply ⟨keys⟩ (records.filter p) := by
  have h' : ∀ key ∈ keys, Json.TransitiveOn (key.values (records.filter p)) :=
    fun key hk => SortKey.transitiveOn_filter (h key hk) p
  exact ((apply_arranged h).filter p).unique (SortKey.preorderOn_all h') (apply_arranged h')

-- The records are put in order by the first key that tells them apart, and those that no key tells apart
-- stay as they were. No other list of the records is like that, and a single pass over them that compares
-- by all keys at once gives the same.
theorem apply_lexicographic
    (s : SortSpec) (h : ∀ key ∈ s.keys, Json.TransitiveOn (key.values records)) :
    (∀ a b o, SortKey.RanksAll a b s.keys o ↔ SortKey.compareAll s.keys a b = o) ∧
    Arranged (SortKey.compareAll s.keys) records (s.apply records) ∧
    (∀ sorted, Arranged (SortKey.compareAll s.keys) records sorted → sorted = s.apply records) ∧
    s.apply records = insertionSort (SortKey.compareAll s.keys · · == .lt) records := by
  have hp := SortKey.preorderOn_all h
  have ha := apply_arranged h
  exact ⟨fun _ _ _ => SortKey.ranksAll_iff, ha, fun _ hs => hs.unique hp ha,
    ha.unique hp (.insertionSort hp)⟩

theorem apply_lexicographic_teams :
    let team   : SortKey := ⟨⟨["team"], by decide, by decide⟩, .ascending⟩
    let points : SortKey := ⟨⟨["points"], by decide, by decide⟩, .descending⟩
    let a := Json.obj [("points", .ofNat 50), ("team", .str "TOR")]
    let b := Json.obj [("points", .ofNat 70), ("team", .str "MTL")]
    let c := Json.obj [("points", .ofNat 90), ("team", .str "TOR")]
    let d := Json.obj [("team", .str "MTL")]
    let e := Json.obj [("points", .null), ("team", .str "MTL")]
    (∀ key ∈ [team, points], Json.TransitiveOn (key.values [a, b, c, d, e])) ∧
      Arranged (SortKey.compareAll [team, points]) [a, b, c, d, e] [d, e, b, c, a] := by
  intro team points a b c d e
  have ht : team.values [a, b, c, d, e] = ["TOR", "MTL", "TOR", "MTL", "MTL"].map .str := rfl
  have hp : points.values [a, b, c, d, e] = [.ofNat 50, .ofNat 70, .ofNat 90, .null] := rfl
  have h : ∀ key ∈ [team, points], Json.TransitiveOn (key.values [a, b, c, d, e]) := by
    simp only [List.mem_cons, List.not_mem_nil, or_false, forall_eq_or_imp, forall_eq, ht, hp]
    refine ⟨Json.transitiveOn_of_signed ?_, Json.transitiveOn_of_signed ?_⟩
    case refine_1 => simp [Json.NumbersIn]
    case refine_2 =>
      have hn : ∀ n ∈ [50, 70, 90], (Number.ofNat n).toSigned? ≠ none := by decide
      simpa [Json.NumbersIn, Json.ofNat] using hn
  have hs : apply ⟨[team, points]⟩ [a, b, c, d, e] = [d, e, b, c, a] := rfl
  exact ⟨h, hs ▸ (apply_lexicographic ⟨[team, points]⟩ h).right.left⟩

end SortSpec
end StatsQuery
