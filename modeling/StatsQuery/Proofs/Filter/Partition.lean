import StatsQuery.Filter

namespace StatsQuery

-- A list made of the items of two others, each of which keeps its order.
inductive Interleaves : List α → List α → List α → Prop
  | nil   : Interleaves [] [] []
  | left  : (Interleaves as bs cs) → Interleaves (a :: as) bs (a :: cs)
  | right : (Interleaves as bs cs) → Interleaves as (b :: bs) (b :: cs)

theorem interleaves_filter (p : α → Bool) (as : List α) : Interleaves (as.filter p) (as.filter (!p ·)) as := by
  induction as with
  | nil          => exact .nil
  | cons a as hi =>
    cases ha : p a with
    | true  => simpa [ha] using hi.left
    | false => simpa [ha] using hi.right

namespace Criteria

variable {cs first : Criteria} {record : Json} {records : List Json} {entries later : List (String × Criterion)}

def append (cs cs' : Criteria) : Criteria :=
  ⟨cs.criteria ++ cs'.criteria⟩

def addEntry (cs : Criteria) (entry : String × Criterion) : Except Error Criteria :=
  cs.add entry.1 entry.2

def build (entries : List (String × Criterion)) : Except Error Criteria :=
  entries.foldlM addEntry empty

theorem append_empty (cs : Criteria) : cs.append empty = cs := by
  simp [append, empty]

theorem addEntry_append : (cs.append first).addEntry entry = (first.addEntry entry).map cs.append := by
  unfold addEntry add append
  cases Path.parse entry.1 with
  | error e => rfl
  | ok p    => exact congrArg (fun list => Except.ok (Criteria.mk list)) (List.append_assoc ..)

theorem foldlM_addEntry_append :
    entries.foldlM addEntry (cs.append first) = (entries.foldlM addEntry first).map cs.append := by
  induction entries generalizing first with
  | nil                => rfl
  | cons entry rest hi =>
    rw [List.foldlM_cons, List.foldlM_cons, addEntry_append]
    cases first.addEntry entry with
    | error e => rfl
    | ok next => exact hi

theorem build_append : build (entries ++ later) = (build entries).bind fun cs => (build later).map cs.append := by
  have h (cs : Criteria) : later.foldlM addEntry cs = (build later).map cs.append := by
    rw [build, ← foldlM_addEntry_append, append_empty]
  rw [build, List.foldlM_append]
  exact congrArg (build entries).bind (funext h)

theorem accepts_append (cs cs' : Criteria) (record : Json) :
    (cs.append cs').accepts record = (cs.accepts record && cs'.accepts record) :=
  List.all_append

end Criteria

variable {cs cs' : Criteria} {records : List Json} {mode : FilterMode}

theorem filterRecords_of_ne_nil (h : cs.criteria ≠ []) :
    filterRecords records cs mode = records.filter fun r => mode.admits (cs.accepts r) :=
  if_neg <| by simpa [Criteria.isEmpty] using h

theorem filterRecords_reverse : filterRecords records.reverse cs mode = (filterRecords records cs mode).reverse := by
  unfold filterRecords
  split
  case isTrue  => rfl
  case isFalse => exact List.filter_reverse

theorem filterRecords_keep (cs : Criteria) : filterRecords records cs .keep = records.filter cs.accepts := by
  by_cases h : cs.criteria = []
  case neg => exact filterRecords_of_ne_nil h
  case pos =>
    have ha : ∀ r ∈ records, cs.accepts r = true := fun r _ => by simp [Criteria.accepts, h]
    rw [List.filter_eq_self.mpr ha]
    simp [filterRecords, Criteria.isEmpty, h]

theorem filterRecords_keep_append :
    filterRecords records (cs.append cs') .keep = filterRecords (filterRecords records cs .keep) cs' .keep := by
  rw [filterRecords_keep, filterRecords_keep, filterRecords_keep, List.filter_filter]
  refine List.filter_congr fun r _ => ?_
  rw [Criteria.accepts_append, Bool.and_comm]

-- The records that some criteria keep and those that they exclude make up all records, in their order. What is kept is
-- accepted, and what is excluded is not. Criteria that are built up from those of two others keep what is left when the
-- first keep some records and the second keep some of those.
theorem filterRecords_partition (records : List Json) :
    (∀ cs : Criteria, cs.criteria ≠ [] →
      Interleaves (filterRecords records cs .keep) (filterRecords records cs .exclude) records ∧
      (∀ r ∈ filterRecords records cs .keep, cs.accepts r = true) ∧
      ∀ r ∈ filterRecords records cs .exclude, cs.accepts r = false) ∧
    ∀ entries later cs cs', Criteria.build entries = .ok cs → Criteria.build later = .ok cs' →
      ∃ both, Criteria.build (entries ++ later) = .ok both ∧ both.criteria = cs.criteria ++ cs'.criteria ∧
        filterRecords records both .keep = filterRecords (filterRecords records cs .keep) cs' .keep := by
  constructor
  case left =>
    intro cs h
    simp only [filterRecords_of_ne_nil h, FilterMode.admits]
    exact ⟨interleaves_filter cs.accepts records, fun r hr => (List.mem_filter.mp hr).right,
      fun r hr => by simpa using (List.mem_filter.mp hr).right⟩
  case right =>
    intro entries later cs cs' h h'
    refine ⟨cs.append cs', ?_, rfl, filterRecords_keep_append⟩
    rw [Criteria.build_append, h, h']
    rfl

theorem filterRecords_partition_nested :
    let goals : Path := ⟨["stats", "goals"], by decide, by decide⟩
    let absent : Criteria := ⟨[(goals, .absent)]⟩
    let a := Json.obj [("id", .ofNat 1), ("stats", .obj [("goals", .ofNat 3)])]
    let b := Json.obj [("id", .ofNat 2), ("stats", .obj [("goals", .null)])]
    let c := Json.str "none"
    absent.criteria ≠ [] ∧ Interleaves [b, c] [a, a] [a, b, a, c] ∧
      Criteria.build [("stats.goals", .absent)] = .ok absent ∧
      ∃ identity both, Criteria.build [("id", .equals (.ofNat 2))] = .ok identity ∧
        Criteria.build ([("stats.goals", .absent)] ++ [("id", .equals (.ofNat 2))]) = .ok both ∧
        filterRecords [a, b, a, c] both .keep = [b] := by
  intro goals absent a b c
  have hn : absent.criteria ≠ [] := List.cons_ne_nil _ _
  have hg : Criteria.build [("stats.goals", .absent)] = .ok absent := rfl
  have hi : Criteria.build [("id", .equals (.ofNat 2))] =
      .ok ⟨[(⟨["id"], by decide, by decide⟩, .equals (.ofNat 2))]⟩ := rfl
  have ⟨hp, hb⟩ := filterRecords_partition [a, b, a, c]
  have ⟨both, hb, _, hk⟩ := hb _ _ _ _ hg hi
  exact ⟨hn, (hp absent hn).left, hg, _, both, hi, hb, hk⟩

end StatsQuery
