import StatsQuery.Proofs.Filter.Pairs
import StatsQuery.Proofs.Json.Reading

namespace StatsQuery

namespace Json

theorem sameValue_str_iff {j : Json} : j.sameValue (.str s) = true ↔ j = .str s := by
  cases j <;> simp [sameValue, same]

end Json

namespace Criteria

variable {field s text : String} {path : Path} {record : Json}

def Finds (pair : String) (path : Path) (s : String) : Prop :=
  ∃ cs, ofPairs [pair] = .ok (some cs) ∧ ∀ record, cs.accepts record = true ↔ path.resolve record = some (.str s)

theorem splitPair?_append (h : '=' ∉ field.toList) (text : String) :
    splitPair? (field ++ "=" ++ text) = some (field, text) := by
  have hs : (field.toList ++ '=' :: text.toList).span (· ≠ '=') = (field.toList, '=' :: text.toList) :=
    span_append (forall_ne_of_not_mem h) (by simp)
  have ht : (field ++ "=" ++ text).toList = field.toList ++ '=' :: text.toList := by simp
  rw [splitPair?, ht, hs]
  simp

theorem valueOf_of_isText (h : Json.IsText text.toList j) : valueOf text = j := by
  rw [valueOf, Json.parse?_eq_some_iff.mpr h, Option.getD_some]

theorem valueOf_of_not_isText (h : ∀ j, ¬Json.IsText text.toList j) : valueOf text = .str text := by
  have hn : Json.parse? text = none := Option.eq_none_iff_forall_ne_some.mpr fun j hj => h j <| Json.parse?_eq_some_iff.mp hj
  rw [valueOf, hn, Option.getD_none]

theorem meets_str_iff (hp : Path.parse field = .ok path) : Meets field (.str s) record ↔ path.resolve record = some (.str s) := by
  rw [Stands.meets_iff (c := (path, .equals (.str s))) ⟨hp, rfl⟩]
  cases path.resolve record <;> simp [Criterion.holds, Json.sameValue_str_iff]

theorem finds_of_valueOf (hp : Path.parse field = .ok path) (he : '=' ∉ field.toList) (hv : valueOf text = .str s) :
    Finds (field ++ "=" ++ text) path s := by
  have hr : read? (field ++ "=" ++ text) = some (field, .str s) := by
    rw [read?, splitPair?_append he, ← hv]
    rfl
  obtain ⟨cs, hc⟩ := (accepted_singleton_iff hr).mpr ⟨(path, .equals (.str s)), hp, rfl⟩
  exact ⟨cs, hc, fun record => (accepts_singleton_iff hc hr).trans (meets_str_iff hp)⟩

-- Any text is found by each JSON string that denotes it, of which there is the one that is written for it. A text that is no
-- JSON is found by itself as well.
theorem ofPairs_finds_text (hp : Path.parse field = .ok path) (he : '=' ∉ field.toList) (s : String) :
    Json.IsText (Json.str s).compact.toList (.str s) ∧
    (∀ text : String, Json.IsText text.toList (.str s) → Finds (field ++ "=" ++ text) path s) ∧
    ((∀ j, ¬Json.IsText s.toList j) → Finds (field ++ "=" ++ s) path s) :=
  ⟨Json.isText_compact <| Json.isValue_str _ s, fun _ ht => finds_of_valueOf hp he (valueOf_of_isText ht),
    fun hn => finds_of_valueOf hp he (valueOf_of_not_isText hn)⟩

theorem ofPairs_finds_text_unclosed :
    let path : Path := ⟨["player", "name"], by decide, by decide⟩
    let s := "[1,]=\"C\""
    (Path.parse "player.name" = .ok path ∧ '=' ∉ "player.name".toList ∧ ∀ j, ¬Json.IsText s.toList j) ∧
      Finds "player.name=[1,]=\"C\"" path s ∧ Finds "player.name=\"[1,]=\\\"C\\\"\"" path s := by
  intro path s
  have hp : Path.parse "player.name" = .ok path := rfl
  have he : '=' ∉ "player.name".toList := by decide
  have hn : ∀ j, ¬Json.IsText s.toList j := by
    intro j hj
    have hs : Json.parse? s = none := by decide +kernel
    rw [Json.parse?_eq_some_iff.mpr hj] at hs
    contradiction
  have ⟨hc, hf, hb⟩ := ofPairs_finds_text hp he s
  have ht : (Json.str s).compact = "\"[1,]=\\\"C\\\"\"" := by decide
  exact ⟨⟨hp, he, hn⟩, hb hn, hf "\"[1,]=\\\"C\\\"\"" (ht ▸ hc)⟩

end Criteria

end StatsQuery
