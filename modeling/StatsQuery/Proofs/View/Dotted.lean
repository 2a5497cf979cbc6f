import StatsQuery.Path

namespace StatsQuery.Path

variable {p q : Path} {text : String}

theorem parse_eq_ok_iff : parse text = .ok p ↔ p.segments = split text := by
  unfold parse
  split
  case isTrue h =>
    cases p
    simp [eq_comm]
  case isFalse h =>
    refine ⟨fun hp => by contradiction, fun hp => absurd ?_ h⟩
    exact hp ▸ ⟨p.nonempty, p.segment⟩

theorem split_toString (p : Path) : split p.toString = p.segments := by
  have hd : ∀ cs ∈ p.segments.map String.toList, '.' ∉ cs :=
    List.forall_mem_map.mpr fun s hs => (p.segment s hs).right
  have hn : p.segments.map String.toList ≠ [] := by simpa using p.nonempty
  have hs : (".".intercalate p.segments).toList.splitOn '.' = p.segments.map String.toList := by
    rw [String.toList_intercalate]
    exact List.splitOn_intercalate '.' hd hn
  simp only [split, toString, hs, List.map_map]
  exact (List.map_congr_left fun _ _ => String.ofList_toList).trans <| List.map_id _

theorem parse_toString (p : Path) : parse p.toString = .ok p :=
  parse_eq_ok_iff.mpr (split_toString p).symm

theorem intercalate_split (text : String) : ".".intercalate (split text) = text := by
  have ht : ['.'].intercalate (text.toList.splitOn '.') = text.toList := List.intercalate_splitOn '.'
  rw [← String.toList_inj, split, String.toList_intercalate, List.map_map]
  refine .trans (congrArg _ ?_) ht
  exact (List.map_congr_left fun _ _ => String.toList_ofList).trans <| List.map_id _

theorem toString_of_parse (h : parse text = .ok p) : p.toString = text := by
  rw [toString, parse_eq_ok_iff.mp h, intercalate_split]

theorem toString_inj : p.toString = q.toString ↔ p = q := by
  refine ⟨fun h => ?_, congrArg _⟩
  exact Except.ok.inj <| (parse_toString p).symm.trans <| h ▸ parse_toString q

end StatsQuery.Path
