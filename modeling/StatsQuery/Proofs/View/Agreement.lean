import StatsQuery.Proofs.Text.Runs
import StatsQuery.Proofs.View.Projection

namespace StatsQuery

namespace Path

def reach (root : Json) (names : List String) : Option Json :=
  names.foldlM (fun j s => j.get? s) root

-- The place where following some steps ends early. It lies behind as many steps as lead anywhere, and the names there
-- are those of the members that the value there has.
structure Stops (root : Json) (names : List String) (m : Miss) : Prop where
  inside    : m.depth < names.length
  longest   : ∀ n ≤ names.length, (reach root (names.take n)).isSome ↔ n ≤ m.depth
  available : ∃ j, reach root (names.take m.depth) = some j ∧ m.available = j.keys

variable {root : Json} {names : List String} {m : Miss}

theorem reach_cons : reach root (s :: names) = (root.get? s).bind (reach · names) := by
  rw [reach, List.foldlM_cons]
  rfl

theorem Stops.step (h : root.get? s = some j) (hs : Stops j names m) :
    Stops root (s :: names) ⟨m.depth + 1, m.available⟩ where
  inside    := Nat.succ_lt_succ hs.inside
  available := by simpa [reach_cons, h] using hs.available
  longest n hn := by
    cases n with
    | zero   => simp [reach]
    | succ n => simpa [reach_cons, h] using hs.longest n (Nat.le_of_succ_le_succ hn)

end Path

namespace Json

variable {root : Json}

theorem WellFormed.of_lookup (h : WellFormedMembers ms) (hl : ms.lookup key = some j) : j.WellFormed := by
  induction ms with
  | nil          => contradiction
  | cons m ms hi =>
    have ⟨hm, hs⟩ := h
    rw [List.lookup_cons] at hl
    split at hl
    · cases hl
      exact hm
    · exact hi hs hl

theorem WellFormed.of_get? (h : root.WellFormed) (hg : root.get? key = some j) : j.WellFormed := by
  cases root with
  | obj ms => exact .of_lookup h.right hg
  | _      => contradiction

theorem WellFormed.of_reach (h : root.WellFormed) (hr : Path.reach root names = some j) : j.WellFormed := by
  induction names generalizing root with
  | nil =>
    cases hr
    exact h
  | cons s names hi =>
    rw [Path.reach_cons] at hr
    have ⟨k, hk, hj⟩ := Option.bind_eq_some_iff.mp hr
    exact hi (h.of_get? hk) hj

theorem WellFormed.sorted_keys (h : root.WellFormed) : root.keys.Pairwise (· < ·) := by
  cases root with
  | obj ms => exact List.pairwise_map.mpr h.left
  | _      => exact .nil

end Json

namespace Path

variable {root : Json} {names : List String}

theorem Stops.sorted (h : Stops root names m) (hr : root.WellFormed) : m.available.Pairwise (· < ·) := by
  have ⟨_, hj, ha⟩ := h.available
  exact ha ▸ (hr.of_reach hj).sorted_keys

theorem not_dot_of_mem_split (h : s ∈ split text) : '.' ∉ s.toList := by
  have ⟨cs, hc, hs⟩ := List.mem_map.mp h
  rw [← hs, String.toList_ofList]
  exact fun hd => by simpa using not_of_mem_splitOnP hc _ hd

theorem parse_of_not_empty (h : [] ∉ text.toList.splitOn '.') : ∃ p, parse text = .ok p := by
  have hw : split text ≠ [] ∧ ∀ s ∈ split text, Segment s := by
    refine ⟨by simp [split], fun s hs => ⟨fun hn => ?_, not_dot_of_mem_split hs⟩⟩
    have ⟨cs, hc, he⟩ := List.mem_map.mp hs
    rw [← he, String.toList_ofList] at hn
    exact h <| hn ▸ hc
  exact ⟨_, dif_pos hw⟩

end Path

namespace Json

variable {root : Json} {view segment : String} {p : Path} {mode : ViewMode}

theorem project_of_parse (h : Path.parse view = .ok p) : root.project (some view) mode = projectAlong root view p mode := by
  rw [project, h]
  rfl

theorem projectAlong_eq_some_iff : projectAlong root view p mode = .ok (some j) ↔ p.descend root = .ok j := by
  unfold projectAlong
  split
  case h_1 hd => simp [hd]
  case h_2 hd => cases mode <;> simp [hd]

theorem projectAlong_strict_of_descend (h : p.descend root = .error m) (hs : p.segments[m.depth]? = some segment) :
    projectAlong root view p .strict = .error (.viewNotFound view segment m.available) := by
  have ⟨_, he⟩ := List.getElem?_eq_some_iff.mp hs
  unfold projectAlong
  split
  case h_1 hd => simp [hd] at h
  case h_2 hd =>
    cases hd.symm.trans h
    simp only [he]

end Json

end StatsQuery
