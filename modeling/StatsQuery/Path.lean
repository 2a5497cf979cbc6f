import StatsQuery.Error
import StatsQuery.Json.Basic

namespace StatsQuery

def Segment (s : String) : Prop :=
  s.toList ≠ [] ∧ '.' ∉ s.toList

instance : DecidablePred Segment :=
  fun _ => inferInstanceAs (Decidable (_ ∧ _))

structure Path where
  segments : List String
  nonempty : segments ≠ []
  segment  : ∀ s ∈ segments, Segment s
deriving DecidableEq

namespace Path

def split (text : String) : List String :=
  (text.toList.splitOn '.').map String.ofList

def parse (text : String) : Except Error Path :=
  if h : split text ≠ [] ∧ ∀ s ∈ split text, Segment s then .ok ⟨split text, h.1, h.2⟩
  else .error (.emptySegment text)

def toString (p : Path) : String :=
  ".".intercalate p.segments

-- Why following a path ended early: after how many segments, and the names that there were.
structure Miss where
  depth     : Nat
  available : List String
deriving DecidableEq

def resolve (root : Json) (p : Path) : Option Json :=
  p.segments.foldlM (fun j s => j.get? s) root

def walk (root : Json) (segments : List String) : Except Miss Json :=
  go 0 root segments
where
  go (depth : Nat) (j : Json) : List String → Except Miss Json
    | [] => .ok j
    | s :: ss =>
      match j.get? s with
      | some j => go (depth + 1) j ss
      | none   => .error ⟨depth, j.keys⟩

def descend (root : Json) (p : Path) : Except Miss Json :=
  walk root p.segments

theorem parse_error_of_not_ok (h : ∀ p, parse text ≠ .ok p) : parse text = .error (.emptySegment text) := by
  cases hp : parse text with
  | ok p    => exact absurd hp (h p)
  | error e =>
    unfold parse at hp
    split at hp
    case isTrue  => contradiction
    case isFalse => exact hp.symm

theorem walk.go_depth_lt (h : walk.go n j ss = .error m) : m.depth < n + ss.length := by
  induction ss generalizing n j
  case nil => contradiction
  case cons hi =>
    simp only [go] at h
    split at h
    case h_1 => have := hi h; simp at *; omega
    case h_2 => injection h with h; simp [← h]

theorem descend_depth_lt (h : descend root p = .error m) : m.depth < p.segments.length := by
  simpa using walk.go_depth_lt h

end Path
end StatsQuery
