import StatsQuery.View

namespace StatsQuery

namespace Path

theorem walk.go_eq_ok_iff {names : List String} :
    walk.go depth root names = .ok j ↔ names.foldlM (fun j s => j.get? s) root = some j := by
  induction names generalizing depth root with
  | nil         => simp [go]
  | cons s _ hi =>
    rw [go, List.foldlM_cons]
    cases root.get? s with
    | none   => simp
    | some k => simpa using hi

theorem descend_eq_ok_iff {p : Path} : p.descend root = .ok j ↔ p.resolve root = some j :=
  walk.go_eq_ok_iff

theorem resolve_eq_none_of_descend {p : Path} (h : p.descend root = .error miss) :
    p.resolve root = none := by
  refine Option.eq_none_iff_forall_ne_some.mpr fun j hj => ?_
  rw [descend_eq_ok_iff.mpr hj] at h
  contradiction

end Path

namespace Json

variable {root : Json} {view : Option String} {mode : ViewMode}

theorem projectAlong_lenient : projectAlong root text p .lenient = .ok (p.resolve root) := by
  unfold projectAlong
  split
  case h_1 hd => rw [Path.descend_eq_ok_iff.mp hd]
  case h_2 hd => rw [Path.resolve_eq_none_of_descend hd]

theorem projectAlong_strict_ne_none : projectAlong root text p .strict ≠ .ok none := by
  unfold projectAlong
  split <;> simp

structure Misses (root : Json) (view : Option String) (mode : ViewMode) : Prop where
  lenient    : mode = .lenient
  unresolved : ∃ text p, view = some text ∧ Path.parse text = .ok p ∧ p.resolve root = none

theorem project_eq_none_iff : root.project view mode = .ok none ↔ root.Misses view mode := by
  constructor
  case mp =>
    intro h
    cases view
    case none => simp [project] at h
    case some text =>
      simp only [project] at h
      cases hp : Path.parse text <;> simp only [hp, Except.bind] at h
      case error => contradiction
      case ok p =>
        cases mode
        case strict  => exact absurd h projectAlong_strict_ne_none
        case lenient =>
          rw [projectAlong_lenient] at h
          exact ⟨rfl, text, p, rfl, hp, Except.ok.inj h⟩
  case mpr =>
    intro ⟨hm, text, p, hv, hp, hr⟩
    subst hm hv
    simp only [project, hp, Except.bind, projectAlong_lenient, hr]

end Json

end StatsQuery
