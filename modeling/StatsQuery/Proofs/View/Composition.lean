import StatsQuery.Proofs.View.Agreement
import StatsQuery.Proofs.View.Dotted

namespace StatsQuery

namespace Path

variable {root part : Json} {p q : Path} {first second text name : String} {names later available : List String}

def append (p q : Path) : Path where
  segments := p.segments ++ q.segments
  nonempty := List.append_ne_nil_of_left_ne_nil p.nonempty _
  segment  := List.forall_mem_append.mpr ⟨p.segment, q.segment⟩

def Miss.behind (n : Nat) (m : Miss) : Miss :=
  ⟨n + m.depth, m.available⟩

theorem split_append (first second : String) : split (first ++ "." ++ second) = split first ++ split second := by
  simp [split, List.splitOn, List.splitOnP_append_cons]

theorem parse_append (hp : parse first = .ok p) (hq : parse second = .ok q) :
    parse (first ++ "." ++ second) = .ok (p.append q) := by
  rw [parse_eq_ok_iff] at *
  simp only [append, hp, hq, split_append]

theorem walk.go_append :
    go depth root (names ++ later) = (go depth root names).bind (go (depth + names.length) · later) := by
  induction names generalizing depth root with
  | nil           => rfl
  | cons s ss hi =>
    simp only [List.cons_append, go]
    cases root.get? s with
    | none   => rfl
    | some j => simp only [hi, List.length_cons, Nat.add_assoc, Nat.add_comm 1]

theorem walk.go_add : go (n + depth) root names = (go depth root names).mapError (·.behind n) := by
  induction names generalizing depth root with
  | nil           => rfl
  | cons s ss hi =>
    simp only [go]
    cases root.get? s with
    | none   => rfl
    | some j => simp only [Nat.add_assoc, hi]

theorem descend_append :
    (p.append q).descend root =
      (p.descend root).bind fun part => (q.descend part).mapError (·.behind p.segments.length) := by
  simp only [descend, walk, append, walk.go_append, ← walk.go_add, Nat.add_comm 0]

inductive Fails (root : Json) (p : Path) (name : String) (available : List String) : Prop
  | intro :
    (p.descend root = .error ⟨depth, available⟩) → (p.segments[depth]? = some name) →
      Fails root p name available

theorem leads_or_fails (root : Json) (p : Path) :
    (∃ j, p.descend root = .ok j) ∨ ∃ name available, Fails root p name available := by
  cases h : p.descend root with
  | ok j    => exact .inl ⟨j, rfl⟩
  | error m => exact .inr ⟨_, _, h, List.getElem?_eq_getElem <| descend_depth_lt h⟩

theorem Fails.append (h : Fails root p name available) (q : Path) : Fails root (p.append q) name available := by
  have ⟨hd, hs⟩ := h
  refine ⟨by rw [descend_append, hd]; rfl, ?_⟩
  exact (List.getElem?_append_left <| descend_depth_lt hd).trans hs

theorem Fails.behind (h : Fails part q name available) (hp : p.descend root = .ok part) :
    Fails root (p.append q) name available := by
  have ⟨hd, hs⟩ := h
  refine ⟨by rw [descend_append, hp, Except.bind, hd]; rfl, ?_⟩
  simpa [Path.append, List.getElem?_append_right, Miss.behind] using hs

end Path

namespace Json

variable {root : Json} {view first second segment segment' : String} {available available' : List String} {p q : Path}

def projectInTurn (root : Json) (first second : String) (mode : ViewMode) : Except Error (Option Json) :=
  (root.project (some first) mode).bind fun part => part.elim (.ok none) (·.project (some second) mode)

-- The fault of two strict views in turn is that of the first one, or else that of the second one.
inductive FaultInTurn (root : Json) (first second segment : String) (available : List String) : Prop
  | first :
    (root.project (some first) .strict = .error (.viewNotFound first segment available)) →
      FaultInTurn root first second segment available
  | second :
    (root.project (some first) .strict = .ok (some part)) →
    (part.project (some second) .strict = .error (.viewNotFound second segment available)) →
      FaultInTurn root first second segment available

theorem FaultInTurn.projectInTurn_eq (h : root.FaultInTurn first second segment available) :
    ∃ view, root.projectInTurn first second .strict = .error (.viewNotFound view segment available) := by
  unfold projectInTurn
  cases h with
  | first h     => exact ⟨first, by rw [h]; rfl⟩
  | second h h' => exact ⟨second, by rw [h]; exact h'⟩

theorem FaultInTurn.unique
    (h : root.FaultInTurn first second segment available) (h' : root.FaultInTurn first second segment' available') :
    segment = segment' ∧ available = available' := by
  have ⟨_, hv⟩ := h.projectInTurn_eq
  have ⟨_, hv'⟩ := h'.projectInTurn_eq
  have he := Except.error.inj <| hv.symm.trans hv'
  exact ⟨(Error.viewNotFound.inj he).right.left, (Error.viewNotFound.inj he).right.right⟩

theorem project_of_descend (hp : Path.parse view = .ok p) (h : p.descend root = .ok j) (mode : ViewMode) :
    root.project (some view) mode = .ok (some j) :=
  project_of_parse hp ▸ projectAlong_eq_some_iff.mpr h

theorem project_lenient_of_fails (hp : Path.parse view = .ok p) (h : p.Fails root segment available) :
    root.project (some view) .lenient = .ok none := by
  have ⟨hd, _⟩ := h
  rw [project_of_parse hp, projectAlong_lenient, Path.resolve_eq_none_of_descend hd]

theorem project_strict_of_fails (hp : Path.parse view = .ok p) (h : p.Fails root segment available) :
    root.project (some view) .strict = .error (.viewNotFound view segment available) := by
  have ⟨hd, hs⟩ := h
  exact project_of_parse hp ▸ projectAlong_strict_of_descend hd hs

theorem project_append_cases (root : Json) (hp : Path.parse first = .ok p) (hq : Path.parse second = .ok q) :
    (∃ j, ∀ mode,
      root.project (some (first ++ "." ++ second)) mode = .ok (some j) ∧
      root.projectInTurn first second mode = .ok (some j)) ∨
    ∃ segment available,
      (p.append q).Fails root segment available ∧
      root.projectInTurn first second .lenient = .ok none ∧
      root.FaultInTurn first second segment available := by
  have hw := Path.parse_append hp hq
  unfold projectInTurn
  -- The first view fails, or the second one fails at the place that the first one leads to, or both lead on.
  cases Path.leads_or_fails root p with
  | inr hf =>
    have ⟨segment, available, hf⟩ := hf
    refine .inr ⟨segment, available, hf.append q, ?_, .first <| project_strict_of_fails hp hf⟩
    rw [project_lenient_of_fails hp hf]
    rfl
  | inl hl =>
    have ⟨part, hl⟩ := hl
    have hf := project_of_descend hp hl
    cases Path.leads_or_fails part q with
    | inr hs =>
      have ⟨segment, available, hs⟩ := hs
      have hs' := project_strict_of_fails hq hs
      refine .inr ⟨segment, available, hs.behind hl, ?_, .second (hf .strict) hs'⟩
      rw [hf]
      exact project_lenient_of_fails hq hs
    | inl hs =>
      have ⟨j, hs⟩ := hs
      have hd : (p.append q).descend root = .ok j := by rw [Path.descend_append, hl, Except.bind, hs]; rfl
      refine .inl ⟨j, fun mode => ⟨project_of_descend hw hd mode, ?_⟩⟩
      rw [hf]
      exact project_of_descend hq hs mode

-- Two valid views with a dot between them: where they lead is where the second one leads from the place that the first
-- one leads to. If they lead nowhere, so does one of the two steps, and the fault names what the fault of that step
-- names, and the whole view.
theorem project_append (root : Json) (hp : Path.parse first = .ok p) (hq : Path.parse second = .ok q) :
    root.project (some (first ++ "." ++ second)) .lenient = root.projectInTurn first second .lenient ∧
    (∀ j, root.project (some (first ++ "." ++ second)) .strict = .ok j ↔
      root.projectInTurn first second .strict = .ok j) ∧
    ∀ e, root.project (some (first ++ "." ++ second)) .strict = .error e ↔
      ∃ segment available, e = .viewNotFound (first ++ "." ++ second) segment available ∧
        root.FaultInTurn first second segment available := by
  have hw := Path.parse_append hp hq
  cases project_append_cases root hp hq with
  | inl h =>
    have ⟨j, h⟩ := h
    have ⟨hs, ht⟩ := h .strict
    refine ⟨(h .lenient).left.trans (h .lenient).right.symm, fun _ => by rw [hs, ht], fun e => ?_⟩
    constructor
    case mp =>
      intro he
      rw [hs] at he
      contradiction
    case mpr =>
      intro ⟨segment, available, _, hf⟩
      have ⟨_, hf⟩ := hf.projectInTurn_eq
      rw [ht] at hf
      contradiction
  | inr h =>
    have ⟨segment, available, hf, hl, ht⟩ := h
    have hs := project_strict_of_fails hw hf
    have ⟨view, hv⟩ := ht.projectInTurn_eq
    refine ⟨(project_lenient_of_fails hw hf).trans hl.symm, fun _ => by simp [hs, hv], fun e => ?_⟩
    constructor
    case mp =>
      intro he
      exact ⟨segment, available, (Except.error.inj <| hs.symm.trans he).symm, ht⟩
    case mpr =>
      intro ⟨segment', available', he, ht'⟩
      have ⟨hn, ha⟩ := ht.unique ht'
      rw [hs, he, hn, ha]

theorem project_append_missing :
    let root := obj [("response", obj [("data", obj [("goals", .ofNat 3)]), ("total", .ofNat 1)])]
    (∃ p, Path.parse "response" = .ok p) ∧ (∃ q, Path.parse "data.points" = .ok q) ∧
      root.project (some ("response" ++ "." ++ "data.points")) .strict =
        .error (.viewNotFound ("response" ++ "." ++ "data.points") "points" ["goals"]) := by
  intro root
  have hp : Path.parse "response" = .ok ⟨["response"], by decide, by decide⟩ := rfl
  have hq : Path.parse "data.points" = .ok ⟨["data", "points"], by decide, by decide⟩ := rfl
  have hf : root.FaultInTurn "response" "data.points" "points" ["goals"] := .second rfl rfl
  exact ⟨⟨_, hp⟩, ⟨_, hq⟩, ((project_append root hp hq).right.right _).mpr ⟨_, _, rfl, hf⟩⟩

end Json
end StatsQuery
