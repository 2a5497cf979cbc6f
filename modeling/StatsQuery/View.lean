import StatsQuery.Path

namespace StatsQuery

inductive ViewMode where
  | strict
  | lenient
deriving DecidableEq

namespace ViewMode

def ofStrict (strict : Bool) : ViewMode :=
  if strict then .strict else .lenient

def name : ViewMode → String
  | strict  => "Strict"
  | lenient => "Lenient"

def ofName? : String → Option ViewMode
  | "Strict"  => some strict
  | "Lenient" => some lenient
  | _         => none

end ViewMode

namespace Json

def projectAlong (root : Json) (view : String) (p : Path) (mode : ViewMode) :
    Except Error (Option Json) :=
  match h : p.descend root with
  | .ok j    => .ok (some j)
  | .error m =>
    have := Path.descend_depth_lt h
    match mode with
    | .strict  => .error (.viewNotFound view p.segments[m.depth] m.available)
    | .lenient => .ok none

def project (root : Json) (view : Option String) (mode : ViewMode) : Except Error (Option Json) :=
  match view with
  | none      => .ok (some root)
  | some view => (Path.parse view).bind (projectAlong root view · mode)

def Members.pick (ms : Members) (fields : List String) : Members :=
  fields.foldl (fun kept f => (ms.lookup f).elim kept (Members.insert f · kept)) []

def restrict (fields : List String) : Json → Json
  | obj ms => obj (Members.pick ms fields)
  | j      => j

def selectFields (records : List Json) (fields : List String) : List Json :=
  records.map (restrict fields)

end Json
end StatsQuery
