import StatsQuery.Filter
import StatsQuery.Sort
import StatsQuery.View

namespace StatsQuery

def envelope (records : List Json) (total : Nat) : Json :=
  .obj [("data", .arr records), ("total", .ofNat total)]

structure Page where
  data  : List Json
  total : UInt64

namespace Page

def toJson (p : Page) : Json :=
  envelope p.data p.total.toNat

open Json.Decode in
def ofJson? (j : Json) : Option Page := do
  let fs ← Fields.of? 2 j
  let data ← fs.withDefault 0 "data" (list any) []
  let total ← fs.withDefault 1 "total" uint64 0
  return ⟨data, total⟩

end Page

structure Shaping where
  filter   : Option Criteria := none
  exclude  : Option Criteria := none
  sort     : Option SortSpec := none
  fields   : Option (List String) := none
  view     : Option String := none
  viewMode : ViewMode := .lenient

namespace Shaping

def step (setting : Option α) (f : List Json → α → List Json) (records : List Json) : List Json :=
  setting.elim records (f records)

def process (s : Shaping) (records : List Json) : List Json :=
  records
    |> step s.sort (fun rs spec => spec.apply rs)
    |> step s.filter (fun rs cs => filterRecords rs cs .keep)
    |> step s.exclude (fun rs cs => filterRecords rs cs .exclude)
    |> step s.fields Json.selectFields

def finish (s : Shaping) (records : List Json) (total : Nat) : Except Error (Option Json) :=
  (envelope records total).project s.view s.viewMode

def apply (s : Shaping) (records : List Json) : Except Error (Option Json) :=
  let records := s.process records
  s.finish records records.length

-- Shapes a single page. The reported total stays unless there is a filter.
def applyPage (s : Shaping) (page : Page) : Except Error (Option Json) :=
  let records := s.process page.data
  let total := if s.filter.isSome || s.exclude.isSome then records.length else page.total.toNat
  s.finish records total

-- Shapes any answer: the records of its `data`, or its own items; anything else is only drilled into.
def applyToResponse (s : Shaping) (response : Json) : Except Error (Option Json) :=
  match response.get? "data", response with
  | some (.arr records), _ => s.apply records
  | _, .arr records        => s.apply records
  | _, _                   => response.project s.view s.viewMode

end Shaping
end StatsQuery
