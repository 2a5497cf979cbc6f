import StatsQuery.Collection
import StatsQuery.Expression.Fact
import StatsQuery.Expression.Primary
import StatsQuery.Report.Key
import StatsQuery.Url.Form

namespace StatsQuery

structure ReportQuery where
  key       : ReportKey
  report    : String
  primary   : Primary
  fact      : Fact := {}
  aggregate : Bool := true
  sort      : Option SortSpec := none
  limit     : Nat := key.defaultLimit
  start     : Nat := 0
  allPages  : Bool := true
  withInfo  : Bool := false
  shaping   : Shaping := {}

structure ReportAddress where
  endpoint  : Url
  perGame   : Bool
  aggregate : Bool
  primary   : String
  fact      : String
  sort      : Option String
deriving DecidableEq

namespace ReportQuery

def publicBase : String :=
  "https://api.nhle.com/stats/rest/en/"

def baseOf (env : Environment) : String :=
  env.baseUrl.getD publicBase

-- A base is a directory, whether or not it is written as one.
def directory (base : String) : List Char :=
  if base.toList.getLast? = some '/' then base.toList else base.toList ++ ['/']

def reference (q : ReportQuery) : List Char :=
  q.key.name.toList ++ '/' :: q.report.toList

def endpoint (q : ReportQuery) (base : String) : Except Error Url :=
  let result := do (← Url.parse (directory base)).join q.reference
  result.mapError (.badUrl (.ofList (directory base ++ q.reference)))

def compile (q : ReportQuery) (base : String) : Except Error ReportAddress := do
  let selection ← q.primary.selection
  let primary ← q.primary.compile
  let fact ← q.fact.compile
  let endpoint ← q.endpoint base
  return ⟨endpoint, selection.isDates, q.aggregate, primary, fact, q.sort.map SortSpec.queryParameter⟩

end ReportQuery

namespace ReportAddress

open Text (decimal)

def flag (b : Bool) : String :=
  if b then "true" else "false"

def parameters (a : ReportAddress) (range : PageRange) : List (String × String) :=
  [("isAggregate", flag a.aggregate), ("isGame", flag a.perGame), ("start", decimal range.start),
   ("limit", decimal range.limit), ("factCayenneExp", a.fact), ("cayenneExp", a.primary)] ++
  (a.sort.map fun s => ("sort", s)).toList

def page (a : ReportAddress) (range : PageRange) : Url :=
  { a.endpoint with query := some (Form.append (a.endpoint.query.getD []) (a.parameters range)) }

def pageUrl (a : ReportAddress) (range : PageRange) : String :=
  (a.page range).toString

end ReportAddress
end StatsQuery
