import StatsQuery.Report.Query

namespace StatsQuery.ReportQuery

def firstPage (q : ReportQuery) : PageRange :=
  ⟨if q.allPages then 0 else q.start, q.limit⟩

-- The shaped records, unless a page is missing. The inner result is missing where a view leads
-- nowhere.
def fetchRecords (q : ReportQuery) (a : ReportAddress) (policy : RetryPolicy) (server : Server) :
    Exchange (Except Error (Option (Option Json))) :=
  if q.allPages then
    (collect policy q.limit a.pageUrl server).map fun result => do
      match ← result with
      | some records => return some (← q.shaping.apply records)
      | none         => return none
  else
    (fetchPage policy (a.pageUrl q.firstPage) server).map fun result => do
      match ← result with
      | some page => return some (← q.shaping.applyPage page)
      | none      => return none

def info (q : ReportQuery) (path : String) (response : Option Json) : Json :=
  .ofMembers
    [("path", .str path),
     ("view", .ofOption .str q.shaping.view),
     ("fields", .ofOption (fun fs => .arr (fs.map .str)) q.shaping.fields),
     ("sort", .ofOption SortSpec.summary q.sort),
     ("response", .ofOption id response)]

def run (q : ReportQuery) (base : String) (policy : RetryPolicy) (server : Server) :
    Exchange (Except Error (Option Json)) :=
  match q.compile base with
  | .error e => .idle (.error e) server
  | .ok a    =>
    (q.fetchRecords a policy server).map fun result => do
      match ← result with
      | some response =>
        return if q.withInfo then some (q.info (a.pageUrl q.firstPage) response) else response
      | none => return none

end StatsQuery.ReportQuery
