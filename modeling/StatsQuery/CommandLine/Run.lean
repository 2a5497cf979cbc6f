import StatsQuery.CommandLine.Command

namespace StatsQuery.CommandLine

structure Outcome where
  output : String := ""
  fault  : Option Error := none
deriving DecidableEq

namespace Outcome

def ofFault (e : Error) : Outcome :=
  { fault := some e }

def ofResult : Except Error (Option Json) → Outcome
  | .ok (some j) => { output := j.pretty ++ "\n" }
  | .ok none     => { output := "null\n", fault := some .noData }
  | .error e     => .ofFault e

def status (o : Outcome) : UInt32 :=
  if o.fault.isSome then 1 else 0

def complaint (o : Outcome) : String :=
  o.fault.elim "" fun e => "Error: " ++ e.message ++ "\n"

end Outcome

def FetchCommand.run (c : FetchCommand) (env : Environment) (server : Server) : Exchange Outcome :=
  let plan := do return (← RetryPolicy.resolve env c.retry, ← c.shaping.toShaping true)
  match plan with
  | .error e            => .idle (.ofFault e) server
  | .ok (policy, shaping) => (fetchShaped policy c.url shaping server).map .ofResult

def ReportCommand.run (c : ReportCommand) (env : Environment) (server : Server) : Exchange Outcome :=
  let plan := do return (← RetryPolicy.resolve env c.retry, ← c.toQuery)
  match plan with
  | .error e           => .idle (.ofFault e) server
  | .ok (policy, query) => (query.run (ReportQuery.baseOf env) policy server).map .ofResult

def Command.run (env : Environment) (server : Server) : Command → Exchange Outcome
  | fetch c  => c.run env server
  | report c => c.run env server

def Refusal.status : Refusal → UInt32
  | help => 0
  | _    => 2

end StatsQuery.CommandLine
