import StatsQuery.CommandLine.Run

namespace StatsQuery.CommandLine

def environment : IO Environment := do
  return {
    timeout := ← IO.getEnv (Setting.variable .timeout)
    retries := ← IO.getEnv (Setting.variable .retries)
    backoff := ← IO.getEnv (Setting.variable .backoff)
    baseUrl := ← IO.getEnv Environment.baseUrlVariable }

end StatsQuery.CommandLine

-- The program has no way to a server, so that every request fails on its way.
open StatsQuery CommandLine in
def main (args : List String) : IO UInt32 := do
  match Command.ofArguments args with
  | .error refusal => return refusal.status
  | .ok command    =>
    let outcome := (command.run (← environment) .unreachable).result
    (← IO.getStdout).putStr outcome.output
    (← IO.getStderr).putStr outcome.complaint
    return outcome.status
