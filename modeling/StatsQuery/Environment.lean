import StatsQuery.Error
import StatsQuery.Text.Blank
import StatsQuery.Text.Numeral

namespace StatsQuery

structure Environment where
  timeout : Option String := none
  retries : Option String := none
  backoff : Option String := none
  baseUrl : Option String := none
deriving DecidableEq

namespace Environment

def baseUrlVariable : String := "NHL_STATS_BASE_URL"

def text? (env : Environment) : Setting → Option String
  | .timeout => env.timeout
  | .retries => env.retries
  | .backoff => env.backoff

-- Numbers may have blanks around them and a plus sign.
def number (env : Environment) (s : Setting) : Except Error (Option Nat) :=
  match env.text? s with
  | none      => .ok none
  | some text =>
    match Text.unsigned? (Text.trim text.toList) with
    | some n => if n < UInt64.size then .ok (some n) else .error (.badPolicy (.notANumber s text))
    | none   => .error (.badPolicy (.notANumber s text))

end Environment
end StatsQuery
