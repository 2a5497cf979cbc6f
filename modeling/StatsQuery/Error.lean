import StatsQuery.Text.Numeral

namespace StatsQuery

inductive CriterionFault where
  | notAnObject
  | objectValue
  | noEqualsSign
deriving DecidableEq

inductive Setting where
  | timeout
  | retries
  | backoff
deriving DecidableEq

def Setting.variable : Setting → String
  | timeout => "NHL_STATS_TIMEOUT_SECS"
  | retries => "NHL_STATS_RETRIES"
  | backoff => "NHL_STATS_BACKOFF_MS"

inductive PolicyFault where
  | notANumber (setting : Setting) (text : String)
  | tooLarge (setting : Setting) (value : Nat)
  | noAttempts
  | noTimeout
deriving DecidableEq

inductive UrlFault where
  | noBase
  | rootlessBase
  | badPort
  | emptyHost
  | badDomain
  | badDomainCharacter
  | badIpv4
  | badIpv6
deriving DecidableEq

inductive Error where
  | emptySegment (path : String)
  | viewNotFound (view segment : String) (available : List String)
  | noSelection
  | badDate (text : String)
  | badSeason (text : String)
  | badProperty (text : String)
  | badFactValue (text : String)
  | badComparator (text : String)
  | badDirection (text : String)
  | badReportKey (text : String)
  | sortArity (fields directions : Nat)
  | factArity (properties comparators values : Nat)
  | badCriterion (field : String) (fault : CriterionFault)
  | badPolicy (fault : PolicyFault)
  | noPageSize
  | badUrl (text : String) (fault : UrlFault)
  | noData
  | undecodable
deriving DecidableEq

def CriterionFault.message : CriterionFault → String
  | notAnObject  => "criteria must be a JSON object"
  | objectValue  => "object values are not comparable"
  | noEqualsSign => "expected field=value"

def PolicyFault.message : PolicyFault → String
  | notANumber s text => s.variable ++ "='" ++ text ++ "' is not a non-negative integer"
  | tooLarge s n      => s.variable ++ "=" ++ Text.decimal n ++ " is out of range"
  | noAttempts        => "max_attempts must be at least 1"
  | noTimeout         => "timeout must be positive"

def UrlFault.message : UrlFault → String
  | noBase             => "relative URL without a base"
  | rootlessBase       => "relative URL with a cannot-be-a-base base"
  | badPort            => "invalid port number"
  | emptyHost          => "empty host"
  | badDomain          => "invalid international domain name"
  | badDomainCharacter => "invalid domain character"
  | badIpv4            => "invalid IPv4 address"
  | badIpv6            => "invalid IPv6 address"

namespace Error

open Text (decimal)

def message : Error → String
  | emptySegment path => "Invalid field path '" ++ path ++ "': empty segment"
  | viewNotFound view segment available =>
    "Invalid view '" ++ view ++ "'. Field '" ++ segment ++
      "' not found. Valid fields at this level include: " ++ ", ".intercalate available
  | noSelection =>
    "No selection mode: provide a season, a start/end season pair, or a start/end date pair"
  | badDate text => "Invalid date format '" ++ text ++ "', expected YYYY-MM-DD"
  | badSeason text => "Invalid season '" ++ text ++ "', expected digits only such as 20232024"
  | badProperty text => "Invalid fact property '" ++ text ++ "', expected letters, digits or '_'"
  | badFactValue text => "Invalid fact value '" ++ text ++ "', expected a number"
  | badComparator text => "Invalid comparator: " ++ text
  | badDirection text => "Invalid sort direction: " ++ text ++ ". Must be 'ASC' or 'DESC'"
  | badReportKey text => "Unknown report key '" ++ text ++ "', expected skater, goalie or team"
  | sortArity fields directions =>
    "Sort fields (" ++ decimal fields ++ ") and directions (" ++ decimal directions ++
      ") must have the same length"
  | factArity properties comparators values =>
    "Fact properties (" ++ decimal properties ++ "), comparators (" ++ decimal comparators ++
      ") and values (" ++ decimal values ++ ") must have the same length"
  | badCriterion field fault => "Invalid filter criterion for '" ++ field ++ "': " ++ fault.message
  | badPolicy fault => "Invalid retry policy: " ++ fault.message
  | noPageSize => "Page size must be at least 1"
  | badUrl text fault => "Invalid URL: " ++ text ++ ": " ++ fault.message
  | noData => "Stats API returned no data"
  | undecodable => "JSON decoding failed"

-- Whether the fault lies in the query itself, so that asking again cannot help.
def isValidation : Error → Bool
  | noData | undecodable => false
  | _                    => true

end Error
end StatsQuery
