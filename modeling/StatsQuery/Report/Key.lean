import StatsQuery.Error
import StatsQuery.Text.Letters

namespace StatsQuery

inductive ReportKey where
  | skater
  | goalie
  | team
deriving DecidableEq

namespace ReportKey

def name : ReportKey → String
  | skater => "skater"
  | goalie => "goalie"
  | team   => "team"

def ofName? : String → Option ReportKey
  | "skater" => some skater
  | "goalie" => some goalie
  | "team"   => some team
  | _        => none

-- Keys are read in any case, in the singular or the plural.
def parse (text : String) : Except Error ReportKey :=
  match Text.lowerCase text with
  | "skater" | "skaters" => .ok skater
  | "goalie" | "goalies" => .ok goalie
  | "team" | "teams"     => .ok team
  | _                    => .error (.badReportKey text)

def defaultLimit : ReportKey → Nat
  | skater | goalie => 100
  | team            => 50

end ReportKey
end StatsQuery
