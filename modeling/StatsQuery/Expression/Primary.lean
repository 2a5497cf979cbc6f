import StatsQuery.Calendar.Date
import StatsQuery.Expression.Clause
import StatsQuery.Json.Decode

namespace StatsQuery

-- Seasons go into expressions without quotes, so they must be digits throughout.
def Season.parse (text : String) : Except Error String :=
  if Text.isNumeral text.toList then .ok text else .error (.badSeason text)

inductive Selection where
  | seasons (first last : String)
  | dates (first last : Date)
  | season (season : String)
deriving DecidableEq

namespace Selection

def isDates : Selection → Bool
  | dates .. => true
  | _        => false

open Expression in
def clauses : Selection → List Clause
  | seasons first last =>
    [.relation "seasonId" "<=" (.bare last), .relation "seasonId" ">=" (.bare first)]
  | dates first last =>
    [.relation "gameDate" "<=" (.quoted last.toString),
     .relation "gameDate" ">=" (.quoted first.toString)]
  | season s => [.equal "seasonId" (.bare s)]

end Selection

structure Primary where
  season                 : Option String := none
  startSeason            : Option String := none
  endSeason              : Option String := none
  startDate              : Option String := none
  endDate                : Option String := none
  franchiseId            : Option UInt32 := none
  opponentFranchiseId    : Option UInt32 := none
  homeOrRoad             : Option String := none
  gameResult             : Option String := none
  gameType               : Option UInt8 := none
  isActive               : Option Bool := none
  position               : Option (OneOrMany String) := none
  shootsCatches          : Option String := none
  playerName             : Option String := none
  nationalityCode        : Option String := none
  birthStateProvinceCode : Option String := none
  draftRound             : Option UInt32 := none
  draftYear              : Option String := none
  isRookie               : Option Bool := none
  isInHallOfFame         : Option Bool := none
deriving DecidableEq

namespace Primary

def ofSeason (season : String) : Primary :=
  { season := some season }

-- A full pair of seasons comes before a full pair of dates, and that before a single season.
def selection (p : Primary) : Except Error Selection :=
  match p.startSeason, p.endSeason, p.startDate, p.endDate, p.season with
  | some first, some last, _, _, _ => do return .seasons (← Season.parse first) (← Season.parse last)
  | _, _, some first, some last, _ => do return .dates (← Date.parse first) (← Date.parse last)
  | _, _, _, _, some season        => do return .season (← Season.parse season)
  | _, _, _, _, none               => .error .noSelection

open Expression

def positionClause : OneOrMany String → Clause
  | .one code   => .equal "positionCode" (.quoted code)
  | .many codes => .oneOf "positionCode" codes

def number (n : Nat) : Literal :=
  .bare (Text.decimal n)

def settings (p : Primary) : List (Option Clause) :=
  [p.franchiseId.map fun n => .equal "franchiseId" (number n.toNat),
   p.opponentFranchiseId.map fun n => .equal "opponentFranchiseId" (number n.toNat),
   p.homeOrRoad.map fun s => .equal "homeRoad" (.quoted s),
   p.gameResult.map fun s => .equal "decision" (.quoted s),
   p.gameType.map fun n => .equal "gameTypeId" (number n.toNat),
   p.isActive.map fun b => .equal "active" (.flag b),
   p.position.map positionClause,
   p.shootsCatches.map fun s => .equal "shootsCatches" (.quoted s),
   p.playerName.map fun s => .contains "skaterFullName" s,
   p.nationalityCode.map fun s => .equal "nationalityCode" (.quoted s),
   p.birthStateProvinceCode.map fun s => .equal "birthStateProvinceCode" (.quoted s),
   p.draftRound.map fun n => .equal "draftRound" (number n.toNat),
   p.draftYear.map fun s => .equal "draftYear" (.quoted s),
   p.isRookie.map fun b => .equal "isRookie" (.flag b),
   p.isInHallOfFame.map fun b => .equal "isInHallOfFame" (.flag b)]

def predicates (p : Primary) : List Clause :=
  p.settings.filterMap id

def compile (p : Primary) : Except Error String := do
  let selection ← p.selection
  return .ofList (Clause.conjunction (selection.clauses ++ p.predicates))

section Json

open Json Json.Decode

def ofJson? (j : Json) : Option Primary := do
  let fs ← Fields.of? 20 j
  return {
    season                 := ← fs.optional 0 "season" string
    startSeason            := ← fs.optional 1 "start_season" string
    endSeason              := ← fs.optional 2 "end_season" string
    startDate              := ← fs.optional 3 "start_date" string
    endDate                := ← fs.optional 4 "end_date" string
    franchiseId            := ← fs.optional 5 "franchise_id" uint32
    opponentFranchiseId    := ← fs.optional 6 "opponent_franchise_id" uint32
    homeOrRoad             := ← fs.optional 7 "home_or_road" string
    gameResult             := ← fs.optional 8 "game_result" string
    gameType               := ← fs.optional 9 "game_type" uint8
    isActive               := ← fs.optional 10 "is_active" bool
    position               := ← fs.optional 11 "position" (oneOrMany string)
    shootsCatches          := ← fs.optional 12 "shoots_catches" string
    playerName             := ← fs.optional 13 "player_name" string
    nationalityCode        := ← fs.optional 14 "nationality_code" string
    birthStateProvinceCode := ← fs.optional 15 "birth_state_province_code" string
    draftRound             := ← fs.optional 16 "draft_round" uint32
    draftYear              := ← fs.optional 17 "draft_year" string
    isRookie               := ← fs.optional 18 "is_rookie" bool
    isInHallOfFame         := ← fs.optional 19 "is_in_hall_of_fame" bool }

def toJson (p : Primary) : Json :=
  .ofMembers
    [("season", .ofOption .str p.season),
     ("start_season", .ofOption .str p.startSeason),
     ("end_season", .ofOption .str p.endSeason),
     ("start_date", .ofOption .str p.startDate),
     ("end_date", .ofOption .str p.endDate),
     ("franchise_id", .ofOption (fun n => .ofNat n.toNat) p.franchiseId),
     ("opponent_franchise_id", .ofOption (fun n => .ofNat n.toNat) p.opponentFranchiseId),
     ("home_or_road", .ofOption .str p.homeOrRoad),
     ("game_result", .ofOption .str p.gameResult),
     ("game_type", .ofOption (fun n => .ofNat n.toNat) p.gameType),
     ("is_active", .ofOption .bool p.isActive),
     ("position", .ofOption (OneOrMany.toJson .str) p.position),
     ("shoots_catches", .ofOption .str p.shootsCatches),
     ("player_name", .ofOption .str p.playerName),
     ("nationality_code", .ofOption .str p.nationalityCode),
     ("birth_state_province_code", .ofOption .str p.birthStateProvinceCode),
     ("draft_round", .ofOption (fun n => .ofNat n.toNat) p.draftRound),
     ("draft_year", .ofOption .str p.draftYear),
     ("is_rookie", .ofOption .bool p.isRookie),
     ("is_in_hall_of_fame", .ofOption .bool p.isInHallOfFame)]

end Json
end Primary
end StatsQuery
