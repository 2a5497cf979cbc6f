import StatsQuery.CommandLine.Arguments
import StatsQuery.Filter.Pairs
import StatsQuery.Report.Run

namespace StatsQuery.CommandLine

structure ShapingOptions where
  filters    : List String := []
  excludes   : List String := []
  sort       : List String := []
  direction  : List String := []
  fields     : List String := []
  view       : Option String := none
  strictView : Bool := false
deriving DecidableEq

structure ExpressionOptions where
  season                 : Option String := none
  startSeason            : Option String := none
  endSeason              : Option String := none
  startDate              : Option String := none
  endDate                : Option String := none
  gameType               : UInt8 := 2
  franchiseId            : Option UInt32 := none
  opponentFranchiseId    : Option UInt32 := none
  homeOrRoad             : Option String := none
  gameResult             : Option String := none
  position               : List String := []
  playerName             : Option String := none
  nationalityCode        : Option String := none
  birthStateProvinceCode : Option String := none
  shootsCatches          : Option String := none
  draftRound             : Option UInt32 := none
  draftYear              : Option String := none
  rookie                 : Option Bool := none
  active                 : Option Bool := none
  hallOfFame             : Option Bool := none
  minGamesPlayed         : UInt32 := 0
  maxGamesPlayed         : Option UInt32 := none
  property               : List String := []
  comparator             : List String := []
  value                  : List String := []
deriving DecidableEq

structure FetchCommand where
  url     : String
  shaping : ShapingOptions
  retry   : RetryOptions
deriving DecidableEq

structure ReportCommand where
  key         : ReportKey
  report      : String
  expression  : ExpressionOptions := {}
  shaping     : ShapingOptions := {}
  retry       : RetryOptions := {}
  limit       : Option Nat := none
  start       : Option Nat := none
  noAggregate : Bool := false
  info        : Bool := false
deriving DecidableEq

inductive Command where
  | fetch (command : FetchCommand)
  | report (command : ReportCommand)
deriving DecidableEq

namespace ShapingOptions

def toShaping (o : ShapingOptions) (localSort : Bool) : Except Error Shaping := do
  let filter ← Criteria.ofPairs o.filters
  let exclude ← Criteria.ofPairs o.excludes
  let sort ← if localSort then SortSpec.ofLists? o.sort o.direction else pure none
  return {
    filter, exclude, sort
    fields   := if o.fields.isEmpty then none else some o.fields
    view     := o.view
    viewMode := .ofStrict o.strictView }

def specs : List OptionSpec :=
  [⟨"filter", .multiple .text, some 'f'⟩,
   ⟨"exclude", .multiple .text, some 'x'⟩,
   ⟨"sort", .multiple .text, none⟩,
   ⟨"direction", .multiple .text, none⟩,
   ⟨"field", .multiple .text, none⟩,
   ⟨"view", .single .text, none⟩,
   ⟨"strict-view", .switch, none⟩]

def ofMatches (m : Matches) : ShapingOptions where
  filters    := m.all "filter"
  excludes   := m.all "exclude"
  sort       := m.all "sort"
  direction  := m.all "direction"
  fields     := m.all "field"
  view       := m.get? "view"
  strictView := m.has "strict-view"

end ShapingOptions

def retrySpecs : List OptionSpec :=
  [⟨"timeout", .single (.number UInt64.size), none⟩,
   ⟨"retries", .single (.signed UInt32.size), none⟩,
   ⟨"backoff-ms", .single (.number UInt64.size), none⟩]

def retryOfMatches (m : Matches) : RetryOptions where
  timeout := m.nat? "timeout"
  retries := m.nat? "retries"
  backoff := m.nat? "backoff-ms"

namespace ExpressionOptions

def specs : List OptionSpec :=
  [⟨"season", .single .text, none⟩,
   ⟨"start-season", .single .text, none⟩,
   ⟨"end-season", .single .text, none⟩,
   ⟨"start-date", .single .text, none⟩,
   ⟨"end-date", .single .text, none⟩,
   ⟨"game-type", .single (.signed UInt8.size), none⟩,
   ⟨"franchise-id", .single (.signed UInt32.size), none⟩,
   ⟨"opponent-franchise-id", .single (.signed UInt32.size), none⟩,
   ⟨"home-or-road", .single .text, none⟩,
   ⟨"game-result", .single .text, none⟩,
   ⟨"position", .multiple .text, some 'p'⟩,
   ⟨"player-name", .single .text, some 'n'⟩,
   ⟨"nationality-code", .single .text, none⟩,
   ⟨"birth-state-province-code", .single .text, none⟩,
   ⟨"shoots-catches", .single .text, none⟩,
   ⟨"draft-round", .single (.signed UInt32.size), none⟩,
   ⟨"draft-year", .single .text, none⟩,
   ⟨"rookie", .single .flag, none⟩,
   ⟨"active", .single .flag, none⟩,
   ⟨"hall-of-fame", .single .flag, none⟩,
   ⟨"min-gp", .single (.signed UInt32.size), none⟩,
   ⟨"max-gp", .single (.signed UInt32.size), none⟩,
   ⟨"property", .multiple .text, none⟩,
   ⟨"comparator", .multiple .text, none⟩,
   ⟨"value", .multiple .text, none⟩]

def ofMatches (m : Matches) : ExpressionOptions where
  season                 := m.get? "season"
  startSeason            := m.get? "start-season"
  endSeason              := m.get? "end-season"
  startDate              := m.get? "start-date"
  endDate                := m.get? "end-date"
  gameType               := ((m.nat? "game-type").map UInt8.ofNat).getD 2
  franchiseId            := (m.nat? "franchise-id").map UInt32.ofNat
  opponentFranchiseId    := (m.nat? "opponent-franchise-id").map UInt32.ofNat
  homeOrRoad             := m.get? "home-or-road"
  gameResult             := m.get? "game-result"
  position               := m.all "position"
  playerName             := m.get? "player-name"
  nationalityCode        := m.get? "nationality-code"
  birthStateProvinceCode := m.get? "birth-state-province-code"
  shootsCatches          := m.get? "shoots-catches"
  draftRound             := (m.nat? "draft-round").map UInt32.ofNat
  draftYear              := m.get? "draft-year"
  rookie                 := m.flag? "rookie"
  active                 := m.flag? "active"
  hallOfFame             := m.flag? "hall-of-fame"
  minGamesPlayed         := ((m.nat? "min-gp").map UInt32.ofNat).getD 0
  maxGamesPlayed         := (m.nat? "max-gp").map UInt32.ofNat
  property               := m.all "property"
  comparator             := m.all "comparator"
  value                  := m.all "value"

def oneOrMany : List String → Option (OneOrMany String)
  | []  => none
  | [s] => some (.one s)
  | ss  => some (.many ss)

def toPrimary (o : ExpressionOptions) : Primary where
  season                 := o.season
  startSeason            := o.startSeason
  endSeason              := o.endSeason
  startDate              := o.startDate
  endDate                := o.endDate
  franchiseId            := o.franchiseId
  opponentFranchiseId    := o.opponentFranchiseId
  homeOrRoad             := o.homeOrRoad
  gameResult             := o.gameResult
  gameType               := some o.gameType
  isActive               := o.active
  position               := oneOrMany o.position
  shootsCatches          := o.shootsCatches
  playerName             := o.playerName
  nationalityCode        := o.nationalityCode
  birthStateProvinceCode := o.birthStateProvinceCode
  draftRound             := o.draftRound
  draftYear              := o.draftYear
  isRookie               := o.rookie
  isInHallOfFame         := o.hallOfFame

def toFact (o : ExpressionOptions) : Fact where
  minGamesPlayed := o.minGamesPlayed
  maxGamesPlayed := o.maxGamesPlayed
  property       := oneOrMany o.property
  comparator     := oneOrMany o.comparator
  value          := oneOrMany o.value

end ExpressionOptions

namespace FetchCommand

def spec : CommandSpec where
  places  := [⟨"url", .text⟩]
  options := ShapingOptions.specs ++ retrySpecs

def ofMatches (m : Matches) : FetchCommand where
  url     := (m.get? "url").getD ""
  shaping := .ofMatches m
  retry   := retryOfMatches m

end FetchCommand

namespace ReportCommand

def spec : CommandSpec where
  places  := [⟨"key", .reportKey⟩, ⟨"report", .text⟩]
  options := ExpressionOptions.specs ++ ShapingOptions.specs ++ retrySpecs ++
    [⟨"limit", .single (.number UInt64.size), none⟩,
     ⟨"start", .single (.number UInt64.size), none⟩,
     ⟨"no-aggregate", .switch, none⟩,
     ⟨"info", .switch, none⟩]

def ofMatches (m : Matches) : ReportCommand where
  key         := (((m.get? "key").map ReportKey.parse).bind Except.toOption).getD .skater
  report      := (m.get? "report").getD ""
  expression  := .ofMatches m
  shaping     := .ofMatches m
  retry       := retryOfMatches m
  limit       := m.nat? "limit"
  start       := m.nat? "start"
  noAggregate := m.has "no-aggregate"
  info        := m.has "info"

-- The query of a report. The server does the sorting, and a start asks for that single page.
def toQuery (c : ReportCommand) : Except Error ReportQuery := do
  let sort ← SortSpec.ofLists? c.shaping.sort c.shaping.direction
  let shaping ← c.shaping.toShaping false
  return {
    key       := c.key
    report    := c.report
    primary   := c.expression.toPrimary
    fact      := c.expression.toFact
    aggregate := !c.noAggregate
    sort, shaping
    limit     := c.limit.getD c.key.defaultLimit
    start     := c.start.getD 0
    allPages  := c.start.isNone
    withInfo  := c.info }

end ReportCommand

namespace Command

def names : List String :=
  ["fetch", "report", "help"]

def help : List String → Refusal
  | []     => .help
  | [name] => if names.contains name then .help else .unknownCommand
  | _      => .unknownCommand

def refuse : List String → Refusal
  | []          => .helpForNothing
  | arg :: args =>
    match arg.toList with
    | ['-', '-'] =>
      match args with
      | []          => .helpForNothing
      | first :: _ => if names.contains first then .unknownArgument else .unknownCommand
    | '-' :: '-' :: name =>
      match name.span (· ≠ '=') with
      | (name, rest) =>
        if name = "help".toList then if rest.isEmpty then .help else .surplusValue
        else .unknownArgument
    | '-' :: 'h' :: _ => .help
    | '-' :: _ :: _   => .unknownArgument
    | _               => .unknownCommand

def ofArguments : List String → Except Refusal Command
  | "fetch" :: args  => do return .fetch (.ofMatches (← FetchCommand.spec.read args))
  | "report" :: args => do return .report (.ofMatches (← ReportCommand.spec.read args))
  | "help" :: args   => .error (help args)
  | args             => .error (refuse args)

end Command
end StatsQuery.CommandLine
