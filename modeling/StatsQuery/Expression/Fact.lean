import StatsQuery.Error
import StatsQuery.Json.Decode
import StatsQuery.Numeric.Extended

namespace StatsQuery

structure Fact where
  minGamesPlayed : UInt32 := 0
  maxGamesPlayed : Option UInt32 := none
  property       : Option (OneOrMany String) := none
  comparator     : Option (OneOrMany String) := none
  value          : Option (OneOrMany String) := none
deriving DecidableEq

structure Threshold where
  property   : String
  comparator : String
  value      : String
deriving DecidableEq

namespace Threshold

def comparators : List String :=
  [">=", "<=", "=", ">", "<", "!="]

def isProperty : List Char → Bool
  | []      => false
  | c :: cs => c.isAlpha && cs.all fun c => c.isAlphanum || c == '_'

-- Digits and points, whatever number of minus signs stands before them.
def isPlain (cs : List Char) : Bool :=
  (cs.dropWhile (· == '-')).all fun c => c.isDigit || c == '.'

def isValue (cs : List Char) : Bool :=
  isPlain cs && (Extended.ofText? cs).any Extended.isFinite

def check (t : Threshold) : Except Error Unit :=
  if !isProperty t.property.toList then .error (.badProperty t.property)
  else if !comparators.contains t.comparator then .error (.badComparator t.comparator)
  else if !isValue t.value.toList then .error (.badFactValue t.value)
  else .ok ()

def text (t : Threshold) : List Char :=
  t.property.toList ++ t.comparator.toList ++ t.value.toList

def ofLists (properties comparators values : List String) : Except Error (List Threshold) :=
  if properties.length = comparators.length ∧ properties.length = values.length then
    .ok <| (properties.zip (comparators.zip values)).map fun (p, c, v) => ⟨p, c, v⟩
  else .error (.factArity properties.length comparators.length values.length)

end Threshold

namespace Fact

def gamesPlayed (f : Fact) : List (List Char) :=
  let least := "gamesPlayed>=".toList ++ Text.numeral f.minGamesPlayed.toNat
  let most := f.maxGamesPlayed.map fun n => "gamesPlayed<=".toList ++ Text.numeral n.toNat
  least :: most.toList

def thresholds (f : Fact) : Except Error (List Threshold) := do
  let ts ← Threshold.ofLists (OneOrMany.listOf f.property) (OneOrMany.listOf f.comparator)
    (OneOrMany.listOf f.value)
  ts.forM Threshold.check
  return ts

def compile (f : Fact) : Except Error String := do
  let ts ← f.thresholds
  return .ofList (List.intercalate " and ".toList (f.gamesPlayed ++ ts.map Threshold.text))

section Json

open Json Json.Decode

def ofJson? (j : Json) : Option Fact := do
  let fs ← Fields.of? 5 j
  return {
    minGamesPlayed := ← fs.withDefault 0 "min_gp" uint32 0
    maxGamesPlayed := ← fs.optional 1 "max_gp" uint32
    property       := ← fs.optional 2 "property" (oneOrMany string)
    comparator     := ← fs.optional 3 "comparator" (oneOrMany string)
    value          := ← fs.optional 4 "value" (oneOrMany string) }

def toJson (f : Fact) : Json :=
  .ofMembers
    [("min_gp", .ofNat f.minGamesPlayed.toNat),
     ("max_gp", .ofOption (fun n => .ofNat n.toNat) f.maxGamesPlayed),
     ("property", .ofOption (OneOrMany.toJson .str) f.property),
     ("comparator", .ofOption (OneOrMany.toJson .str) f.comparator),
     ("value", .ofOption (OneOrMany.toJson .str) f.value)]

end Json
end Fact
end StatsQuery
