import StatsQuery.Filter
import StatsQuery.Json.Parser

namespace StatsQuery.Criteria

def splitPair? (pair : String) : Option (String × String) :=
  match pair.toList.span (· ≠ '=') with
  | (field, _ :: value) => some (.ofList field, .ofList value)
  | (_, [])             => none

def valueOf (text : String) : Json :=
  (Json.parse? text).getD (.str text)

-- One more value for a field. A list takes it in, a single value becomes a list with it.
def collect (ms : Json.Members) (field : String) (value : Json) : Json.Members :=
  match ms.lookup field with
  | none              => ms.insert field value
  | some (.arr vs)    => ms.insert field (.arr (vs ++ [value]))
  | some first        => ms.insert field (.arr [first, value])

def membersOf (pairs : List String) : Except Error Json.Members :=
  pairs.foldlM step []
where
  step (ms : Json.Members) (pair : String) : Except Error Json.Members :=
    match splitPair? pair with
    | some (field, value) => .ok (collect ms field (valueOf value))
    | none                => .error (.badCriterion pair .noEqualsSign)

def ofPairs (pairs : List String) : Except Error (Option Criteria) :=
  if pairs.isEmpty then .ok none
  else do return some (← ofJson (.obj (← membersOf pairs)))

end StatsQuery.Criteria
