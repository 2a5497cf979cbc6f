import StatsQuery.Path
import StatsQuery.Json.Order

namespace StatsQuery

inductive Criterion where
  | equals (value : Json)
  | absent
  | memberOf (values : List Json)

-- Whether a field meets a criterion, where `none` stands for a field that is missing.
def Criterion.holds : Criterion → Option Json → Bool
  | equals value, some j    => j.sameValue value
  | equals _, none          => false
  | absent, some j          => j.isNull
  | absent, none            => true
  | memberOf values, some j => values.any j.sameValue
  | memberOf _, none        => false

structure Criteria where
  criteria : List (Path × Criterion)

namespace Criteria

def empty : Criteria := ⟨[]⟩

def add (cs : Criteria) (field : String) (c : Criterion) : Except Error Criteria := do
  let p ← Path.parse field
  return ⟨cs.criteria ++ [(p, c)]⟩

def size (cs : Criteria) : Nat :=
  cs.criteria.length

def isEmpty (cs : Criteria) : Bool :=
  cs.criteria.isEmpty

-- The criterion that a value stands for: `null` for an absent field, a list for any of its values,
-- any other scalar for itself.
def criterionOf (field : String) : Json → Except Error Criterion
  | .null   => .ok .absent
  | .arr js => .ok (.memberOf js)
  | .obj _  => .error (.badCriterion field .objectValue)
  | j       => .ok (.equals j)

def ofJson : Json → Except Error Criteria
  | .obj ms => ms.foldlM (fun cs m => do cs.add m.1 (← criterionOf m.1 m.2)) empty
  | _       => .error (.badCriterion "" .notAnObject)

def accepts (cs : Criteria) (record : Json) : Bool :=
  cs.criteria.all fun (p, c) => c.holds (p.resolve record)

end Criteria

inductive FilterMode where
  | keep
  | exclude
deriving DecidableEq

namespace FilterMode

def admits : FilterMode → Bool → Bool
  | keep, accepted    => accepted
  | exclude, accepted => !accepted

end FilterMode

def filterRecords (records : List Json) (cs : Criteria) (mode : FilterMode) : List Json :=
  if cs.isEmpty then records else records.filter fun r => mode.admits (cs.accepts r)

end StatsQuery
