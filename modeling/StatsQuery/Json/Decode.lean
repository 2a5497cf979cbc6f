import StatsQuery.Json.Basic

namespace StatsQuery

inductive OneOrMany (α : Type) where
  | one (value : α)
  | many (values : List α)
deriving DecidableEq

namespace OneOrMany

def toList : OneOrMany α → List α
  | one a   => [a]
  | many as => as

def listOf : Option (OneOrMany α) → List α
  | none   => []
  | some v => v.toList

def toJson (f : α → Json) : OneOrMany α → Json
  | one a   => f a
  | many as => .arr (as.map f)

end OneOrMany

namespace Json

abbrev Decoder (α : Type) := Json → Option α

namespace Decode

def string : Decoder String
  | .str s => some s
  | _      => none

def bool : Decoder Bool
  | .bool b => some b
  | _       => none

def natBelow (bound : Nat) : Decoder Nat
  | .num (.int z _) => if 0 ≤ z ∧ z < bound then some z.toNat else none
  | _               => none

def word (size : Nat) (ofNat : Nat → α) : Decoder α := fun j =>
  (natBelow size j).map ofNat

def uint8 : Decoder UInt8 :=
  word UInt8.size .ofNat

def uint32 : Decoder UInt32 :=
  word UInt32.size .ofNat

def uint64 : Decoder UInt64 :=
  word UInt64.size .ofNat

def list (item : Decoder α) : Decoder (List α)
  | .arr js => js.mapM item
  | _       => none

def any : Decoder Json := some

def nullable (f : Decoder α) : Decoder (Option α)
  | .null => some none
  | j     => (f j).map some

def oneOrMany (item : Decoder α) : Decoder (OneOrMany α) := fun j =>
  match item j with
  | some a => some (.one a)
  | none   => (list item j).map .many

-- One of a few names, given as the name or as an object with the name as only member and `null` as
-- its value.
def name (ofName? : String → Option α) : Decoder α
  | .str s            => ofName? s
  | .obj [(s, .null)] => ofName? s
  | _                 => none

inductive Fields where
  | named (members : Members)
  | positional (items : List Json)

namespace Fields

def of? (count : Nat) : Json → Option Fields
  | .obj ms => some (.named ms)
  | .arr js => if js.length ≤ count then some (.positional js) else none
  | _       => none

-- A field that may be unset: its member may be missing, but not its place in a list.
def optional (fs : Fields) (index : Nat) (key : String) (f : Decoder α) : Option (Option α) :=
  match fs with
  | named ms =>
    match ms.lookup key with
    | none   => some none
    | some j => nullable f j
  | positional js => js[index]?.bind (nullable f)

def withDefault (fs : Fields) (index : Nat) (key : String) (f : Decoder α) (default : α) : Option α :=
  let field? := match fs with
    | named ms      => ms.lookup key
    | positional js => js[index]?
  match field? with
  | none   => some default
  | some j => f j

end Fields
end Decode
end Json
end StatsQuery
