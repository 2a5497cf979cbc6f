import StatsQuery.Json.Basic

namespace StatsQuery

namespace Number

-- Signed integers are compared exactly; any other pair of numbers as doubles.
def compare (m n : Number) : Ordering :=
  match m.toSigned?, n.toSigned? with
  | some a, some b => Ord.compare a b
  | _, _           => Ord.compare m.toDouble n.toDouble

def same : Number → Number → Bool
  | int a _, int b _ => a == b
  | real x, real y   => x.same y
  | _, _             => false

end Number

namespace Json

def kind : Json → Nat
  | null   => 0
  | bool _ => 1
  | num _  => 2
  | str _  => 3
  | arr _  => 4
  | obj _  => 5

mutual

-- By kind first, then by content. All objects are on a par.
def compare : Json → Json → Ordering
  | bool a, bool b => Ord.compare a b
  | num m, num n   => m.compare n
  | str s, str t   => Ord.compare s t
  | arr js, arr ks => compareItems js ks
  | j, k           => Ord.compare j.kind k.kind

def compareItems : List Json → List Json → Ordering
  | [], []           => .eq
  | [], _ :: _       => .lt
  | _ :: _, []       => .gt
  | j :: js, k :: ks => (compare j k).then (compareItems js ks)

end

mutual

def same : Json → Json → Bool
  | null, null     => true
  | bool a, bool b => a == b
  | num m, num n   => m.same n
  | str s, str t   => s == t
  | arr js, arr ks => sameItems js ks
  | obj ms, obj ns => sameMembers ms ns
  | _, _           => false

def sameItems : List Json → List Json → Bool
  | [], []           => true
  | j :: js, k :: ks => same j k && sameItems js ks
  | _, _             => false

def sameMembers : List (String × Json) → List (String × Json) → Bool
  | [], []                     => true
  | (p, j) :: ms, (q, k) :: ns => p == q && same j k && sameMembers ms ns
  | _, _                       => false

end

def sameValue (field wanted : Json) : Bool :=
  match field, wanted with
  | num m, num n => m.compare n == .eq
  | j, k         => same j k

end Json
end StatsQuery
