import StatsQuery.Numeric.Double

namespace StatsQuery

-- An integer lies in the joint range of the signed and the unsigned integers of 64 bits.
inductive Number where
  | int (value : Int) (inRange : -0x8000000000000000 ≤ value ∧ value < 0x10000000000000000)
  | real (value : Double)
deriving DecidableEq

namespace Number

def ofNat? (n : Nat) : Option Number :=
  if h : n < 0x10000000000000000 then some (.int n ⟨by omega, by omega⟩) else none

def ofNat (n : Nat) : Number :=
  (ofNat? n).getD (.real (.ofInt n))

def toDouble : Number → Double
  | int z _ => .ofInt z
  | real x  => x

def toSigned? : Number → Option Int
  | int z _ => if z < 0x8000000000000000 then some z else none
  | real _  => none

end Number

inductive Json where
  | null
  | bool (value : Bool)
  | num (value : Number)
  | str (value : String)
  | arr (items : List Json)
  | obj (members : List (String × Json))

namespace Json

abbrev Members := List (String × Json)

namespace Members

def keys (ms : Members) : List String :=
  ms.map (·.1)

def insert (key : String) (value : Json) : Members → Members
  | [] => [(key, value)]
  | (k, v) :: ms =>
    if key < k then (key, value) :: (k, v) :: ms
    else if key = k then (key, value) :: ms
    else (k, v) :: insert key value ms

def erase (key : String) (ms : Members) : Members :=
  ms.filter (·.1 ≠ key)

-- The members in the order of their names; of several with one name the last stays.
def ofList (ms : List (String × Json)) : Members :=
  ms.foldl (fun ms m => insert m.1 m.2 ms) []

def Sorted (ms : Members) : Prop :=
  ms.Pairwise (·.1 < ·.1)

end Members

def ofMembers (ms : List (String × Json)) : Json :=
  .obj (Members.ofList ms)

def ofNat (n : Nat) : Json :=
  .num (.ofNat n)

def ofOption (f : α → Json) : Option α → Json
  | none   => .null
  | some a => f a

def get? (key : String) : Json → Option Json
  | obj ms => ms.lookup key
  | _      => none

def keys : Json → List String
  | obj ms => Members.keys ms
  | _      => []

def isNull : Json → Bool
  | null => true
  | _    => false

mutual

def WellFormed : Json → Prop
  | arr js => WellFormedItems js
  | obj ms => Members.Sorted ms ∧ WellFormedMembers ms
  | _      => True

def WellFormedItems : List Json → Prop
  | []      => True
  | j :: js => WellFormed j ∧ WellFormedItems js

def WellFormedMembers : List (String × Json) → Prop
  | []           => True
  | (_, j) :: ms => WellFormed j ∧ WellFormedMembers ms

end

@[simp]
theorem get?_obj : (obj ms).get? key = ms.lookup key := rfl

theorem Members.lookup_insert_self : (Members.insert key value ms).lookup key = some value := by
  induction ms with
  | nil => simp [insert]
  | cons m ms hi =>
    obtain ⟨k, v⟩ := m
    simp only [insert]
    split
    case isTrue => simp
    split
    case isTrue => simp
    case isFalse h => simp [List.lookup_cons, beq_false_of_ne h, hi]

theorem Members.lookup_insert_ne (h : k ≠ key) :
    (Members.insert key value ms).lookup k = ms.lookup k := by
  induction ms with
  | nil => simp [insert, List.lookup_cons, beq_false_of_ne h]
  | cons m ms hi =>
    obtain ⟨k', v⟩ := m
    simp only [insert]
    split
    case isTrue => simp [List.lookup_cons, beq_false_of_ne h]
    split
    case isTrue hk => subst hk; simp [List.lookup_cons, beq_false_of_ne h]
    case isFalse => simp [List.lookup_cons, hi]

end Json
end StatsQuery
