import StatsQuery.Path
import StatsQuery.Json.Decode
import StatsQuery.Json.Order
import StatsQuery.Json.Printer
import StatsQuery.Text.Letters

namespace StatsQuery

inductive Direction where
  | ascending
  | descending
deriving DecidableEq

namespace Direction

def name : Direction → String
  | ascending  => "ASC"
  | descending => "DESC"

def ofName? : String → Option Direction
  | "ASC"  => some ascending
  | "DESC" => some descending
  | _      => none

-- Directions are read in any case, short or in full.
def parse (text : String) : Except Error Direction :=
  match Text.upperCase text with
  | "ASC" | "ASCENDING"   => .ok ascending
  | "DESC" | "DESCENDING" => .ok descending
  | _                     => .error (.badDirection text)

end Direction

structure SortKey where
  field     : Path
  direction : Direction
deriving DecidableEq

namespace SortKey

def parse (field direction : String) : Except Error SortKey := do
  return ⟨← Path.parse field, ← Direction.parse direction⟩

def valueOf (key : SortKey) (record : Json) : Json :=
  (key.field.resolve record).getD .null

-- Records without the field come first in either direction.
def compare (key : SortKey) (a b : Json) : Ordering :=
  let a := key.valueOf a
  let b := key.valueOf b
  match a.isNull, b.isNull with
  | true, true   => .eq
  | true, false  => .lt
  | false, true  => .gt
  | false, false =>
    match key.direction with
    | .ascending  => a.compare b
    | .descending => (a.compare b).swap

end SortKey

-- Moves a record leftwards past those that have to come after it. The sorted records are given from
-- the last to the first.
def settle (before : α → α → Bool) (a : α) : List α → List α
  | []      => [a]
  | b :: bs => if before a b then b :: settle before a bs else a :: b :: bs

-- Stable sorting by insertion from the right, which also fixes the outcome for an order that is not transitive.
def insertionSort (before : α → α → Bool) (as : List α) : List α :=
  (as.foldl (fun sorted a => settle before a sorted) []).reverse

theorem settle_perm : (settle before a as).Perm (a :: as) := by
  induction as with
  | nil => exact .rfl
  | cons b bs hi =>
    simp only [settle]
    split
    case isTrue  => exact (hi.cons b).trans (.swap a b bs)
    case isFalse => exact .rfl

theorem insertionSort_perm : (insertionSort before as).Perm as := by
  have h : ∀ sorted, (as.foldl (fun sorted a => settle before a sorted) sorted).Perm (as ++ sorted) := by
    induction as with
    | nil => exact fun _ => .rfl
    | cons a as hi =>
      exact fun sorted => (hi _).trans ((settle_perm.append_left as).trans List.perm_middle)
  simpa [insertionSort] using (List.reverse_perm _).trans (h [])

def SortKey.sort (key : SortKey) (records : List Json) : List Json :=
  insertionSort (fun a b => key.compare a b == .lt) records

structure SortSpec where
  keys : List SortKey
deriving DecidableEq

namespace SortSpec

def ofLists (fields directions : List String) : Except Error SortSpec :=
  if fields.length = directions.length then do
    return ⟨← (fields.zip directions).mapM fun (f, d) => SortKey.parse f d⟩
  else .error (.sortArity fields.length directions.length)

def normalize (fields directions : OneOrMany String) : Except Error SortSpec :=
  ofLists fields.toList directions.toList

def ofLists? (fields directions : List String) : Except Error (Option SortSpec) :=
  if fields.isEmpty && directions.isEmpty then .ok none
  else (ofLists fields directions).map some

def size (s : SortSpec) : Nat :=
  s.keys.length

def isEmpty (s : SortSpec) : Bool :=
  s.keys.isEmpty

-- The first key dominates: records are sorted by the last key first and by the first key last, and each pass leaves
-- ties as the passes before it put them.
def apply (s : SortSpec) (records : List Json) : List Json :=
  s.keys.foldr SortKey.sort records

theorem apply_perm {s : SortSpec} : (s.apply records).Perm records := by
  unfold apply
  induction s.keys with
  | nil => exact .rfl
  | cons k ks hi => exact insertionSort_perm.trans hi

def toJson (s : SortSpec) : Json :=
  .arr <| s.keys.map fun k =>
    .obj [("property", .str k.field.toString), ("direction", .str k.direction.name)]

def queryParameter (s : SortSpec) : String :=
  s.toJson.compact

-- The direction of each field; of several keys with one field the last one shows.
def summary (s : SortSpec) : Json :=
  .ofMembers <| s.keys.map fun k => (k.field.toString, .str k.direction.name)

end SortSpec
end StatsQuery
