namespace StatsQuery.Expression

-- A text between single quotes, each quote within it written twice.
def quoteChars (cs : List Char) : List Char :=
  '\x27' :: (cs.flatMap fun c => if c = '\x27' then [c, c] else [c]) ++ ['\x27']

def quote (text : String) : String :=
  .ofList (quoteChars text.toList)

inductive Literal where
  | bare (text : String)
  | quoted (text : String)
deriving DecidableEq

namespace Literal

def flag (value : Bool) : Literal :=
  .quoted (if value then "1" else "0")

def text : Literal → List Char
  | bare text   => text.toList
  | quoted text => quoteChars text.toList

end Literal

inductive Clause where
  | relation (column operator : String) (value : Literal)
  | contains (column text : String)
  | oneOf (column : String) (values : List String)
deriving DecidableEq

namespace Clause

def equal (column : String) (value : Literal) : Clause :=
  .relation column "=" value

def relationText (column operator : String) (value : Literal) : List Char :=
  column.toList ++ operator.toList ++ value.text

def text : Clause → List Char
  | relation column operator value => relationText column operator value
  | contains column text =>
    column.toList ++ " likeIgnoreCase ".toList ++ quoteChars ('%' :: text.toList ++ ['%'])
  | oneOf column values =>
    let alternatives := values.map fun v => relationText column "=" (.quoted v)
    '(' :: List.intercalate " or ".toList alternatives ++ [')']

def conjunction (cs : List Clause) : List Char :=
  List.intercalate " and ".toList (cs.map text)

end Clause
end StatsQuery.Expression
