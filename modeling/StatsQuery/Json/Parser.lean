import StatsQuery.Json.Numeral
import StatsQuery.Json.Quoted

namespace StatsQuery.Json

def maxDepth : Nat := 127

def isSpace (c : Char) : Bool :=
  c == ' ' || c == '\t' || c == '\n' || c == '\r'

def skip (cs : List Char) : List Char :=
  cs.dropWhile isSpace

abbrev Reader (α : Type) := List Char → Option (α × List Char)

def after? : List Char → List Char → Option (List Char)
  | [], cs           => some cs
  | w :: ws, c :: cs => if c = w then after? ws cs else none
  | _ :: _, []       => none

-- One or more entries with commas between them, up to the closing character. An entry takes at least
-- one character, so `fuel` need not exceed the length of the text.
def entries (entry : Reader α) (close : Char) : Nat → Reader (List α)
  | 0, _ => none
  | fuel + 1, cs => do
    let (a, cs) ← entry cs
    match skip cs with
    | ',' :: cs => (entries entry close fuel (skip cs)).map fun (as, rest) => (a :: as, rest)
    | c :: cs   => if c = close then some ([a], cs) else none
    | []        => none

def enclosed (entry : Reader α) (close : Char) (cs : List Char) : Option (List α × List Char) :=
  match skip cs with
  | []      => none
  | c :: cs => if c = close then some ([], cs) else entries entry close (cs.length + 1) (c :: cs)

def member (value : Reader Json) : Reader (String × Json)
  | '"' :: cs => do
    let (name, cs) ← Quoted.decode cs
    match skip cs with
    | ':' :: cs => (value (skip cs)).map fun (j, rest) => ((.ofList name, j), rest)
    | _         => none
  | _ => none

def scalar : Reader Json
  | '"' :: cs => (Quoted.decode cs).map fun (s, rest) => (str (.ofList s), rest)
  | 'n' :: cs => (after? "ull".toList cs).map fun rest => (null, rest)
  | 't' :: cs => (after? "rue".toList cs).map fun rest => (bool true, rest)
  | 'f' :: cs => (after? "alse".toList cs).map fun rest => (bool false, rest)
  | cs        => do
    let (n, rest) ← Numeral.read? cs
    return (num (← n.toNumber?), rest)

def value : Nat → Reader Json
  | depth, '[' :: cs =>
    match depth with
    | 0         => none
    | depth + 1 => (enclosed (value depth) ']' cs).map fun (js, rest) => (arr js, rest)
  | depth, '\x7b' :: cs =>
    match depth with
    | 0         => none
    | depth + 1 => (enclosed (member (value depth)) '\x7d' cs).map fun (ms, rest) => (ofMembers ms, rest)
  | _, cs => scalar cs

def parseChars? (cs : List Char) : Option Json := do
  let (j, rest) ← value maxDepth (skip cs)
  if (skip rest).isEmpty then some j else none

def parse? (text : String) : Option Json :=
  parseChars? text.toList

def parseBytes? (bytes : ByteArray) : Option Json :=
  (String.fromUTF8? bytes).bind parse?

end StatsQuery.Json
