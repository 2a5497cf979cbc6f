import StatsQuery.Text.Hex

namespace StatsQuery.Percent

open Text (hexDigit hexValue?)

def encodeByte (b : UInt8) : List Char :=
  ['%', (hexDigit (b.toNat / 16)).toUpper, (hexDigit (b.toNat % 16)).toUpper]

def encodeChar (c : Char) : List Char :=
  (String.utf8EncodeChar c).flatMap encodeByte

def encode (reserved : Char → Bool) (cs : List Char) : List Char :=
  cs.flatMap fun c => if reserved c then encodeChar c else [c]

def decodeBytes : List Char → List UInt8
  | '%' :: a :: b :: cs =>
    match hexValue? a, hexValue? b with
    | some m, some n => .ofNat (16 * m + n) :: decodeBytes cs
    | _, _           => '%'.toUInt8 :: decodeBytes (a :: b :: cs)
  | c :: cs => String.utf8EncodeChar c ++ decodeBytes cs
  | []      => []

def decode? (cs : List Char) : Option (List Char) :=
  (String.fromUTF8? ⟨(decodeBytes cs).toArray⟩).map String.toList

def isControl (c : Char) : Bool :=
  c.toNat < 0x20 || 0x7E < c.toNat

def inFragment (c : Char) : Bool :=
  isControl c || [' ', '"', '<', '>', '\x60'].contains c

def inQuery (c : Char) : Bool :=
  isControl c || [' ', '"', '#', '<', '>'].contains c

-- Queries of the web's own schemes also encode the apostrophe.
def inSpecialQuery (c : Char) : Bool :=
  inQuery c || c == '\x27'

def inPath (c : Char) : Bool :=
  inFragment c || ['#', '?', '\x7b', '\x7d'].contains c

def inUserinfo (c : Char) : Bool :=
  inPath c || ['/', ':', ';', '=', '@', '[', '\\', ']', '^', '|'].contains c

end StatsQuery.Percent
