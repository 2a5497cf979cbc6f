import StatsQuery.Unicode.Bidi
import StatsQuery.Unicode.Joining
import StatsQuery.Unicode.Mark
import StatsQuery.Unicode.Normal
import StatsQuery.Url.Domain.Mapping
import StatsQuery.Url.Punycode

namespace StatsQuery.Domain

open Unicode (normalize combiningClass bidiClass)

def longestText : Nat := 1000
def longestCode : Nat := 2000

def isAscii (cs : List Char) : Bool :=
  cs.all (·.toNat < 0x80)

def isMapped (cs : List Char) : Bool :=
  cs.all (fun c => image? c == some [c]) && normalize cs == cs

def text? (label : List Char) : Option (List Char) :=
  match label with
  | 'x' :: 'n' :: '-' :: '-' :: code =>
    if !isAscii code || code.isEmpty || code.getLast? == some '-' || longestCode < code.length then none
    else (Punycode.decode code).filter isMapped
  | label => some label

def code (label : List Char) : List Char :=
  if isAscii label then label else "xn--".toList ++ Punycode.encode label

section Joiner

def nonJoiner : Char := '\u200C'

def joiner : Char := '\u200D'

def joins (property : Unicode.CodePoints) (cs : List Char) : Bool :=
  (cs.dropWhile Unicode.isTransparent).head?.any property.contains

-- Both joiners may follow a virama, and the other one may also part letters that would join. What
-- comes before is given from its end.
def allowsJoiner (before : List Char) (c : Char) (after : List Char) : Bool :=
  let afterVirama := before.head?.any (combiningClass · == Unicode.virama)
  if c == joiner then afterVirama
  else if c == nonJoiner then
    afterVirama || joins Unicode.joinsNext before && joins Unicode.joinsPrevious after
  else true

def allowsJoiners (before : List Char) : List Char → Bool
  | []      => true
  | c :: cs => allowsJoiner before c cs && allowsJoiners (c :: before) cs

end Joiner

def isLabel (cs : List Char) : Bool :=
  !cs.head?.any Unicode.isMark && allowsJoiners [] cs && (isAscii cs || cs.length ≤ longestText)

section Direction

open Unicode.BidiClass

-- A label runs in one direction: that of its first character, which also has to show at its end.
def hasDirection (label : List Char) : Bool :=
  match label.map bidiClass with
  | []           => true
  | first :: bs  =>
    let bs := (bs.reverse.dropWhile (· == nonspacing)).reverse
    let endsIn (classes : List Unicode.BidiClass) := bs.getLast?.all classes.contains
    match first with
    | left  =>
      !bs.contains right && !bs.contains arabicNumber && endsIn [left, europeanNumber]
    | right =>
      !bs.contains left && endsIn [right, europeanNumber, arabicNumber] &&
        !(bs.contains europeanNumber && bs.contains arabicNumber)
    | _     => false

def haveDirections (labels : List (List Char)) : Bool :=
  !labels.any (·.any Unicode.isRightToLeft) || labels.all hasDirection

end Direction

-- A name is mapped character by character and normalized; each label beyond ASCII is then written in Punycode behind
-- `xn--`. A label that comes in that form already has to stand for a label that mapping and normalization would leave
-- alone.
def toAscii? (name : List Char) : Option (List Char) := do
  let images ← name.mapM image?
  let labels ← ((normalize images.flatten).splitOn '.').mapM text?
  if labels.all isLabel && haveDirections labels then
    some (List.intercalate ['.'] (labels.map code))
  else none

end StatsQuery.Domain
