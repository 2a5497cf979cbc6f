import StatsQuery.Text.Hex

namespace StatsQuery.Unicode

open Text (hexValue?)

def words (text : String) : List (List Char) :=
  (text.toList.splitOnP Char.isWhitespace).filter (!·.isEmpty)

def number (cs : List Char) : Nat :=
  cs.foldl (fun n c => 16 * n + (hexValue? c).getD 0) 0

-- Sets of code points and maps between them are read from text. Words between blanks stand for single code points and
-- ranges in hexadecimal: `61`, `61-7A`, and `100~12E` for every other one. In maps the image follows after a mark.
-- The whole range goes to the image in `AA=61`; in `41-5A>61` the image moves along with the code point. Images of
-- several code points have dots between them.
structure Span where
  first  : Nat
  last   : Nat
  stride : Nat

namespace Span

def read (cs : List Char) : Span :=
  match cs.span Char.isAlphanum with
  | (first, [])          => ⟨number first, number first, 1⟩
  | (first, '~' :: last) => ⟨number first, number last, 2⟩
  | (first, _ :: last)   => ⟨number first, number last, 1⟩

def contains (s : Span) (n : Nat) : Bool :=
  s.first ≤ n && n ≤ s.last && (n - s.first) % s.stride == 0

end Span

structure CodePoints where
  spans : List Span

namespace CodePoints

def ofText (text : String) : CodePoints :=
  ⟨(words text).map Span.read⟩

def contains (s : CodePoints) (c : Char) : Bool :=
  s.spans.any (·.contains c.toNat)

end CodePoints

structure Entry where
  span  : Span
  image : List Nat
  moves : Bool

namespace Entry

def images (cs : List Char) : List Nat :=
  ((cs.splitOn '.').filter (!·.isEmpty)).map number

def read (cs : List Char) : Entry :=
  match cs.span (fun c => c ≠ '=' && c ≠ '>') with
  | (span, mark :: image) => ⟨.read span, images image, mark == '>'⟩
  | (span, [])            => ⟨.read span, [], false⟩

def find? (e : Entry) (n : Nat) : Option (List Nat) :=
  if e.span.contains n then
    some (if e.moves then e.image.map (· + (n - e.span.first)) else e.image)
  else none

end Entry

structure Table where
  entries : List Entry

namespace Table

def ofText (text : String) : Table :=
  ⟨(words text).map Entry.read⟩

def find? (t : Table) (c : Char) : Option (List Nat) :=
  t.entries.findSome? (·.find? c.toNat)

end Table
end StatsQuery.Unicode
