import StatsQuery.Json.Basic
import StatsQuery.Numeric.Shortest
import StatsQuery.Text.Numeral

namespace StatsQuery
namespace Json

structure Numeral where
  negative : Bool
  whole    : List Char
  fraction : Option (List Char)
  exponent : Option (Bool × List Char)

namespace Numeral

def whole? (cs : List Char) : Option (List Char × List Char) :=
  match cs.span Char.isDigit with
  | ([], _)           => none
  | ('0' :: _ :: _, _) => none
  | (ds, rest)        => some (ds, rest)

def fraction? : List Char → Option (Option (List Char) × List Char)
  | '.' :: cs =>
    match cs.span Char.isDigit with
    | ([], _)    => none
    | (ds, rest) => some (some ds, rest)
  | cs => some (none, cs)

def exponent? : List Char → Option (Option (Bool × List Char) × List Char)
  | 'e' :: cs => (digits cs).map fun (e, rest) => (some e, rest)
  | 'E' :: cs => (digits cs).map fun (e, rest) => (some e, rest)
  | cs        => some (none, cs)
where
  digits : List Char → Option ((Bool × List Char) × List Char)
    | '-' :: cs => unsigned true cs
    | '+' :: cs => unsigned false cs
    | cs        => unsigned false cs
  unsigned (negative : Bool) (cs : List Char) : Option ((Bool × List Char) × List Char) :=
    match cs.span Char.isDigit with
    | ([], _)    => none
    | (ds, rest) => some ((negative, ds), rest)

def read? (cs : List Char) : Option (Numeral × List Char) := do
  let (negative, cs) := match cs with
    | '-' :: cs => (true, cs)
    | cs        => (false, cs)
  let (whole, cs) ← whole? cs
  let (fraction, cs) ← fraction? cs
  let (exponent, cs) ← exponent? cs
  return (⟨negative, whole, fraction, exponent⟩, cs)

structure Scaled where
  significand : Nat
  exponent    : Int

namespace Scaled

-- Takes in digits of the whole part. From the first one on that does not fit, digits only count.
def whole (s : Scaled) : List Char → Scaled
  | [] => s
  | d :: ds =>
    let next := 10 * s.significand + (d.toNat - '0'.toNat)
    if next < UInt64.size then whole { s with significand := next } ds
    else { s with exponent := s.exponent + (ds.length + 1) }

def fraction (s : Scaled) : List Char → Scaled
  | [] => s
  | d :: ds =>
    let next := 10 * s.significand + (d.toNat - '0'.toNat)
    if next < UInt64.size then fraction ⟨next, s.exponent - 1⟩ ds else s

def largestPower : Nat := 308

def power (exponent : Nat) : Double :=
  .ofInt (Nat.pow 10 exponent)

def scaleDown (x : Double) (exponent : Nat) : Option Double :=
  if exponent ≤ largestPower then x.div? (power exponent)
  else if x.isZero then some x
  else (x.div? (power largestPower)).bind (scaleDown · (exponent - largestPower))
termination_by exponent
decreasing_by simp only [largestPower] at *; omega

def toDouble? (s : Scaled) : Option Double :=
  let x := Double.ofInt s.significand
  if 0 ≤ s.exponent then
    if s.exponent ≤ largestPower then x.mul? (power s.exponent.toNat)
    else if x.isZero then some x
    else none
  else scaleDown x (-s.exponent).toNat

end Scaled

def scaled (n : Numeral) : Scaled :=
  let s := (Scaled.whole ⟨0, 0⟩ n.whole).fraction (n.fraction.getD [])
  match n.exponent with
  | none               => s
  | some (negative, ds) =>
    let e : Int := Nat.ofDigitChars 10 ds 0
    { s with exponent := if negative then s.exponent - e else s.exponent + e }

-- The integer that a literal without fraction and exponent stands for, unless it is out of range.
-- The literal `-0` is not taken for an integer.
def int? (n : Numeral) : Option Number :=
  if n.fraction.isSome || n.exponent.isSome then none
  else
    let digits := Nat.ofDigitChars 10 n.whole 0
    if n.negative then
      if h : 0 < digits ∧ digits ≤ 0x8000000000000000 then
        some (.int (-digits) ⟨by omega, by omega⟩)
      else none
    else Number.ofNat? digits

def toNumber? (n : Numeral) : Option Number :=
  match n.int? with
  | some i => some i
  | none   => n.scaled.toDouble?.map fun x => .real { x with negative := n.negative }

end Numeral

-- The powers of ten from which up to below which the leading digit of a double may stand in a literal without
-- exponent.
structure PlainRange where
  first : Int
  limit : Int

def plainRange : PlainRange := ⟨-5, 16⟩

def scientific (digits : List Char) (exponent : Int) : List Char :=
  let fraction := match digits.drop 1 with
    | []   => []
    | rest => '.' :: rest
  digits.take 1 ++ fraction ++ 'e' :: (if exponent < 0 then '-' else '+') :: Text.numeral exponent.natAbs

def plain (digits : List Char) (exponent : Int) : List Char :=
  if exponent < 0 then
    "0.".toList ++ List.replicate (-exponent - 1).toNat '0' ++ digits
  else
    let whole := exponent.toNat + 1
    let fraction := match digits.drop whole with
      | []   => ['0']
      | rest => rest
    digits.take whole ++ List.replicate (whole - digits.length) '0' ++ '.' :: fraction

def doubleText (x : Double) : List Char :=
  let d := if x.isZero then ⟨0, 0⟩ else Double.shortest x.magnitude
  let digits := Text.numeral d.digits
  let exponent := d.exponent + digits.length - 1
  let text := if plainRange.first ≤ exponent ∧ exponent < plainRange.limit then plain digits exponent
    else scientific digits exponent
  if x.negative then '-' :: text else text

def numberText : Number → List Char
  | .int z _ => if z < 0 then '-' :: Text.numeral z.natAbs else Text.numeral z.natAbs
  | .real x  => doubleText x

end Json
end StatsQuery
