import StatsQuery.Numeric.Double

namespace StatsQuery

structure Decimal where
  digits   : Nat
  exponent : Int
deriving DecidableEq

namespace Decimal

def withoutFinalZero (d : Decimal) : Decimal :=
  if d.digits % 10 = 0 then ⟨d.digits / 10, d.exponent + 1⟩ else d

def width (n : Nat) : Nat :=
  (Nat.toDigits 10 n).length

end Decimal

namespace Double

-- The reals that round to a magnitude, between `lower` and `upper` in units of `2 ^ -1075`.
structure Interval where
  value  : Nat
  lower  : Nat
  upper  : Nat
  closed : Bool

-- Half-way points round to the even neighbour, so the ends belong to the even magnitudes.
def interval (magnitude : Nat) : Interval where
  value  := 2 * units magnitude
  lower  := units (magnitude - 1) + units magnitude
  upper  := units magnitude + units (magnitude + 1)
  closed := magnitude % 2 == 0

namespace Interval

def contains (i : Interval) (num den : Nat) : Bool :=
  if i.closed then i.lower * den ≤ num && num ≤ i.upper * den
  else i.lower * den < num && num < i.upper * den

def decimalExponent (i : Interval) : Int :=
  (Decimal.width ((i.value * Nat.pow 10 400) >>> 1075) : Int) - 400

def onGrid? (i : Interval) (exponent : Int) : Option Decimal :=
  let up := Nat.pow 10 exponent.toNat <<< 1075
  let down := Nat.pow 10 (-exponent).toNat
  let below := i.value * down / up
  let above := below + 1
  let distanceBelow := i.value * down - below * up
  let distanceAbove := above * up - i.value * down
  match i.contains (below * up) down, i.contains (above * up) down with
  | false, false => none
  | true,  false => some ⟨below, exponent⟩
  | false, true  => some ⟨above, exponent⟩
  | true,  true  =>
    if distanceBelow < distanceAbove then some ⟨below, exponent⟩
    else if distanceAbove < distanceBelow then some ⟨above, exponent⟩
    else some ⟨if below % 2 == 0 then below else above, exponent⟩

end Interval

def longest : Nat := 17

-- Of the decimals with the fewest digits that round to the magnitude, the nearest one, and of two equally near ones
-- the even one.
def shortest (magnitude : Nat) : Decimal :=
  let i := interval magnitude
  let top := i.decimalExponent
  -- Just below a power of ten the neighbour above is that power, with a digit to spare.
  let found? := (List.range longest).findSome? fun n : Nat => i.onGrid? (top - (n + 1))
  (found?.getD ⟨0, 0⟩).withoutFinalZero

end Double
end StatsQuery
