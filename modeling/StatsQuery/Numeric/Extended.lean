import StatsQuery.Numeric.Shortest
import StatsQuery.Text.Numeral

namespace StatsQuery

inductive Extended where
  | finite (x : Double)
  | infinity (negative : Bool)
  | undefined
deriving DecidableEq

namespace Extended

def isFinite : Extended → Bool
  | finite _ => true
  | _        => false

def significand? (cs : List Char) : Option ((List Char × List Char) × List Char) :=
  let (whole, rest) := cs.span Char.isDigit
  let (fraction, rest) := match rest with
    | '.' :: rest => rest.span Char.isDigit
    | rest        => ([], rest)
  if (whole ++ fraction).isEmpty then none else some ((whole, fraction), rest)

def exponent? : List Char → Option Int
  | []      => some 0
  | c :: cs => if c == 'e' || c == 'E' then Text.signed? cs else none

def decimal? (cs : List Char) : Option Decimal := do
  let ((whole, fraction), rest) ← significand? cs
  let exponent ← exponent? rest
  return ⟨Nat.ofDigitChars 10 (whole ++ fraction) 0, exponent - fraction.length⟩

-- A decimal is rounded to the nearest double. It is infinite if that would lie beyond the finite ones.
def ofDecimal (negative : Bool) (d : Decimal) : Extended :=
  let num := d.digits * Nat.pow 10 d.exponent.toNat
  let den := Nat.pow 10 (-d.exponent).toNat
  (Double.ofRatio? negative num den).elim (infinity negative) finite

def word? (negative : Bool) (cs : List Char) : Option Extended :=
  match String.ofList (cs.map Char.toLower) with
  | "inf" | "infinity" => some (infinity negative)
  | "nan"              => some undefined
  | _                  => none

def unsigned? (negative : Bool) (cs : List Char) : Option Extended :=
  match decimal? cs with
  | some d => some (ofDecimal negative d)
  | none   => word? negative cs

def ofText? : List Char → Option Extended
  | '-' :: cs => unsigned? true cs
  | '+' :: cs => unsigned? false cs
  | cs        => unsigned? false cs

end Extended
end StatsQuery
