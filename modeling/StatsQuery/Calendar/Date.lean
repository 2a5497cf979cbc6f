import StatsQuery.Error
import StatsQuery.Text.Blank
import StatsQuery.Text.Numeral

namespace StatsQuery

namespace Calendar

def isLeap (year : Int) : Bool :=
  year % 4 == 0 && (year % 100 != 0 || year % 400 == 0)

def daysIn (year : Int) : Nat → Nat
  | 2            => if isLeap year then 29 else 28
  | 4 | 6 | 9 | 11 => 30
  | _            => 31

def firstYear : Int := -262143

def lastYear : Int := 262142

end Calendar

structure Date where
  year       : Int
  month      : Nat
  day        : Nat
  year_mem   : Calendar.firstYear ≤ year ∧ year ≤ Calendar.lastYear
  month_mem  : 1 ≤ month ∧ month ≤ 12
  day_mem    : 1 ≤ day ∧ day ≤ Calendar.daysIn year month
deriving DecidableEq

namespace Date

def of? (year : Int) (month day : Nat) : Option Date :=
  if h : (Calendar.firstYear ≤ year ∧ year ≤ Calendar.lastYear) ∧ (1 ≤ month ∧ month ≤ 12) ∧
      (1 ≤ day ∧ day ≤ Calendar.daysIn year month) then
    some ⟨year, month, day, h.1, h.2.1, h.2.2⟩
  else none

def number? (width : Nat) (cs : List Char) : Option (Nat × List Char) :=
  let digits := (cs.take width).takeWhile Char.isDigit
  (Text.numeral? digits).map (·, cs.drop digits.length)

-- A year has up to four digits, or any number of them after a sign.
def year? (cs : List Char) : Option (Int × List Char) :=
  match Text.trimLeft cs with
  | '-' :: cs => (number? cs.length cs).map fun (n, rest) => (-n, rest)
  | '+' :: cs => (number? cs.length cs).map fun (n, rest) => (n, rest)
  | cs        => (number? 4 cs).map fun (n, rest) => (n, rest)

def part? : List Char → Option (Nat × List Char)
  | '-' :: cs => number? 2 (Text.trimLeft cs)
  | _         => none

def read? (cs : List Char) : Option Date := do
  let (year, cs) ← year? cs
  let (month, cs) ← part? cs
  let (day, cs) ← part? cs
  if cs.isEmpty then of? year month day else none

def parse (text : String) : Except Error Date :=
  match read? text.toList with
  | some d => .ok d
  | none   => .error (.badDate text)

def yearText (year : Int) : List Char :=
  let digits := Text.padded 4 year.natAbs
  if year < 0 then '-' :: digits else if 9999 < year then '+' :: digits else digits

def text (d : Date) : List Char :=
  yearText d.year ++ '-' :: Text.padded 2 d.month ++ '-' :: Text.padded 2 d.day

def toString (d : Date) : String :=
  .ofList d.text

end Date
end StatsQuery
