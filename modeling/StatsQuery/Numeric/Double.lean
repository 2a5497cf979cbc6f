namespace StatsQuery

namespace Double

-- The magnitude is also the bit pattern without its sign bit: eleven bits of exponent above
-- fifty-two bits of fraction. This is how many magnitudes share an exponent.
abbrev span : Nat := 0x10000000000000

abbrev limit : Nat := 0x7FF0000000000000

end Double

-- A double is its sign and its magnitude, which counts the non-negative finite doubles from zero upwards. Its value
-- is a whole number of units of `2 ^ -1074`, so that rounding and arithmetic are exact computations on natural
-- numbers.
@[ext]
structure Double where
  negative  : Bool
  magnitude : Nat
  finite    : magnitude < Double.limit
deriving DecidableEq

namespace Double

def units (magnitude : Nat) : Nat :=
  if magnitude < span then magnitude
  else (span + magnitude % span) <<< (magnitude / span - 1)

def scaled (x : Double) : Int :=
  if x.negative then -(units x.magnitude : Int) else units x.magnitude

def rank (x : Double) : Int :=
  if x.negative then -(x.magnitude : Int) - 1 else x.magnitude

instance : Ord Double where
  compare x y := compare x.rank y.rank

def same (x y : Double) : Bool :=
  x.scaled == y.scaled

-- The quotient rounded to the nearest natural number, a half going to the even neighbour.
def roundDiv (num den : Nat) : Nat :=
  let quotient := num / den
  let double := 2 * (num % den)
  if double < den then quotient
  else if den < double then quotient + 1
  else quotient + quotient % 2

def nearest (num den : Nat) : Nat :=
  let scaled := num <<< 1074
  -- The fewest binary places to drop that leave at most fifty-three.
  let shift := (scaled / den).log2 - 52
  shift * span + roundDiv scaled (den <<< shift)

def ofRatio? (negative : Bool) (num den : Nat) : Option Double :=
  if h : nearest num den < limit then some ⟨negative, nearest num den, h⟩ else none

def ofInt (z : Int) : Double where
  negative  := z < 0
  magnitude := min (nearest z.natAbs 1) (limit - 1)
  finite    := by simp only [limit]; omega

def zero (negative : Bool) : Double where
  negative  := negative
  magnitude := 0
  finite    := by decide

def isZero (x : Double) : Bool :=
  x.magnitude == 0

def mul? (x y : Double) : Option Double :=
  ofRatio? (x.negative != y.negative) (units x.magnitude * units y.magnitude) (1 <<< 2148)

def div? (x y : Double) : Option Double :=
  if y.isZero then none
  else ofRatio? (x.negative != y.negative) (units x.magnitude) (units y.magnitude)

theorem units_zero : units 0 = 0 := rfl

theorem scaled_zero (b : Bool) : (zero b).scaled = 0 := by
  cases b <;> rfl

example : same (zero true) (zero false) ∧ compare (zero true) (zero false) = .lt := ⟨rfl, rfl⟩

theorem rank_injective {x y : Double} (h : x.rank = y.rank) : x = y := by
  obtain ⟨n, m, _⟩ := x
  obtain ⟨n', m', _⟩ := y
  cases n <;> cases n' <;> simp [rank] at h ⊢ <;> omega

end Double
end StatsQuery
