namespace StatsQuery.Text

def isNumeral (cs : List Char) : Bool :=
  !cs.isEmpty && cs.all Char.isDigit

def numeral? (cs : List Char) : Option Nat :=
  if isNumeral cs then some (Nat.ofDigitChars 10 cs 0) else none

def unsigned? : List Char → Option Nat
  | '+' :: cs => numeral? cs
  | cs        => numeral? cs

def signed? : List Char → Option Int
  | '-' :: cs => (numeral? cs).map fun n => -(n : Int)
  | cs        => (unsigned? cs).map Int.ofNat

def numeral (n : Nat) : List Char :=
  Nat.toDigits 10 n

def decimal (n : Nat) : String :=
  .ofList (numeral n)

def padded (width n : Nat) : List Char :=
  List.replicate (width - (numeral n).length) '0' ++ numeral n

theorem numeral?_numeral (n : Nat) : numeral? (numeral n) = some n := by
  have h : isNumeral (numeral n) = true := by
    simp only [isNumeral, numeral, Bool.and_eq_true, Bool.not_eq_true', List.isEmpty_eq_false_iff,
      List.all_eq_true]
    exact ⟨Nat.toDigits_ne_nil, fun _ => Nat.isDigit_of_mem_toDigits (by decide) (by decide)⟩
  rw [numeral?, if_pos h, numeral, Nat.ofDigitChars_toDigits (by decide) (by decide)]

end StatsQuery.Text
