import StatsQuery.Unicode.CombiningClass
import StatsQuery.Unicode.Composition

namespace StatsQuery.Unicode

namespace Hangul

def firstSyllable : Nat := 0xAC00
def firstLead : Nat := 0x1100
def firstVowel : Nat := 0x1161
def beforeTrails : Nat := 0x11A7
def leads : Nat := 19
def vowels : Nat := 21
def trails : Nat := 28

def letters? (c : Char) : Option (List Char) :=
  let n := c.toNat - firstSyllable
  if firstSyllable ≤ c.toNat && n < leads * vowels * trails then
    let lead := Char.ofNat (firstLead + n / (vowels * trails))
    let vowel := Char.ofNat (firstVowel + n / trails % vowels)
    some (if n % trails == 0 then [lead, vowel]
      else [lead, vowel, Char.ofNat (beforeTrails + n % trails)])
  else none

def syllable? (a b : Char) : Option Char :=
  let lead := a.toNat - firstLead
  let vowel := b.toNat - firstVowel
  let n := a.toNat - firstSyllable
  let trail := b.toNat - beforeTrails
  if firstLead ≤ a.toNat && lead < leads && firstVowel ≤ b.toNat && vowel < vowels then
    some (.ofNat (firstSyllable + (lead * vowels + vowel) * trails))
  else if firstSyllable ≤ a.toNat && n < leads * vowels * trails && n % trails == 0 &&
      beforeTrails < b.toNat && trail < trails then
    some (.ofNat (a.toNat + trail))
  else none

end Hangul

def firstDecomposable : Nat := 0xC0

def decompose (c : Char) : List Char :=
  if c.toNat < firstDecomposable then [c]
  else
    match Hangul.letters? c with
    | some cs => cs
    | none    =>
      match (composites.find? c).or (replacements.find? c) with
      | some ns => ns.map Char.ofNat
      | none    => [c]

def firstSecond : Nat := 0x300

def compose? (a b : Char) : Option Char :=
  if b.toNat < firstSecond then none
  else
    let parts := (decompose a ++ [b]).map Char.toNat
    (Hangul.syllable? a b).or
      ((composites.entries.find? (·.image == parts)).map fun e => .ofNat e.span.first)

def place (c : Char) : List Char → List Char
  | []      => [c]
  | d :: ds =>
    if 0 < combiningClass d && combiningClass d < combiningClass c then d :: place c ds
    else c :: d :: ds

-- Composes characters with the one that has come before them. A mark in between gets in the way unless
-- it has a lower class.
def recompose (first : Char) (between : List Char) : List Char → List Char
  | []      => first :: between
  | c :: cs =>
    let free := match between.getLast? with
      | none   => true
      | some d => combiningClass d < combiningClass c
    match if free then compose? first c else none with
    | some d => recompose d between cs
    | none   =>
      if combiningClass c == 0 then first :: between ++ recompose c [] cs
      else recompose first (between ++ [c]) cs

def normalize (cs : List Char) : List Char :=
  match (cs.flatMap decompose).foldr place [] with
  | []      => []
  | c :: cs => recompose c [] cs

theorem decompose_of_lt (h : c.toNat < firstDecomposable) : decompose c = [c] := by
  simp only [decompose, h, ↓reduceIte]

end StatsQuery.Unicode
