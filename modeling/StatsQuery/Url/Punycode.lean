namespace StatsQuery.Punycode

def digit (n : Nat) : Char :=
  if n < 26 then Char.ofNat ('a'.toNat + n) else Char.ofNat ('0'.toNat + (n - 26))

def threshold (bias position : Nat) : Nat :=
  max 1 (min 26 (position - bias))

def number (bias position n : Nat) : List Char :=
  let t := threshold bias position
  if n < t then [digit n]
  else digit (t + (n - t) % (36 - t)) :: number bias (position + 36) ((n - t) / (36 - t))
termination_by n
decreasing_by
  have : 1 ≤ threshold bias position := by unfold threshold; omega
  have := Nat.div_le_self (n - threshold bias position) (36 - threshold bias position)
  omega

def adapt (delta length : Nat) (first : Bool) : Nat :=
  let delta := if first then delta / 700 else delta / 2
  scale 0 (delta + delta / length)
where
  scale (bias delta : Nat) : Nat :=
    if 455 < delta then scale (bias + 36) (delta / 35)
    else bias + 36 * delta / (delta + 38)
  termination_by delta
  decreasing_by omega

structure State where
  output : List Char
  delta  : Nat
  bias   : Nat
  length : Nat
  first  : Bool

def State.pass (wanted : Nat) (s : State) (c : Char) : State :=
  if c.toNat < wanted then { s with delta := s.delta + 1 }
  else if c.toNat = wanted then
    { output := s.output ++ number s.bias 36 s.delta
      delta  := 0
      bias   := adapt s.delta (s.length + 1) s.first
      length := s.length + 1
      first  := false }
  else s

def State.insert (text : List Char) (s : State) (last wanted : Nat) : State :=
  let s := text.foldl (State.pass wanted) { s with delta := s.delta + (wanted - last) * (s.length + 1) }
  { s with delta := s.delta + 1 }

def foreign (text : List Char) : List Nat :=
  ((text.map Char.toNat).filter (0x80 ≤ ·)).mergeSort.eraseReps

def encode (text : List Char) : List Char :=
  let basic := text.filter (·.toNat < 0x80)
  let start : State := ⟨[], 0, 72, basic.length, true⟩
  let (s, _) := (foreign text).foldl (fun (s, last) wanted => (s.insert text last wanted, wanted + 1))
    (start, 0x80)
  basic ++ (if basic.isEmpty then [] else ['-']) ++ s.output

def value? (c : Char) : Option Nat :=
  if c.isAlpha then some (c.toLower.toNat - 'a'.toNat)
  else if c.isDigit then some (c.toNat - '0'.toNat + 26)
  else none

def number? (bias position weight : Nat) : List Char → Option (Nat × List Char)
  | []      => none
  | c :: cs =>
    match value? c with
    | none   => none
    | some d =>
      let t := threshold bias position
      if d < t then some (d * weight, cs)
      else if UInt32.size ≤ weight * (36 - t) then none
      else (number? bias (position + 36) (weight * (36 - t)) cs).map fun (n, rest) =>
        (d * weight + n, rest)

theorem number?_length (h : number? bias position weight cs = some (n, rest)) :
    rest.length < cs.length := by
  induction cs generalizing position weight n with
  | nil => contradiction
  | cons c cs hi =>
    unfold number? at h
    split at h
    case h_1 => contradiction
    case h_2 =>
      simp only at h
      split at h
      case isTrue =>
        injection h with h
        injection h with _ h
        simp only [← h, List.length_cons]
        omega
      case isFalse =>
        split at h
        case isTrue => contradiction
        case isFalse =>
          simp only [Option.map_eq_some_iff] at h
          obtain ⟨⟨m, r⟩, hm, h⟩ := h
          injection h with _ h
          subst h
          exact Nat.lt_succ_of_lt (hi hm)

def isCharacter (n : Nat) : Bool :=
  n < 0xD800 || 0xDFFF < n && n < 0x110000

-- Carries out the insertions that a text stands for. The last one has put the code point `last` right
-- before `index`.
def insertAll (bias last index : Nat) (output : List Char) (cs : List Char) : Option (List Char) :=
  if cs.isEmpty then some output
  else
    match h : number? bias 36 1 cs with
    | none           => none
    | some (n, rest) =>
      have := number?_length h
      let length := output.length + 1
      let code := last + (index + n) / length
      let place := (index + n) % length
      if index + n < UInt32.size && isCharacter code then
        insertAll (adapt n length (index == 0)) code (place + 1)
          (output.insertIdx place (.ofNat code)) rest
      else none
termination_by cs.length

-- The text of a code. The ASCII characters end at the last hyphen, and are there if it is.
def decode (cs : List Char) : Option (List Char) :=
  match cs.reverse.span (· ≠ '-') with
  | (_, [])              => insertAll 72 0x80 0 [] cs
  | (_, [_])             => none
  | (after, _ :: before) => insertAll 72 0x80 0 (before.reverse.map Char.toLower) after.reverse

end StatsQuery.Punycode
