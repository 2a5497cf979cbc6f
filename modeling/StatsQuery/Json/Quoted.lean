import StatsQuery.Text.Hex

namespace StatsQuery.Json.Quoted

open Text (hexDigit hexValue?)

def escape (c : Char) : List Char :=
  match c with
  | '"'    => ['\\', '"']
  | '\\'   => ['\\', '\\']
  | '\x08' => ['\\', 'b']
  | '\t'   => ['\\', 't']
  | '\n'   => ['\\', 'n']
  | '\x0c' => ['\\', 'f']
  | '\r'   => ['\\', 'r']
  | c      =>
    if c.toNat < 0x20 then
      ['\\', 'u', '0', '0', hexDigit (c.toNat / 16), hexDigit (c.toNat % 16)]
    else [c]

def encode (cs : List Char) : List Char :=
  '"' :: (cs.flatMap escape ++ ['"'])

def unit? (a b c d : Char) : Option Nat := do
  return ((((← hexValue? a) * 16 + (← hexValue? b)) * 16 + (← hexValue? c)) * 16 + (← hexValue? d))

def isHigh (unit : Nat) : Bool :=
  0xD800 ≤ unit && unit < 0xDC00

def isLow (unit : Nat) : Bool :=
  0xDC00 ≤ unit && unit < 0xE000

def paired (high low : Nat) : Char :=
  Char.ofNat (0x10000 + (high - 0xD800) * 0x400 + (low - 0xDC00))

def short? : Char → Option Char
  | '"'  => some '"'
  | '\\' => some '\\'
  | '/'  => some '/'
  | 'b'  => some '\x08'
  | 'f'  => some '\x0c'
  | 'n'  => some '\n'
  | 'r'  => some '\r'
  | 't'  => some '\t'
  | _    => none

-- The character at the front of a string's text, and what follows it. Control characters have to be
-- escaped, and surrogates have to come in pairs.
def char? : List Char → Option (Char × List Char)
  | '\\' :: 'u' :: a :: b :: c :: d :: cs => do
    let unit ← unit? a b c d
    if isLow unit then none
    else if isHigh unit then
      match cs with
      | '\\' :: 'u' :: e :: f :: g :: h :: cs => do
        let low ← unit? e f g h
        if isLow low then some (paired unit low, cs) else none
      | _ => none
    else some (Char.ofNat unit, cs)
  | '\\' :: c :: cs => (short? c).map (·, cs)
  | c :: cs => if c = '\\' ∨ c.toNat < 0x20 then none else some (c, cs)
  | [] => none

theorem char?_length (h : char? cs = some (c, rest)) : rest.length < cs.length := by
  unfold char? at h
  split at h
  case h_1 a b c d cs =>
    cases hu : unit? a b c d <;> simp only [hu, Option.bind_eq_bind, Option.bind_none,
      Option.bind_some, reduceCtorEq] at h
    split at h <;> try contradiction
    split at h
    · split at h <;> try contradiction
      case h_1 e f g i cs =>
        cases hl : unit? e f g i <;> simp only [hl, Option.bind_none, Option.bind_some,
          reduceCtorEq] at h
        split at h <;> simp at h
        simp [← h.2]
        omega
    · simp at h
      simp [← h.2]
      omega
  case h_2 =>
    simp only [Option.map_eq_some_iff] at h
    obtain ⟨_, _, h⟩ := h
    injection h with _ h
    simp only [← h, List.length_cons]
    omega
  case h_3 =>
    split at h <;> simp at h
    simp [← h.2]
  case h_4 => contradiction

def decode (cs : List Char) : Option (List Char × List Char) :=
  match cs with
  | '"' :: rest => some ([], rest)
  | cs          =>
    match h : char? cs with
    | none           => none
    | some (c, rest) =>
      have := char?_length h
      (decode rest).map fun (ds, rest) => (c :: ds, rest)
termination_by cs.length

theorem char?_escape (c : Char) (rest : List Char) : char? (escape c ++ rest) = some (c, rest) := by
  unfold escape
  split <;> try rfl
  split
  case isTrue h =>
    have zero : Text.hexValue? '0' = some 0 := rfl
    have unit : unit? '0' '0' (Text.hexDigit (c.toNat / 16)) (Text.hexDigit (c.toNat % 16)) =
        some c.toNat := by
      simp [unit?, zero, Text.hexValue?_hexDigit (show c.toNat / 16 < 16 by omega),
        Text.hexValue?_hexDigit (show c.toNat % 16 < 16 by omega)]
      omega
    have notLow : isLow c.toNat = false := by simp [isLow]; omega
    have notHigh : isHigh c.toNat = false := by simp [isHigh]; omega
    simp [char?, unit, notLow, notHigh]
  case isFalse =>
    rw [List.singleton_append, char?.eq_def]
    split <;> simp_all

theorem escape_ne_quote : escape c ++ cs ≠ '"' :: ds := by
  unfold escape
  split <;> try simp
  split <;> simp_all

theorem decode_escape (cs rest : List Char) :
    decode (cs.flatMap escape ++ '"' :: rest) = some (cs, rest) := by
  induction cs with
  | nil => simp [decode]
  | cons c cs hi =>
    rw [List.flatMap_cons, List.append_assoc, decode.eq_def]
    split
    case h_1 h => exact absurd h escape_ne_quote
    case h_2 =>
      split
      case h_1 h => simp [char?_escape] at h
      case h_2 h =>
        rw [char?_escape] at h
        obtain ⟨rfl, rfl⟩ := Prod.mk.inj (Option.some.inj h)
        simp [hi]

end StatsQuery.Json.Quoted
