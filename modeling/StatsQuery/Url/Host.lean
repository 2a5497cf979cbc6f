import StatsQuery.Error
import StatsQuery.Text.Numeral
import StatsQuery.Url.Domain
import StatsQuery.Url.Percent

namespace StatsQuery.Host

section Ipv4

def inBase? (base : Nat) (cs : List Char) : Option Nat :=
  cs.foldlM (fun n c => (Text.hexValue? c).bind fun d => if d < base then some (base * n + d) else none) 0

-- A part of an address is decimal, octal after a zero, or hexadecimal after `0x`.
def part? : List Char → Option Nat
  | []                => none
  | '0' :: 'x' :: cs  => inBase? 16 cs
  | '0' :: 'X' :: cs  => inBase? 16 cs
  | '0' :: c :: cs    => inBase? 8 (c :: cs)
  | cs                => inBase? 10 cs

def parts (cs : List Char) : List (List Char) :=
  let ps := cs.splitOn '.'
  if 1 < ps.length ∧ ps.getLast? = some [] then ps.dropLast else ps

-- A domain whose last part is a number can only be an address.
def endsInNumber (cs : List Char) : Bool :=
  match (parts cs).getLast? with
  | some p => Text.isNumeral p || (part? p).isSome
  | none   => false

-- The address as a single number. The last part fills all the places that the others leave.
def address? (cs : List Char) : Option Nat := do
  let ns ← (parts cs).mapM part?
  let last ← ns.getLast?
  let init := ns.dropLast
  if init.length < 4 ∧ init.all (· < 256) ∧ last < 1 <<< (8 * (4 - init.length)) then
    some (init.foldr (fun n sum => (n <<< 24) + sum / 256) 0 + last)
  else none

def ipv4Text (address : Nat) : List Char :=
  List.intercalate ['.'] ([3, 2, 1, 0].map fun i => Text.numeral ((address >>> (8 * i)) % 256))

end Ipv4

section Ipv6

def piece? (cs : List Char) : Option Nat :=
  if cs.isEmpty ∨ 4 < cs.length then none else inBase? 16 cs

def embedded? (cs : List Char) : Option (List Nat) := do
  let ps := cs.splitOn '.'
  let ns ← ps.mapM fun p => if p.head? = some '0' ∧ 1 < p.length then none else Text.numeral? p
  match ns with
  | [a, b, c, d] => if ns.all (· < 256) then some [256 * a + b, 256 * c + d] else none
  | _            => none

def pieces? (cs : List Char) : Option (List Nat) :=
  if cs.isEmpty then some []
  else
    let ps := cs.splitOn ':'
    match ps.getLast? with
    | some last =>
      if last.contains '.' then do return (← ps.dropLast.mapM piece?) ++ (← embedded? last)
      else ps.mapM piece?
    | none => none

def splitPair : List Char → List Char × Option (List Char)
  | ':' :: ':' :: cs => ([], some cs)
  | c :: cs          => let (before, after) := splitPair cs; (c :: before, after)
  | []               => ([], none)

-- A pair of colons stands for as many zeros as are missing, at least one.
def ipv6? (cs : List Char) : Option (List Nat) := do
  match splitPair cs with
  | (before, none)       =>
    let ps ← pieces? before
    if ps.length = 8 then some ps else none
  | (before, some after) =>
    if before.contains '.' then none
    else
      let ps ← pieces? before
      let qs ← pieces? after
      if ps.length + qs.length < 8 then
        some (ps ++ List.replicate (8 - ps.length - qs.length) 0 ++ qs)
      else none

def zeros (ps : List Nat) : Nat :=
  (ps.takeWhile (· == 0)).length

def longestZeros (ps : List Nat) : Nat × Nat :=
  (List.range ps.length).foldl (fun (best : Nat × Nat) i =>
    let n := zeros (ps.drop i)
    if best.2 < n then (i, n) else best) (0, 0)

def ipv6Text (ps : List Nat) : List Char :=
  let hex (qs : List Nat) : List Char := List.intercalate [':'] (qs.map (Nat.toDigits 16))
  let (start, length) := longestZeros ps
  let body := if length < 2 then hex ps
    else hex (ps.take start) ++ [':', ':'] ++ hex (ps.drop (start + length))
  '[' :: body ++ [']']

end Ipv6

def bracketed (cs : List Char) : Except UrlFault (List Char) :=
  if cs.getLast? = some ']' then
    match ipv6? cs.dropLast with
    | some ps => .ok (ipv6Text ps)
    | none    => .error .badIpv6
  else .error .badIpv6

def isForbidden (c : Char) : Bool :=
  ['\x00', ' ', '#', '/', ':', '<', '>', '?', '@', '[', '\\', ']', '^', '|'].contains c

def isForbiddenInDomain (c : Char) : Bool :=
  isForbidden c || c.toNat < 0x20 || c == '%' || c == '\x7F'

def domain (cs : List Char) : Except UrlFault (List Char) :=
  match cs with
  | '[' :: cs => bracketed cs
  | cs        =>
    match (Percent.decode? cs).bind Domain.toAscii? with
    | none       => .error .badDomain
    | some ascii =>
      if ascii.any isForbiddenInDomain then .error .badDomain
      else if ascii.isEmpty then .error .emptyHost
      else if endsInNumber ascii then
        match address? ascii with
        | some n => .ok (ipv4Text n)
        | none   => .error .badIpv4
      else .ok ascii

def verbatim (cs : List Char) : Except UrlFault (List Char) :=
  match cs with
  | '[' :: cs => bracketed cs
  | cs        =>
    if cs.any isForbidden then .error .badDomainCharacter
    else .ok (Percent.encode Percent.isControl cs)

end StatsQuery.Host
