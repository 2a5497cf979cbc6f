import StatsQuery.Report.Key
import StatsQuery.Text.Numeral

namespace StatsQuery.CommandLine

inductive Refusal where
  | help
  | helpForNothing
  | unknownCommand
  | unknownArgument
  | missingArgument
  | missingValue
  | surplusValue
  | repeated
  | badFlag
  | badValue
deriving DecidableEq

inductive ValueKind where
  | text
  | flag
  | number (bound : Nat)
  | signed (bound : Nat)
  | reportKey
deriving DecidableEq

namespace ValueKind

-- Small numbers are read with either sign before their range is looked at, large ones without minus.
def check (kind : ValueKind) (text : String) : Except Refusal Unit :=
  match kind with
  | .text         => .ok ()
  | .flag         => if text = "true" ∨ text = "false" then .ok () else .error .badFlag
  | .number bound => if (Text.unsigned? text.toList).any (· < bound) then .ok () else .error .badValue
  | .signed bound =>
    if (Text.signed? text.toList).any fun z => 0 ≤ z && z < (bound : Int) then .ok ()
    else .error .badValue
  | .reportKey    => if (ReportKey.parse text).isOk then .ok () else .error .badValue

end ValueKind

inductive OptionKind where
  | switch
  | single (kind : ValueKind)
  | multiple (kind : ValueKind)
deriving DecidableEq

structure OptionSpec where
  name  : String
  kind  : OptionKind
  short : Option Char := none
deriving DecidableEq

structure PlaceSpec where
  name : String
  kind : ValueKind
deriving DecidableEq

structure CommandSpec where
  places  : List PlaceSpec
  options : List OptionSpec

structure Matches where
  values : List (String × String) := []

namespace Matches

def all (m : Matches) (name : String) : List String :=
  (m.values.filter (·.1 == name)).map (·.2)

def get? (m : Matches) (name : String) : Option String :=
  m.values.lookup name

def has (m : Matches) (name : String) : Bool :=
  (m.get? name).isSome

def flag? (m : Matches) (name : String) : Option Bool :=
  (m.get? name).map (· == "true")

def nat? (m : Matches) (name : String) : Option Nat :=
  ((m.get? name).bind fun s => Text.signed? s.toList).map Int.toNat

def take (m : Matches) (name value : String) (kind : ValueKind) (repeats : Bool) :
    Except Refusal Matches := do
  if !repeats && m.has name then throw .repeated
  kind.check value
  return ⟨m.values ++ [(name, value)]⟩

end Matches

-- An option that waits for its value, or a value that has been given. A value is checked only when the next option or
-- argument turns up, so that an unknown argument comes before a bad value.
inductive Pending where
  | nothing
  | awaiting (name : String) (kind : ValueKind) (repeats : Bool)
  | given (name value : String) (kind : ValueKind) (repeats : Bool)

structure Progress where
  matched : Matches := {}
  pending : Pending := .nothing
  places  : List PlaceSpec

namespace Progress

def settle (p : Progress) : Except Refusal Progress :=
  match p.pending with
  | .nothing                        => .ok p
  | .awaiting ..                    => .error .missingValue
  | .given name value kind repeats  => do
    return { p with matched := ← p.matched.take name value kind repeats, pending := .nothing }

def switch (p : Progress) (name : String) : Except Refusal Progress := do
  let p ← p.settle
  return { p with matched := ← p.matched.take name "" .text false }

def valued (p : Progress) (name : String) (kind : ValueKind) (repeats : Bool) (value : Option String) :
    Except Refusal Progress := do
  let p ← p.settle
  match value with
  | some value => return { p with matched := ← p.matched.take name value kind repeats }
  | none       => return { p with pending := .awaiting name kind repeats }

def option (p : Progress) (o : OptionSpec) (value : Option String) : Except Refusal Progress :=
  match o.kind with
  | .switch        => if value.isSome then .error .surplusValue else p.switch o.name
  | .single kind   => p.valued o.name kind false value
  | .multiple kind => p.valued o.name kind true value

def long (p : Progress) (c : CommandSpec) (arg : List Char) : Except Refusal Progress :=
  let (name, value) := match arg.span (· ≠ '=') with
    | (name, _ :: value) => (String.ofList name, some (String.ofList value))
    | (name, [])         => (String.ofList name, none)
  if name = "help" then
    if value.isSome then .error .surplusValue else p.settle.bind fun _ => .error .help
  else
    match c.options.find? (·.name = name) with
    | some o => p.option o value
    | none   => .error .unknownArgument

def short (p : Progress) (c : CommandSpec) (letter : Char) (rest : List Char) :
    Except Refusal Progress :=
  if letter = 'h' then p.settle.bind fun _ => .error .help
  else
    match c.options.find? (·.short = some letter) with
    | some o =>
      let value := match rest with
        | []          => none
        | '=' :: rest => some (String.ofList rest)
        | rest        => some (String.ofList rest)
      p.option o value
    | none => .error .unknownArgument

def place (p : Progress) (arg : String) : Except Refusal Progress :=
  match p.places with
  | []             => .error .unknownArgument
  | place :: places => do
    let p ← p.settle
    return { p with pending := .given place.name arg place.kind false, places := places }

def plain (p : Progress) (arg : String) : Except Refusal Progress :=
  match p.pending with
  | .awaiting name kind repeats => .ok { p with pending := .given name arg kind repeats }
  | _                           => p.place arg

def finish (p : Progress) : Except Refusal Matches := do
  let p ← p.settle
  if p.places.isEmpty then return p.matched else throw .missingArgument

-- Two hyphens on their own end the options; a single hyphen is an argument like any other.
def run (c : CommandSpec) (p : Progress) : List String → Except Refusal Matches
  | [] => p.finish
  | arg :: args =>
    match arg.toList with
    | ['-', '-']          => (args.foldlM place p).bind finish
    | '-' :: '-' :: name  => (p.long c name).bind fun p => run c p args
    | '-' :: letter :: cs => (p.short c letter cs).bind fun p => run c p args
    | _                   => (p.plain arg).bind fun p => run c p args

end Progress

def CommandSpec.read (c : CommandSpec) (args : List String) : Except Refusal Matches :=
  Progress.run c { places := c.places } args

end StatsQuery.CommandLine
