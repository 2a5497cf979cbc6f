import StatsQuery.Json.Numeral
import StatsQuery.Json.Quoted

namespace StatsQuery.Json

mutual

def print : Json → List Char
  | null       => "null".toList
  | bool true  => "true".toList
  | bool false => "false".toList
  | num n      => numberText n
  | str s      => Quoted.encode s.toList
  | arr js     => '[' :: printItems js ++ [']']
  | obj ms     => '\x7b' :: printMembers ms ++ ['\x7d']

def printItems : List Json → List Char
  | []      => []
  | [j]     => print j
  | j :: js => print j ++ ',' :: printItems js

def printMembers : List (String × Json) → List Char
  | []           => []
  | [(k, j)]     => Quoted.encode k.toList ++ ':' :: print j
  | (k, j) :: ms => Quoted.encode k.toList ++ ':' :: print j ++ ',' :: printMembers ms

end

def compact (j : Json) : String :=
  .ofList j.print

def indent : Nat := 2

def newline (level : Nat) : List Char :=
  '\n' :: List.replicate (indent * level) ' '

mutual

def layout (level : Nat) : Json → List Char
  | arr (j :: js) => '[' :: layoutItems (level + 1) (j :: js) ++ newline level ++ [']']
  | obj (m :: ms) => '\x7b' :: layoutMembers (level + 1) (m :: ms) ++ newline level ++ ['\x7d']
  | j             => print j

def layoutItems (level : Nat) : List Json → List Char
  | []      => []
  | [j]     => newline level ++ layout level j
  | j :: js => newline level ++ layout level j ++ ',' :: layoutItems level js

def layoutMembers (level : Nat) : List (String × Json) → List Char
  | []           => []
  | [(k, j)]     => newline level ++ Quoted.encode k.toList ++ ": ".toList ++ layout level j
  | (k, j) :: ms =>
    newline level ++ Quoted.encode k.toList ++ ": ".toList ++ layout level j ++
      ',' :: layoutMembers level ms

end

def pretty (j : Json) : String :=
  .ofList (j.layout 0)

end StatsQuery.Json
