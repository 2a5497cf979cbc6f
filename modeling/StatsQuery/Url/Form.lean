import StatsQuery.Url.Percent

namespace StatsQuery.Form

def isPlain (c : Char) : Bool :=
  c.isAlphanum || ['*', '-', '.', '_'].contains c

def encodeChar (c : Char) : List Char :=
  if c = ' ' then ['+'] else if isPlain c then [c] else Percent.encodeChar c

def encode (cs : List Char) : List Char :=
  cs.flatMap encodeChar

def pair (name value : String) : List Char :=
  encode name.toList ++ '=' :: encode value.toList

def append (query : List Char) (pairs : List (String × String)) : List Char :=
  pairs.foldl (fun q (n, v) => (if q.isEmpty then q else q ++ ['&']) ++ pair n v) query

end StatsQuery.Form
