namespace StatsQuery.Text

-- Unicode has a few letters outside ASCII whose other case is an ASCII letter. Here the dotless `ı` becomes `I` and
-- the long `ſ` becomes `S`.
def upper (c : Char) : Char :=
  if c == 'ı' then 'I' else if c == 'ſ' then 'S' else c.toUpper

def lower (c : Char) : Char :=
  if c == '\u212A' then 'k' else c.toLower

-- Letters with a case of several letters (`ß`, `ﬁ`) stay as they are: none of the several is part
-- of a word that is compared.
def upperCase (s : String) : String :=
  .ofList (s.toList.map upper)

def lowerCase (s : String) : String :=
  .ofList (s.toList.map lower)

end StatsQuery.Text
