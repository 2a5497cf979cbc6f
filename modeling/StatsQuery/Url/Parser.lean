import StatsQuery.Url.Basic
import StatsQuery.Url.Host

namespace StatsQuery.Url

-- Controls and blanks around a URL are ignored, tabs and line ends also within it.
def clean (cs : List Char) : List Char :=
  let isEdge (c : Char) : Bool := c.toNat ≤ 0x20
  let inner := ((cs.dropWhile isEdge).reverse.dropWhile isEdge).reverse
  inner.filter fun c => c ≠ '\t' && c ≠ '\n' && c ≠ '\r'

def isSchemeChar (c : Char) : Bool :=
  c.isAlphanum || c == '+' || c == '-' || c == '.'

def scheme? (cs : List Char) : Option (List Char × List Char) :=
  match cs.span isSchemeChar with
  | (c :: name, ':' :: rest) => if c.isAlpha then some ((c :: name).map Char.toLower, rest) else none
  | _                        => none

def isSlash (special : Bool) (c : Char) : Bool :=
  c == '/' || special && c == '\\'

structure Tail where
  path     : List Char
  query    : Option (List Char)
  fragment : Option (List Char)

def tail (cs : List Char) : Tail :=
  let (before, fragment) := cut '#' cs
  let (path, query) := cut '?' before
  ⟨path, query, fragment⟩
where
  cut (mark : Char) (cs : List Char) : List Char × Option (List Char) :=
    match cs.span (· ≠ mark) with
    | (before, _ :: after) => (before, some after)
    | (before, [])         => (before, none)

namespace Tail

def encodedQuery (t : Tail) (special : Bool) : Option (List Char) :=
  t.query.map (Percent.encode (if special then Percent.inSpecialQuery else Percent.inQuery))

def encodedFragment (t : Tail) : Option (List Char) :=
  t.fragment.map (Percent.encode Percent.inFragment)

end Tail

section Path

def plainDots : List Char → List Char
  | '%' :: '2' :: 'e' :: cs => '.' :: plainDots cs
  | '%' :: '2' :: 'E' :: cs => '.' :: plainDots cs
  | c :: cs                 => c :: plainDots cs
  | []                      => []

def isDrive : List Char → Bool
  | [c, mark] => c.isAlpha && (mark == ':' || mark == '|')
  | _         => false

-- A path without its last segment. There is no way out of a drive, whatever the scheme, and a drive may
-- also stand before a backslash that does not separate.
def shorten (path : List (List Char)) : List (List Char) :=
  if path.getLast?.any fun s => isDrive (s.takeWhile (· ≠ '\\')) then path else path.dropLast

def extend (isFile : Bool) (path : List (List Char)) (s : List Char) : List (List Char) :=
  if isFile && path.isEmpty && isDrive s then [s.take 1 ++ [':']] else path ++ [s]

-- Goes along segments from where a path has got. One dot stays there, and two dots lead back. Either
-- leaves an empty segment if it is the last.
def follow (isFile : Bool) (path : List (List Char)) : List (List Char) → List (List Char)
  | []      => path
  | s :: ss =>
    let last := if ss.isEmpty then [[]] else []
    match plainDots s with
    | ['.']      => follow isFile (path ++ last) ss
    | ['.', '.'] => follow isFile (shorten path ++ last) ss
    | _          => follow isFile (extend isFile path s) ss

def segments (special : Bool) (cs : List Char) : List (List Char) :=
  (cs.splitOnP (isSlash special)).map (Percent.encode Percent.inPath)

def rooted (scheme cs : List Char) : List (List Char) :=
  let special := isSpecial scheme
  match cs with
  | []      => if special then [[]] else []
  | c :: cs =>
    follow (isFile scheme) [] (segments special (if isSlash special c then cs else c :: cs))

def dropEmpty : List (List Char) → List (List Char)
  | [] :: s :: ss => dropEmpty (s :: ss)
  | ss            => ss

-- Where a reference goes on from a path: the segments that stay, and the start of the next one. The
-- last segment makes room, but for a drive of the local file system; what follows a drive joins on to
-- it unless the drive is all there is.
def stem (isFile : Bool) (path : List (List Char)) : List (List Char) × List Char :=
  match path.getLast? with
  | none   => ([], [])
  | some s =>
    if !isFile || !isDrive s then (path.dropLast, [])
    else if path.length == 1 && s.getLast? == some ':' then (path, [])
    else (path.dropLast, s)

def resolve (isFile : Bool) (path reference : List (List Char)) : List (List Char) :=
  let (before, start) := stem isFile path
  let found := match reference with
    | []      => before
    | s :: ss => follow isFile before ((start ++ s) :: ss)
  if isFile then dropEmpty found else found

end Path

section Authority

def splitUserinfo (cs : List Char) : Option (List Char) × List Char :=
  match cs.reverse.span (· ≠ '@') with
  | (after, _ :: before) => (some before.reverse, after.reverse)
  | (after, [])          => (none, after.reverse)

def splitPort (brackets : Bool) : List Char → List Char × Option (List Char)
  | []      => ([], none)
  | c :: cs =>
    if c = ':' ∧ !brackets then ([], some cs)
    else
      let (host, port) := splitPort (if c = '[' then true else if c = ']' then false else brackets) cs
      (c :: host, port)

def readPort (scheme cs : List Char) : Except UrlFault (Option Nat) :=
  if cs.isEmpty then .ok none
  else
    match Text.numeral? cs with
    | some n =>
      if 65535 < n then .error .badPort
      else .ok (if defaultPort? scheme = some n then none else some n)
    | none => .error .badPort

-- Whether the host may be missing: in a foreign scheme, if there are neither credentials nor a port. A
-- bare `@` has to be the end of the URL.
def mayLackHost (special : Bool) (userinfo port : Option (List Char)) (rest : List Char) : Bool :=
  !special && port.isNone &&
    match userinfo with
    | none | some [':'] => true
    | some cs           => cs.isEmpty && rest.isEmpty

def readAuthority (scheme cs rest : List Char) : Except UrlFault (Authority × List Char) := do
  let (userinfo, cs) := splitUserinfo cs
  let (hostText, portText) := splitPort false cs
  let special := isSpecial scheme
  if hostText.isEmpty && !mayLackHost special userinfo portText rest then throw .emptyHost
  let host ← if special then Host.domain hostText else Host.verbatim hostText
  let (digits, behind) := (portText.getD []).span (· ≠ '\\')
  let port ← readPort scheme digits
  let (username, password) := match (userinfo.getD []).span (· ≠ ':') with
    | (username, _ :: password) => (username, password)
    | (username, [])            => (username, [])
  return (⟨Percent.encode Percent.inUserinfo username, Percent.encode Percent.inUserinfo password,
    host, port⟩, behind ++ rest)

def splitAuthority (special : Bool) (cs : List Char) : List Char × List Char :=
  cs.span fun c => !(isSlash special c || c == '?' || c == '#')

end Authority

def withAuthority (scheme cs : List Char) : Except UrlFault Url := do
  let special := isSpecial scheme
  let (authorityText, rest) := splitAuthority special cs
  let (a, rest) ← readAuthority scheme authorityText rest
  let t := tail rest
  return ⟨scheme, some a, .segments (rooted scheme t.path), t.encodedQuery special, t.encodedFragment⟩

-- A URL of the local file system, in which the host may be missing. It gets lost before a drive.
def file (scheme cs : List Char) : Except UrlFault Url := do
  let (hostText, rest) := match cs with
    | a :: b :: rest =>
      if isSlash true a && isSlash true b then
        let (hostText, tailText) := splitAuthority true rest
        if isDrive hostText then ([], rest) else (hostText, tailText)
      else ([], cs)
    | _ => ([], cs)
  let host ← if hostText.isEmpty then pure [] else Host.domain hostText
  let t := tail rest
  let path := rooted scheme t.path
  let host := if host = "localhost".toList || path.head?.any isDrive then [] else host
  return ⟨scheme, some ⟨[], [], host, none⟩, .segments (dropEmpty path), t.encodedQuery true,
    t.encodedFragment⟩

def foreign (scheme cs : List Char) : Except UrlFault Url :=
  match cs with
  | '/' :: '/' :: cs => withAuthority scheme cs
  | cs =>
    let t := tail cs
    let path := match t.path with
      | '/' :: _ => .segments (rooted scheme t.path)
      | path     => .rootless (Percent.encode Percent.isControl path)
    .ok ⟨scheme, none, path, t.encodedQuery false, t.encodedFragment⟩

def ofScheme (scheme cs : List Char) : Except UrlFault Url :=
  if isFile scheme then file scheme cs
  else if isSpecial scheme then withAuthority scheme (cs.dropWhile (isSlash true))
  else foreign scheme cs

def parse (text : List Char) : Except UrlFault Url :=
  match scheme? (clean text) with
  | none              => .error .noBase
  | some (scheme, cs) => ofScheme scheme cs

section Reference

def relative (base : Url) (reference : List Char) : Except UrlFault Url :=
  match base.path with
  | .rootless _  => .error .rootlessBase
  | .segments ss =>
    let special := isSpecial base.scheme
    let t := tail reference
    .ok { base with
      path     := .segments (resolve (isFile base.scheme) ss (segments special t.path))
      query    := t.encodedQuery special
      fragment := t.encodedFragment }

-- Where a path that starts at the root leads to. In the local file system that is the root of the drive
-- where the base lies, unless the path names a drive itself.
def fromRoot (scheme : List Char) (base : List (List Char)) (cs : List Char) : List (List Char) :=
  let ss := segments (isSpecial scheme) (cs.drop 1)
  let drive := if isFile scheme && !ss.head?.any isDrive then base.head?.filter isDrive else none
  follow (isFile scheme) drive.toList ss

def schemeless (base : Url) (cs : List Char) : Except UrlFault Url :=
  let special := isSpecial base.scheme
  let t := tail cs
  match base.path, cs with
  | _, '#' :: _                  => .ok { base with fragment := t.encodedFragment }
  | .rootless _, _               => .error .rootlessBase
  | .segments _, []              => .ok { base with fragment := none }
  | .segments _, '?' :: _        =>
    .ok { base with query := t.encodedQuery special, fragment := t.encodedFragment }
  | .segments ss, c :: following =>
    if isSlash special c then
      if following.head?.any (isSlash special) then ofScheme base.scheme cs
      else
        .ok { base with
          path     := .segments (fromRoot base.scheme ss t.path)
          query    := t.encodedQuery special
          fragment := t.encodedFragment }
    else base.relative cs

-- Resolves any reference, as the links of a page are resolved. One that has a scheme is a URL by itself, unless the
-- scheme is one of the web's own and the same as that of the base.
def join (base : Url) (reference : List Char) : Except UrlFault Url :=
  let cs := clean reference
  match scheme? cs with
  | none                 => base.schemeless cs
  | some (scheme, after) =>
    if isSpecial scheme && scheme == base.scheme then base.schemeless after else ofScheme scheme after

end Reference

-- The URL without user name and password. They stay if they are no text when decoded.
def withoutCredentials (u : Url) : Url :=
  match u.authority with
  | none   => u
  | some a =>
    match Percent.decode? a.username with
    | none          => u
    | some username =>
      if username.isEmpty && (Percent.decode? a.password).isNone then u
      else { u with authority := some { a with username := [], password := [] } }

end StatsQuery.Url
