import StatsQuery.Text.Numeral

namespace StatsQuery

structure Authority where
  username : List Char
  password : List Char
  host     : List Char
  port     : Option Nat
deriving DecidableEq

-- A path without a root belongs to URLs such as `mailto:x`, which nothing can be relative to.
inductive UrlPath where
  | segments (segments : List (List Char))
  | rootless (text : List Char)
deriving DecidableEq

structure Url where
  scheme    : List Char
  authority : Option Authority
  path      : UrlPath
  query     : Option (List Char)
  fragment  : Option (List Char)
deriving DecidableEq

namespace Authority

def text (a : Authority) : List Char :=
  let password := if a.password.isEmpty then [] else ':' :: a.password
  let userinfo := if a.username.isEmpty && a.password.isEmpty then [] else a.username ++ password ++ ['@']
  let port := a.port.elim [] fun n => ':' :: Text.numeral n
  userinfo ++ a.host ++ port

end Authority

namespace UrlPath

def text : UrlPath → List Char
  | segments ss => ss.flatMap ('/' :: ·)
  | rootless cs => cs

end UrlPath

namespace Url

def defaultPorts : List (String × Option Nat) :=
  [("http", some 80), ("https", some 443), ("ws", some 80), ("wss", some 443), ("ftp", some 21),
   ("file", none)]

def isSpecial (scheme : List Char) : Bool :=
  defaultPorts.any (·.1.toList == scheme)

def isFile (scheme : List Char) : Bool :=
  scheme == "file".toList

def defaultPort? (scheme : List Char) : Option Nat :=
  ((defaultPorts.find? (·.1.toList == scheme)).map (·.2)).join

-- What stands before the path. Without a host, a path must not be taken for one.
def beforePath (u : Url) : List Char :=
  u.scheme ++ ':' ::
    match u.authority with
    | some a => "//".toList ++ a.text
    | none   => if u.path.text.take 2 = ['/', '/'] then ['/', '.'] else []

def withoutFragment (u : Url) : List Char :=
  u.beforePath ++ u.path.text ++ u.query.elim [] ('?' :: ·)

def text (u : Url) : List Char :=
  u.withoutFragment ++ u.fragment.elim [] ('#' :: ·)

def toString (u : Url) : String :=
  .ofList u.text

def hasHost (u : Url) : Bool :=
  u.authority.any (!·.host.isEmpty)

end Url
end StatsQuery
