import StatsQuery.Fetch
import StatsQuery.Shaping

namespace StatsQuery

structure PageRange where
  start : Nat
  limit : Nat
deriving DecidableEq

def Fetched.page? : Fetched → Except Error (Option Page)
  | .payload j =>
    match Page.ofJson? j with
    | some p => .ok (some p)
    | none   => .error .undecodable
  | _ => .ok none

def fetchPage (policy : RetryPolicy) (url : String) (server : Server) :
    Exchange (Except Error (Option Page)) :=
  (fetch policy url server).map fun result => result.bind Fetched.page?

-- A page uses up at least one reply, so that a collection comes to an end.
theorem fetchPage_pending_lt (h : (fetchPage policy url server).result = .ok (some page)) :
    (fetchPage policy url server).server.pending < server.pending := by
  simp only [fetchPage, Exchange.map_result, Exchange.map_server] at h ⊢
  cases hf : (fetch policy url server).result with
  | error => simp [hf, Except.bind] at h
  | ok f =>
    cases f with
    | payload => exact fetch_pending_lt hf
    | empty | exhausted => simp [hf, Except.bind, Fetched.page?] at h

def collectFrom (policy : RetryPolicy) (size : Nat) (urlFor : PageRange → String)
    (records : List Json) (server : Server) : Exchange (Except Error (Option (List Json))) :=
  let x := fetchPage policy (urlFor ⟨records.length, size⟩) server
  match h : x.result with
  | .error e        => x.map fun _ => .error e
  | .ok none        => x.map fun _ => .ok none
  | .ok (some page) =>
    let records := records ++ page.data
    if page.total.toNat ≤ records.length then x.map fun _ => .ok (some records)
    else if page.data.isEmpty then x.map fun _ => .ok none
    else
      have := fetchPage_pending_lt h
      let y := collectFrom policy size urlFor records x.server
      { y with sent := x.sent ++ y.sent }
termination_by server.pending

def collect (policy : RetryPolicy) (size : Nat) (urlFor : PageRange → String) (server : Server) :
    Exchange (Except Error (Option (List Json))) :=
  if size = 0 then .idle (.error .noPageSize) server
  else
    match policy.validate with
    | .error e => .idle (.error e) server
    | .ok _    => collectFrom policy size urlFor [] server

def fetchShaped (policy : RetryPolicy) (url : String) (shaping : Shaping) (server : Server) :
    Exchange (Except Error (Option Json)) :=
  (fetch policy url server).map fun result => do
    match (← result).payload? with
    | some j => shaping.applyToResponse j
    | none   => return none

end StatsQuery
