import StatsQuery.Json.Parser
import StatsQuery.Retry
import StatsQuery.Server

namespace StatsQuery

inductive Fetched where
  | payload (value : Json)
  | empty
  | exhausted (attempts : Nat) (lastError : String)

namespace Fetched

def payload? : Fetched → Option Json
  | payload j => some j
  | _         => none

def isAbsent : Fetched → Bool
  | payload _ => false
  | _         => true

def ofBody (body : ByteArray) : Except Error Fetched :=
  if body.isEmpty then .ok .empty
  else
    match Json.parseBytes? body with
    | some j => .ok (.payload j)
    | none   => .error .undecodable

end Fetched

def fetchWithin (attempts : Nat) (url : String) :
    (left : Nat) → (lastError : String) → Server → Exchange (Except Error Fetched)
  | 0, lastError, server => .idle (.ok (.exhausted attempts lastError)) server
  | left + 1, _, server  =>
    (server.ask url).andThen fun result server =>
      match result with
      | .ok body     => .idle (Fetched.ofBody body) server
      | .error fault => fetchWithin attempts url left fault.message server

def fetch (policy : RetryPolicy) (url : String) (server : Server) : Exchange (Except Error Fetched) :=
  match policy.validate with
  | .ok policy => fetchWithin policy.maxAttempts url policy.maxAttempts "" server
  | .error e   => .idle (.error e) server

theorem fetchWithin_pending_lt (h : (fetchWithin n url left last server).result = .ok (.payload j)) :
    (fetchWithin n url left last server).server.pending < server.pending := by
  induction left generalizing last server
  case zero => simp [fetchWithin] at h
  case succ hi =>
    simp only [fetchWithin, Exchange.andThen_result, Exchange.andThen_server] at h ⊢
    split at h
    case h_1 hb => exact Server.ask_pending_lt hb
    case h_2 hb => exact Nat.lt_of_lt_of_le (hi h) (Server.ask_pending_le ..)

theorem fetch_pending_lt (h : (fetch policy url server).result = .ok (.payload j)) :
    (fetch policy url server).server.pending < server.pending := by
  unfold fetch at h ⊢
  split at h
  case h_1 hv => simpa [hv] using fetchWithin_pending_lt h
  case h_2 => simp at h

end StatsQuery
