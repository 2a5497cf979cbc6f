import StatsQuery.Url.Parser

namespace StatsQuery

-- Replies have a status, a reason and a body, but no further header. So no reply names another place to go to, and
-- redirects are not followed: an answer with a status from 300 to 399 is an answer like any other.
inductive Reply where
  | answer (status : Nat) (reason : String) (body : ByteArray)
  | truncated (status : Nat) (reason : String)
  | dropped
  | silent

inductive TransportFault where
  | noUrl
  | unusableUrl (url : Url)
  | noAnswer (url : Url)
  | refused (url : Url) (status : Nat) (reason : String)
  | cutOff
deriving DecidableEq

namespace TransportFault

def shownReason (reason : String) : String :=
  .ofList (reason.toList.flatMap fun
    | '"'  => ['\\', '"']
    | '\\' => ['\\', '\\']
    | '\t' => ['\\', 't']
    | c    => [c])

def message : TransportFault → String
  | noUrl           => "builder error"
  | unusableUrl url => "builder error for url (" ++ url.toString ++ ")"
  | noAnswer url    => "error sending request for url (" ++ url.toString ++ ")"
  | refused url status reason =>
    let side := if status < 500 then "client" else "server"
    "HTTP status " ++ side ++ " error (" ++ Text.decimal status ++ " " ++ shownReason reason ++
      ") for url (" ++ .ofList url.withoutFragment ++ ")"
  | cutOff          => "error decoding response body"

end TransportFault

namespace Reply

-- A status has three digits. Those below 200 announce a further answer, which never comes, unless they
-- end the talk by a switch of protocols.
def isFinal (status : Nat) : Bool :=
  status == 101 || 200 ≤ status && status < 1000

def isBodiless (status : Nat) : Bool :=
  [101, 204, 304].contains status

def isReasonChar (c : Char) : Bool :=
  c == '\t' || ' ' ≤ c && c ≠ '\x7F'

def readReason (reason : String) : String :=
  if reason.toList.all (·.toNat < 0x80) then reason else ""

def ofAnswer (status : Nat) (reason : String) (body : ByteArray) (isWhole : Bool) : Reply :=
  if !isFinal status || !reason.toList.all isReasonChar then .dropped
  else if isBodiless status then .answer status (readReason reason) .empty
  else if isWhole then .answer status (readReason reason) body
  else .truncated status (readReason reason)

def isFailure (status : Nat) : Bool :=
  400 ≤ status && status < 600

def outcome (url : Url) : Reply → Except TransportFault ByteArray
  | answer status reason body =>
    if isFailure status then .error (.refused url status reason) else .ok body
  | truncated status reason =>
    if isFailure status then .error (.refused url status reason) else .error .cutOff
  | dropped => .error (.noAnswer url)
  | silent  => .error (.noAnswer url)

end Reply

inductive Server where
  | unreachable
  | scripted (replies : List Reply)

structure Exchange (α : Type) where
  result : α
  sent   : List Url
  server : Server

namespace Exchange

def idle (result : α) (server : Server) : Exchange α :=
  ⟨result, [], server⟩

def map (f : α → β) (x : Exchange α) : Exchange β :=
  { x with result := f x.result }

def andThen (x : Exchange α) (next : α → Server → Exchange β) : Exchange β :=
  let y := next x.result x.server
  { y with sent := x.sent ++ y.sent }

@[simp]
theorem idle_result {s : Server} : (idle a s).result = a := rfl

@[simp]
theorem idle_sent {s : Server} : (idle a s).sent = [] := rfl

@[simp]
theorem idle_server {s : Server} : (idle a s).server = s := rfl

@[simp]
theorem map_result {x : Exchange α} {f : α → β} : (x.map f).result = f x.result := rfl

@[simp]
theorem map_sent {x : Exchange α} {f : α → β} : (x.map f).sent = x.sent := rfl

@[simp]
theorem map_server {x : Exchange α} {f : α → β} : (x.map f).server = x.server := rfl

@[simp]
theorem andThen_result {x : Exchange α} {f : α → Server → Exchange β} :
    (x.andThen f).result = (f x.result x.server).result := rfl

@[simp]
theorem andThen_sent {x : Exchange α} {f : α → Server → Exchange β} :
    (x.andThen f).sent = x.sent ++ (f x.result x.server).sent := rfl

@[simp]
theorem andThen_server {x : Exchange α} {f : α → Server → Exchange β} :
    (x.andThen f).server = (f x.result x.server).server := rfl

end Exchange

def requestLimit : Nat := 65535

-- In a request the host is read by a narrower grammar, in which quotes and braces have no place.
def isRequestHost (host : List Char) : Bool :=
  !host.any ['"', '\x60', '\x7b', '\x7d'].contains

def isRequestable (u : Url) : Bool :=
  u.authority.any (isRequestHost ·.host) && u.text.length < requestLimit

def target (text : String) : Except TransportFault Url :=
  match Url.parse text.toList with
  | .error _ => .error .noUrl
  | .ok u    =>
    let url := u.withoutCredentials
    let isWeb := u.scheme == "http".toList || u.scheme == "https".toList
    if u.hasHost && isWeb && isRequestable url then .ok url else .error (.unusableUrl url)

namespace Server

def pending : Server → Nat
  | unreachable      => 0
  | scripted replies => replies.length

def ask (server : Server) (text : String) : Exchange (Except TransportFault ByteArray) :=
  match target text, server with
  | .error fault, server              => .idle (.error fault) server
  | .ok url, unreachable              => .idle (.error (.noAnswer url)) unreachable
  | .ok url, scripted []              => ⟨.error (.noAnswer url), [url], scripted []⟩
  | .ok url, scripted (reply :: rest) => ⟨reply.outcome url, [url], scripted rest⟩

theorem ask_pending_le (server : Server) (text : String) :
    (server.ask text).server.pending ≤ server.pending := by
  unfold ask
  split <;> simp [pending]

theorem ask_pending_lt {server : Server} (h : (server.ask text).result = .ok body) :
    (server.ask text).server.pending < server.pending := by
  unfold ask at h ⊢
  split <;> simp_all [pending]

end Server
end StatsQuery
