import StatsQuery.Collection

namespace StatsQuery

def Server.followedBy (rest : List Reply) : Server → Server
  | unreachable      => unreachable
  | scripted replies => scripted (replies ++ rest)

def Exchange.followedBy (rest : List Reply) (x : Exchange α) : Exchange α :=
  { x with server := x.server.followedBy rest }

variable {server : Server} {f : Server → Exchange α} {g : α → Server → Exchange β}

-- An exchange with a server that depends on nothing but the replies that it uses up.
structure Local (f : Server → Exchange α) (server : Server) : Prop where
  pending    : (f server).server.pending = server.pending - (f server).sent.length
  followedBy : (f server).sent.length ≤ server.pending → ∀ rest, f (server.followedBy rest) = (f server).followedBy rest

namespace Local

theorem idle (a : α) (server : Server) : Local (.idle a) server where
  pending      := rfl
  followedBy _ := fun _ => rfl

theorem map (h : Local f server) (φ : α → β) : Local (fun s => (f s).map φ) server where
  pending         := h.pending
  followedBy hl _ := by rw [h.followedBy hl]; rfl

theorem andThen (h : Local f server) (hg : Local (g (f server).result) (f server).server) :
    Local (fun s => (f s).andThen g) server where
  pending := by
    rw [Exchange.andThen_server, Exchange.andThen_sent, List.length_append, hg.pending, h.pending, Nat.sub_sub]
  followedBy hl rest := by
    rw [Exchange.andThen_sent, List.length_append] at hl
    have hf : (f server).sent.length ≤ server.pending := Nat.le_of_add_right_le hl
    have hr : (g (f server).result (f server).server).sent.length ≤ (f server).server.pending := by
      rw [h.pending]
      omega
    simp only [h.followedBy hf, Exchange.andThen, Exchange.followedBy, hg.followedBy hr]

theorem ask (text : String) (server : Server) : Local (·.ask text) server := by
  unfold Server.ask
  constructor
  case pending    => split <;> simp [Server.pending]
  case followedBy =>
    intro hl rest
    split at hl <;> simp_all [Server.followedBy, Exchange.followedBy, Exchange.idle, Server.pending]

theorem fetchWithin (attempts : Nat) (url : String) (left : Nat) (last : String) (server : Server) :
    Local (fetchWithin attempts url left last) server := by
  induction left generalizing last server with
  | zero         => exact idle _ server
  | succ left hi =>
    refine andThen (ask url server) ?_
    split
    · exact idle _ _
    · exact hi _ _

theorem fetch (policy : RetryPolicy) (url : String) (server : Server) : Local (fetch policy url) server := by
  unfold StatsQuery.fetch
  split
  · exact fetchWithin _ url _ "" server
  · exact idle _ server

theorem fetchPage (policy : RetryPolicy) (url : String) (server : Server) : Local (fetchPage policy url) server :=
  (fetch policy url server).map _

end Local

end StatsQuery
