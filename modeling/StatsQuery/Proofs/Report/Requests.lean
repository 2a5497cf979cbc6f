import StatsQuery.Proofs.Collection.Bound
import StatsQuery.Proofs.Report.Information

namespace StatsQuery

variable {policy : RetryPolicy} {size : Nat} {urlFor : PageRange → String} {server : Server}

def Opens (text : String) (f : Server → Exchange α) : Prop :=
  ∃ next, ∀ server, f server = (server.ask text).andThen next

namespace Opens

variable {text : String} {f : Server → Exchange α}

theorem map (h : Opens text f) (φ : α → β) : Opens text fun server => (f server).map φ := by
  have ⟨next, h⟩ := h
  exact ⟨fun reply server => (next reply server).map φ, fun server => by simp only [h, Exchange.map, Exchange.andThen]⟩

theorem andThen (h : Opens text f) (g : α → Server → Exchange β) : Opens text fun server => (f server).andThen g := by
  have ⟨next, h⟩ := h
  refine ⟨fun reply server => (next reply server).andThen g, fun server => ?_⟩
  simp only [h, Exchange.andThen, List.append_assoc]

theorem fetchWithin (n left : Nat) (text last : String) : Opens text (fetchWithin n text (left + 1) last) :=
  ⟨_, fun _ => rfl⟩

theorem fetch (hv : policy.Valid) (text : String) : Opens text (fetch policy text) := by
  have he : StatsQuery.fetch policy text = _ := funext fun _ => fetch_of_valid hv
  have ⟨left, hl⟩ := Nat.exists_eq_succ_of_ne_zero hv.left
  rw [he, hl]
  exact fetchWithin _ left text ""

theorem fetchPage (hv : policy.Valid) (text : String) : Opens text (fetchPage policy text) :=
  (fetch hv text).map _

theorem collect (hs : size ≠ 0) (hv : policy.Valid) : Opens (urlFor ⟨0, size⟩) (collect policy size urlFor) := by
  have he : StatsQuery.collect policy size urlFor = _ := funext fun _ => collect_eq_collectFrom hs hv
  have hf : collectFrom policy size urlFor [] = _ := funext fun _ => collectFrom_eq_andThen
  rw [he, hf]
  exact (fetchPage hv _).andThen _

end Opens

def Exchange.AsksOnly (P : String → Prop) (x : Exchange α) : Prop :=
  ∀ u ∈ x.sent, ∃ text, P text ∧ target text = .ok u

namespace Exchange.AsksOnly

variable {P : String → Prop} {text : String} {x : Exchange α} {g : α → Server → Exchange β}

theorem idle (a : α) (server : Server) : AsksOnly P (.idle a server) :=
  nofun

theorem map (h : AsksOnly P x) (φ : α → β) : AsksOnly P (x.map φ) :=
  h

theorem andThen (h : AsksOnly P x) (hg : AsksOnly P (g x.result x.server)) : AsksOnly P (x.andThen g) :=
  List.forall_mem_append.mpr ⟨h, hg⟩

theorem ask (hp : P text) (server : Server) : AsksOnly P (server.ask text) := by
  intro u hu
  refine ⟨text, hp, ?_⟩
  unfold Server.ask at hu
  split at hu <;> simp_all

theorem fetchWithin (hp : P text) (n left : Nat) (last : String) (server : Server) :
    AsksOnly P (fetchWithin n text left last server) := by
  induction left generalizing last server with
  | zero         => exact idle _ server
  | succ left hi =>
    refine (ask hp server).andThen ?_
    split
    · exact idle _ _
    · exact hi _ _

theorem fetch (hp : P text) (policy : RetryPolicy) (server : Server) : AsksOnly P (fetch policy text server) := by
  unfold StatsQuery.fetch
  split
  · exact fetchWithin hp _ _ "" server
  · exact idle _ server

theorem fetchPage (hp : P text) (policy : RetryPolicy) (server : Server) : AsksOnly P (fetchPage policy text server) :=
  (fetch hp policy server).map _

theorem walk (hp : ∀ start, P (urlFor ⟨start, size⟩)) (w : Walk policy size urlFor records server visits y) :
    AsksOnly P y := by
  have hn records server : AsksOnly P (Visit.next policy size urlFor records server).exchange := fetch (hp _) policy server
  induction w with
  | ends v hv _         => exact hv ▸ hn _ _
  | more v hv _ _ hi => exact List.forall_mem_append.mpr ⟨hv ▸ hn _ _, hi⟩

theorem collect (hp : ∀ start, P (urlFor ⟨start, size⟩)) (policy : RetryPolicy) (server : Server) :
    AsksOnly P (collect policy size urlFor server) := by
  by_cases hs : size = 0
  case pos => simpa [StatsQuery.collect, hs] using idle _ server
  case neg =>
    by_cases hv : policy.Valid
    case pos =>
      obtain ⟨_, w⟩ := exists_walk hs hv urlFor server
      exact walk hp w
    case neg =>
      obtain ⟨_, he⟩ := RetryPolicy.validate_of_not_valid hv
      simpa [StatsQuery.collect, hs, he] using idle _ server

end Exchange.AsksOnly

namespace ReportQuery

variable {q : ReportQuery} {a : ReportAddress} {base : String}

def IsPage (q : ReportQuery) (base text : String) : Prop :=
  ∃ a start, q.compile base = .ok a ∧ text = a.pageUrl ⟨start, q.limit⟩

theorem asksOnly_fetchRecords (hc : q.compile base = .ok a) (policy : RetryPolicy) (server : Server) :
    (q.fetchRecords a policy server).AsksOnly (q.IsPage base) := by
  unfold fetchRecords
  split
  case isTrue  => exact (Exchange.AsksOnly.collect (fun start => ⟨a, start, hc, rfl⟩) policy server).map _
  case isFalse => exact (Exchange.AsksOnly.fetchPage ⟨a, _, hc, rfl⟩ policy server).map _

theorem asksOnly_run (q : ReportQuery) (base : String) (policy : RetryPolicy) (server : Server) :
    (q.run base policy server).AsksOnly (q.IsPage base) := by
  cases hc : q.compile base with
  | error e => exact run_of_not_compile hc ▸ .idle _ server
  | ok a    => exact run_of_compile hc ▸ (asksOnly_fetchRecords hc policy server).map _

end ReportQuery

end StatsQuery
