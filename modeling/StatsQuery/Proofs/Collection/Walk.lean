import Mathlib.Data.List.Forall2
import StatsQuery.Collection
import StatsQuery.Proofs.Fetch.Attempts

namespace StatsQuery

structure Visit where
  range    : PageRange
  exchange : Exchange (Except Error Fetched)

inductive Brings : Except Error Fetched → Page → Prop
  | intro : (Page.ofJson? j = some page) → Brings (.ok (.payload j)) page

inductive Ends (records : List Json) :
    Except Error Fetched → Except Error (Option (List Json)) → Prop
  | complete (page : Page) :
    (Brings fetched page) → (page.total.toNat ≤ (records ++ page.data).length) →
      Ends records fetched (.ok (some (records ++ page.data)))
  | stalled (page : Page) :
    (Brings fetched page) → (page.data = []) → (records.length < page.total.toNat) →
      Ends records fetched (.ok none)
  | empty       : Ends records (.ok .empty) (.ok none)
  | exhausted   : Ends records (.ok (.exhausted attempts lastError)) (.ok none)
  | noPage      : (Page.ofJson? j = none) → Ends records (.ok (.payload j)) (.error .undecodable)
  | undecodable : Ends records (.error .undecodable) (.error .undecodable)

structure Extends (records : List Json) (fetched : Except Error Fetched) (page : Page) : Prop where
  brings   : Brings fetched page
  nonempty : page.data ≠ []
  short    : (records ++ page.data).length < page.total.toNat

-- Pages that leave a collection unfinished: none of them is empty, and none reaches the total that it
-- reports.
inductive Unfinished : List Json → List Page → Prop
  | nil : Unfinished records []
  | cons (page : Page) :
    (page.data ≠ []) → ((records ++ page.data).length < page.total.toNat) →
    (Unfinished (records ++ page.data) pages) →
      Unfinished records (page :: pages)

section

variable (policy : RetryPolicy) (size : Nat) (urlFor : PageRange → String)

def Visit.next (records : List Json) (server : Server) : Visit where
  range    := ⟨records.length, size⟩
  exchange := fetch policy (urlFor ⟨records.length, size⟩) server

-- The requests from given records on, and the exchange that they amount to.
inductive Walk :
    List Json → Server → List Visit → Exchange (Except Error (Option (List Json))) → Prop
  | ends (v : Visit) :
    (v = .next policy size urlFor records server) → (Ends records v.exchange.result result) →
      Walk records server [v] (v.exchange.map fun _ => result)
  | more (v : Visit) :
    (v = .next policy size urlFor records server) → (Extends records v.exchange.result page) →
    (Walk (records ++ page.data) v.exchange.server visits x) →
      Walk records server (v :: visits) { x with sent := v.exchange.sent ++ x.sent }

end

variable {policy : RetryPolicy} {size : Nat} {urlFor : PageRange → String}
variable {records : List Json} {server : Server} {visits : List Visit}
variable {x : Exchange (Except Error (Option (List Json)))} {fetched : Except Error Fetched}
variable {page : Page}

theorem ends_or_extends (records : List Json) (h : ∀ e, fetched = .error e → e = .undecodable) :
    (∃ result, Ends records fetched result) ∨ (∃ page, Extends records fetched page) := by
  cases fetched
  case error e => exact .inl ⟨_, h e rfl ▸ Ends.undecodable⟩
  case ok fetched =>
    cases fetched
    case empty     => exact .inl ⟨_, .empty⟩
    case exhausted => exact .inl ⟨_, .exhausted⟩
    case payload j =>
      cases hp : Page.ofJson? j
      case none      => exact .inl ⟨_, .noPage hp⟩
      case some page =>
        have hb : Brings (.ok (.payload j)) page := .intro hp
        by_cases ht : page.total.toNat ≤ (records ++ page.data).length
        case pos => exact .inl ⟨_, .complete page hb ht⟩
        case neg =>
          by_cases hd : page.data = []
          case pos => exact .inl ⟨_, .stalled page hb hd (by simpa [hd] using ht)⟩
          case neg => exact .inr ⟨page, hb, hd, Nat.lt_of_not_le ht⟩

theorem Brings.bind_page? (h : Brings fetched page) : fetched.bind Fetched.page? = .ok (some page) := by
  cases h
  case intro h => simp [Except.bind, Fetched.page?, h]

theorem Brings.pending_lt
    (h : Brings (Visit.next policy size urlFor records server).exchange.result page) :
    (Visit.next policy size urlFor records server).exchange.server.pending < server.pending :=
  fetchPage_pending_lt h.bind_page?

theorem Ends.of_some (h : Ends records fetched (.ok (some rs))) :
    ∃ page, Brings fetched page ∧ rs = records ++ page.data ∧ page.total.toNat ≤ rs.length := by
  cases h
  case complete page hb ht => exact ⟨page, ht, rfl, hb⟩

theorem Ends.error_eq (h : Ends records fetched (.error e)) : e = .undecodable := by
  cases h <;> rfl

theorem collectFrom_eq :
    collectFrom policy size urlFor records server =
      let x := (Visit.next policy size urlFor records server).exchange
      match x.result.bind Fetched.page? with
      | .error e        => x.map fun _ => .error e
      | .ok none        => x.map fun _ => .ok none
      | .ok (some page) =>
        if page.total.toNat ≤ (records ++ page.data).length then
          x.map fun _ => .ok (some (records ++ page.data))
        else if page.data.isEmpty then x.map fun _ => .ok none
        else
          let y := collectFrom policy size urlFor (records ++ page.data) x.server
          { y with sent := x.sent ++ y.sent } := by
  rw [collectFrom]
  simp only [fetchPage, Exchange.map_result, Visit.next]
  split <;> simp only [*] <;> rfl

theorem collectFrom_of_ends
    (h : Ends records (Visit.next policy size urlFor records server).exchange.result result) :
    collectFrom policy size urlFor records server =
      (Visit.next policy size urlFor records server).exchange.map fun _ => result := by
  rw [collectFrom_eq]
  generalize (Visit.next policy size urlFor records server).exchange = x at h ⊢
  generalize hf : x.result = fetched at h
  cases h with
  | complete page hb ht   => simp only [hf, hb.bind_page?, ht, if_true]
  | stalled page hb hd ht => simp [hf, hb.bind_page?, hd, Nat.not_le_of_lt ht]
  | noPage hp             => simp [hf, Except.bind, Fetched.page?, hp]
  | empty | exhausted | undecodable => simp [hf, Except.bind, Fetched.page?]

theorem collectFrom_of_extends
    (h : Extends records (Visit.next policy size urlFor records server).exchange.result page) :
    collectFrom policy size urlFor records server =
      let v := Visit.next policy size urlFor records server
      let y := collectFrom policy size urlFor (records ++ page.data) v.exchange.server
      { y with sent := v.exchange.sent ++ y.sent } := by
  rw [collectFrom_eq]
  simp only [h.brings.bind_page?, Nat.not_le_of_lt h.short]
  simp [h.nonempty]

theorem Walk.eq_collectFrom (w : Walk policy size urlFor records server visits x) :
    collectFrom policy size urlFor records server = x := by
  induction w
  case ends v hv h =>
    subst hv
    exact collectFrom_of_ends h
  case more v hv h _ hi =>
    subst hv hi
    exact collectFrom_of_extends h

theorem exists_walk_from
    (hv : policy.Valid) (size : Nat) (urlFor : PageRange → String) (records : List Json)
    (server : Server) :
    ∃ visits, Walk policy size urlFor records server visits
      (collectFrom policy size urlFor records server) := by
  let v := Visit.next policy size urlFor records server
  have he : ∀ e, v.exchange.result = .error e → e = .undecodable := fun _ => fetch_error_eq hv
  cases ends_or_extends records he
  case inl h =>
    have ⟨_, h⟩ := h
    exact ⟨[v], collectFrom_of_ends h ▸ .ends v rfl h⟩
  case inr h =>
    have ⟨page, h⟩ := h
    have ⟨visits, w⟩ := exists_walk_from hv size urlFor (records ++ page.data) v.exchange.server
    exact ⟨v :: visits, collectFrom_of_extends h ▸ .more v rfl h w⟩
termination_by server.pending
decreasing_by exact h.brings.pending_lt

theorem collect_eq_collectFrom (hs : size ≠ 0) (hv : policy.Valid) :
    collect policy size urlFor server = collectFrom policy size urlFor [] server := by
  simp [collect, hs, RetryPolicy.validate_eq_ok_iff.mpr ⟨rfl, hv⟩]

theorem exists_walk (hs : size ≠ 0) (hv : policy.Valid) (urlFor : PageRange → String) (server : Server) :
    ∃ visits, Walk policy size urlFor [] server visits (collect policy size urlFor server) :=
  collect_eq_collectFrom hs hv ▸ exists_walk_from hv size urlFor [] server

theorem Walk.eq_collect (w : Walk policy size urlFor [] server visits x) (hs : size ≠ 0) (hv : policy.Valid) :
    collect policy size urlFor server = x :=
  (collect_eq_collectFrom hs hv).trans w.eq_collectFrom

theorem Walk.decided (w : Walk policy size urlFor records server visits x) :
    ∃ before last pages, visits = before ++ [last] ∧
      List.Forall₂ (fun v page => Brings v.exchange.result page) before pages ∧
      Unfinished records pages ∧
      Ends (records ++ pages.flatMap (·.data)) last.exchange.result x.result ∧
      x.sent = visits.flatMap (·.exchange.sent) ∧ x.server = last.exchange.server := by
  induction w
  case ends v _ he => exact ⟨[], v, [], rfl, .nil, .nil, by simpa using he, by simp, rfl⟩
  case more page _ _ v _ he _ hi =>
    have ⟨before, last, pages, hv, hb, hu, hl, hs, hr⟩ := hi
    refine ⟨v :: before, last, page :: pages, by simp [hv], .cons he.brings hb, ?_, ?_, ?_, hr⟩
    case refine_1 => exact .cons page he.nonempty he.short hu
    case refine_2 => simpa using hl
    case refine_3 => simp [hs]

end StatsQuery
