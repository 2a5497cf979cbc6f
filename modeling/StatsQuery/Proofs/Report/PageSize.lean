import StatsQuery.Proofs.Calendar.Reading
import StatsQuery.Proofs.Report.Parameters
import StatsQuery.Proofs.Report.Refusal
import StatsQuery.Proofs.Report.Requests

namespace StatsQuery

variable {policy : RetryPolicy} {size : Nat} {urlFor : PageRange → String} {text : String} {server : Server}

theorem Server.ask_unreachable (text : String) :
    ∃ fault, unreachable.ask text = .idle (.error fault) unreachable := by
  unfold ask
  split <;> simp_all [Exchange.idle]

theorem fetchWithin_unreachable_sent : (fetchWithin n text left last .unreachable).sent = [] := by
  induction left generalizing last with
  | zero         => rfl
  | succ left hi =>
    have ⟨fault, h⟩ := Server.ask_unreachable text
    simp only [fetchWithin, h, Exchange.andThen_sent, Exchange.idle_sent, List.nil_append]
    exact hi

theorem fetchPage_sent_ne_nil_iff (hv : policy.Valid) :
    (fetchPage policy text server).sent ≠ [] ↔
      (∃ replies, server = .scripted replies) ∧ ∃ u, target text = .ok u := by
  rw [fetchPage, Exchange.map_sent, fetch_of_valid hv]
  constructor
  case mp =>
    intro h
    obtain ⟨u, _, hs⟩ := List.exists_cons_of_ne_nil h
    obtain ⟨_, ht, hu⟩ := Exchange.AsksOnly.fetchWithin (P := (· = text)) rfl _ _ "" server u (hs ▸ List.mem_cons_self)
    refine ⟨?_, u, ht ▸ hu⟩
    cases server with
    | unreachable      => exact absurd fetchWithin_unreachable_sent h
    | scripted replies => exact ⟨replies, rfl⟩
  case mpr =>
    rintro ⟨⟨replies, rfl⟩, u, hu⟩
    obtain ⟨left, hl⟩ := Nat.exists_eq_succ_of_ne_zero hv.left
    rw [hl]
    simp [fetchWithin, Server.ask_scripted hu]

theorem collect_sent_ne_nil_iff (hs : size ≠ 0) (hv : policy.Valid) :
    (collect policy size urlFor server).sent ≠ [] ↔ (fetchPage policy (urlFor ⟨0, size⟩) server).sent ≠ [] := by
  rw [collect_eq_collectFrom hs hv, collectFrom_eq_andThen, Exchange.andThen_sent]
  constructor
  case mpr => exact fun h => List.append_ne_nil_of_left_ne_nil h _
  case mp =>
    intro h hn
    rw [List.length_nil, hn, List.nil_append] at h
    split at h
    case h_1    => exact h rfl
    case h_2    => exact h rfl
    case h_3 hp => exact fetchPage_sent_ne_nil hp hn

theorem ReportAddress.limit_mem_parameters_iff {a : ReportAddress} {range : PageRange} :
    ("limit", Text.decimal n) ∈ a.parameters range ↔ range.limit = n := by
  have hd : Text.decimal n = Text.decimal range.limit ↔ range.limit = n :=
    ⟨fun h => (Text.decimal_injective h).symm, fun h => h ▸ rfl⟩
  cases hs : a.sort <;> simp [parameters, hs, hd]

namespace ReportQuery

variable {q : ReportQuery} {a : ReportAddress} {base : String}

-- A page of no records is asked for. Parameters that the name of the report brings along say nothing about it.
def AsksForNothing (a : ReportAddress) (u : Url) : Prop :=
  ∃ parameters, Form.decode (u.query.getD []) = Form.decode (a.endpoint.query.getD []) ++ parameters ∧
    ("limit", "0") ∈ parameters

theorem asksForNothing_iff (h : a.endpoint.Normal) (ht : target (a.pageUrl range) = .ok u) :
    AsksForNothing a u ↔ range.limit = 0 := by
  have hd : Form.decode (u.query.getD []) = Form.decode (a.endpoint.query.getD []) ++ a.parameters range :=
    ReportAddress.query_of_target h ht ▸ ReportAddress.decode_page a range
  have hz : ("limit", "0") ∈ a.parameters range ↔ range.limit = 0 := ReportAddress.limit_mem_parameters_iff (n := 0)
  constructor
  case mp =>
    intro ⟨parameters, hp, hm⟩
    exact hz.mp (List.append_cancel_left (hd.symm.trans hp) ▸ hm)
  case mpr => exact fun hl => ⟨_, hd, hz.mpr hl⟩

theorem fetchRecords_sent_ne_nil_iff (hv : policy.Valid) (hs : q.allPages → q.limit ≠ 0) :
    (q.fetchRecords a policy server).sent ≠ [] ↔
      (∃ replies, server = .scripted replies) ∧ ∃ u, target (a.pageUrl q.firstPage) = .ok u := by
  rw [← fetchPage_sent_ne_nil_iff hv]
  unfold fetchRecords firstPage
  split
  case isTrue ha  => exact collect_sent_ne_nil_iff (hs ha) hv
  case isFalse ha => exact Iff.rfl

theorem run_sent_ne_nil_iff :
    (q.run base policy server).sent ≠ [] ↔
      policy.Valid ∧ (q.allPages → q.limit ≠ 0) ∧ (∃ replies, server = .scripted replies) ∧
        ∃ a u, q.compile base = .ok a ∧ target (a.pageUrl q.firstPage) = .ok u := by
  by_cases hr : Refused (q.run base policy server)
  case pos =>
    refine iff_of_false (not_not.mpr hr.sent) fun ⟨hv, hs, _, a, _, hc, _⟩ => ?_
    rcases refused_run_iff.mp hr with h | h | ⟨ha, hl⟩
    · exact h a hc
    · exact h hv
    · exact hs ha hl
  case neg =>
    simp only [refused_run_iff, not_or, not_and, not_not, not_forall] at hr
    have ⟨⟨a, hc⟩, hv, hs⟩ := hr
    rw [run_of_compile hc, Exchange.map_sent, fetchRecords_sent_ne_nil_iff hv hs]
    constructor
    case mp  => exact fun ⟨hr, u, hu⟩ => ⟨hv, hs, hr, a, u, hc, hu⟩
    case mpr =>
      intro ⟨_, _, hr, _, u, ha, hu⟩
      cases hc.symm.trans ha
      exact ⟨hr, u, hu⟩

-- What becomes of a page size. A query is refused for its size only if all pages are wanted. Otherwise it asks for its first
-- page if there is a way to, and whatever it asks for has no room for records if and only if the size is zero.
theorem zero_limit_sent_iff (q : ReportQuery) (base : String) (policy : RetryPolicy) (server : Server) :
    let x := q.run base policy server
    (Refused x ↔ (∀ a, q.compile base ≠ .ok a) ∨ ¬policy.Valid ∨ q.allPages ∧ q.limit = 0) ∧
    (x.sent ≠ [] ↔
      policy.Valid ∧ (q.allPages → q.limit ≠ 0) ∧ (∃ replies, server = .scripted replies) ∧
        ∃ a u, q.compile base = .ok a ∧ target (a.pageUrl q.firstPage) = .ok u) ∧
    (∀ u ∈ x.sent, ∃ a, q.compile base = .ok a ∧ (AsksForNothing a u ↔ q.limit = 0)) := by
  intro x
  refine ⟨refused_run_iff, run_sent_ne_nil_iff, fun u hu => ?_⟩
  have ⟨text, ⟨a, start, hc, he⟩, ht⟩ := asksOnly_run q base policy server u hu
  exact ⟨a, hc, asksForNothing_iff (normal_of_compile hc) (he ▸ ht)⟩

theorem zero_limit_sent :
    let q : ReportQuery :=
      { key := .team, report := "summary", primary := .ofSeason "20232024", limit := 0, allPages := false }
    let x := q.run "http://stats.test/" {} (.scripted [.answer 200 "OK" "{}".toUTF8])
    ¬Refused x ∧ ∃ u ∈ x.sent, ("limit", "0") ∈ Form.decode (u.query.getD []) := by
  intro q x
  have hs : ∃ u ∈ x.sent, ("limit", "0") ∈ Form.decode (u.query.getD []) := by decide +kernel
  have ⟨_, hu, _⟩ := hs
  exact ⟨fun h => List.ne_nil_of_mem hu h.sent, hs⟩

end ReportQuery

end StatsQuery
