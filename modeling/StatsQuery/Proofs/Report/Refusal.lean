import StatsQuery.Proofs.Report.Information
import StatsQuery.Proofs.Report.Validation

namespace StatsQuery

section Checks

def Checks (r : Except Error α) : Prop :=
  ∀ e, r = .error e → e.isValidation

variable {r : Except Error α}

theorem Checks.bind {f : α → Except Error β} (h : Checks r) (hf : ∀ a, Checks (f a)) : Checks (r >>= f) := by
  intro e he
  cases bind_eq_error_iff.mp he with
  | inl he => exact h e he
  | inr he =>
    have ⟨a, _, he⟩ := he
    exact hf a e he

theorem Checks.ok (a : α) : Checks (.ok a) :=
  nofun

theorem checks_season (text : String) : Checks (Season.parse text) := by
  unfold Season.parse
  split <;> simp [Checks, Error.isValidation]

theorem checks_date (text : String) : Checks (Date.parse text) := by
  unfold Date.parse
  split <;> simp [Checks, Error.isValidation]

theorem checks_selection (p : Primary) : Checks p.selection := by
  unfold Primary.selection
  split
  · exact (checks_season _).bind fun _ => (checks_season _).bind fun _ => .ok _
  · exact (checks_date _).bind fun _ => (checks_date _).bind fun _ => .ok _
  · exact (checks_season _).bind fun _ => .ok _
  · simp [Checks, Error.isValidation]

theorem checks_thresholds (f : Fact) : Checks f.thresholds := by
  have hl : Checks (Threshold.ofLists (OneOrMany.listOf f.property) (OneOrMany.listOf f.comparator) (OneOrMany.listOf f.value)) := by
    unfold Threshold.ofLists
    split <;> simp [Checks, Error.isValidation]
  have hc (t : Threshold) : Checks t.check := by
    unfold Threshold.check
    (repeat' split) <;> simp [Checks, Error.isValidation]
  refine hl.bind fun ts => Checks.bind (fun e he => ?_) fun _ => .ok _
  have ⟨_, t, _, _, _, ht⟩ := forM_eq_error_iff.mp he
  exact hc t e ht

theorem checks_endpoint (q : ReportQuery) (base : String) : Checks (q.endpoint base) := by
  intro e he
  unfold ReportQuery.endpoint at he
  cases hr : (do (← Url.parse (ReportQuery.directory base)).join q.reference : Except UrlFault Url) with
  | ok u    => simp [hr, Except.mapError] at he
  | error f =>
    simp only [hr, Except.mapError, Except.error.injEq] at he
    exact he ▸ rfl

theorem checks_compile (q : ReportQuery) (base : String) : Checks (q.compile base) :=
  (checks_selection _).bind fun _ => ((checks_selection _).bind fun _ => .ok _).bind fun _ =>
    ((checks_thresholds _).bind fun _ => .ok _).bind fun _ => (checks_endpoint q base).bind fun _ => .ok _

end Checks

structure Refused (x : Exchange (Except Error α)) : Prop where
  error : ∃ e, x.result = .error e ∧ e.isValidation
  sent  : x.sent = []

variable {policy : RetryPolicy} {size : Nat} {urlFor : PageRange → String} {text : String} {server : Server}

theorem Refused.idle (h : e.isValidation) (server : Server) : Refused (α := α) (.idle (.error e) server) :=
  ⟨⟨e, rfl, h⟩, rfl⟩

theorem refused_map_iff {x : Exchange (Except Error α)} {f : α → β} : Refused (x.map (·.map f)) ↔ Refused x := by
  have he e : x.result.map f = .error e ↔ x.result = .error e := by cases x.result <;> simp [Except.map]
  constructor
  case mp  => exact fun ⟨⟨e, h, hv⟩, hs⟩ => ⟨⟨e, (he e).mp h, hv⟩, hs⟩
  case mpr => exact fun ⟨⟨e, h, hv⟩, hs⟩ => ⟨⟨e, (he e).mpr h, hv⟩, hs⟩

theorem Refused.bind {x : Exchange (Except Error α)} {f : α → Except Error β} (h : Refused x) :
    Refused (x.map (·.bind f)) := by
  have ⟨⟨e, he, hv⟩, hs⟩ := h
  exact ⟨⟨e, bind_eq_error_iff.mpr (.inl he), hv⟩, hs⟩

-- What is found wrong with data is found after a request, so that data is shaped without being refused.
theorem not_refused_bind {x : Exchange (Except Error (Option α))} {f : Option α → Except Error (Option β)}
    (he : ∀ e, x.result = .error e → e = .undecodable) (hs : ∀ a, x.result = .ok (some a) → x.sent ≠ [])
    (hn : f none = .ok none) : ¬Refused (x.map (·.bind f)) := by
  intro ⟨⟨e, h, hv⟩, hx⟩
  cases bind_eq_error_iff.mp h with
  | inl h =>
    cases he e h
    exact Bool.false_ne_true hv
  | inr h =>
    have ⟨o, h, hf⟩ := h
    cases o with
    | none   => simp [hn] at hf
    | some a => exact hs a h hx

theorem refused_fetchPage (hv : ¬policy.Valid) : Refused (fetchPage policy text server) := by
  have ⟨fault, he⟩ := RetryPolicy.validate_of_not_valid hv
  have hr : Refused (fetch policy text server) := by simpa [fetch, he] using Refused.idle rfl server
  exact hr.bind

theorem refused_collect (h : size = 0 ∨ ¬policy.Valid) : Refused (collect policy size urlFor server) := by
  unfold collect
  split
  case isTrue  => exact .idle rfl server
  case isFalse hs =>
    have ⟨fault, he⟩ := RetryPolicy.validate_of_not_valid (h.resolve_left hs)
    simpa [he] using Refused.idle rfl server

namespace ReportQuery

variable {q : ReportQuery} {a : ReportAddress} {base : String}

theorem refused_fetchRecords_iff :
    Refused (q.fetchRecords a policy server) ↔ ¬policy.Valid ∨ q.allPages ∧ q.limit = 0 := by
  unfold fetchRecords
  split
  case isTrue ha =>
    by_cases h : q.limit = 0 ∨ ¬policy.Valid
    case pos => exact iff_of_true (refused_collect h).bind (h.symm.imp_right fun hs => ⟨ha, hs⟩)
    case neg =>
      have ⟨hs, hv⟩ := not_or.mp h
      refine iff_of_false ?_ fun hr => h (hr.symm.imp_left And.right)
      exact not_refused_bind (fun _ => collect_error_eq hs (not_not.mp hv)) (fun _ => collect_sent_ne_nil) rfl
  case isFalse ha =>
    by_cases hv : policy.Valid
    case neg => exact iff_of_true (refused_fetchPage hv).bind (.inl hv)
    case pos =>
      refine iff_of_false ?_ (not_or.mpr ⟨not_not.mpr hv, fun hr => ha hr.left⟩)
      exact not_refused_bind (fun _ => fetchPage_error_eq hv) (fun _ => fetchPage_sent_ne_nil) rfl

theorem refused_run_iff :
    Refused (q.run base policy server) ↔
      (∀ a, q.compile base ≠ .ok a) ∨ ¬policy.Valid ∨ q.allPages ∧ q.limit = 0 := by
  cases hc : q.compile base with
  | error e =>
    rw [run_of_not_compile hc]
    exact iff_of_true (.idle (checks_compile q base e hc) server) (.inl nofun)
  | ok a =>
    rw [run_of_compile hc, refused_map_iff, refused_fetchRecords_iff]
    exact (or_iff_right fun h => h a rfl).symm

end ReportQuery

end StatsQuery
