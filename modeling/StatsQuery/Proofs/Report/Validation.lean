import StatsQuery.Proofs.Collection.Walk
import StatsQuery.Proofs.Error.Steps
import StatsQuery.Report.Run

namespace StatsQuery

def Error.dependsOnData : Error → Bool
  | viewNotFound .. => true
  | _               => false

structure Error.OfQuery (e : Error) : Prop where
  validation : e.isValidation
  foreseen   : ¬e.dependsOnData

instance : DecidablePred Error.OfQuery :=
  fun e => decidable_of_iff (e.isValidation ∧ ¬e.dependsOnData)
    ⟨fun ⟨validation, foreseen⟩ => ⟨validation, foreseen⟩, fun h => ⟨h.validation, h.foreseen⟩⟩

theorem Error.not_ofQuery_undecodable : ¬undecodable.OfQuery := by
  decide

def Prompt (x : Exchange (Except Error α)) : Prop :=
  ∀ e, x.result = .error e → e.OfQuery → x.sent = []

instance (x : Exchange (Except Error α)) : Decidable (Prompt x) :=
  match h : x.result with
  | .ok _    => isTrue <| by simp [Prompt, h]
  | .error e => decidable_of_iff (e.OfQuery → x.sent = []) <| by simp [Prompt, h]

namespace Prompt

variable {x : Exchange (Except Error α)} {f : α → Except Error β}

theorem of_sent (h : x.sent = []) : Prompt x :=
  fun _ _ _ => h

theorem of_error_eq (h : ∀ e, x.result = .error e → e = .undecodable) : Prompt x :=
  fun e he hq => absurd (h e he ▸ hq) Error.not_ofQuery_undecodable

theorem bind_iff (h : Prompt x) :
    Prompt (x.map (·.bind f)) ↔
      ∀ a e, x.result = .ok a → f a = .error e → e.OfQuery → x.sent = [] := by
  constructor
  case mp => exact fun hb a e ha he hq => hb e (bind_eq_error_iff.mpr <| .inr ⟨a, ha, he⟩) hq
  case mpr =>
    intro hf e he hq
    cases bind_eq_error_iff.mp he
    case inl he => exact h e he hq
    case inr he => have ⟨a, ha, he⟩ := he; exact hf a e ha he hq

end Prompt

namespace Shaping

def Malformed (s : Shaping) : Prop :=
  ∃ view, s.view = some view ∧ ∀ p, Path.parse view ≠ .ok p

theorem project_ofQuery_iff {s : Shaping} {root : Json} :
    (∃ e, root.project s.view s.viewMode = .error e ∧ e.OfQuery) ↔ s.Malformed := by
  unfold Malformed
  generalize s.view = view, s.viewMode = mode
  cases view
  case none => simp [Json.project]
  case some view =>
    simp only [Json.project, Option.some.injEq, exists_eq_left']
    constructor
    case mp =>
      intro ⟨e, he, hq⟩ p hp
      rw [hp] at he
      simp only [Except.bind, Json.projectAlong] at he
      split at he
      case h_1 => contradiction
      case h_2 =>
        cases mode
        case lenient => contradiction
        case strict  =>
          injection he with he
          exact absurd rfl (he ▸ hq).foreseen
    case mpr =>
      intro h
      exact ⟨.emptySegment view, by rw [Path.parse_error_of_not_ok h]; rfl, rfl, Bool.false_ne_true⟩

end Shaping

theorem Server.ask_sent_ne_nil {server : Server} (h : (server.ask text).result = .ok body) :
    (server.ask text).sent ≠ [] := by
  unfold ask at h ⊢
  split <;> simp_all

section

variable {policy : RetryPolicy} {server : Server}

theorem fetchWithin_sent_ne_nil (h : (fetchWithin n text left last server).result = .ok (.payload j)) :
    (fetchWithin n text left last server).sent ≠ [] := by
  induction left generalizing last server
  case zero => simp [fetchWithin] at h
  case succ hi =>
    simp only [fetchWithin, Exchange.andThen_result, Exchange.andThen_sent] at h ⊢
    split at h
    case h_1 hb => exact List.append_ne_nil_of_left_ne_nil (Server.ask_sent_ne_nil hb) _
    case h_2 hb => exact List.append_ne_nil_of_right_ne_nil _ (hi h)

theorem fetch_sent_ne_nil (h : (fetch policy text server).result = .ok (.payload j)) :
    (fetch policy text server).sent ≠ [] := by
  unfold fetch at h ⊢
  split at h
  case h_1 hv => simpa [hv] using fetchWithin_sent_ne_nil h
  case h_2    => simp at h

theorem fetchPage_sent_ne_nil (h : (fetchPage policy text server).result = .ok (some page)) :
    (fetchPage policy text server).sent ≠ [] := by
  simp only [fetchPage, Exchange.map_result, Exchange.map_sent] at h ⊢
  cases hf : (fetch policy text server).result with
  | error => simp [hf, Except.bind] at h
  | ok fetched =>
    cases fetched with
    | payload => exact fetch_sent_ne_nil hf
    | empty | exhausted => simp [hf, Except.bind, Fetched.page?] at h

theorem collectFrom_sent_ne_nil
    (h : (collectFrom policy size urlFor records server).result = .ok (some rs)) :
    (collectFrom policy size urlFor records server).sent ≠ [] := by
  rw [collectFrom_eq] at h ⊢
  cases hf : (Visit.next policy size urlFor records server).exchange.result.bind Fetched.page? with
  | error => simp [hf] at h
  | ok page =>
    cases page with
    | none      => simp [hf] at h
    | some page =>
      have hs : (Visit.next policy size urlFor records server).exchange.sent ≠ [] :=
        fetchPage_sent_ne_nil hf
      simp only [hf] at h ⊢
      split
      case isTrue  => exact hs
      case isFalse => split <;> simp [hs]

theorem collect_sent_ne_nil (h : (collect policy size urlFor server).result = .ok (some rs)) :
    (collect policy size urlFor server).sent ≠ [] := by
  unfold collect at h ⊢
  split at h
  case isTrue => simp at h
  case isFalse hs =>
    split at h
    case h_1 => simp at h
    case h_2 hv => simpa [hs, hv] using collectFrom_sent_ne_nil h

theorem prompt_fetch (policy : RetryPolicy) (text : String) (server : Server) :
    Prompt (fetch policy text server) := by
  by_cases hv : policy.Valid
  case pos => exact .of_error_eq fun _ => fetch_error_eq hv
  case neg =>
    have ⟨_, h⟩ := RetryPolicy.validate_of_not_valid hv
    exact .of_sent <| by simp [fetch, h]

theorem Fetched.page?_error_eq {fetched : Fetched} (h : fetched.page? = .error e) : e = .undecodable := by
  unfold page? at h
  split at h <;> (try split at h) <;> simp_all

theorem fetchPage_error_eq (hv : policy.Valid) (h : (fetchPage policy text server).result = .error e) : e = .undecodable := by
  cases bind_eq_error_iff.mp h with
  | inl h => exact fetch_error_eq hv h
  | inr h =>
    have ⟨_, _, h⟩ := h
    exact Fetched.page?_error_eq h

theorem collect_error_eq (hs : size ≠ 0) (hv : policy.Valid) (h : (collect policy size urlFor server).result = .error e) :
    e = .undecodable := by
  have ⟨_, w⟩ := exists_walk hs hv urlFor server
  have ⟨_, _, _, _, _, _, hl, _⟩ := w.decided
  exact (h ▸ hl).error_eq

theorem prompt_fetchPage (policy : RetryPolicy) (text : String) (server : Server) :
    Prompt (fetchPage policy text server) := by
  refine (prompt_fetch policy text server).bind_iff.mpr fun fetched e _ he hq => ?_
  exact absurd (Fetched.page?_error_eq he ▸ hq) Error.not_ofQuery_undecodable

theorem prompt_collect (policy : RetryPolicy) (size : Nat) (urlFor : PageRange → String) (server : Server) :
    Prompt (collect policy size urlFor server) := by
  by_cases hs : size = 0
  case pos => exact .of_sent <| by simp [collect, hs]
  case neg =>
    by_cases hv : policy.Valid
    case neg =>
      obtain ⟨_, h⟩ := RetryPolicy.validate_of_not_valid hv
      exact .of_sent <| by simp [collect, hs, h]
    case pos => exact .of_error_eq fun _ => collect_error_eq hs hv

end

namespace Prompt

variable {x : Exchange (Except Error α)} {f : α → Except Error β} {s : Shaping}

-- Shaping is the one step at which a malformed view shows, and by then the data has been asked for.
theorem shaped_iff
    (IsData : α → Prop) (h : Prompt x) (hd : ∀ a, x.result = .ok a → IsData a → x.sent ≠ [])
    (hf : ∀ a, (∃ e, f a = .error e ∧ e.OfQuery) ↔ IsData a ∧ s.Malformed) :
    Prompt (x.map (·.bind f)) ↔ ∀ a, x.result = .ok a → IsData a → ¬s.Malformed := by
  rw [h.bind_iff]
  constructor
  case mp =>
    intro hp a ha hi hm
    have ⟨e, he, hq⟩ := (hf a).mpr ⟨hi, hm⟩
    exact hd a ha hi (hp a e ha he hq)
  case mpr =>
    intro hp a e ha he hq
    have ⟨hi, hm⟩ := (hf a).mp ⟨e, he, hq⟩
    exact absurd hm (hp a ha hi)

theorem total_iff (hf : ∀ a, ∃ b, f a = .ok b) : Prompt (x.map (·.bind f)) ↔ Prompt x := by
  have he e : x.result.bind f = .error e ↔ x.result = .error e := by
    rw [bind_eq_error_iff]
    exact or_iff_left fun ⟨a, _, h⟩ => by have ⟨_, hb⟩ := hf a; simp [hb] at h
  simp [Prompt, he]

end Prompt

variable {s : Shaping}

theorem Shaping.apply_ofQuery_iff {records : List Json} :
    (∃ e, s.apply records = .error e ∧ e.OfQuery) ↔ s.Malformed :=
  project_ofQuery_iff

theorem Shaping.applyPage_ofQuery_iff {page : Page} :
    (∃ e, s.applyPage page = .error e ∧ e.OfQuery) ↔ s.Malformed :=
  project_ofQuery_iff

theorem Shaping.applyToResponse_ofQuery_iff {j : Json} :
    (∃ e, s.applyToResponse j = .error e ∧ e.OfQuery) ↔ s.Malformed := by
  unfold applyToResponse
  split <;> exact project_ofQuery_iff

theorem Prompt.shaped_some_iff
    {x : Exchange (Except Error (Option α))} {shape : α → Except Error β}
    {f : Option α → Except Error (Option β)}
    (h : Prompt x) (hd : ∀ a, x.result = .ok (some a) → x.sent ≠ [])
    (hn : f none = .ok none) (hf : ∀ a, f (some a) = (shape a).bind fun b => .ok (some b))
    (hs : ∀ a, (∃ e, shape a = .error e ∧ e.OfQuery) ↔ s.Malformed) :
    Prompt (x.map (·.bind f)) ↔ ((∃ a, x.result = .ok (some a)) → ¬s.Malformed) := by
  refine (h.shaped_iff (s := s) (fun o => ∃ a, o = some a) ?asked ?shaped).trans ?_
  case asked =>
    intro _ ho ⟨a, ha⟩
    exact hd a (ha ▸ ho)
  case shaped =>
    intro o
    cases o with
    | none   => simp [hn]
    | some a => simp [hf, ← hs a, bind_eq_error_iff]
  exact ⟨fun h ⟨a, ha⟩ => h _ ha ⟨a, rfl⟩, fun h _ ho ⟨a, ha⟩ => h ⟨a, ha ▸ ho⟩⟩

theorem prompt_fetchShaped_iff {policy : RetryPolicy} {url : String} {server : Server} :
    Prompt (fetchShaped policy url s server) ↔
      ∀ j, (fetch policy url server).result = .ok (.payload j) → ¬s.Malformed := by
  refine ((prompt_fetch policy url server).shaped_iff (s := s)
    (fun fetched => ∃ j, fetched = .payload j) ?asked ?shaped).trans ?_
  case asked =>
    intro _ hf ⟨j, hj⟩
    exact fetch_sent_ne_nil (hj ▸ hf)
  case shaped =>
    intro fetched
    cases fetched with
    | payload j => simpa [Fetched.payload?] using Shaping.applyToResponse_ofQuery_iff
    | empty | exhausted => simp [Fetched.payload?, pure, Except.pure]
  exact ⟨fun h j hj => h _ hj ⟨j, rfl⟩, fun h _ hf ⟨j, hj⟩ => h j (hj ▸ hf)⟩

namespace ReportQuery

variable {q : ReportQuery} {a : ReportAddress} {policy : RetryPolicy} {server : Server}

def Arrives (q : ReportQuery) (a : ReportAddress) (policy : RetryPolicy) (server : Server) : Prop :=
  if q.allPages then
    ∃ records, (collect policy q.limit a.pageUrl server).result = .ok (some records)
  else
    ∃ page, (fetchPage policy (a.pageUrl q.firstPage) server).result = .ok (some page)

theorem prompt_fetchRecords_iff :
    Prompt (q.fetchRecords a policy server) ↔ (q.Arrives a policy server → ¬q.shaping.Malformed) := by
  unfold fetchRecords Arrives
  split
  case isTrue =>
    exact (prompt_collect policy q.limit a.pageUrl server).shaped_some_iff
      (fun _ => collect_sent_ne_nil) rfl (fun _ => rfl) (fun _ => Shaping.apply_ofQuery_iff)
  case isFalse =>
    exact (prompt_fetchPage policy (a.pageUrl q.firstPage) server).shaped_some_iff
      (fun _ => fetchPage_sent_ne_nil) rfl (fun _ => rfl) (fun _ => Shaping.applyPage_ofQuery_iff)

theorem prompt_run_iff {base : String} :
    Prompt (q.run base policy server) ↔
      ∀ a, q.compile base = .ok a → q.Arrives a policy server → ¬q.shaping.Malformed := by
  unfold run
  cases q.compile base with
  | error e => simpa using Prompt.of_sent rfl
  | ok a    =>
    simp only [Except.ok.injEq, forall_eq', ← prompt_fetchRecords_iff]
    exact Prompt.total_iff fun response => by cases response <;> exact ⟨_, rfl⟩

end ReportQuery

-- The faults of a query show before anything is asked, unless the view is malformed and the data arrives.
theorem validation_prompt_iff
    (q : ReportQuery) (base url : String) (s : Shaping) (policy : RetryPolicy) (server : Server) :
    (Prompt (q.run base policy server) ↔
      ∀ a, q.compile base = .ok a → q.Arrives a policy server → ¬q.shaping.Malformed) ∧
    (Prompt (fetchShaped policy url s server) ↔
      ∀ j, (fetch policy url server).result = .ok (.payload j) → ¬s.Malformed) :=
  ⟨ReportQuery.prompt_run_iff, prompt_fetchShaped_iff⟩

theorem validation_not_prompt :
    ¬Prompt (ReportQuery.run
      { key := .team, report := "summary", primary := .ofSeason "20232024", allPages := false,
        shaping := { view := some "a..b" } }
      "http://stats.test/" {} (.scripted [.answer 200 "OK" "{}".toUTF8])) ∧
    ¬Prompt (fetchShaped {} "http://stats.test/x" { view := some "a..b" }
      (.scripted [.answer 200 "OK" "{}".toUTF8])) := by
  decide +kernel

end StatsQuery
