import StatsQuery.Proofs.Error.Steps
import StatsQuery.Proofs.View.Projection
import StatsQuery.Report.Run

namespace StatsQuery

inductive Wraps : Except Error (Option Json) → Except Error (Option Json) → Prop
  | error  : Wraps (.error e) (.error e)
  | absent : Wraps (.ok none) (.ok none)
  | found  : (info.get? "response" = some response) → Wraps (.ok (some response)) (.ok (some info))

theorem Wraps.isSome_eq (h : Wraps result wrapped) :
    result.toOption.join.isSome = wrapped.toOption.join.isSome := by
  cases h <;> rfl

def Shaping.whole (s : Shaping) (records : List Json) : Json :=
  envelope (s.process records) (s.process records).length

def Shaping.wholePage (s : Shaping) (page : Page) : Json :=
  envelope (s.process page.data)
    (if s.filter.isSome || s.exclude.isSome then (s.process page.data).length else page.total.toNat)

namespace ReportQuery

variable {q : ReportQuery} {a : ReportAddress} {policy : RetryPolicy} {server : Server}

inductive Delivers (q : ReportQuery) (a : ReportAddress) (policy : RetryPolicy) (server : Server) :
    Json → Prop
  | all :
    q.allPages → ((collect policy q.limit a.pageUrl server).result = .ok (some records)) →
      Delivers q a policy server (q.shaping.whole records)
  | single :
    ¬q.allPages → ((fetchPage policy (a.pageUrl q.firstPage) server).result = .ok (some page)) →
      Delivers q a policy server (q.shaping.wholePage page)

theorem fetchRecords_eq_some_iff :
    (q.fetchRecords a policy server).result = .ok (some response) ↔
      ∃ root, q.Delivers a policy server root ∧
        root.project q.shaping.view q.shaping.viewMode = .ok response := by
  unfold fetchRecords
  split
  case isTrue hq =>
    refine (bind_eq_some_iff q.shaping.apply rfl fun _ => rfl).trans ⟨?mp, ?mpr⟩
    case mp  => exact fun ⟨records, hr, hp⟩ => ⟨_, .all hq hr, hp⟩
    case mpr =>
      intro ⟨_, hd, hp⟩
      cases hd
      case all hr   => exact ⟨_, hr, hp⟩
      case single h => contradiction
  case isFalse hq =>
    refine (bind_eq_some_iff q.shaping.applyPage rfl fun _ => rfl).trans ⟨?mp, ?mpr⟩
    case mp  => exact fun ⟨page, hr, hp⟩ => ⟨_, .single hq hr, hp⟩
    case mpr =>
      intro ⟨_, hd, hp⟩
      cases hd
      case all h _   => contradiction
      case single hr => exact ⟨_, hr, hp⟩

def Missed (q : ReportQuery) (a : ReportAddress) (policy : RetryPolicy) (server : Server) : Prop :=
  ∃ root, q.Delivers a policy server root ∧ root.Misses q.shaping.view q.shaping.viewMode

theorem missed_iff : q.Missed a policy server ↔ (q.fetchRecords a policy server).result = .ok (some none) := by
  simp only [Missed, fetchRecords_eq_some_iff, Json.project_eq_none_iff]

theorem info_response : (q.info path response).get? "response" = some (.ofOption id response) :=
  Json.Members.lookup_insert_self

def respond (q : ReportQuery) (a : ReportAddress) : Option (Option Json) → Option Json
  | none          => none
  | some response => if q.withInfo then some (q.info (a.pageUrl q.firstPage) response) else response

theorem run_of_compile (h : q.compile base = .ok a) :
    q.run base policy server = (q.fetchRecords a policy server).map (·.map (q.respond a)) := by
  simp only [run, h, Exchange.map]
  congr 1
  change Except.bind (q.fetchRecords a policy server).result _ = _
  rcases (q.fetchRecords a policy server).result with e | _ | response <;> rfl

theorem run_of_not_compile (h : q.compile base = .error e) :
    q.run base policy server = .idle (.error e) server := by
  simp only [run, h]

theorem wraps_respond_iff {result : Except Error (Option (Option Json))} :
    Wraps (result.map ({ q with withInfo := false }.respond a)) (result.map ({ q with withInfo := true }.respond a)) ↔
      result ≠ .ok (some none) := by
  rcases result with e | _ | _ | response <;> simp only [Except.map, respond]
  case error        => exact iff_of_true .error nofun
  case ok.none      => exact iff_of_true .absent nofun
  case ok.some.none => exact iff_of_false nofun (absurd rfl)
  case ok.some.some => exact iff_of_true (.found info_response) nofun

-- The same requests are made with information as without. What they bring is wrapped unless a lenient view
-- leads nowhere in it, and then there is a report with information and none without.
theorem info_wraps_iff (q : ReportQuery) (base : String) (policy : RetryPolicy) (server : Server) :
    let plain    := { q with withInfo := false }.run base policy server
    let informed := { q with withInfo := true }.run base policy server
    informed.sent = plain.sent ∧ informed.server = plain.server ∧
    (Wraps plain.result informed.result ↔ ∀ a, q.compile base = .ok a → ¬q.Missed a policy server) ∧
    (∀ a, q.compile base = .ok a → q.Missed a policy server →
      plain.result = .ok none ∧
      informed.result = .ok (some (q.info (a.pageUrl q.firstPage) none))) := by
  intro plain informed
  have either b : { q with withInfo := b }.compile base = q.compile base := rfl
  cases hc : q.compile base with
  | error e => simp [plain, informed, run_of_not_compile ((either _).trans hc), Wraps.error]
  | ok a    =>
    simp only [Except.ok.injEq, forall_eq', missed_iff, plain, informed, run_of_compile ((either _).trans hc)]
    refine ⟨rfl, rfl, wraps_respond_iff, fun h => ?_⟩
    have h' b : ({ q with withInfo := b }.fetchRecords a policy server).result = .ok (some none) := h
    simp only [Exchange.map_result, h']
    exact ⟨rfl, rfl⟩

theorem info_not_only_wraps :
    let q : ReportQuery := {
      key      := .team
      report   := "summary"
      primary  := .ofSeason "20232024"
      allPages := false
      shaping  := { view := some "nope" } }
    let server := .scripted [.answer 200 "OK" "{}".toUTF8]
    ¬Wraps
      ({ q with withInfo := false }.run "http://stats.test/" {} server).result
      ({ q with withInfo := true }.run "http://stats.test/" {} server).result := by
  intro q server h
  exact absurd h.isSome_eq (by decide +kernel)

end ReportQuery

end StatsQuery
