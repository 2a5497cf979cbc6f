import StatsQuery.Proofs.Url.Join
import StatsQuery.Report.Query

namespace StatsQuery

namespace Form

theorem toNat_lt_of_isWritten (h : isWritten c) : c.toNat < 0x80 := by
  simp only [isWritten, isPlain, Bool.or_eq_true, beq_iff_eq, List.contains_eq_mem, decide_eq_true_eq, List.mem_cons,
    List.not_mem_nil, or_false] at h
  rcases h with (rfl | rfl) | h | rfl | rfl | rfl | rfl
  case inr.inl => exact toNat_lt_of_isAlphanum h
  all_goals decide

theorem not_queryClass_of_mem (h : c ∈ append query pairs) : c ∈ query ∨ Url.queryClass special c = false := by
  have hw : ∀ special, ∀ n < 0x80, isWritten (.ofNat n) → Url.queryClass special (.ofNat n) = false := by decide
  have hm : ∀ special, Url.queryClass special '&' = false ∧ Url.queryClass special '=' = false := by decide
  rcases mem_append h with h | rfl | rfl | h
  · exact .inl h
  · exact .inr (hm special).left
  · exact .inr (hm special).right
  · exact .inr <| of_ascii (p := fun c => isWritten c → Url.queryClass special c = false) (hw special)
      (toNat_lt_of_isWritten h) h

end Form

theorem Url.query_withoutCredentials (u : Url) : u.withoutCredentials.query = u.query := by
  unfold withoutCredentials
  split <;> (try split) <;> (try split) <;> rfl

namespace ReportAddress

variable {a : ReportAddress}

theorem normal_page (h : a.endpoint.Normal) (range : PageRange) : (a.page range).Normal where
  scheme    := h.scheme
  authority := h.authority
  remote    := h.remote
  segments  := h.segments
  fragment  := h.fragment
  query     := by
    intro q hq c hc
    cases hq
    refine (Form.not_queryClass_of_mem hc).elim (fun hm => ?_) id
    cases he : a.endpoint.query with
    | none   => simp [he] at hm
    | some q => exact h.query q he c (by simpa [he] using hm)

theorem query_of_target (h : a.endpoint.Normal) (ht : target (a.pageUrl range) = .ok u) : u.query = (a.page range).query := by
  unfold target at ht
  rw [pageUrl, Url.toString, String.toList_ofList] at ht
  split at ht
  case h_1 => contradiction
  case h_2 v hp =>
    have ⟨_, hq, _⟩ := (normal_page h range).parse_text hp
    dsimp only at ht
    split at ht
    case isFalse => contradiction
    case isTrue  => rw [← Except.ok.inj ht, ← hq, Url.query_withoutCredentials]

theorem decode_page (a : ReportAddress) (range : PageRange) :
    Form.decode ((a.page range).query.getD []) = Form.decode (a.endpoint.query.getD []) ++ a.parameters range :=
  Form.decode_append _ _

end ReportAddress

namespace ReportQuery

open Text (decimal numeral?)
open ReportAddress (flag)

variable {q : ReportQuery} {a : ReportAddress}

theorem compile_eq_ok (h : q.compile base = .ok a) :
    ∃ selection primary fact endpoint,
      q.primary.selection = .ok selection ∧ q.primary.compile = .ok primary ∧ q.fact.compile = .ok fact ∧
      q.endpoint base = .ok endpoint ∧
      a = ⟨endpoint, selection.isDates, q.aggregate, primary, fact, q.sort.map SortSpec.queryParameter⟩ := by
  unfold compile at h
  simp only [bind_eq_ok_iff, pure, Except.pure, Except.ok.injEq] at h
  have ⟨selection, hs, primary, hp, fact, hf, endpoint, he, h⟩ := h
  exact ⟨selection, primary, fact, endpoint, hs, hp, hf, he, h.symm⟩

theorem endpoint_eq_ok_iff :
    q.endpoint base = .ok u ↔ ∃ b, Url.parse (directory base) = .ok b ∧ b.join q.reference = .ok u := by
  rw [← bind_eq_ok_iff]
  unfold endpoint
  cases (do (← Url.parse (directory base)).join q.reference : Except UrlFault Url) <;> simp [Except.mapError]

-- The name of a key comes first in a reference, so that no name of a report leads away from the path of the base.
theorem join_reference (q : ReportQuery) (b : Url) :
    ∃ cs, b.join q.reference = b.relative (q.key.name.toList ++ '/' :: cs) := by
  refine Url.join_segment ?_ ?_ b q.report.toList <;> cases q.key <;> decide

theorem normal_endpoint (h : q.endpoint base = .ok u) : u.Normal := by
  have ⟨b, hp, hj⟩ := endpoint_eq_ok_iff.mp h
  have ⟨cs, hr⟩ := join_reference q b
  have ⟨ss, hs, _⟩ := Url.relative_eq_ok (hr ▸ hj)
  exact .relative (.of_parse hp hs) (hr ▸ hj)

theorem normal_of_compile (h : q.compile base = .ok a) : a.endpoint.Normal := by
  have ⟨_, _, _, _, _, _, _, he, ha⟩ := compile_eq_ok h
  exact ha ▸ normal_endpoint he

-- The query of a page is found in its URL, and whoever reads the URL finds the same one. Decoded, it is the pairs of
-- the endpoint and then the parameters, each with its text.
theorem pageUrl_parameters (h : q.compile base = .ok a) (range : PageRange) :
    ∃ selection primary fact query,
      q.primary.selection = .ok selection ∧ q.primary.compile = .ok primary ∧ q.fact.compile = .ok fact ∧
      (Url.tail (a.pageUrl range).toList).query = some query ∧
      (∀ u, Url.parse (a.pageUrl range).toList = .ok u → u.query = some query) ∧
      Form.decode query = Form.decode (a.endpoint.query.getD []) ++
        [("isAggregate", flag q.aggregate), ("isGame", flag selection.isDates),
         ("start", decimal range.start), ("limit", decimal range.limit),
         ("factCayenneExp", fact), ("cayenneExp", primary)] ++
        (q.sort.map fun s => ("sort", s.queryParameter)).toList ∧
      numeral? (decimal range.start).toList = some range.start ∧
      numeral? (decimal range.limit).toList = some range.limit := by
  have ⟨selection, primary, fact, endpoint, hs, hp, hf, he, ha⟩ := compile_eq_ok h
  have hn : (a.page range).Normal := ReportAddress.normal_page (ha ▸ normal_endpoint he) range
  have ht : (a.pageUrl range).toList = (a.page range).text := String.toList_ofList
  have hd : ∀ n, numeral? (decimal n).toList = some n := by simp [decimal, Text.numeral?_numeral]
  refine ⟨selection, primary, fact, Form.append (a.endpoint.query.getD []) (a.parameters range),
    hs, hp, hf, ?_, ?_, ?_, hd _, hd _⟩
  · rw [ht, hn.tail_text]
    rfl
  · intro u hu
    exact (hn.parse_text (ht ▸ hu)).right.left
  · rw [Form.decode_append, ReportAddress.parameters, ha, List.append_assoc, Option.map_map]
    rfl

theorem pageUrl_parameters_quoted :
    let q : ReportQuery := {
      key     := .skater
      report  := "summary?lang=a%26b#top"
      primary := { Primary.ofSeason "20232024" with playerName := some "O'Réilly & Söns=100%+ #1?" }
      sort    := some ⟨[⟨⟨["points"], by decide, by decide⟩, .descending⟩]⟩ }
    let filter := "seasonId=20232024 and skaterFullName likeIgnoreCase '%O''Réilly & Söns=100%+ #1?%'"
    let sort := "[\x7b\"property\":\"points\",\"direction\":\"DESC\"\x7d]"
    let endpoint : Url := {
      scheme    := "http".toList
      authority := some ⟨[], [], "stats.test".toList, none⟩
      path      := .segments ["skater".toList, "summary".toList]
      query     := some "lang=a%26b".toList
      fragment  := some "top".toList }
    let a : ReportAddress := ⟨endpoint, false, true, filter, "gamesPlayed>=0", some sort⟩
    q.compile "http://stats.test/" = .ok a ∧
    ∃ query u,
      (Url.tail (a.pageUrl ⟨200, 100⟩).toList).query = some query ∧
      Url.parse (a.pageUrl ⟨200, 100⟩).toList = .ok u ∧ u.query = some query ∧
      Form.decode query =
        [("lang", "a&b"), ("isAggregate", "true"), ("isGame", "false"), ("start", "200"), ("limit", "100"),
         ("factCayenneExp", "gamesPlayed>=0"), ("cayenneExp", filter), ("sort", sort)] := by
  intro q filter sort endpoint a
  have hc : q.compile "http://stats.test/" = .ok a := by
    have : (q.compile "http://stats.test/").toOption = some a := by decide +kernel
    cases h : q.compile "http://stats.test/" <;> simp_all [Except.toOption]
  have ⟨u, hu⟩ : ∃ u, Url.parse (a.pageUrl ⟨200, 100⟩).toList = .ok u := by
    have : (Url.parse (a.page ⟨200, 100⟩).text).toOption.isSome := by decide +kernel
    rw [ReportAddress.pageUrl, Url.toString, String.toList_ofList]
    cases h : Url.parse (a.page ⟨200, 100⟩).text <;> simp_all [Except.toOption]
  have ⟨_, _, _, query, hs, hp, hf, ht, hq, hd, _⟩ := pageUrl_parameters hc ⟨200, 100⟩
  have ho : Form.decode (a.endpoint.query.getD []) = [("lang", "a&b")] := by decide +kernel
  have hp' : q.primary.compile = .ok filter := rfl
  cases hs
  cases hp'.symm.trans hp
  cases hf
  refine ⟨hc, query, u, ht, hu, hq u hu, ?_⟩
  rw [hd, ho]
  decide +kernel

end ReportQuery

end StatsQuery
