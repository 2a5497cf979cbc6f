import StatsQuery.Proofs.Report.Parameters
import StatsQuery.Proofs.Url.Authority

namespace StatsQuery

namespace ReportQuery

variable {q : ReportQuery} {a : ReportAddress}

-- Endpoint and pages lead where the base leads. The text of a page starts with the scheme and the authority of the
-- base, and who reads it finds them there, with the host as its text is read.
theorem pageUrl_origin (h : q.compile base = .ok a) :
    ∃ b, Url.parse (directory base) = .ok b ∧ a.endpoint.origin = b.origin ∧
      ∀ range, (a.page range).origin = b.origin ∧
        (Url.isRemote b.scheme → ∃ authority, b.authority = some authority ∧
          b.scheme ++ "://".toList ++ authority.text ++ ['/'] <+: (a.pageUrl range).toList ∧
          (Url.parse (a.pageUrl range).toList).map Url.origin =
            (Host.domain authority.host).map fun host => (b.scheme, some { authority with host := host })) := by
  have ⟨_, _, _, endpoint, _, _, _, he, ha⟩ := compile_eq_ok h
  have ⟨b, hp, hj⟩ := endpoint_eq_ok_iff.mp he
  have ⟨cs, hr⟩ := join_reference q b
  have ⟨ss, hs, hu⟩ := Url.relative_eq_ok (hr ▸ hj)
  have ho : a.endpoint.origin = b.origin := by rw [ha, hu]; rfl
  refine ⟨b, hp, ho, fun range => ⟨ho, fun hb => ?_⟩⟩
  have hn : (a.page range).Normal := ReportAddress.normal_page (ha ▸ normal_endpoint he) range
  have ht : (a.pageUrl range).toList = (a.page range).text := String.toList_ofList
  have ⟨authority, hw⟩ := Option.isSome_iff_exists.mp <| (Url.Normal.of_parse hp hs).remote hb
  have ⟨hc, hv⟩ : (a.page range).scheme = b.scheme ∧ (a.page range).authority = some authority := by
    rw [← hw]
    exact Prod.mk.inj ho
  refine ⟨authority, hw, ?_, ?_⟩
  · have ⟨first, more, hf⟩ := List.exists_cons_of_ne_nil <| Url.resolve_segments_ne_nil (Url.isFile b.scheme)
      (Url.isSpecial b.scheme) ss (Url.tail (q.key.name.toList ++ '/' :: cs)).path
    have hl : (a.page range).path = .segments (first :: more) := by
      rw [← hf, ReportAddress.page, ha, hu]
    have ⟨behind, hd⟩ := Url.behindAuthority_eq hl
    rw [ht, Url.text_eq hv, hd, hc]
    exact ⟨behind, by simp⟩
  · rw [ht, hn.origin_parse_text (hc ▸ hb) hv, hc]

theorem pageUrl_origin_hostile :
    let q : ReportQuery := {
      key     := .team
      report  := "../../..//evil.test:81/http:\\\\@evil.test"
      primary := .ofSeason "20232024" }
    let authority : Authority := ⟨"user".toList, "pw".toList, "stats.test".toList, some 8080⟩
    let endpoint : Url := {
      scheme    := "http".toList
      authority := some authority
      path      := .segments [[], "evil.test:81".toList, "http:".toList, [], "@evil.test".toList]
      query     := none
      fragment  := none }
    let a : ReportAddress := ⟨endpoint, false, true, "seasonId=20232024", "gamesPlayed>=0", none⟩
    q.compile "http://user:pw@stats.test:8080/api" = .ok a ∧
    ∀ range, (a.page range).origin = ("http".toList, some authority) ∧
      "http://user:pw@stats.test:8080/".toList <+: (a.pageUrl range).toList ∧
      (Url.parse (a.pageUrl range).toList).map Url.origin = .ok ("http".toList, some authority) := by
  intro q authority endpoint a
  have hc : q.compile "http://user:pw@stats.test:8080/api" = .ok a := by
    have : (q.compile "http://user:pw@stats.test:8080/api").toOption = some a := by decide +kernel
    cases h : q.compile "http://user:pw@stats.test:8080/api" <;> simp_all [Except.toOption]
  have hh : Host.domain authority.host = .ok authority.host := by
    have : (Host.domain authority.host).toOption = some authority.host := by decide +kernel
    cases h : Host.domain authority.host <;> simp_all [Except.toOption]
  obtain ⟨b, _, ho, hr⟩ := pageUrl_origin hc
  obtain ⟨hs, ha⟩ : "http".toList = b.scheme ∧ some authority = b.authority := Prod.mk.inj ho
  refine ⟨hc, fun range => ?_⟩
  obtain ⟨hp, h⟩ := hr range
  obtain ⟨_, hw, ht, hu⟩ := h (hs ▸ by decide)
  cases ha.trans hw
  rw [hh, ← hs] at hu
  rw [← hs] at ht
  have he : "http".toList ++ "://".toList ++ authority.text ++ ['/'] = "http://user:pw@stats.test:8080/".toList := by
    decide +kernel
  rw [he] at ht
  exact ⟨rfl, ht, hu⟩

end ReportQuery

end StatsQuery
