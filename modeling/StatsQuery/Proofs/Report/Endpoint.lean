import StatsQuery.Proofs.Report.Parameters
import StatsQuery.Proofs.Url.Outline

namespace StatsQuery

namespace ReportQuery

open Url (slashed)

variable {q : ReportQuery} {a : ReportAddress} {base : String} {b u v : Url}

-- When the slash that is put to a base, if there is none, closes the path of the base. Behind a query or a fragment
-- it does not, nor does it behind a blank, and a path that is closed by a backslash gets a further slash.
inductive Closed (base : List Char) (u : Url) : Prop
  | marked   : u.Marked → u.path.text.getLast? = some '/' → Closed base u
  | slash    : ¬u.Marked → base.getLast? = some '/' → Closed base u
  | appended : ¬u.Marked → (base.filter Url.isKept).getLast? = some c → 0x20 < c.toNat → c ≠ '/' → c ≠ '\\' →
      Closed base u

theorem endpoint_path (h : q.endpoint base = .ok u) (hn : ∀ c ∈ q.report.toList, c.isAlphanum)
    (hb : Url.parse (directory base) = .ok b) (hr : Url.isRemote b.scheme) :
    ∃ ss, b.path = .segments ss ∧
      u.path.text = (UrlPath.segments ss.dropLast).text ++ ['/'] ++ (q.key.name.toList ++ '/' :: q.report.toList) := by
  have hk : q.key.name.toList ≠ [] := by cases q.key <;> decide
  have hl : ∀ c ∈ q.key.name.toList, c.isAlpha := List.all_eq_true.mp <| by cases q.key <;> decide
  have hka : ∀ c ∈ q.key.name.toList, c.isAlphanum := fun c hc => isAlphanum_of_isAlpha <| hl c hc
  have hc : Url.clean q.reference = q.key.name.toList ++ '/' :: q.report.toList := by
    refine Url.clean_eq_self <| List.forall_mem_append.mpr ⟨fun c hc => Url.lt_of_isAlphanum (hka c hc), ?_⟩
    exact List.forall_mem_cons.mpr ⟨by decide, fun c hc => Url.lt_of_isAlphanum (hn c hc)⟩
  have hm : Url.Unmarked (q.key.name.toList ++ '/' :: q.report.toList) := by
    have ha (d : Char) (hd : d.isAlphanum = false) (hs : d ≠ '/') :
        d ∉ q.key.name.toList ++ '/' :: q.report.toList := by
      intro hm
      rcases List.mem_append.mp hm with hm | hm
      · simp [hka d hm] at hd
      · cases hm with
        | head      => exact hs rfl
        | tail _ hm => simp [hn d hm] at hd
    exact ⟨ha '?' rfl (by decide), ha '#' rfl (by decide)⟩
  have ⟨b', hb', hj⟩ := endpoint_eq_ok_iff.mp h
  cases hb.symm.trans hb'
  rw [Url.join_eq_relative hk hl hc] at hj
  have ⟨ss, hs, hu⟩ := Url.relative_eq_ok hj
  have ⟨hsp, hf⟩ := Bool.and_eq_true_iff.mp hr
  rw [Bool.not_eq_true'] at hf
  refine ⟨ss, hs, ?_⟩
  rw [hu, Url.tail_of_unmarked hm, hsp, hf, Url.segments_names hka hn, Url.resolve_names hka hn]
  simp [UrlPath.text]

section Closed

variable {cs : List Char}

theorem closed_of_marked_iff (hm : u.Marked) : Closed cs u ↔ u.path.text.getLast? = some '/' := by
  constructor
  case mp =>
    intro h
    cases h with
    | marked _ hl         => exact hl
    | slash hn _          => exact absurd hm hn
    | appended hn _ _ _ _ => exact absurd hm hn
  case mpr => exact .marked hm

theorem closed_of_not_marked_iff (hm : ¬u.Marked) (hs : cs.getLast? ≠ some '/') :
    Closed cs u ↔ ∃ c ∈ (cs.filter Url.isKept).getLast?, isEdge c = false ∧ Url.isSlash true c = false := by
  have hc (c : Char) : isEdge c = false ∧ Url.isSlash true c = false ↔ 0x20 < c.toNat ∧ c ≠ '/' ∧ c ≠ '\\' := by
    simp [isEdge, Url.isSlash]
  simp only [hc]
  constructor
  case mp =>
    intro h
    cases h with
    | marked hn _                   => exact absurd hn hm
    | slash _ hl                    => exact absurd hl hs
    | appended _ hk hv hslash hback => exact ⟨_, hk, hv, hslash, hback⟩
  case mpr =>
    rintro ⟨_, hk, hv, hslash, hback⟩
    exact .appended hm hk hv hslash hback

end Closed

section Extends

variable {cs : List Char} {ss : List (List Char)}

theorem slashed_iff_of_marked (hu : Url.parse cs = .ok u) (hr : Url.isRemote u.scheme) (hp : u.path = .segments ss) :
    (UrlPath.segments ss.dropLast).text ++ ['/'] = slashed u.path.text ↔ u.path.text.getLast? = some '/' := by
  have ⟨ts, s, ht, hs⟩ := Url.path_concat hu hr
  cases hp.symm.trans ht
  rw [hp, List.dropLast_concat]
  by_cases hn : s = []
  case pos =>
    rw [hn, Url.slashed_text_slash, Url.text_concat, List.getLast?_concat]
    exact iff_of_true rfl rfl
  case neg =>
    rw [Url.getLast?_text_concat hn, Url.slashed_text_concat hn hs, Url.text_concat]
    exact iff_of_false (fun he => by simpa using congrArg List.length he) fun hl => hs <| List.mem_of_getLast? hl

theorem slashed_iff_of_not_marked (hu : Url.parse cs = .ok u) (hr : Url.isRemote u.scheme)
    (hv : Url.parse (cs ++ ['/']) = .ok v) (hm : ¬u.Marked) (hp : v.path = .segments ss) :
    (UrlPath.segments ss.dropLast).text ++ ['/'] = slashed u.path.text ↔
      ∃ c ∈ (cs.filter Url.isKept).getLast?, isEdge c = false ∧ Url.isSlash true c = false := by
  have ⟨path, ds, hc⟩ := Url.path_slash_of_not_marked hu hr hv hm
  have ⟨hs, hf⟩ := Bool.and_eq_true_iff.mp hr
  rw [Bool.not_eq_true'] at hf
  cases hp.symm.trans hc.after
  rw [hc.last, hc.before]
  exact Url.slashed_rooted_iff hs hf hc.edge hc.rooted

end Extends

-- The address lies below the path of the base exactly if the slash at the end of the base closes that path.
theorem endpoint_extends_iff (hu : Url.parse base.toList = .ok u) (hr : Url.isRemote u.scheme)
    (hn : ∀ c ∈ q.report.toList, c.isAlphanum) (h : q.compile base = .ok a) :
    a.endpoint.path.text = slashed u.path.text ++ (q.key.name.toList ++ '/' :: q.report.toList) ↔
      Closed base.toList u := by
  obtain ⟨_, _, _, endpoint, _, _, _, he, rfl⟩ := compile_eq_ok h
  have ⟨b, hb, _⟩ := endpoint_eq_ok_iff.mp he
  by_cases hs : base.toList.getLast? = some '/'
  case pos =>
    have hd : directory base = base.toList := if_pos hs
    cases hu.symm.trans (hd ▸ hb)
    have ⟨ss, hp, ht⟩ := endpoint_path he hn hb hr
    rw [ht, List.append_left_inj]
    by_cases hm : u.Marked
    case pos => exact (slashed_iff_of_marked hu hr hp).trans (closed_of_marked_iff hm).symm
    case neg =>
      have ⟨front, hf⟩ := List.getLast?_eq_some_iff.mp hs
      have ⟨ts, hts⟩ := Url.path_of_slash (hf ▸ hu) hr hm
      cases hp.symm.trans hts
      rw [hp, List.dropLast_concat]
      exact iff_of_true (Url.slashed_text_slash ts).symm (.slash hm hs)
  case neg =>
    have hd : directory base = base.toList ++ ['/'] := if_neg hs
    have hb' := hd ▸ hb
    have ⟨ss, hp, ht⟩ := endpoint_path he hn hb (Url.scheme_slash hu hb' ▸ hr)
    rw [ht, List.append_left_inj]
    by_cases hm : u.Marked
    case pos =>
      have hp := Url.path_slash_of_marked hu hr hb' hm ▸ hp
      exact (slashed_iff_of_marked hu hr hp).trans (closed_of_marked_iff hm).symm
    case neg => exact (slashed_iff_of_not_marked hu hr hb' hm hp).trans (closed_of_not_marked_iff hm hs).symm

theorem endpoint_extends_iff_query :
    let q : ReportQuery := { key := .team, report := "summary", primary := .ofSeason "20232024" }
    let web (path : List (List Char)) (query : Option (List Char)) : Url :=
      ⟨"http".toList, some ⟨[], [], "stats.test".toList, none⟩, .segments path, query, none⟩
    let u := web ["api".toList, []] (some "x=1".toList)
    let a : ReportAddress :=
      ⟨web ["api".toList, "team".toList, "summary".toList] none, false, true, "seasonId=20232024", "gamesPlayed>=0", none⟩
    Url.parse "http://stats.test/api/?x=1".toList = .ok u ∧ q.compile "http://stats.test/api/?x=1" = .ok a ∧
      Closed "http://stats.test/api/?x=1".toList u ∧
      a.endpoint.path.text = slashed u.path.text ++ ("team".toList ++ '/' :: "summary".toList) := by
  intro q web u a
  have hu : Url.parse "http://stats.test/api/?x=1".toList = .ok u := eq_ok_of_toOption (by decide +kernel)
  have ha : q.compile "http://stats.test/api/?x=1" = .ok a := eq_ok_of_toOption (by decide +kernel)
  have hc : Closed "http://stats.test/api/?x=1".toList u := .marked (.inl rfl) (by decide)
  exact ⟨hu, ha, hc, (endpoint_extends_iff hu (by decide) (List.all_eq_true.mp (by decide)) ha).mpr hc⟩

theorem endpoint_not_extends :
    ¬∀ (q : ReportQuery) (base : String) (u : Url) (a : ReportAddress), Url.parse base.toList = .ok u →
      u.scheme = "http".toList ∨ u.scheme = "https".toList → (∀ c ∈ q.report.toList, c.isAlphanum) →
      q.compile base = .ok a →
      a.endpoint.path.text = slashed u.path.text ++ (q.key.name.toList ++ '/' :: q.report.toList) := by
  intro h
  let q : ReportQuery := { key := .team, report := "summary", primary := .ofSeason "20232024" }
  let web (path : List (List Char)) (query : Option (List Char)) : Url :=
    ⟨"http".toList, some ⟨[], [], "stats.test".toList, none⟩, .segments path, query, none⟩
  have hu : Url.parse "http://stats.test/api?x=1".toList = .ok (web ["api".toList] (some "x=1".toList)) :=
    eq_ok_of_toOption (by decide +kernel)
  have ha : q.compile "http://stats.test/api?x=1" = .ok
      ⟨web ["team".toList, "summary".toList] none, false, true, "seasonId=20232024", "gamesPlayed>=0", none⟩ :=
    eq_ok_of_toOption (by decide +kernel)
  exact absurd (h q _ _ _ hu (.inl rfl) (List.all_eq_true.mp (by decide)) ha) (by decide)

end ReportQuery

end StatsQuery
