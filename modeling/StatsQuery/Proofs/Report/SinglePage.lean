import StatsQuery.Proofs.Collection.Walk
import StatsQuery.Proofs.Report.Information

namespace StatsQuery

namespace Shaping

variable {s : Shaping} {records : List Json} {page : Page}

theorem length_step {f : List Json → α → List Json}
    (h : ∀ a ∈ setting, (f records a).length = records.length) :
    (step setting f records).length = records.length := by
  cases setting with
  | none   => rfl
  | some a => exact h a rfl

theorem length_process (hf : s.filter = none) (he : s.exclude = none) :
    (s.process records).length = records.length := by
  have hs : (step s.sort (fun rs spec => spec.apply rs) records).length = records.length :=
    length_step fun _ _ => SortSpec.apply_perm.length_eq
  simp only [process, hf, he]
  exact (length_step fun _ _ => List.length_map ..).trans hs

theorem applyPage_eq_apply (h : page.data.length = page.total.toNat) : s.applyPage page = s.apply page.data := by
  unfold applyPage apply
  cases hf : s.filter <;> cases he : s.exclude <;> try rfl
  case none.none => simp [length_process hf he, h]

end Shaping

section

variable {policy : RetryPolicy} {size : Nat} {urlFor : PageRange → String} {server : Server}

theorem brings_iff : Brings fetched page ↔ fetched.bind Fetched.page? = .ok (some page) := by
  refine ⟨Brings.bind_page?, fun h => ?_⟩
  rcases fetched with _ | j | _ | _ <;> simp only [Except.bind, Fetched.page?] at h
  case ok.payload =>
    split at h <;> cases h
    exact .intro ‹_›
  all_goals simp at h

theorem collect_of_whole
    (hs : size ≠ 0)
    (hw : ∀ page, Brings (fetch policy (urlFor ⟨0, size⟩) server).result page →
      page.data.length = page.total.toNat) :
    collect policy size urlFor server =
      (fetchPage policy (urlFor ⟨0, size⟩) server).map (·.map (·.map (·.data))) := by
  by_cases hv : policy.Valid
  case neg =>
    have ⟨_, h⟩ := RetryPolicy.validate_of_not_valid hv
    simp [collect, fetchPage, fetch, hs, h, Exchange.map, Exchange.idle, Except.bind, Except.map]
  case pos =>
    rw [collect_eq_collectFrom hs hv, collectFrom_eq]
    simp only [Visit.next, List.length_nil, List.nil_append, fetchPage]
    cases hf : (fetch policy (urlFor ⟨0, size⟩) server).result.bind Fetched.page? with
    | error => simp [Exchange.map, hf, Except.map]
    | ok page =>
      cases page with
      | none      => simp [Exchange.map, hf, Except.map]
      | some page =>
        have ht := hw page (brings_iff.mpr hf)
        simp [Exchange.map, hf, Except.map, ht]

end

namespace ReportQuery

variable {q : ReportQuery} {base : String} {policy : RetryPolicy} {server : Server}

def FirstIsWhole (q : ReportQuery) (base : String) (policy : RetryPolicy) (server : Server) : Prop :=
  ∀ a, q.compile base = .ok a → ∀ page,
    Brings (fetch policy (a.pageUrl ⟨0, q.limit⟩) server).result page → page.data.length = page.total.toNat

instance : Decidable (q.FirstIsWhole base policy server) :=
  match hc : q.compile base with
  | .error _ => isTrue <| by simp [FirstIsWhole, hc]
  | .ok a    =>
    match hf : (fetch policy (a.pageUrl ⟨0, q.limit⟩) server).result.bind Fetched.page? with
    | .error _        => isTrue <| by simp [FirstIsWhole, brings_iff, hc, hf]
    | .ok none        => isTrue <| by simp [FirstIsWhole, brings_iff, hc, hf]
    | .ok (some page) =>
      decidable_of_iff (page.data.length = page.total.toNat) <| by simp [FirstIsWhole, brings_iff, hc, hf]

theorem fetchRecords_all_eq_single (hs : q.start = 0) (hl : q.limit ≠ 0) (hw : q.FirstIsWhole base policy server)
    (hc : q.compile base = .ok a) :
    { q with allPages := true }.fetchRecords a policy server =
      { q with allPages := false }.fetchRecords a policy server := by
  simp only [fetchRecords, firstPage, if_true, Bool.false_eq_true, if_false, hs]
  rw [collect_of_whole hl (hw a hc)]
  simp only [Exchange.map]
  congr 1
  rcases hf : (fetchPage policy (a.pageUrl ⟨0, q.limit⟩) server).result with _ | _ | page
  case error   => rfl
  case ok.none => rfl
  case ok.some =>
    have ht := hw a hc page (brings_iff.mpr hf)
    simp [Except.map, bind, Except.bind, Shaping.applyPage_eq_apply ht]

theorem respond_all_eq_single (hs : q.start = 0) :
    { q with allPages := true }.respond a = { q with allPages := false }.respond a := by
  funext response
  cases response
  case none => rfl
  case some => simp only [respond, firstPage, hs, info, if_true, Bool.false_eq_true, if_false]

-- With one page that holds everything, collecting all pages and reading a single one are the same: the requests,
-- what comes of them, and the server afterwards.
theorem run_all_eq_single (hs : q.start = 0) (hl : q.limit ≠ 0) (hw : q.FirstIsWhole base policy server) :
    { q with allPages := true }.run base policy server = { q with allPages := false }.run base policy server := by
  have all b : { q with allPages := b }.compile base = q.compile base := rfl
  cases hc : q.compile base with
  | error => rw [run_of_not_compile ((all _).trans hc), run_of_not_compile ((all _).trans hc)]
  | ok a  =>
    rw [run_of_compile ((all _).trans hc), run_of_compile ((all _).trans hc),
      fetchRecords_all_eq_single hs hl hw hc, respond_all_eq_single hs]

-- After a dropped connection, a page of two records that reports two. Neither of them passes the filter.
theorem run_all_eq_single_retried :
    let q : ReportQuery := {
      key      := .team
      report   := "summary"
      primary  := .ofSeason "20232024"
      limit    := 50
      withInfo := true
      shaping  := { filter := some ⟨[(⟨["id"], by decide, by decide⟩, .equals (.ofNat 1))]⟩, view := some "total" } }
    let base := "http://stats.test/"
    let server := .scripted [.dropped, .answer 200 "OK" "[[7,8],2]".toUTF8, .silent]
    q.FirstIsWhole base {} server ∧
    { q with allPages := true }.run base {} server = { q with allPages := false }.run base {} server := by
  intro q base server
  have hw : q.FirstIsWhole base {} server := by decide +kernel
  exact ⟨hw, run_all_eq_single rfl (by decide) hw⟩

end ReportQuery

end StatsQuery
