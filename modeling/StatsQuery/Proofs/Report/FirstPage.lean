import StatsQuery.Proofs.Report.Parameters
import StatsQuery.Proofs.Report.Refusal
import StatsQuery.Proofs.Report.Requests
import StatsQuery.Proofs.View.Restriction

namespace StatsQuery

variable {policy : RetryPolicy} {size : Nat} {urlFor : PageRange → String} {server : Server}

structure BeginsWith (policy : RetryPolicy) (text : String) (server : Server) (x : Exchange α) : Prop where
  page : ∃ page, (fetchPage policy text server).result = .ok (some page)
  sent : (fetchPage policy text server).sent <+: x.sent

theorem BeginsWith.map {x : Exchange α} (h : BeginsWith policy text server x) (f : α → β) :
    BeginsWith policy text server (x.map f) :=
  ⟨h.page, h.sent⟩

namespace ReportQuery

variable {q : ReportQuery} {a : ReportAddress} {base : String} {informed : Json}

end ReportQuery

end StatsQuery
