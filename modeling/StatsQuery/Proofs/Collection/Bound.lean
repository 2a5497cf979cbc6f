import StatsQuery.Proofs.Collection.Surplus
import StatsQuery.Proofs.Fetch.Unread

namespace StatsQuery

section

variable {policy : RetryPolicy} {size : Nat} {urlFor : PageRange → String}
variable {records : List Json} {server : Server} {visits : List Visit}
variable {x : Exchange (Except Error (Option (List Json)))}

-- The gap between the records so far and the bound shrinks with every page.
theorem Walk.length_le (w : Walk policy size urlFor records server visits x)
    (ht : ∀ v ∈ visits, ∀ page, Brings v.exchange.result page → page.total.toNat ≤ bound) :
    visits.length ≤ max 1 (bound - records.length) := by
  induction w with
  | ends => exact Nat.le_max_left _ _
  | @more records _ page visits _ v _ he _ hi =>
    have hb : page.total.toNat ≤ bound := ht v List.mem_cons_self page he.brings
    have hl : (records ++ page.data).length < page.total.toNat := he.short
    have hn : 0 < page.data.length := List.length_pos_iff.mpr he.nonempty
    have hm := hi fun v hv => ht v <| List.mem_cons_of_mem _ hv
    rw [List.length_append] at hl hm
    rw [List.length_cons]
    omega

theorem Walk.sent_length_le (w : Walk policy size urlFor records server visits x) (hv : policy.Valid) :
    x.sent.length ≤ policy.maxAttempts * visits.length := by
  have hf : ∀ url server, (fetch policy url server).sent.length ≤ policy.maxAttempts := fun _ _ =>
    fetch_of_valid hv ▸ fetchWithin_sent_length_le
  induction w with
  | @ends records server _ v he _ =>
    have hn : v.exchange.sent.length ≤ policy.maxAttempts := he ▸ hf (urlFor ⟨records.length, size⟩) server
    simpa using hn
  | @more records server _ _ _ v he _ _ hi =>
    have hn : v.exchange.sent.length ≤ policy.maxAttempts := he ▸ hf (urlFor ⟨records.length, size⟩) server
    rw [List.length_append, List.length_cons, Nat.mul_succ, Nat.add_comm]
    exact Nat.add_le_add hi hn

theorem collectFrom_eq_andThen :
    collectFrom policy size urlFor records server =
      (fetchPage policy (urlFor ⟨records.length, size⟩) server).andThen fun result server =>
        match result with
        | .error e        => .idle (.error e) server
        | .ok none        => .idle (.ok none) server
        | .ok (some page) =>
          if page.total.toNat ≤ (records ++ page.data).length then .idle (.ok (some (records ++ page.data))) server
          else if page.data.isEmpty then .idle (.ok none) server
          else collectFrom policy size urlFor (records ++ page.data) server := by
  rw [collectFrom]
  split
  case h_1 h => simp [Exchange.andThen, Exchange.map, h, Exchange.idle]
  case h_2 h => simp [Exchange.andThen, Exchange.map, h, Exchange.idle]
  case h_3 h =>
    simp only [Exchange.andThen, h]
    split <;> (try split) <;> simp [Exchange.map, Exchange.idle]

theorem Local.collectFrom (policy : RetryPolicy) (size : Nat) (urlFor : PageRange → String) (records : List Json)
    (server : Server) : Local (collectFrom policy size urlFor records) server := by
  have he : StatsQuery.collectFrom policy size urlFor records = _ := funext fun _ => collectFrom_eq_andThen
  rw [he]
  refine (fetchPage policy _ server).andThen ?_
  split
  case h_1 => exact .idle _ _
  case h_2 => exact .idle _ _
  case h_3 page _ =>
    split
    case isTrue => exact .idle _ _
    case isFalse =>
      split
      case isTrue  => exact .idle _ _
      case isFalse => exact Local.collectFrom policy size urlFor (records ++ page.data) _
termination_by server.pending
decreasing_by exact fetchPage_pending_lt ‹_›

theorem Local.collect (policy : RetryPolicy) (size : Nat) (urlFor : PageRange → String) (server : Server) :
    Local (collect policy size urlFor) server := by
  unfold StatsQuery.collect
  split
  case isTrue => exact .idle _ _
  case isFalse =>
    split
    · exact .idle _ _
    · exact .collectFrom policy size urlFor [] server

-- As many requests as the greatest total, and one at least, are enough for any server: each of them makes no more than
-- the attempts of the policy, and once that many replies are there, further ones make no difference.
theorem collect_bounded (hv : policy.Valid) (hs : size ≠ 0)
    (ht : ∀ page, Arrives policy size urlFor server page → page.total.toNat ≤ bound) :
    let x := collect policy size urlFor server
    ∃ visits, Walk policy size urlFor [] server visits x ∧
      visits.length ≤ max 1 bound ∧
      x.sent = visits.flatMap (·.exchange.sent) ∧
      x.sent.length ≤ policy.maxAttempts * max 1 bound ∧
      (policy.maxAttempts * max 1 bound ≤ server.pending →
        ∀ rest, collect policy size urlFor (server.followedBy rest) = x.followedBy rest) := by
  intro x
  have ⟨visits, w⟩ := exists_walk hs hv urlFor server
  have hp : ∀ v ∈ visits, ∀ page, Brings v.exchange.result page → page.total.toNat ≤ bound :=
    fun v hm page hb => ht page <| w.arrives_iff.mpr ⟨v, hm, hb⟩
  have hn : visits.length ≤ max 1 bound := w.length_le hp
  have hl : x.sent.length ≤ policy.maxAttempts * max 1 bound :=
    Nat.le_trans (w.sent_length_le hv) (Nat.mul_le_mul_left _ hn)
  have ⟨_, _, _, _, _, _, _, hq, _⟩ := w.decided
  refine ⟨visits, w, hn, hq, hl, fun he => ?_⟩
  exact (Local.collect policy size urlFor server).followedBy (Nat.le_trans hl he)

theorem collect_bounded_varying :
    let policy : RetryPolicy := { maxAttempts := 1 }
    let replies := [.answer 200 "OK" "[[1],2]".toUTF8, .answer 200 "OK" "[[2],1]".toUTF8]
    let x := collect policy 5 (fun _ => "http://stats.test/x") (.scripted replies)
    policy.Valid ∧
      (∀ page, Arrives policy 5 (fun _ => "http://stats.test/x") (.scripted replies) page → page.total.toNat ≤ 2) ∧
      x.result = .ok (some [.ofNat 1, .ofNat 2]) ∧ x.sent.length ≤ 1 * max 1 2 ∧
      ∀ rest, collect policy 5 (fun _ => "http://stats.test/x") (.scripted (replies ++ rest)) = x.followedBy rest := by
  intro policy replies x
  have hu : target "http://stats.test/x" =
      .ok ⟨"http".toList, some ⟨[], [], "stats.test".toList, none⟩, .segments [['x']], none, none⟩ := by rfl
  have hv : policy.Valid := ⟨by decide, by decide⟩
  have h₁ : Json.parseBytes? "[[1],2]".toUTF8 = some (.arr [.arr [.ofNat 1], .ofNat 2]) := by rfl
  have h₂ : Json.parseBytes? "[[2],1]".toUTF8 = some (.arr [.arr [.ofNat 2], .ofNat 1]) := by rfl
  let urlFor := fun _ : PageRange => "http://stats.test/x"
  have ⟨hb, hr⟩ := brings_next 5 urlFor [] hv hu h₁ (by decide)
    [.answer 200 "OK" "[[2],1]".toUTF8]
  have ⟨hb', _⟩ := brings_next 5 urlFor [.ofNat 1] hv hu h₂ (by decide) []
  rw [← hr] at hb'
  have w := Walk.more _ rfl ⟨hb, by simp, by decide⟩ <| .ends _ rfl <| .complete _ hb' (by decide)
  have ha : ∀ page, Arrives policy 5 urlFor (.scripted replies) page → page.total.toNat ≤ 2 := by
    intro page hp
    have hm := (mem_of_brings <| .cons hb <| .cons hb' .nil).mp (w.arrives_iff.mp hp)
    simp only [List.mem_cons, List.not_mem_nil, or_false] at hm
    rcases hm with rfl | rfl <;> decide
  have hc : x.result = .ok (some [.ofNat 1, .ofNat 2]) := by
    change (collect policy 5 urlFor (.scripted replies)).result = _
    rw [w.eq_collect (by decide) hv]
    rfl
  have ⟨_, _, _, _, hl, hf⟩ := collect_bounded hv (by decide) ha
  exact ⟨hv, ha, hc, hl, hf (by decide)⟩

end

end StatsQuery
