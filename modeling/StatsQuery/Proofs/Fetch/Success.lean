import StatsQuery.Proofs.Fetch.Attempts

namespace StatsQuery

inductive Reply.Succeeds : Reply → Prop
  | answer : (200 ≤ status) → (status < 300) → Succeeds (answer status reason body)

inductive Concluded : Except Error Fetched → Prop
  | payload     : Concluded (.ok (.payload j))
  | empty       : Concluded (.ok .empty)
  | undecodable : Concluded (.error .undecodable)

theorem Fetched.Reads.concluded (h : Reads body result) : Concluded result := by
  cases h
  case empty       => exact .empty
  case payload     => exact .payload
  case undecodable => exact .undecodable

-- The reply number `j` decides a request: it is the first one that does not fail, and an attempt is left for it.
inductive Decides (policy : RetryPolicy) (text : String) (replies : List Reply) (j : Nat) : Prop
  | intro :
    policy.Valid → (target text = .ok url) → (j < policy.maxAttempts) →
    (∀ i < j, (replyAt replies i).Fails) → (replyAt replies j).Brings body →
      Decides policy text replies j

-- The promise that only a success ends a request: what has been concluded comes from a success, and any other reply is
-- followed by the next attempt until there is none.
structure EndedBySuccess (policy : RetryPolicy) (replies : List Reply) (x : Exchange (Except Error Fetched)) : Prop where
  success : Concluded x.result → ∃ i, x.sent.length = i + 1 ∧ (replyAt replies i).Succeeds
  retried : ∀ i < x.sent.length, ¬(replyAt replies i).Succeeds →
    i + 1 < x.sent.length ∨
      i + 1 = policy.maxAttempts ∧ ∃ lastError, x.result = .ok (.exhausted policy.maxAttempts lastError)

section

variable {policy : RetryPolicy} {text : String} {url : Url} {replies : List Reply} {i j : Nat}

theorem fetch_of_decides (h : Decides policy text replies j) :
    ∃ url body, (replyAt replies j).Brings body ∧
      fetch policy text (.scripted replies) =
        ⟨Fetched.ofBody body, .replicate (j + 1) url, .scripted (replies.drop (j + 1))⟩ :=
  have ⟨hv, hu, hj, hf, hb⟩ := h
  ⟨_, _, hb, fetch_of_brings hv hu hj hf hb⟩

theorem fetchWithin_of_not_target (hu : target text = .error fault) (n left : Nat) (last : String) (server : Server) :
    ∃ last', fetchWithin n text left last server = .idle (.ok (.exhausted n last')) server := by
  induction left generalizing last with
  | zero         => exact ⟨last, rfl⟩
  | succ left hi =>
    have ⟨last', h⟩ := hi fault.message
    exact ⟨last', by simp [fetchWithin, Server.ask, hu, Exchange.andThen, h, Exchange.idle]⟩

theorem fetch_of_not_decides (h : ∀ j, ¬Decides policy text replies j) :
    let x := fetch policy text (.scripted replies)
    ¬Concluded x.result ∧
      (x.sent = [] ∨ x.sent.length = policy.maxAttempts ∧
        ∃ lastError, x.result = .ok (.exhausted policy.maxAttempts lastError)) := by
  by_cases hv : policy.Valid
  case neg =>
    obtain ⟨fault, he⟩ := RetryPolicy.validate_of_not_valid hv
    simp only [fetch, he]
    exact ⟨(fun h => by cases h), .inl rfl⟩
  case pos =>
    cases hu : target text with
    | error fault =>
      obtain ⟨_, hw⟩ := fetchWithin_of_not_target hu policy.maxAttempts policy.maxAttempts "" (.scripted replies)
      rw [fetch_of_valid hv, hw]
      exact ⟨(fun h => by cases h), .inl rfl⟩
    | ok url =>
      cases fails_or_first_brings replies policy.maxAttempts
      case inl hf =>
        obtain ⟨_, _, hx⟩ := fetch_of_fails hv hu hf
        rw [hx]
        exact ⟨(fun h => by cases h), .inr ⟨List.length_replicate, _, rfl⟩⟩
      case inr hf =>
        obtain ⟨j, hj, hf, _, hb⟩ := hf
        exact absurd ⟨hv, hu, hj, hf, hb⟩ (h j)

theorem endedBySuccess_iff :
    EndedBySuccess policy replies (fetch policy text (.scripted replies)) ↔
      ∀ j, Decides policy text replies j → (replyAt replies j).Succeeds := by
  constructor
  case mp =>
    intro hs j hd
    have ⟨_, body, _, hx⟩ := fetch_of_decides hd
    rw [hx] at hs
    have ⟨i, hi, h⟩ := hs.success (Fetched.reads_ofBody body).concluded
    have he : j = i := by simpa using hi
    exact he ▸ h
  case mpr =>
    intro hs
    by_cases hd : ∃ j, Decides policy text replies j
    case pos =>
      have ⟨j, hd⟩ := hd
      have ⟨_, _, _, hx⟩ := fetch_of_decides hd
      rw [hx]
      refine ⟨fun _ => ⟨j, List.length_replicate, hs j hd⟩, fun i hi hn => .inl ?_⟩
      have hij : i ≠ j := fun he => hn <| he ▸ hs j hd
      simp only [List.length_replicate] at hi ⊢
      omega
    case neg =>
      have ⟨hc, hl⟩ := fetch_of_not_decides <| not_exists.mp hd
      refine ⟨fun h => absurd h hc, fun i hi _ => ?_⟩
      rcases hl with hl | ⟨hl, he⟩
      · simp [hl] at hi
      · exact (Nat.lt_or_eq_of_le hi).imp id fun hi => ⟨hi.trans hl, he⟩

-- A request is concluded exactly when a reply decides, which may have any status but those of failures. Only a success
-- ends the request exactly when that reply is one.
theorem fetch_endedBySuccess_iff (policy : RetryPolicy) (text : String) (replies : List Reply) :
    let x := fetch policy text (.scripted replies)
    (Concluded x.result ↔ ∃ j, Decides policy text replies j) ∧
    (∀ j, Decides policy text replies j →
      ∃ status reason body, replyAt replies j = .answer status reason body ∧ ¬(400 ≤ status ∧ status < 600) ∧
        x.sent.length = j + 1 ∧ x.result = Fetched.ofBody body) ∧
    (EndedBySuccess policy replies x ↔ ∀ j, Decides policy text replies j → (replyAt replies j).Succeeds) := by
  refine ⟨⟨fun hc => ?_, fun ⟨j, hd⟩ => ?_⟩, fun j hd => ?_, endedBySuccess_iff⟩
  case refine_1 =>
    by_cases hd : ∃ j, Decides policy text replies j
    case pos => exact hd
    case neg => exact absurd hc (fetch_of_not_decides <| not_exists.mp hd).left
  case refine_2 =>
    have ⟨_, body, _, hx⟩ := fetch_of_decides hd
    rw [hx]
    exact (Fetched.reads_ofBody body).concluded
  case refine_3 =>
    have ⟨_, body, hb, hx⟩ := fetch_of_decides hd
    rw [hx]
    generalize replyAt replies j = reply at hb
    cases hb with
    | answer hs => exact ⟨_, _, _, rfl, hs, List.length_replicate, rfl⟩

end

theorem fetch_not_endedBySuccess :
    let policy : RetryPolicy := { maxAttempts := 2 }
    let replies := [.answer 304 "Not Modified" .empty, .answer 200 "OK" "7".toUTF8]
    (fetch policy "http://stats.test/x" (.scripted replies)).result = .ok .empty ∧
      ¬EndedBySuccess policy replies (fetch policy "http://stats.test/x" (.scripted replies)) := by
  intro policy replies
  have hr : (fetch policy "http://stats.test/x" (.scripted replies)).result = .ok .empty := rfl
  have hl : (fetch policy "http://stats.test/x" (.scripted replies)).sent.length = 1 := rfl
  refine ⟨hr, fun h => ?_⟩
  have ⟨i, hi, hs⟩ := h.success (hr ▸ .empty)
  cases Nat.succ.inj <| hl.symm.trans hi
  cases hs
  contradiction

end StatsQuery
