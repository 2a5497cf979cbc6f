import StatsQuery.Fetch

namespace StatsQuery

namespace Reply

inductive Fails : Reply → Prop
  | refused   : (400 ≤ status) → (status < 600) → Fails (answer status reason body)
  | truncated : Fails (truncated status reason)
  | dropped   : Fails dropped
  | silent    : Fails silent

inductive Brings : Reply → ByteArray → Prop
  | answer : ¬(400 ≤ status ∧ status < 600) → Brings (answer status reason body) body

variable {reply : Reply} {body : ByteArray}

theorem Fails.outcome_eq (h : reply.Fails) (url : Url) : ∃ fault, reply.outcome url = .error fault := by
  cases h
  case refused lower upper => simp [outcome, isFailure, lower, upper]
  case truncated status _  => cases hf : isFailure status <;> simp [outcome, hf]
  all_goals simp [outcome]

theorem Brings.outcome_eq (h : reply.Brings body) (url : Url) : reply.outcome url = .ok body := by
  cases h
  case answer h => simpa [outcome, isFailure] using h

theorem fails_or_brings (reply : Reply) : reply.Fails ∨ ∃ body, reply.Brings body := by
  cases reply
  case answer status _ body =>
    by_cases h : 400 ≤ status ∧ status < 600
    case pos => exact .inl <| .refused h.left h.right
    case neg => exact .inr ⟨body, .answer h⟩
  case truncated => exact .inl .truncated
  case dropped   => exact .inl .dropped
  case silent    => exact .inl .silent

theorem Brings.not_fails (h : reply.Brings body) : ¬reply.Fails
  | .refused lower upper => by cases h; simp_all

end Reply

namespace Fetched

inductive Reads : ByteArray → Except Error Fetched → Prop
  | empty       : (body.size = 0) → Reads body (.ok .empty)
  | payload     : (body.size ≠ 0) → (Json.parseBytes? body = some j) → Reads body (.ok (.payload j))
  | undecodable : (body.size ≠ 0) → (Json.parseBytes? body = none) → Reads body (.error .undecodable)

theorem reads_ofBody (body : ByteArray) : Reads body (ofBody body) := by
  unfold ofBody
  split
  case isTrue h => exact .empty <| by simpa [ByteArray.isEmpty] using h
  case isFalse h =>
    replace h : body.size ≠ 0 := by simpa [ByteArray.isEmpty] using h
    split
    case h_1 hj => exact .payload h hj
    case h_2 hj => exact .undecodable h hj

theorem Reads.eq_ofBody (h : Reads body result) : result = ofBody body := by
  cases h
  case empty h            => simp [ofBody, ByteArray.isEmpty, h]
  case payload h hj       => simp [ofBody, ByteArray.isEmpty, h, hj]
  case undecodable h hj   => simp [ofBody, ByteArray.isEmpty, h, hj]

theorem Reads.error_eq (h : Reads body (.error e)) : e = .undecodable := by
  cases h
  rfl

end Fetched

-- The reply to the request number `i`, counted from zero. Once no replies are left, connections drop.
def replyAt (replies : List Reply) (i : Nat) : Reply :=
  replies.getD i .dropped

theorem replyAt_drop {replies : List Reply} {n i : Nat} :
    replyAt (replies.drop n) i = replyAt replies (n + i) := by
  simp [replyAt, List.getD_eq_getElem?_getD]

variable {policy : RetryPolicy} {text : String} {url : Url} {replies : List Reply}

theorem fails_or_first_brings (replies : List Reply) (n : Nat) :
    (∀ i < n, (replyAt replies i).Fails) ∨
      ∃ j < n, (∀ i < j, (replyAt replies i).Fails) ∧ ∃ body, (replyAt replies j).Brings body := by
  induction n
  case zero => exact .inl <| by simp
  case succ n hi =>
    cases hi
    case inr h => have ⟨j, hj, h⟩ := h; exact .inr ⟨j, Nat.lt_succ_of_lt hj, h⟩
    case inl h =>
      cases (replyAt replies n).fails_or_brings
      case inl hn =>
        refine .inl fun i hi => ?_
        cases Nat.lt_succ_iff_lt_or_eq.mp hi
        case inl hi => exact h i hi
        case inr hi => exact hi ▸ hn
      case inr hn => exact .inr ⟨n, Nat.lt_succ_self n, h, hn⟩

theorem Server.ask_scripted (hu : target text = .ok url) :
    (scripted replies).ask text =
      ⟨(replyAt replies 0).outcome url, [url], scripted (replies.drop 1)⟩ := by
  cases replies <;> simp [ask, hu, replyAt, Reply.outcome]

theorem fetchWithin_of_ok
    (hu : target text = .ok url) (h : (replyAt replies 0).outcome url = .ok body) :
    fetchWithin n text (left + 1) last (.scripted replies) =
      ⟨Fetched.ofBody body, [url], .scripted (replies.drop 1)⟩ := by
  simp [fetchWithin, Server.ask_scripted hu, h, Exchange.andThen, Exchange.idle]

theorem fetchWithin_of_error
    (hu : target text = .ok url) (h : (replyAt replies 0).outcome url = .error fault) :
    fetchWithin n text (left + 1) last (.scripted replies) =
      let x := fetchWithin n text left fault.message (.scripted (replies.drop 1))
      { x with sent := url :: x.sent } := by
  simp [fetchWithin, Server.ask_scripted hu, h, Exchange.andThen]

theorem fetchWithin_of_fails
    (hu : target text = .ok url) (hf : ∀ i < j, (replyAt replies i).Fails)
    (n left : Nat) (last : String) :
    ∃ last', (∀ k, j = k + 1 →
        ∃ fault, (replyAt replies k).outcome url = .error fault ∧ last' = fault.message) ∧
      fetchWithin n text (left + j) last (.scripted replies) =
        let x := fetchWithin n text left last' (.scripted (replies.drop j))
        { x with sent := .replicate j url ++ x.sent } := by
  induction j generalizing left
  case zero => exact ⟨last, by simp, by simp⟩
  case succ j hi =>
    have ⟨last', _, h⟩ := hi (fun i h => hf i (Nat.lt_succ_of_lt h)) (left + 1)
    have ⟨fault, ho⟩ := (hf j (Nat.lt_succ_self j)).outcome_eq url
    refine ⟨fault.message, fun k hk => ⟨fault, ?_, rfl⟩, ?_⟩
    case refine_1 => exact Nat.succ.inj hk ▸ ho
    case refine_2 =>
      have ho' : (replyAt (replies.drop j) 0).outcome url = .error fault := replyAt_drop ▸ ho
      rw [← Nat.succ_add_eq_add_succ, h, fetchWithin_of_error hu ho']
      simp [List.replicate_succ']

theorem fetchWithin_sent_length_le {server : Server} :
    (fetchWithin n text left last server).sent.length ≤ left := by
  induction left generalizing last server
  case zero => simp [fetchWithin]
  case succ left hi =>
    have h : (server.ask text).sent.length ≤ 1 := by
      unfold Server.ask
      split <;> simp
    simp only [fetchWithin, Exchange.andThen_sent, List.length_append]
    split
    case h_1 => exact Nat.le_add_left_of_le h
    case h_2 fault _ =>
      have := @hi fault.message (server.ask text).server
      omega

theorem fetchWithin_error_eq {server : Server}
    (h : (fetchWithin n text left last server).result = .error e) : e = .undecodable := by
  induction left generalizing last server <;> simp only [fetchWithin, Exchange.andThen_result] at h
  case zero => cases h
  case succ hi =>
    split at h
    case h_1 body _ =>
      rw [Exchange.idle_result] at h
      exact Fetched.Reads.error_eq <| h ▸ Fetched.reads_ofBody body
    case h_2        => exact hi h

theorem RetryPolicy.validate_of_not_valid (h : ¬policy.Valid) :
    ∃ fault, policy.validate = .error (.badPolicy fault) := by
  unfold validate
  split
  case isTrue => exact ⟨_, rfl⟩
  case isFalse ha =>
    split
    case isTrue     => exact ⟨_, rfl⟩
    case isFalse ht => exact absurd ⟨ha, ht⟩ h

theorem fetch_of_valid {server : Server} (hv : policy.Valid) :
    fetch policy text server = fetchWithin policy.maxAttempts text policy.maxAttempts "" server := by
  simp [fetch, RetryPolicy.validate_eq_ok_iff.mpr ⟨rfl, hv⟩]

theorem fetch_error_eq {server : Server}
    (hv : policy.Valid) (h : (fetch policy text server).result = .error e) : e = .undecodable := by
  rw [fetch_of_valid hv] at h
  exact fetchWithin_error_eq h

theorem fetch_of_brings
    (hv : policy.Valid) (hu : target text = .ok url) (hj : j < policy.maxAttempts)
    (hf : ∀ i < j, (replyAt replies i).Fails) (hb : (replyAt replies j).Brings body) :
    fetch policy text (.scripted replies) =
      ⟨Fetched.ofBody body, .replicate (j + 1) url, .scripted (replies.drop (j + 1))⟩ := by
  have ⟨left, hl⟩ : ∃ left, left + 1 + j = policy.maxAttempts := ⟨policy.maxAttempts - j - 1, by omega⟩
  have ⟨_, _, h⟩ := fetchWithin_of_fails hu hf policy.maxAttempts (left + 1) ""
  have ho : (replyAt (replies.drop j) 0).outcome url = .ok body := replyAt_drop ▸ hb.outcome_eq url
  rw [fetchWithin_of_ok hu ho, hl] at h
  rw [fetch_of_valid hv, h]
  simp [List.replicate_succ']

theorem fetch_of_fails
    (hv : policy.Valid) (hu : target text = .ok url)
    (hf : ∀ i < policy.maxAttempts, (replyAt replies i).Fails) :
    ∃ fault, (replyAt replies (policy.maxAttempts - 1)).outcome url = .error fault ∧
      fetch policy text (.scripted replies) =
        ⟨.ok (.exhausted policy.maxAttempts fault.message), .replicate policy.maxAttempts url,
          .scripted (replies.drop policy.maxAttempts)⟩ := by
  have ⟨_, hl, h⟩ := fetchWithin_of_fails hu hf policy.maxAttempts 0 ""
  have ⟨fault, ho, hm⟩ := hl (policy.maxAttempts - 1) (by have := hv.left; omega)
  refine ⟨fault, ho, ?_⟩
  rw [fetch_of_valid hv]
  simpa [fetchWithin, hm] using h

-- The first reply that does not fail decides, in the attempt that it takes to get there; without one
-- among as many replies as there are attempts, the last fault is reported.
theorem fetch_decided
    (hv : policy.Valid) (hu : target text = .ok url) (replies : List Reply) :
    (∀ j < policy.maxAttempts, (∀ i < j, (replyAt replies i).Fails) → ¬(replyAt replies j).Fails →
      ∃ body result, (replyAt replies j).Brings body ∧ Fetched.Reads body result ∧
        fetch policy text (.scripted replies) =
          ⟨result, .replicate (j + 1) url, .scripted (replies.drop (j + 1))⟩ ∧
        (fetch policy text (.scripted (replies.drop j))).result = result) ∧
    ((∀ i < policy.maxAttempts, (replyAt replies i).Fails) →
      ∃ fault, (replyAt replies (policy.maxAttempts - 1)).outcome url = .error fault ∧
        fetch policy text (.scripted replies) =
          ⟨.ok (.exhausted policy.maxAttempts fault.message), .replicate policy.maxAttempts url,
            .scripted (replies.drop policy.maxAttempts)⟩) ∧
    (fetch policy text (.scripted replies)).sent.length ≤ policy.maxAttempts ∧
    (∀ e, (fetch policy text (.scripted replies)).result = .error e →
      e = .undecodable ∧ ∃ j < policy.maxAttempts, (∀ i < j, (replyAt replies i).Fails) ∧
        ∃ body, (replyAt replies j).Brings body ∧ Fetched.Reads body (.error e)) := by
  refine ⟨?first, fetch_of_fails hv hu, ?sent, ?error⟩
  case first =>
    intro j hj hf hn
    have ⟨body, hb⟩ := (replyAt replies j).fails_or_brings.resolve_left hn
    have hb' : (replyAt (replies.drop j) 0).Brings body := replyAt_drop ▸ hb
    have hp : 0 < policy.maxAttempts := Nat.lt_of_le_of_lt (Nat.zero_le _) hj
    refine ⟨body, _, hb, Fetched.reads_ofBody body, fetch_of_brings hv hu hj hf hb, ?_⟩
    -- Nothing fails before the first reply, when what is before reply j has been dropped.
    rw [fetch_of_brings hv hu hp (by simp) hb']
  case sent =>
    rw [fetch_of_valid hv]
    exact fetchWithin_sent_length_le
  case error =>
    intro e he
    cases fails_or_first_brings replies policy.maxAttempts
    case inl hf =>
      have ⟨_, _, h⟩ := fetch_of_fails hv hu hf
      simp [h] at he
    case inr h =>
      have ⟨j, hj, hf, body, hb⟩ := h
      have hr : Fetched.Reads body (.error e) := by
        rw [← he, fetch_of_brings hv hu hj hf hb]
        exact Fetched.reads_ofBody body
      exact ⟨hr.error_eq, j, hj, hf, body, hb, hr⟩

theorem fetch_decided_second :
    let url := ⟨"http".toList, some ⟨[], [], "stats.test".toList, none⟩, .segments [['x']], none, none⟩
    fetch {} "http://stats.test/x" (.scripted [.dropped, .answer 200 "OK" "7".toUTF8, .silent]) =
      ⟨.ok (.payload (.ofNat 7)), [url, url], .scripted [.silent]⟩ := by
  intro url
  have hu : target "http://stats.test/x" = .ok url := by rfl
  have hf : ∀ i < 1, (replyAt [.dropped, .answer 200 "OK" "7".toUTF8, .silent] i).Fails := by
    intro i hi
    cases Nat.lt_one_iff.mp hi
    exact .dropped
  have hb : Reply.Brings (.answer 200 "OK" "7".toUTF8) "7".toUTF8 := .answer (by decide)
  have hv := RetryPolicy.valid_default
  have h := fetch_decided hv hu [.dropped, .answer 200 "OK" "7".toUTF8, .silent]
  have ⟨_, _, hb', hr, h, _⟩ := h.left 1 (by decide) hf hb.not_fails
  cases hb'
  rw [h, hr.eq_ofBody]
  rfl

end StatsQuery
