import StatsQuery.Proofs.Collection.Walk
import StatsQuery.Proofs.Json.Inverse

namespace StatsQuery

structure Serving where
  failures : List Reply
  success  : Reply
  page     : Page
  fails    : ∀ reply ∈ failures, reply.Fails
  brings   : ∃ body, success.Brings body ∧ (Json.parseBytes? body).bind Page.ofJson? = some page

-- A server that serves the records page by page, from the first to the last. It is free to choose how
-- many records there are on a page, but only an empty collection has an empty page.
structure Honest (attempts size : Nat) (records : List Json) (servings : List Serving) : Prop where
  bearable : ∀ s ∈ servings, s.failures.length < attempts
  total    : ∀ s ∈ servings, s.page.total.toNat = records.length
  served   : servings.flatMap (·.page.data) = records
  fits     : ∀ s ∈ servings, s.page.data.length ≤ size
  nonempty : records ≠ [] → ∀ s ∈ servings, s.page.data ≠ []
  single   : records = [] → servings.length = 1

theorem Json.parseBytes?_empty : parseBytes? .empty = none := by
  rfl

theorem Fetched.ofBody_of_parseBytes? (h : Json.parseBytes? body = some j) :
    ofBody body = .ok (.payload j) := by
  unfold ofBody
  split
  case isTrue he =>
    have he : body = .empty := by simpa [ByteArray.isEmpty] using he
    simp [he, Json.parseBytes?_empty] at h
  case isFalse => rw [h]

open Json.Decode in
theorem Page.ofJson?_arr (data : List Json) (h : n < UInt64.size) :
    Page.ofJson? (.arr [.arr data, .ofNat n]) = some ⟨data, .ofNat n⟩ := by
  have ht : uint64 (.ofNat n) = some (.ofNat n) := by simp [uint64, word, natBelow_ofNat h (Nat.le_refl _)]
  simp [Page.ofJson?, Fields.of?, Fields.withDefault, list_any, ht]

namespace Serving

def replies (s : Serving) : List Reply :=
  s.failures ++ [s.success]

theorem replyAt_failures (s : Serving) (rest : List Reply) :
    ∀ i < s.failures.length, (replyAt (s.replies ++ rest) i).Fails := by
  intro i hi
  have h : replyAt (s.replies ++ rest) i = s.failures[i] := by
    simp [replyAt, replies, List.getElem?_append, hi]
  exact h ▸ s.fails _ (List.getElem_mem hi)

theorem replyAt_success (s : Serving) (rest : List Reply) :
    replyAt (s.replies ++ rest) s.failures.length = s.success := by
  simp [replyAt, replies]

variable {records : List Json} {urlFor : PageRange → String}

theorem visit
    (s : Serving) (hv : policy.Valid) (hl : s.failures.length < policy.maxAttempts)
    (hu : target (urlFor ⟨records.length, size⟩) = .ok url) (rest : List Reply) :
    let v := Visit.next policy size urlFor records (.scripted (s.replies ++ rest))
    Brings v.exchange.result s.page ∧ v.exchange.sent = .replicate s.replies.length url ∧
      v.exchange.server = .scripted rest := by
  have ⟨body, hb, hp⟩ := s.brings
  have ⟨j, hj, hp⟩ := Option.bind_eq_some_iff.mp hp
  rw [← s.replyAt_success rest] at hb
  have hf := fetch_of_brings hv hu hl (s.replyAt_failures rest) hb
  rw [Fetched.ofBody_of_parseBytes? hj] at hf
  simp only [Visit.next, hf]
  exact ⟨.intro hp, by simp [replies], by simp [replies]⟩

end Serving

section

variable {records : List Json} {urlFor : PageRange → String} {url : Nat → Url}
variable {servings : List Serving}

-- The walk along servings: one visit for each of them, at the number of records served before, and with
-- as many requests as there are replies.
theorem walk_servings
    (records : List Json) (hv : policy.Valid) (hn : servings ≠ [])
    (hd : servings.length = 1 ∨ ∀ s ∈ servings, s.page.data ≠ [])
    (hf : ∀ s ∈ servings, s.failures.length < policy.maxAttempts)
    (ht : ∀ s ∈ servings, s.page.total.toNat = (records ++ servings.flatMap (·.page.data)).length)
    (hu : ∀ start ≤ (records ++ servings.flatMap (·.page.data)).length,
      target (urlFor ⟨start, size⟩) = .ok (url start))
    (rest : List Reply) :
    ∃ visits,
      Walk policy size urlFor records (.scripted (servings.flatMap Serving.replies ++ rest)) visits
        ⟨.ok (some (records ++ servings.flatMap (·.page.data))), visits.flatMap (·.exchange.sent),
          .scripted rest⟩ ∧
      visits.map (·.range) = (List.range servings.length).map (fun i =>
        ⟨(records ++ (servings.take i).flatMap (·.page.data)).length, size⟩) ∧
      List.Forall₂ (fun v s => v.exchange.sent = .replicate s.replies.length (url v.range.start))
        visits servings := by
  induction servings generalizing records
  case nil => contradiction
  case cons s servings hi =>
    have hs : s ∈ s :: servings := List.mem_cons_self
    have ha : records ++ (s :: servings).flatMap (·.page.data) =
        (records ++ s.page.data) ++ servings.flatMap (·.page.data) := by simp
    rw [ha] at ht hu ⊢
    -- One visit uses up the replies of one serving. What is left is the script of the servings behind it.
    have ⟨hb, hq, hr⟩ := s.visit hv (hf s hs) (hu records.length (by simp))
      (servings.flatMap Serving.replies ++ rest)
    rw [List.flatMap_cons, List.append_assoc]
    generalize hx : Visit.next policy size urlFor records _ = v at hb hq hr
    have hrange : v.range = ⟨records.length, size⟩ := hx ▸ rfl
    cases servings
    case nil =>
      have he : Ends records v.exchange.result (.ok (some (records ++ s.page.data))) :=
        .complete s.page hb <| by simpa using Nat.le_of_eq (ht s hs)
      refine ⟨[v], ?_, by simp [hrange], .cons (by simp [hq, hrange]) .nil⟩
      simpa [Exchange.map, hr] using Walk.ends v hx.symm he
    case cons s' servings =>
      replace hd := hd.resolve_left (by simp)
      have hl : 0 < s'.page.data.length :=
        List.length_pos_iff.mpr <| hd s' <| .tail _ List.mem_cons_self
      -- A page behind this one has records, so that this page cannot have reached the total.
      have he : Extends records v.exchange.result s.page := by
        refine ⟨hb, hd s hs, ?_⟩
        simp only [ht s hs, List.flatMap_cons, List.length_append]
        omega
      have ⟨visits, w, hm, ha⟩ := hi (records ++ s.page.data) (by simp) (.inr fun s h => hd s (.tail _ h))
        (fun s h => hf s (.tail _ h)) (fun s h => ht s (.tail _ h)) hu
      refine ⟨v :: visits, ?_, ?_, .cons (by simp [hq, hrange]) ha⟩
      case refine_1 => exact Walk.more v hx.symm he (hr ▸ w)
      case refine_2 => simp [hm, hrange, List.range_succ_eq_map]

namespace Honest

variable (h : Honest attempts size records servings)

include h

theorem servings_ne_nil : servings ≠ [] := by
  intro hs
  have hr : records = [] := by simpa [hs] using h.served.symm
  simpa [hs] using h.single hr

theorem single_or_nonempty : servings.length = 1 ∨ ∀ s ∈ servings, s.page.data ≠ [] := by
  by_cases hr : records = []
  case pos => exact .inl <| h.single hr
  case neg => exact .inr <| h.nonempty hr

theorem length_eq_of_full (hs : 0 < size) (hf : ∀ s ∈ servings.dropLast, s.page.data.length = size) :
    servings.length = max 1 ((records.length + size - 1) / size) := by
  have ⟨full, last, he⟩ := List.eq_nil_or_concat' servings |>.resolve_left h.servings_ne_nil
  subst he
  have hl : records.length = full.length * size + last.page.data.length := by
    have hc : full.map (·.page.data.length) = full.map fun _ => size :=
      List.map_congr_left <| by simpa using hf
    simp [← h.served, List.length_flatMap, hc]
  by_cases hr : records = []
  case pos =>
    have hd : (size - 1) / size = 0 := Nat.div_eq_of_lt (by omega)
    simpa [hr, hd] using h.single hr
  case neg =>
    have hp : 0 < last.page.data.length := List.length_pos_iff.mpr <| h.nonempty hr last (by simp)
    have hd : (records.length + size - 1) / size = full.length + 1 := by
      apply Nat.div_eq_of_lt_le <;> have := h.fits last (by simp)
      case lo => rw [Nat.add_mul]; omega
      case hi => rw [Nat.add_mul, Nat.add_mul]; omega
    simp [hd]

end Honest

-- Every record is collected once and in its place. Each page is asked for where the records before it
-- end, and nothing is asked after the last record has arrived.
theorem collect_honest
    (urlFor : PageRange → String) (url : Nat → Url) (hv : policy.Valid) (hs : 0 < size)
    (h : Honest policy.maxAttempts size records servings)
    (hu : ∀ start ≤ records.length, target (urlFor ⟨start, size⟩) = .ok (url start))
    (rest : List Reply) :
    ∃ visits,
      let x := collect policy size urlFor (.scripted (servings.flatMap Serving.replies ++ rest))
      Walk policy size urlFor [] (.scripted (servings.flatMap Serving.replies ++ rest)) visits x ∧
      x = ⟨.ok (some records), visits.flatMap (·.exchange.sent), .scripted rest⟩ ∧
      visits.map (·.range) = (List.range servings.length).map (fun i =>
        ⟨((servings.take i).flatMap (·.page.data)).length, size⟩) ∧
      List.Forall₂ (fun v s => v.exchange.sent = .replicate s.replies.length (url v.range.start))
        visits servings ∧
      ((∀ s ∈ servings.dropLast, s.page.data.length = size) →
        visits.length = max 1 ((records.length + size - 1) / size)) := by
  have hr := h.served
  subst hr
  have ⟨visits, w, hm, ha⟩ :=
    walk_servings [] hv h.servings_ne_nil h.single_or_nonempty h.bearable h.total hu rest
  have hx := w.eq_collect (Nat.ne_of_gt hs) hv
  refine ⟨visits, hx ▸ w, hx, by simpa using hm, ha, fun hf => ?_⟩
  exact ha.length_eq ▸ h.length_eq_of_full hs hf

theorem collect_honest_retried :
    let url (start : Nat) : Url :=
      ⟨"http".toList, some ⟨[], [], "stats.test".toList, none⟩, .segments [.replicate start 'x'],
        none, none⟩
    let first := Reply.answer 200 "OK" "[[1,2],3]".toUTF8
    let second := Reply.answer 200 "OK" "[[3],3]".toUTF8
    let urlFor (range : PageRange) := "http://stats.test/" ++ .ofList (.replicate range.start 'x')
    collect {} 2 urlFor (.scripted [first, .dropped, second, .silent]) =
      ⟨.ok (some [.ofNat 1, .ofNat 2, .ofNat 3]), [url 0, url 2, url 2], .scripted [.silent]⟩ := by
  have hu : ∀ start ≤ 3, target ("http://stats.test/" ++ .ofList (.replicate start 'x')) = .ok
      ⟨"http".toList, some ⟨[], [], "stats.test".toList, none⟩, .segments [.replicate start 'x'],
        none, none⟩
    | 0, _ | 1, _ | 2, _ | 3, _ => by rfl
  have h₁ : (Json.parseBytes? "[[1,2],3]".toUTF8).bind Page.ofJson? =
      some ⟨[.ofNat 1, .ofNat 2], 3⟩ := by
    have hj : Json.parseBytes? "[[1,2],3]".toUTF8 =
        some (.arr [.arr [.ofNat 1, .ofNat 2], .ofNat 3]) := by rfl
    exact hj ▸ Page.ofJson?_arr _ (by decide)
  have h₂ : (Json.parseBytes? "[[3],3]".toUTF8).bind Page.ofJson? = some ⟨[.ofNat 3], 3⟩ := by
    have hj : Json.parseBytes? "[[3],3]".toUTF8 = some (.arr [.arr [.ofNat 3], .ofNat 3]) := by rfl
    exact hj ▸ Page.ofJson?_arr _ (by decide)
  intro url first second urlFor
  let full : Serving := ⟨[], first, ⟨[.ofNat 1, .ofNat 2], 3⟩, by simp, _, .answer (by decide), h₁⟩
  let half : Serving :=
    ⟨[.dropped], second, ⟨[.ofNat 3], 3⟩, by simpa using .dropped, _, .answer (by decide), h₂⟩
  have h : Honest 3 2 [.ofNat 1, .ofNat 2, .ofNat 3] [full, half] := by
    constructor <;> simp [full, half]
  have hv := RetryPolicy.valid_default
  have ⟨visits, _, hx, hm, ha, _⟩ := collect_honest urlFor url hv (by decide) h hu [.silent]
  cases ha with
  | @cons v _ _ _ hq ha => cases ha with
    | @cons v' _ _ _ hq' ha =>
      cases ha
      have hr : v.range = ⟨0, 2⟩ := (List.cons.inj hm).left
      have hr' : v'.range = ⟨2, 2⟩ := (List.cons.inj (List.cons.inj hm).right).left
      simpa [hq, hq', hr, hr', full, half, Serving.replies] using hx

end

end StatsQuery
