import StatsQuery.Proofs.Collection.Honest

namespace StatsQuery

section

variable {policy : RetryPolicy} {size : Nat} {urlFor : PageRange → String}
variable {records : List Json} {server : Server} {visits visits' : List Visit}
variable {x x' : Exchange (Except Error (Option (List Json)))} {fetched : Except Error Fetched}
variable {page page' : Page} {pages : List Page}

theorem Brings.deterministic (h : Brings fetched page) (h' : Brings fetched page') : page = page' := by
  cases h with
  | intro h =>
    cases h' with
    | intro h' => exact Option.some.inj <| h.symm.trans h'

theorem Ends.not_extends (h : Ends records fetched result) : ¬Extends records fetched page := by
  intro he
  have hb := he.brings
  cases h with
  | complete page' hb' ht   => exact Nat.not_le_of_lt he.short <| hb.deterministic hb' ▸ ht
  | stalled page' hb' hd ht => exact he.nonempty <| hb.deterministic hb' ▸ hd
  | noPage hj =>
    cases hb with
    | intro h => simp [hj] at h
  | empty | exhausted | undecodable => contradiction

theorem Walk.deterministic (w : Walk policy size urlFor records server visits x)
    (w' : Walk policy size urlFor records server visits' x') : visits = visits' := by
  induction w generalizing visits' x' with
  | ends v hv he =>
    cases w' with
    | ends v' hv' _    => rw [hv, hv']
    | more v' hv' he' _ => exact absurd (hv.trans hv'.symm ▸ he') he.not_extends
  | more v hv he _ hi =>
    cases w' with
    | ends v' hv' he'    => exact absurd (hv'.trans hv.symm ▸ he) he'.not_extends
    | more v' hv' he' w' =>
      obtain rfl := hv.trans hv'.symm
      obtain rfl := he.brings.deterministic he'.brings
      rw [hi w']

variable (policy size urlFor server) in
def Arrives (page : Page) : Prop :=
  ∃ visits x, Walk policy size urlFor [] server visits x ∧ ∃ v ∈ visits, Brings v.exchange.result page

theorem Walk.arrives_iff (w : Walk policy size urlFor [] server visits x) :
    Arrives policy size urlFor server page ↔ ∃ v ∈ visits, Brings v.exchange.result page := by
  constructor
  case mp  => exact fun ⟨_, _, w', h⟩ => w'.deterministic w ▸ h
  case mpr => exact fun h => ⟨visits, x, w, h⟩

theorem Unfinished.length_lt (h : Unfinished records pages) (hp : pages ≠ [])
    (ht : ∀ page ∈ pages, page.total.toNat = T) : (records ++ pages.flatMap (·.data)).length < T := by
  induction h with
  | nil => contradiction
  | @cons records pages page _ hs h hi =>
    have hl := ht page List.mem_cons_self
    rw [List.flatMap_cons, ← List.append_assoc]
    cases pages with
    | nil      => simpa [hl] using hs
    | cons _ _ => exact hi (List.cons_ne_nil _ _) fun q hq => ht q <| List.mem_cons_of_mem _ hq

theorem valid_of_collect (h : (collect policy size urlFor server).result = .ok result) : size ≠ 0 ∧ policy.Valid := by
  unfold collect at h
  split at h
  case isTrue => contradiction
  case isFalse hs =>
    split at h
    case h_1 => contradiction
    case h_2 hv => exact ⟨hs, (RetryPolicy.validate_eq_ok_iff.mp hv).right⟩

theorem mem_of_brings (h : List.Forall₂ (fun v page => Brings v.exchange.result page) visits pages) :
    (∃ v ∈ visits, Brings v.exchange.result page) ↔ page ∈ pages := by
  induction h with
  | nil => simp
  | @cons v page' _ _ hb _ hi =>
    have he : Brings v.exchange.result page ↔ page = page' := ⟨fun h => (hb.deterministic h).symm, fun h => h ▸ hb⟩
    simp [he, hi]

-- The records are those of all pages that are fetched, page after page as they have been asked for. They are as many as
-- every page reports, or more, and more exactly when the last page brings more than have been missing.
theorem collect_total
    (ht : ∀ page, Arrives policy size urlFor server page → page.total.toNat = T)
    (h : (collect policy size urlFor server).result = .ok (some records)) :
    ∃ visits pages last,
      Walk policy size urlFor [] server visits (collect policy size urlFor server) ∧
      (collect policy size urlFor server).sent = visits.flatMap (·.exchange.sent) ∧
      List.Forall₂ (fun v page => Brings v.exchange.result page) visits (pages ++ [last]) ∧
      records = (pages ++ [last]).flatMap (·.data) ∧
      (pages ≠ [] → (pages.flatMap (·.data)).length < T) ∧
      T ≤ records.length ∧
      (records.length = T ↔ last.data.length ≤ T - (pages.flatMap (·.data)).length) := by
  have ⟨hs, hv⟩ := valid_of_collect h
  have ⟨visits, w⟩ := exists_walk hs hv urlFor server
  have ⟨before, final, pages, he, hb, hu, hl, hq, _⟩ := w.decided
  have ⟨last, hp, hr, hn⟩ := Ends.of_some (h ▸ hl)
  have hf : List.Forall₂ (fun v page => Brings v.exchange.result page) visits (pages ++ [last]) :=
    he ▸ List.rel_append hb (.cons hp .nil)
  have hT : ∀ page ∈ pages ++ [last], page.total.toNat = T := fun page hm =>
    ht page <| w.arrives_iff.mpr <| (mem_of_brings hf).mpr hm
  have hd : records = (pages ++ [last]).flatMap (·.data) := by simpa using hr
  have hlt : pages ≠ [] → (pages.flatMap (·.data)).length < T := fun hn =>
    hu.length_lt hn fun page hm => hT page <| List.mem_append_left _ hm
  have hle : T ≤ records.length := hT last (by simp) ▸ hn
  have hsum : records.length = (pages.flatMap (·.data)).length + last.data.length := by simp [hd]
  refine ⟨visits, pages, last, w, hq, hf, hd, hlt, hle, ?_⟩
  -- A first page that is the last one may bring any number of records: nothing is below the total before it.
  by_cases hn : pages = []
  case pos =>
    simp only [hn, List.flatMap_nil, List.length_nil] at hsum ⊢
    omega
  case neg =>
    have := hlt hn
    omega

theorem brings_next (size : Nat) (urlFor : PageRange → String) (records : List Json) {url : Url} (hv : policy.Valid)
    (hu : target (urlFor ⟨records.length, size⟩) = .ok url)
    (hj : Json.parseBytes? body = some (.arr [.arr data, .ofNat n])) (hn : n < UInt64.size) (rest : List Reply) :
    let v := Visit.next policy size urlFor records (.scripted (.answer 200 "OK" body :: rest))
    Brings v.exchange.result ⟨data, .ofNat n⟩ ∧ v.exchange.server = .scripted rest := by
  have hp : (Json.parseBytes? body).bind Page.ofJson? = some ⟨data, .ofNat n⟩ := hj ▸ Page.ofJson?_arr data hn
  let s : Serving := ⟨[], .answer 200 "OK" body, _, nofun, body, .answer (by decide), hp⟩
  have ⟨hb, _, hr⟩ := s.visit hv (Nat.pos_of_ne_zero hv.left) hu rest
  exact ⟨hb, hr⟩

theorem collect_total_overlapping :
    let replies := [.answer 200 "OK" "[[1,2],3]".toUTF8, .answer 200 "OK" "[[2,3],3]".toUTF8]
    let records : List Json := [.ofNat 1, .ofNat 2, .ofNat 2, .ofNat 3]
    (∀ page, Arrives {} 2 (fun _ => "http://stats.test/x") (.scripted replies) page → page.total.toNat = 3) ∧
      (collect {} 2 (fun _ => "http://stats.test/x") (.scripted replies)).result = .ok (some records) ∧
      ∃ visits, List.Forall₂ (fun v page => Brings v.exchange.result page) visits
          [⟨[.ofNat 1, .ofNat 2], 3⟩, ⟨[.ofNat 2, .ofNat 3], 3⟩] ∧
        Walk {} 2 (fun _ => "http://stats.test/x") [] (.scripted replies) visits
          (collect {} 2 (fun _ => "http://stats.test/x") (.scripted replies)) ∧
        3 ≤ records.length ∧ records.length ≠ 3 := by
  intro replies records
  have hu : target "http://stats.test/x" =
      .ok ⟨"http".toList, some ⟨[], [], "stats.test".toList, none⟩, .segments [['x']], none, none⟩ := by rfl
  have hv := RetryPolicy.valid_default
  have h₁ : Json.parseBytes? "[[1,2],3]".toUTF8 = some (.arr [.arr [.ofNat 1, .ofNat 2], .ofNat 3]) := by rfl
  have h₂ : Json.parseBytes? "[[2,3],3]".toUTF8 = some (.arr [.arr [.ofNat 2, .ofNat 3], .ofNat 3]) := by rfl
  let urlFor := fun _ : PageRange => "http://stats.test/x"
  have ⟨hb, hr⟩ := brings_next 2 urlFor [] hv hu h₁ (by decide)
    [.answer 200 "OK" "[[2,3],3]".toUTF8]
  have ⟨hb', _⟩ := brings_next 2 urlFor [.ofNat 1, .ofNat 2] hv hu h₂ (by decide) []
  rw [← hr] at hb'
  have w := Walk.more _ rfl ⟨hb, by simp, by decide⟩ <| .ends _ rfl <| .complete _ hb' (by decide)
  have ha : ∀ page, Arrives {} 2 urlFor (.scripted replies) page → page.total.toNat = 3 := by
    intro page hp
    have hm := (mem_of_brings <| .cons hb <| .cons hb' .nil).mp (w.arrives_iff.mp hp)
    simp only [List.mem_cons, List.not_mem_nil, or_false] at hm
    rcases hm with rfl | rfl <;> rfl
  have hc : (collect {} 2 urlFor (.scripted replies)).result = .ok (some records) := by
    rw [w.eq_collect (by decide) hv]
    rfl
  have ⟨visits, pages, last, w', _, _, _, _, hle, _⟩ := collect_total ha hc
  exact ⟨ha, hc, visits, w.deterministic w' ▸ .cons hb (.cons hb' .nil), w', hle, by decide⟩

theorem collect_surplus :
    let replies := [.answer 200 "OK" "[[1,2,3],2]".toUTF8]
    let records : List Json := [.ofNat 1, .ofNat 2, .ofNat 3]
    (∀ page, Arrives {} 2 (fun _ => "http://stats.test/x") (.scripted replies) page → page.total.toNat = 2) ∧
      (collect {} 2 (fun _ => "http://stats.test/x") (.scripted replies)).result = .ok (some records) ∧
      records.length ≠ 2 := by
  intro replies records
  let urlFor := fun _ : PageRange => "http://stats.test/x"
  have hu : target "http://stats.test/x" =
      .ok ⟨"http".toList, some ⟨[], [], "stats.test".toList, none⟩, .segments [['x']], none, none⟩ := by rfl
  have hv := RetryPolicy.valid_default
  have hj : Json.parseBytes? "[[1,2,3],2]".toUTF8 = some (.arr [.arr records, .ofNat 2]) := by rfl
  have ⟨hb, _⟩ := brings_next 2 urlFor [] hv hu hj (by decide) []
  have w := Walk.ends _ rfl <| .complete _ hb (by decide)
  refine ⟨fun page hp => ?_, ?_, by decide⟩
  · have hm := (mem_of_brings <| .cons hb .nil).mp (w.arrives_iff.mp hp)
    cases List.mem_singleton.mp hm
    rfl
  · rw [w.eq_collect (by decide) hv]
    rfl

end

end StatsQuery
