import StatsQuery.Proofs.Url.Join

namespace StatsQuery.Url

section Segments

variable {path ss : List (List Char)} {s : List Char}

def isDots (s : List Char) : Bool :=
  match plainDots s with
  | ['.'] | ['.', '.'] => true
  | _                  => false

-- Goes along a segment, as `follow` does when others come behind it.
def turn (path : List (List Char)) (s : List Char) : List (List Char) :=
  match plainDots s with
  | ['.']      => path
  | ['.', '.'] => shorten path
  | _          => path ++ [s]

theorem turn_of_not_isDots (h : isDots s = false) (path : List (List Char)) : turn path s = path ++ [s] := by
  unfold isDots at h
  unfold turn
  split <;> simp_all

theorem follow_cons (h : ss ≠ []) (path : List (List Char)) (s : List Char) :
    follow false path (s :: ss) = follow false (turn path s) ss := by
  have he : ss.isEmpty = false := by simpa using h
  unfold turn
  rw [follow, he]
  split <;> simp_all [extend]

theorem follow_concat (path ss : List (List Char)) (s : List Char) :
    follow false path (ss ++ [s]) = (ss ++ [s]).foldl turn path ++ if isDots s then [[]] else [] := by
  induction ss generalizing path with
  | nil =>
    rw [List.nil_append, List.foldl_cons, List.foldl_nil, turn, isDots, follow]
    split <;> simp_all [extend, follow]
  | cons t ss hi => rw [List.cons_append, follow_cons (by simp), hi, List.foldl_cons]

theorem follow_slash (path ss : List (List Char)) : follow false path (ss ++ [[]]) = ss.foldl turn path ++ [[]] := by
  have hd : isDots [] = false := rfl
  rw [follow_concat, List.foldl_append, List.foldl_cons, List.foldl_nil, turn_of_not_isDots hd, hd, if_neg (by simp),
    List.append_nil]

end Segments

section Text

variable {ss : List (List Char)} {s cs : List Char}

def slashed (cs : List Char) : List Char :=
  if cs.getLast? = some '/' then cs else cs ++ ['/']

theorem text_concat (ss : List (List Char)) (s : List Char) :
    (UrlPath.segments (ss ++ [s])).text = (UrlPath.segments ss).text ++ '/' :: s := by
  simp [UrlPath.text]

theorem slashed_text_slash (ss : List (List Char)) :
    slashed (UrlPath.segments (ss ++ [[]])).text = (UrlPath.segments ss).text ++ ['/'] := by
  rw [text_concat, slashed, List.getLast?_concat, if_pos rfl]

theorem getLast?_text_concat (h : s ≠ []) : (UrlPath.segments (ss ++ [s])).text.getLast? = s.getLast? := by
  rw [text_concat, List.append_cons, List.getLast?_append, List.getLast?_eq_some_getLast h, Option.some_or]

theorem slashed_text_concat (hn : s ≠ []) (hs : '/' ∉ s) :
    slashed (UrlPath.segments (ss ++ [s])).text = (UrlPath.segments (ss ++ [s])).text ++ ['/'] := by
  rw [slashed, getLast?_text_concat hn, if_neg fun he => hs <| List.mem_of_getLast? he]

theorem slashed_follow (hn : s ≠ []) (hs : '/' ∉ s) :
    slashed (UrlPath.segments (follow false [] (ss ++ [s]))).text =
      (UrlPath.segments ((ss ++ [s]).foldl turn [])).text ++ ['/'] := by
  rw [follow_concat]
  cases hd : isDots s with
  | true  => exact slashed_text_slash _
  | false =>
    rw [List.foldl_append, List.foldl_cons, List.foldl_nil, turn_of_not_isDots hd, if_neg (by simp), List.append_nil]
    exact slashed_text_concat hn hs

theorem encode_append (reserved : Char → Bool) (cs ds : List Char) :
    Percent.encode reserved (cs ++ ds) = Percent.encode reserved cs ++ Percent.encode reserved ds :=
  List.flatMap_append

theorem encode_eq_nil_iff {reserved : Char → Bool} : Percent.encode reserved cs = [] ↔ cs = [] := by
  have hc (c : Char) : Percent.encodeChar c ≠ [] := by
    have ⟨b, bs, h⟩ := List.exists_cons_of_ne_nil <| String.utf8EncodeChar_ne_nil (c := c)
    simp [Percent.encodeChar, Percent.encodeByte, h]
  cases cs with
  | nil      => simp [Percent.encode]
  | cons c _ => cases h : reserved c <;> simp [Percent.encode, h, hc]

theorem segments_append (cs : List Char) :
    ∃ ss s, '/' ∉ s ∧ (s = [] ↔ ∀ c ∈ cs.getLast?, isSlash true c) ∧
      ∀ ds, (∀ d ∈ ds, isSlash true d = false) →
        segments true (cs ++ ds) = ss ++ [s ++ Percent.encode Percent.inPath ds] ∧
        segments true (cs ++ ds ++ ['/']) = ss ++ [s ++ Percent.encode Percent.inPath ds] ++ [[]] := by
  have ⟨first, last, hl, hn, hs⟩ := splitOnP_append (isSlash true) cs
  refine ⟨first.map (Percent.encode Percent.inPath), Percent.encode Percent.inPath last, ?_, ?_, fun ds hd => ?_⟩
  · intro hm
    rcases Percent.mem_encode hm with hw | ⟨hm, _⟩
    · contradiction
    · exact absurd (hl _ hm) (by decide)
  · rw [encode_eq_nil_iff, hn]
  · have hp := hs ds hd
    have hc : (cs ++ ds ++ ['/']).splitOnP (isSlash true) = first ++ [last ++ ds] ++ [[]] := by
      rw [List.splitOnP_append_cons _ _ rfl, hp, List.splitOnP_nil]
    constructor
    case left  => simp only [segments, hp, List.map_append, List.map_singleton, encode_append]
    case right => simp only [segments, hc, List.map_append, List.map_singleton, encode_append]; rfl

theorem rooted_append (hs : isSpecial name) (hf : isFile name = false) (hn : cs ≠ []) :
    ∃ ss s, '/' ∉ s ∧ (s = [] ↔ ∀ c ∈ cs.getLast?, isSlash true c) ∧
      ∀ ds, (∀ d ∈ ds, isSlash true d = false) →
        rooted name (cs ++ ds) = follow false [] (ss ++ [s ++ Percent.encode Percent.inPath ds]) ∧
        rooted name (cs ++ ds ++ ['/']) = follow false [] (ss ++ [s ++ Percent.encode Percent.inPath ds] ++ [[]]) := by
  cases cs with
  | nil       => exact absurd rfl hn
  | cons c cs =>
    have hr (ds : List Char) : rooted name (c :: ds) =
        follow false [] (segments true (if isSlash true c then ds else c :: ds)) := by
      rw [rooted, hs, hf]
    cases hc : isSlash true c with
    | true =>
      have ⟨ss, s, hm, he, h⟩ := segments_append cs
      refine ⟨ss, s, hm, ?_, fun ds hd => ?_⟩
      · rw [he]
        cases cs with
        | nil      => simp [hc]
        | cons _ _ => rw [List.getLast?_cons_cons]
      · simp only [List.cons_append, hr, hc, if_true, h ds hd, and_self]
    | false =>
      have ⟨ss, s, hm, he, h⟩ := segments_append (c :: cs)
      refine ⟨ss, s, hm, he, fun ds hd => ?_⟩
      simp only [List.cons_append] at h
      simp only [List.cons_append, hr, hc, Bool.false_eq_true, if_false, h ds hd, and_self]

theorem rooted_slash (hs : isSpecial name) (hf : isFile name = false) (cs : List Char) :
    ∃ ss, rooted name (cs ++ ['/']) = ss ++ [[]] := by
  cases cs with
  | nil       => exact ⟨[], by rw [List.nil_append, rooted, hs, hf]; rfl⟩
  | cons c cs =>
    have ⟨ss, s, _, _, h⟩ := rooted_append hs hf (List.cons_ne_nil c cs)
    have h := (h [] nofun).right
    rw [List.append_nil] at h
    exact ⟨_, h.trans <| follow_slash _ _⟩

theorem rooted_concat (hs : isSpecial name) (hf : isFile name = false) (cs : List Char) :
    ∃ ss s, rooted name cs = ss ++ [s] ∧ '/' ∉ s := by
  cases cs with
  | nil       => exact ⟨[], [], by rw [rooted, hs]; rfl, List.not_mem_nil⟩
  | cons c cs =>
    have ⟨ss, s, hm, _, h⟩ := rooted_append hs hf (List.cons_ne_nil c cs)
    have h := (h [] nofun).left
    have he : Percent.encode Percent.inPath [] = [] := rfl
    rw [List.append_nil, he, List.append_nil, follow_concat] at h
    cases hd : isDots s with
    | true  => exact ⟨_, [], by rw [h, hd]; rfl, List.not_mem_nil⟩
    | false =>
      refine ⟨ss.foldl turn [], s, ?_, hm⟩
      rw [h, List.foldl_append, List.foldl_cons, List.foldl_nil, turn_of_not_isDots hd, hd, if_neg (by simp),
        List.append_nil]

end Text

section Dots

variable {cs ds : List Char}

theorem isDots_cons (hp : c ≠ '%') (hd : c ≠ '.') (cs : List Char) : isDots (c :: cs) = false := by
  have h : plainDots (c :: cs) = c :: plainDots cs := by
    rw [plainDots]
    · exact fun _ he _ => hp he
    · exact fun _ he _ => hp he
  unfold isDots
  rw [h]
  split <;> simp_all

theorem percent_mem_plainDots (h : x = '2' → y ≠ 'e' ∧ y ≠ 'E') (cs : List Char) :
    '%' ∈ plainDots (cs ++ '%' :: x :: y :: ds) := by
  induction hl : cs.length using Nat.strongRecOn generalizing cs with
  | ind n hi =>
    subst hl
    cases cs with
    | nil =>
      rw [List.nil_append, plainDots]
      · exact List.mem_cons_self
      · rintro _ _ ⟨⟩
        exact (h rfl).left rfl
      · rintro _ _ ⟨⟩
        exact (h rfl).right rfl
    | cons a cs =>
      -- What stands for a dot does not reach into the sign that stays.
      have behind {e : Char} (hn : e ≠ '%') (rest : List Char) (he : cs ++ '%' :: x :: y :: ds = '2' :: e :: rest) :
          '%' ∈ plainDots rest := by
        match cs, he with
        | [], he       => exact absurd (List.cons.inj he).left (by decide)
        | [_], he      => exact absurd (List.cons.inj (List.cons.inj he).right).left.symm hn
        | _ :: _ :: cs, he =>
          cases he
          exact hi _ (by simp only [List.length_cons]; omega) cs rfl
      rw [List.cons_append]
      unfold plainDots
      split
      case h_1 rest he => exact List.mem_cons_of_mem _ <| behind (by decide) rest (List.cons.inj he).right
      case h_2 rest he => exact List.mem_cons_of_mem _ <| behind (by decide) rest (List.cons.inj he).right
      case h_3 he =>
        cases he
        exact List.mem_cons_of_mem _ <| hi _ (Nat.lt_succ_self _) cs rfl
      case h_4 => contradiction

def digits (c : Char) : Char × Char :=
  ((Text.hexDigit (c.toNat / 16)).toUpper, (Text.hexDigit (c.toNat % 16)).toUpper)

theorem encodeChar_of_isEdge (h : isEdge c) : Percent.inPath c ∧ Percent.encodeChar c = ['%', (digits c).1, (digits c).2] ∧
    ((digits c).1 = '2' → (digits c).2 ≠ 'e' ∧ (digits c).2 ≠ 'E') :=
  of_isEdge
    (p := fun c => Percent.inPath c ∧ Percent.encodeChar c = ['%', (digits c).1, (digits c).2] ∧
      ((digits c).1 = '2' → (digits c).2 ≠ 'e' ∧ (digits c).2 ≠ 'E'))
    (by decide) h

theorem isDots_append_encode (hd : ∀ d ∈ ds, isEdge d) (hn : ds ≠ []) (cs : List Char) :
    isDots (cs ++ Percent.encode Percent.inPath ds) = false := by
  cases ds with
  | nil       => exact absurd rfl hn
  | cons d ds =>
    have ⟨hp, hc, h⟩ := encodeChar_of_isEdge (hd d List.mem_cons_self)
    have hs : Percent.encode Percent.inPath (d :: ds) =
        '%' :: (digits d).1 :: (digits d).2 :: Percent.encode Percent.inPath ds := by
      rw [Percent.encode, List.flatMap_cons, if_pos hp, hc]
      rfl
    have hm : '%' ∈ plainDots (cs ++ Percent.encode Percent.inPath (d :: ds)) := hs ▸ percent_mem_plainDots h cs
    unfold isDots
    split
    case h_1 he => simp [he] at hm
    case h_2 he => simp [he] at hm
    case h_3    => rfl

end Dots

section Blank

variable {path ss : List (List Char)} {s cs ds : List Char}

theorem length_text_shorten_le (path : List (List Char)) :
    (UrlPath.segments (shorten path)).text.length ≤ (UrlPath.segments path).text.length := by
  unfold shorten
  split
  case isTrue  => exact Nat.le_refl _
  case isFalse =>
    cases path using List.reverseRecOn with
    | nil                     => exact Nat.le_refl _
    | append_singleton path s =>
      rw [List.dropLast_concat, text_concat, List.length_append]
      exact Nat.le_add_right _ _

theorem length_text_turn_le (path : List (List Char)) (s : List Char) :
    (UrlPath.segments (turn path s)).text.length ≤ (UrlPath.segments path).text.length + s.length + 1 := by
  unfold turn
  split
  · omega
  · have := length_text_shorten_le path
    omega
  · rw [text_concat, List.length_append, List.length_cons]
    omega

theorem length_slashed_follow_le (hs : '/' ∉ s) (ss : List (List Char)) :
    (slashed (UrlPath.segments (follow false [] (ss ++ [s]))).text).length ≤
      (UrlPath.segments (ss.foldl turn [])).text.length + s.length + 2 := by
  by_cases hn : s = []
  case pos =>
    rw [hn, follow_slash, slashed_text_slash, List.length_append]
    simp
  case neg =>
    have := length_text_turn_le (ss.foldl turn []) s
    rw [slashed_follow hn hs, List.foldl_append, List.length_append]
    simp only [List.foldl_cons, List.foldl_nil, List.length_singleton]
    omega

theorem slashed_follow_ne (hs : '/' ∉ s) (hd : ∀ d ∈ ds, isEdge d) (hn : ds ≠ []) (ss : List (List Char)) :
    (UrlPath.segments ((ss ++ [s ++ Percent.encode Percent.inPath ds]).foldl turn [])).text ++ ['/'] ≠
      slashed (UrlPath.segments (follow false [] (ss ++ [s]))).text := by
  intro he
  have hl := length_slashed_follow_le hs ss
  have hp : 0 < (Percent.encode Percent.inPath ds).length := List.length_pos_iff.mpr <| encode_eq_nil_iff.not.mpr hn
  rw [← he, List.foldl_append, List.foldl_cons, List.foldl_nil, turn_of_not_isDots (isDots_append_encode hd hn s),
    text_concat] at hl
  simp only [List.length_append, List.length_cons, List.length_nil] at hl
  omega

-- With a slash behind it, the directory of a path is the path itself, unless there are blanks in between or the path
-- ends in a slash already.
theorem slashed_rooted_iff (hs : isSpecial name) (hf : isFile name = false) (hd : ∀ d ∈ ds, isEdge d)
    (hn : cs = [] → ds = []) :
    (UrlPath.segments (rooted name (cs ++ ds ++ ['/'])).dropLast).text ++ ['/'] =
        slashed (UrlPath.segments (rooted name cs)).text ↔
      ds = [] ∧ ∀ c ∈ cs.getLast?, isSlash true c = false := by
  by_cases hc : cs = []
  case pos =>
    have hr : rooted name [] = [[]] := by rw [rooted, hs]; rfl
    have hv : rooted name ['/'] = [[]] := by rw [rooted, hs, hf]; rfl
    rw [hn hc, hc, List.append_nil, List.nil_append, hr, hv]
    exact iff_of_true rfl ⟨rfl, nofun⟩
  case neg =>
    have ⟨ss, s, hm, he, h⟩ := rooted_append hs hf hc
    have hb : ∀ d ∈ ds, isSlash true d = false := fun d hm =>
      of_isEdge (p := fun d => isSlash true d = false) (by decide) (hd d hm)
    have hl : (∀ c ∈ cs.getLast?, isSlash true c = false) ↔ s ≠ [] := by
      rw [Ne, he, List.getLast?_eq_some_getLast hc]
      simp
    have hu := (h [] nofun).left
    have hz : Percent.encode Percent.inPath [] = [] := rfl
    rw [hz, List.append_nil, List.append_nil] at hu
    rw [(h ds hb).right, hu, hl, follow_slash, List.dropLast_concat]
    -- Blanks are kept as an encoded part of the last segment, so that they are told apart there.
    by_cases hds : ds = []
    case neg => exact iff_of_false (slashed_follow_ne hm hd hds ss) fun h => hds h.left
    case pos =>
      rw [hds, hz, List.append_nil]
      by_cases hs : s = []
      case neg => exact iff_of_true (slashed_follow hs hm).symm ⟨rfl, hs⟩
      case pos =>
        refine iff_of_false (fun h => ?_) fun h => h.right hs
        have hz : isDots [] = false := rfl
        rw [hs, follow_slash, slashed_text_slash, List.foldl_append, List.foldl_cons, List.foldl_nil,
          turn_of_not_isDots hz, text_concat] at h
        simpa using congrArg List.length h

end Blank

section Names

variable {path : List (List Char)} {first last : List Char}

theorem of_isAlphanum {c : Char} (h : c.isAlphanum) :
    isSlash true c = false ∧ Percent.inPath c = false ∧ c ≠ '%' ∧ c ≠ '.' ∧ c ≠ '?' ∧ c ≠ '#' :=
  of_ascii
    (p := fun c => c.isAlphanum →
      isSlash true c = false ∧ Percent.inPath c = false ∧ c ≠ '%' ∧ c ≠ '.' ∧ c ≠ '?' ∧ c ≠ '#')
    (by decide) (toNat_lt_of_isAlphanum h) h

theorem segments_names (hf : ∀ c ∈ first, c.isAlphanum) (hl : ∀ c ∈ last, c.isAlphanum) :
    segments true (first ++ '/' :: last) = [first, last] := by
  have he {name : List Char} (h : ∀ c ∈ name, c.isAlphanum) :
      name.splitOnP (isSlash true) = [name] ∧ Percent.encode Percent.inPath name = name :=
    ⟨List.splitOnP_eq_singleton fun c hc => (of_isAlphanum (h c hc)).left,
      Percent.encode_eq_self fun c hc => (of_isAlphanum (h c hc)).right.left⟩
  rw [segments, List.splitOnP_append_cons _ _ rfl, (he hf).left, (he hl).left]
  simp [he hf, he hl]

theorem isDots_of_isAlphanum (h : ∀ c ∈ last, c.isAlphanum) : isDots last = false := by
  cases last with
  | nil      => rfl
  | cons c _ =>
    have ⟨_, _, hp, hd, _⟩ := of_isAlphanum <| h c List.mem_cons_self
    exact isDots_cons hp hd _

theorem resolve_names (hf : ∀ c ∈ first, c.isAlphanum) (hl : ∀ c ∈ last, c.isAlphanum) :
    resolve false path [first, last] = path.dropLast ++ [first, last] := by
  have hs : stem false path = (path.dropLast, []) := by
    unfold stem
    split
    case h_1 he => rw [List.getLast?_eq_none_iff.mp he]; rfl
    case h_2    => rfl
  have hd := isDots_of_isAlphanum hl
  have := follow_concat path.dropLast [first] last
  rw [List.singleton_append, List.foldl_cons, List.foldl_cons, List.foldl_nil,
    turn_of_not_isDots (isDots_of_isAlphanum hf), turn_of_not_isDots hd, hd] at this
  simpa [resolve, hs] using this

end Names

end StatsQuery.Url
