import StatsQuery.Proofs.Url.Authority
import StatsQuery.Proofs.Url.Blank

namespace StatsQuery.Url

section Outline

variable {cs ds name authority behind : List Char}

theorem scheme?_append_right (h : scheme? cs = some (name, behind)) (ds : List Char) :
    scheme? (cs ++ ds) = some (name, behind ++ ds) := by
  unfold scheme? at h
  rw [List.span_eq_takeWhile_dropWhile] at h
  split at h
  case h_2 => contradiction
  case h_1 c letters rest e =>
    have ⟨ht, hd⟩ := Prod.mk.inj e
    have ha : ∀ d ∈ c :: letters, isSchemeChar d := ht ▸ List.all_eq_true.mp List.all_takeWhile
    split at h <;> cases h
    case isTrue hc =>
      have hn : isSchemeChar ':' = false := by decide
      have hs : (cs ++ ds).span isSchemeChar = (c :: letters, ':' :: (behind ++ ds)) := by
        rw [← List.takeWhile_append_dropWhile (p := isSchemeChar) (l := cs), ht, hd, List.append_assoc]
        exact span_append ha fun _ he => Option.some.inj he ▸ hn
      simp only [scheme?, hs, hc, if_true]

theorem suffix_of_scheme? (h : scheme? cs = some (name, behind)) : behind <:+ cs := by
  unfold scheme? at h
  rw [List.span_eq_takeWhile_dropWhile] at h
  split at h
  case h_2 => contradiction
  case h_1 c letters rest e =>
    split at h <;> cases h
    exact (List.suffix_cons _ _).trans <| (Prod.mk.inj e).right ▸ List.dropWhile_suffix _

structure Outline (cs name authority behind : List Char) : Prop where
  found    : ∃ rest, scheme? cs = some (name, rest) ∧ rest.dropWhile (isSlash true) = authority ++ behind
  nonempty : authority ≠ []
  inner    : ∀ c ∈ authority, isBoundary c = false
  boundary : ∀ c ∈ behind.head?, isBoundary c

namespace Outline

theorem splitAuthority_eq (h : Outline cs name authority behind) :
    splitAuthority true (authority ++ behind) = (authority, behind) := by
  have hi : ∀ c ∈ authority, !isBoundary c := fun c hc => by simp [h.inner c hc]
  have hb : ∀ c ∈ behind.head?, (!isBoundary c) = false := fun c hc => by simp [h.boundary c hc]
  exact span_append hi hb

theorem unique (h : Outline cs name authority behind) (h' : Outline cs name' authority' behind') :
    name = name' ∧ authority = authority' ∧ behind = behind' := by
  have ⟨_, hs, hr⟩ := h.found
  have ⟨_, hs', hr'⟩ := h'.found
  cases hs.symm.trans hs'
  have hp := h.splitAuthority_eq
  rw [← hr, hr', h'.splitAuthority_eq] at hp
  cases hp
  exact ⟨rfl, rfl, rfl⟩

theorem suffix (h : Outline cs name authority behind) : authority ++ behind <:+ cs := by
  have ⟨_, hs, hr⟩ := h.found
  exact (hr ▸ List.dropWhile_suffix _).trans <| suffix_of_scheme? hs

theorem found_append (h : Outline cs name authority behind) (ds : List Char) :
    ∃ rest, scheme? (cs ++ ds) = some (name, rest) ∧
      rest.dropWhile (isSlash true) = authority ++ behind ++ ds := by
  have ⟨rest, hs, hr⟩ := h.found
  refine ⟨rest ++ ds, scheme?_append_right hs ds, ?_⟩
  rw [List.dropWhile_append, hr, if_neg (by simp [h.nonempty])]

theorem append (h : Outline cs name authority behind) (hb : behind ≠ []) (ds : List Char) :
    Outline (cs ++ ds) name authority (behind ++ ds) where
  found    := List.append_assoc authority behind ds ▸ h.found_append ds
  nonempty := h.nonempty
  inner    := h.inner
  boundary := by
    have ⟨b, bs, he⟩ := List.exists_cons_of_ne_nil hb
    rw [he] at h ⊢
    exact h.boundary

theorem append_authority (h : Outline cs name authority []) (hd : ∀ d ∈ ds, isBoundary d = false) (rest : List Char) :
    Outline (cs ++ ds ++ '/' :: rest) name (authority ++ ds) ('/' :: rest) where
  found    := by
    have := h.found_append (ds ++ '/' :: rest)
    rwa [List.append_nil, ← List.append_assoc, ← List.append_assoc] at this
  nonempty := by simp [h.nonempty]
  inner    := List.forall_mem_append.mpr ⟨h.inner, hd⟩
  boundary := by simp [isBoundary, isSlash]

end Outline

theorem readAuthority_behind (h : '\\' ∉ cs) (ha : readAuthority name cs ds = .ok (a, behind)) : behind = ds := by
  have ⟨_, front, hs, hf, hb⟩ := readAuthority_eq_ok ha
  cases front with
  | nil      => exact hb
  | cons d _ => exact absurd (hs <| hf d rfl ▸ List.mem_cons_self) h

theorem readAuthority_ne_nil (hs : isSpecial name) (ha : readAuthority name cs ds = .ok (a, behind)) : cs ≠ [] := by
  rintro rfl
  unfold readAuthority at ha
  simp only [splitUserinfo, mayLackHost, hs, List.reverse_nil, List.span_eq_takeWhile_dropWhile] at ha
  contradiction

theorem splitAuthority_special (cs : List Char) :
    splitAuthority true cs = (cs.takeWhile (!isBoundary ·), cs.dropWhile (!isBoundary ·)) :=
  List.span_eq_takeWhile_dropWhile _ _

theorem inner_splitAuthority (cs : List Char) : ∀ c ∈ (splitAuthority true cs).1, isBoundary c = false := by
  intro c hc
  rw [splitAuthority_special] at hc
  simpa using List.all_eq_true.mp List.all_takeWhile c hc

theorem boundary_splitAuthority (cs : List Char) : ∀ c ∈ (splitAuthority true cs).2.head?, isBoundary c := by
  intro c hc
  have := List.head?_dropWhile_not (!isBoundary ·) cs
  rw [splitAuthority_special] at hc
  rw [hc] at this
  simpa using this

theorem parse_outline (h : parse cs = .ok u) (hr : isRemote u.scheme) :
    ∃ authority behind a, Outline (clean cs) u.scheme authority behind ∧
      readAuthority u.scheme authority behind = .ok (a, behind) ∧
      u.path = .segments (rooted u.scheme (tail behind).path) ∧
      u.query = (tail behind).encodedQuery true ∧ u.fragment = (tail behind).encodedFragment := by
  unfold parse at h
  split at h
  case h_1 => contradiction
  case h_2 name rest hn =>
    have ⟨hs, hf⟩ := Bool.and_eq_true_iff.mp <| (Reads.ofScheme h).scheme ▸ hr
    rw [Bool.not_eq_true'] at hf
    simp only [ofScheme, hf, hs, Bool.false_eq_true, if_false, if_true] at h
    obtain ⟨⟨a, behind⟩, ha, h⟩ := bind_eq_ok_iff.mp h
    rw [hs] at ha h
    have hi := inner_splitAuthority (rest.dropWhile (isSlash true))
    obtain rfl := readAuthority_behind (fun hm => absurd (hi _ hm) (by decide)) ha
    cases h
    exact ⟨_, _, a, ⟨⟨rest, hn, (splitAuthority_append true _).symm⟩, readAuthority_ne_nil hs ha, hi,
      boundary_splitAuthority _⟩, ha, rfl, rfl, rfl⟩

end Outline

section Clean

variable {cs ds : List Char}

def isKept (c : Char) : Bool :=
  c ≠ '\t' && c ≠ '\n' && c ≠ '\r'

theorem isKept_of_not_isEdge (h : isEdge c = false) : isKept c := by
  have hn (d : Char) (hd : isEdge d) : c ≠ d := fun e => by simp_all
  simp [isKept, hn '\t' rfl, hn '\n' rfl, hn '\r' rfl]

theorem clean_eq_filter (cs : List Char) :
    ∃ inner after, cs.dropWhile isEdge = inner ++ after ∧ clean cs = inner.filter isKept ∧
      (∀ c ∈ inner.getLast?, isEdge c = false) ∧ ∀ c ∈ after, isEdge c := by
  refine ⟨((cs.dropWhile isEdge).reverse.dropWhile isEdge).reverse,
    ((cs.dropWhile isEdge).reverse.takeWhile isEdge).reverse, ?_, rfl, fun c hc => ?_, fun c hc => ?_⟩
  · rw [← List.reverse_append, List.takeWhile_append_dropWhile, List.reverse_reverse]
  · have := List.head?_dropWhile_not isEdge (cs.dropWhile isEdge).reverse
    rw [List.getLast?_reverse] at hc
    rwa [hc] at this
  · exact List.all_eq_true.mp List.all_takeWhile c <| List.mem_reverse.mp hc

theorem clean_slash (cs : List Char) :
    ∃ ds, clean (cs ++ ['/']) = clean cs ++ ds ++ ['/'] ∧ (∀ d ∈ ds, isEdge d) ∧
      (∀ c ∈ (clean cs).getLast?, isEdge c = false) ∧
      (clean cs ≠ [] → (cs.filter isKept).getLast? = (clean cs ++ ds).getLast?) := by
  have ⟨inner, after, hd, hc, hi, ha⟩ := clean_eq_filter cs
  have hs : clean (cs ++ ['/']) = (inner ++ after ++ ['/']).filter isKept := by
    have : (cs ++ ['/']).dropWhile isEdge = inner ++ after ++ ['/'] := by
      rw [List.dropWhile_append, hd]
      split
      case isTrue he => rw [List.isEmpty_iff.mp he]; rfl
      case isFalse   => rfl
    have hr : clean (cs ++ ['/']) =
        (((cs ++ ['/']).dropWhile isEdge).reverse.dropWhile isEdge).reverse.filter isKept := rfl
    rw [hr, this, List.reverse_append, List.reverse_singleton, List.singleton_append,
      List.dropWhile_cons_of_neg (by decide), List.reverse_cons, List.reverse_reverse]
  have hk : cs.filter isKept = (cs.takeWhile isEdge).filter isKept ++ (clean cs ++ after.filter isKept) := by
    rw [hc, ← List.filter_append, ← hd, ← List.filter_append, List.takeWhile_append_dropWhile]
  refine ⟨after.filter isKept, ?_, fun d hm => ha d (List.mem_filter.mp hm).left, ?_, fun hn => ?_⟩
  · rw [hs, hc, List.filter_append, List.filter_append]
    rfl
  · rw [hc]
    cases inner using List.reverseRecOn with
    | nil                     => nofun
    | append_singleton inner c =>
      have he := hi c List.getLast?_concat
      rw [List.filter_append, List.filter_cons_of_pos (isKept_of_not_isEdge he), List.filter_nil]
      simp [he]
  · rw [hk, List.getLast?_append, List.getLast?_eq_some_getLast (by simp [hn]), Option.some_or]

end Clean

section Slash

variable {cs ds name authority behind : List Char} {u v : Url}

theorem tail_of_unmarked (h : Unmarked cs) : tail cs = ⟨cs, none, none⟩ := by
  have ht : tail (cs ++ []) = ⟨cs ++ [], none, none⟩ := tail_append h
  rwa [List.append_nil] at ht

theorem tail.cut_of_mem (h : mark ∈ cs) :
    ∃ before after, ∀ ds, cut mark (cs ++ ds) = (before, some (after ++ ds)) := by
  have ⟨before, after, he, hb⟩ := List.eq_append_cons_of_mem h
  refine ⟨before, after, fun ds => ?_⟩
  rw [he, List.append_assoc, List.cons_append, cut_append hb, cut_mark, List.append_nil]

theorem tail_of_marked (h : ¬Unmarked cs) :
    ∃ path, ∀ ds, (tail (cs ++ ds)).path = path ∧
      ((tail (cs ++ ds)).query.isSome ∨ (tail (cs ++ ds)).fragment.isSome) := by
  by_cases hf : '#' ∈ cs
  case pos =>
    obtain ⟨before, _, hc⟩ := tail.cut_of_mem hf
    refine ⟨(tail.cut '?' before).1, fun ds => ?_⟩
    simp only [tail, hc]
    simp
  case neg =>
    have hq : '?' ∈ cs := Decidable.not_not.mp fun hq => h ⟨hq, hf⟩
    obtain ⟨before, _, hc⟩ := tail.cut_of_mem hq
    refine ⟨before, fun ds => ?_⟩
    simp only [tail, tail.cut_append hf, hc]
    simp

def Marked (u : Url) : Prop :=
  u.query.isSome ∨ u.fragment.isSome

-- How the path of a URL is read when a slash is put to its text: with what else there is behind the path.
structure Continued (cs : List Char) (u v : Url) (path ds : List Char) : Prop where
  before : u.path = .segments (rooted u.scheme path)
  after  : v.path = .segments (rooted u.scheme (path ++ ds ++ ['/']))
  edge   : ∀ d ∈ ds, isEdge d
  rooted : path = [] → ds = []
  last   : (∃ c ∈ (cs.filter isKept).getLast?, isEdge c = false ∧ isSlash true c = false) ↔
    ds = [] ∧ ∀ c ∈ path.getLast?, isSlash true c = false

theorem isBoundary_of_isEdge (h : isEdge c) : isBoundary c = false :=
  of_isEdge (p := fun c => isBoundary c = false) (by decide) h

theorem Unmarked.of_isEdge (h : ∀ d ∈ ds, isEdge d) : Unmarked ds :=
  ⟨fun hm => absurd (h _ hm) (by decide), fun hm => absurd (h _ hm) (by decide)⟩

theorem scheme_slash (hu : parse cs = .ok u) (hv : parse (cs ++ ['/']) = .ok v) : v.scheme = u.scheme := by
  have ⟨_, _, hs, hr⟩ := parse_eq_ok hu
  have ⟨_, _, hs', hr'⟩ := parse_eq_ok hv
  have ⟨ds, hc, _⟩ := clean_slash cs
  rw [hc, List.append_assoc, scheme?_append_right hs] at hs'
  cases hs'
  rw [hr.scheme, hr'.scheme]

theorem path_slash_of_marked (hu : parse cs = .ok u) (hr : isRemote u.scheme) (hv : parse (cs ++ ['/']) = .ok v)
    (hm : Marked u) : v.path = u.path := by
  have hs := scheme_slash hu hv
  obtain ⟨_, behind, _, ho, _, hp, hq, hf⟩ := parse_outline hu hr
  obtain ⟨_, _, _, ho', _, hp', _⟩ := parse_outline hv (hs ▸ hr)
  obtain ⟨ds, hc, _⟩ := clean_slash cs
  have hn : ¬Unmarked behind := by
    intro hb
    simp [Marked, hq, hf, tail_of_unmarked hb, Tail.encodedQuery, Tail.encodedFragment] at hm
  have hb : behind ≠ [] := fun e => hn (e ▸ by simp [Unmarked])
  rw [hc, List.append_assoc, hs] at ho'
  obtain ⟨_, _, he⟩ := ho'.unique (ho.append hb _)
  obtain ⟨path, ht⟩ := tail_of_marked hn
  have ht' := (ht []).left
  rw [List.append_nil] at ht'
  rw [hp', hp, he, (ht _).left, ht', hs]

-- The last character is visible and no slash if nothing comes behind the path, and the path is not closed yet.
theorem Outline.last_iff (h : Outline cs name authority behind) (hc : ∀ c ∈ cs.getLast?, isEdge c = false)
    (hd : ∀ d ∈ ds, isEdge d) :
    (∃ c ∈ (cs ++ ds).getLast?, isEdge c = false ∧ isSlash true c = false) ↔
      ds = [] ∧ ∀ c ∈ behind.getLast?, isSlash true c = false := by
  obtain ⟨front, rfl⟩ := h.suffix
  cases ds using List.reverseRecOn with
  | append_singleton ds d => simp [hd d]
  | nil =>
    rw [List.append_nil]
    cases behind using List.reverseRecOn with
    | append_singleton behind c =>
      have he : isEdge c = false := hc c (by simp)
      simp [he]
    | nil =>
      cases authority using List.reverseRecOn with
      | nil => exact absurd rfl h.nonempty
      | append_singleton authority c =>
        have he : isEdge c = false := hc c (by simp)
        have hb : isSlash true c = false := by
          have := h.inner c (by simp)
          simp_all [isBoundary]
        simp [he, hb]

theorem unmarked_of_not_marked (hq : u.query = (tail cs).encodedQuery true)
    (hf : u.fragment = (tail cs).encodedFragment) (hm : ¬Marked u) : Unmarked cs := by
  refine Classical.not_not.mp fun hc => ?_
  have ⟨_, ht⟩ := tail_of_marked hc
  have ht := (ht []).right
  rw [List.append_nil] at ht
  exact hm <| by simpa [Marked, hq, hf, Tail.encodedQuery, Tail.encodedFragment] using ht

theorem path_concat (hu : parse cs = .ok u) (hr : isRemote u.scheme) :
    ∃ ss s, u.path = .segments (ss ++ [s]) ∧ '/' ∉ s := by
  have ⟨_, behind, _, _, _, hp, _⟩ := parse_outline hu hr
  have ⟨hs, hf⟩ := Bool.and_eq_true_iff.mp hr
  have ⟨ss, s, he, hm⟩ := rooted_concat hs (Bool.not_eq_true' _ ▸ hf) (tail behind).path
  exact ⟨ss, s, he ▸ hp, hm⟩

theorem path_of_slash (hu : parse (cs ++ ['/']) = .ok u) (hr : isRemote u.scheme) (hm : ¬Marked u) :
    ∃ ss, u.path = .segments (ss ++ [[]]) := by
  have ⟨authority, behind, _, ho, _, hp, hq, hf⟩ := parse_outline hu hr
  have ⟨ds, hc, _⟩ := clean_slash cs
  have ⟨hs, hn⟩ := Bool.and_eq_true_iff.mp hr
  have ⟨front, hl⟩ := hc ▸ ho.suffix
  have hl := congrArg List.getLast? hl
  rw [List.getLast?_concat] at hl
  rw [tail_of_unmarked <| unmarked_of_not_marked hq hf hm] at hp
  cases behind using List.reverseRecOn with
  | append_singleton behind c =>
    have ⟨ss, he⟩ := rooted_slash hs (Bool.not_eq_true' _ ▸ hn) behind
    obtain rfl : c = '/' := by simpa using hl
    exact ⟨ss, he ▸ hp⟩
  | nil =>
    -- There is no slash in an authority.
    cases authority using List.reverseRecOn with
    | nil => exact absurd rfl ho.nonempty
    | append_singleton authority c =>
      obtain rfl : c = '/' := by simpa using hl
      exact absurd (ho.inner '/' (by simp)) (by decide)

theorem path_slash_of_not_marked (hu : parse cs = .ok u) (hr : isRemote u.scheme) (hv : parse (cs ++ ['/']) = .ok v)
    (hm : ¬Marked u) : ∃ path ds, Continued cs u v path ds := by
  have hs := scheme_slash hu hv
  obtain ⟨authority, behind, _, ho, _, hp, hq, hf⟩ := parse_outline hu hr
  obtain ⟨_, _, _, ho', ha', hp', _⟩ := parse_outline hv (hs ▸ hr)
  obtain ⟨ds, hc, hd, hl, hk⟩ := clean_slash cs
  have hb := unmarked_of_not_marked hq hf hm
  rw [tail_of_unmarked hb] at hp
  have hn : clean cs ≠ [] := fun he => ho.nonempty <| by
    have := he ▸ ho.suffix
    simp_all
  have hi := ho.last_iff hl hd
  rw [← hk hn] at hi
  rw [hc, hs] at ho'
  -- Behind the authority, what is added goes to the path. Without a path, the slash begins one, and a blank
  -- before it would belong to the authority, which is refused.
  cases behind with
  | cons c behind =>
    rw [List.append_assoc] at ho'
    obtain ⟨_, _, he⟩ := ho'.unique (ho.append (List.cons_ne_nil c behind) _)
    have ht : Unmarked (c :: behind ++ (ds ++ ['/'])) := hb.append <| (Unmarked.of_isEdge hd).append (by simp [Unmarked])
    rw [he, tail_of_unmarked ht, hs, ← List.append_assoc] at hp'
    exact ⟨_, _, hp, hp', hd, fun he => absurd he (List.cons_ne_nil c behind), hi⟩
  | nil =>
    obtain ⟨_, ha, he⟩ := ho'.unique (ho.append_authority (fun d hm => isBoundary_of_isEdge (hd d hm)) [])
    have hds : ds = [] := by
      cases ds using List.reverseRecOn with
      | nil                    => rfl
      | append_singleton ds d =>
        have hi := ho'.inner
        rw [ha, ← List.append_assoc] at ha' hi
        have hn : isSpecial v.scheme := (Bool.and_eq_true_iff.mp (hs ▸ hr)).left
        exact absurd ha' <| readAuthority_concat (hd d (by simp)) hn fun hm => absurd (hi _ hm) (by decide)
    subst hds
    rw [he, hs] at hp'
    exact ⟨[], [], hp, hp', hd, fun _ => rfl, hi⟩

end Slash

end StatsQuery.Url
