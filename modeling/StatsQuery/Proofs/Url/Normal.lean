import StatsQuery.Proofs.Url.Parts

namespace StatsQuery.Url

section Scheme

variable {cs name rest : List Char}

def IsScheme (name : List Char) : Prop :=
  (∃ c ∈ name.head?, c.isAlpha) ∧ ∀ c ∈ name, isSchemeChar c ∧ c.toLower = c

theorem toNat_lt_of_isSchemeChar (h : isSchemeChar c) : c.toNat < 0x80 := by
  simp only [isSchemeChar, Bool.or_eq_true, beq_iff_eq] at h
  rcases h with ((h | rfl) | rfl) | rfl
  · exact toNat_lt_of_isAlphanum h
  all_goals decide

theorem isBare_of_isSchemeChar (h : isSchemeChar c) : isBare c :=
  of_ascii (p := fun c => isSchemeChar c → isBare c) (by decide) (toNat_lt_of_isSchemeChar h) h

theorem isSchemeChar_toLower (h : isSchemeChar c) : isSchemeChar c.toLower ∧ c.toLower.toLower = c.toLower :=
  of_ascii (p := fun c => isSchemeChar c → isSchemeChar c.toLower ∧ c.toLower.toLower = c.toLower) (by decide)
    (toNat_lt_of_isSchemeChar h) h

theorem isAlpha_toLower {c : Char} (h : c.isAlpha) : c.toLower.isAlpha :=
  of_ascii (p := fun c => c.isAlpha → c.toLower.isAlpha) (by decide)
    (toNat_lt_of_isAlphanum <| isAlphanum_of_isAlpha h) h

theorem isScheme_of_scheme? (h : scheme? cs = some (name, rest)) : IsScheme name := by
  unfold scheme? at h
  rw [List.span_eq_takeWhile_dropWhile] at h
  split at h
  case h_2 => contradiction
  case h_1 c ds _ e =>
    split at h <;> cases h
    refine ⟨⟨_, rfl, isAlpha_toLower ‹_›⟩, fun d hd => ?_⟩
    have ⟨b, hb, hd⟩ := List.mem_map.mp hd
    have ht : b ∈ cs.takeWhile isSchemeChar := (Prod.mk.inj e).left ▸ hb
    exact hd ▸ isSchemeChar_toLower (List.all_eq_true.mp List.all_takeWhile b ht)

theorem scheme?_append (h : IsScheme name) : scheme? (name ++ ':' :: rest) = some (name, rest) := by
  have ⟨⟨c, hc, ha⟩, hs⟩ := h
  have hn : ∀ c ∈ name, isSchemeChar c := fun c hc => (hs c hc).left
  have hl : name.map Char.toLower = name := (List.map_congr_left fun c hc => (hs c hc).right).trans <| List.map_id _
  rw [scheme?, span_append hn (by simp [isSchemeChar])]
  cases name with
  | nil      => contradiction
  | cons b _ =>
    cases hc
    simp [ha, hl]

end Scheme

section Text

variable {cs : List Char} {u : Url}

def queryClass (special : Bool) : Char → Bool :=
  if special then Percent.inSpecialQuery else Percent.inQuery

-- What reading and resolving establish: a scheme, a bare front, and nothing left to encode behind it.
structure Normal (u : Url) : Prop where
  scheme    : IsScheme u.scheme
  authority : ∀ a ∈ u.authority, a.Normal u.scheme
  remote    : isRemote u.scheme → u.authority.isSome
  segments  : ∃ ss, u.path = .segments ss ∧ ∀ s ∈ ss, Bare s
  query     : ∀ q ∈ u.query, ∀ c ∈ q, queryClass (isSpecial u.scheme) c = false
  fragment  : ∀ f ∈ u.fragment, ∀ c ∈ f, Percent.inFragment c = false

theorem Tail.encodedQuery_eq (t : Tail) (special : Bool) :
    t.encodedQuery special = t.query.map (Percent.encode (queryClass special)) := rfl

theorem queryClass_of_mem (h : q ∈ Tail.encodedQuery t special) (hc : c ∈ q) : queryClass special c = false := by
  have ⟨cs, _, he⟩ := Option.map_eq_some_iff.mp h
  have hw : ∀ special, ∀ n < 0x80, Percent.isWritten (.ofNat n) → queryClass special (.ofNat n) = false := by decide
  exact Percent.not_reserved_of_mem_encode (hw special) c (he ▸ hc)

theorem inFragment_of_mem (h : f ∈ Tail.encodedFragment t) (hc : c ∈ f) : Percent.inFragment c = false := by
  have ⟨cs, _, he⟩ := Option.map_eq_some_iff.mp h
  exact Percent.not_reserved_of_mem_encode (by decide) c (he ▸ hc)

theorem Normal.of_parse (hp : parse cs = .ok u) (hs : u.path = .segments ss) : u.Normal := by
  have ⟨name, rest, hn, hr⟩ := parse_eq_ok hp
  obtain rfl := hr.scheme
  exact
    { scheme    := isScheme_of_scheme? hn
      authority := hr.authority
      remote    := hr.remote
      segments  := ⟨ss, hs, hr.segments ss hs⟩
      query     := fun _ hq _ => queryClass_of_mem (hr.query ▸ hq)
      fragment  := fun _ hf _ => inFragment_of_mem (hr.fragment ▸ hf) }

theorem relative_eq_ok {base : Url} (h : base.relative cs = .ok u) :
    ∃ ss, base.path = .segments ss ∧
      u = { base with
        path     := .segments (resolve (isFile base.scheme) ss (Url.segments (isSpecial base.scheme) (tail cs).path))
        query    := (tail cs).encodedQuery (isSpecial base.scheme)
        fragment := (tail cs).encodedFragment } := by
  unfold Url.relative at h
  split at h
  case h_1       => contradiction
  case h_2 ss he => exact ⟨ss, he, (Except.ok.inj h).symm⟩

theorem Normal.relative {base : Url} (hn : base.Normal) (h : base.relative cs = .ok u) : u.Normal := by
  obtain ⟨ss, he, rfl⟩ := relative_eq_ok h
  obtain ⟨ts, ht, hb⟩ := hn.segments
  cases he.symm.trans ht
  exact
    { scheme    := hn.scheme
      authority := hn.authority
      remote    := hn.remote
      segments  := ⟨_, rfl, bare_resolve hb <| bare_segments _ _⟩
      query     := fun _ hq _ => queryClass_of_mem hq
      fragment  := fun _ hf _ => inFragment_of_mem hf }

theorem dropWhile_of_visible {p : Char → Bool} (hp : ∀ c, 0x20 < c.toNat → p c = false) (h : ∀ c ∈ cs, 0x20 < c.toNat) :
    cs.dropWhile p = cs := by
  cases cs with
  | nil      => rfl
  | cons c _ => exact List.dropWhile_cons_of_neg (by simp [hp c <| h c List.mem_cons_self])

theorem clean_append (h : ∀ c ∈ cs, 0x20 < c.toNat) (hn : cs ≠ []) (ds : List Char) :
    clean (cs ++ ds) = cs ++ (ds.reverse.dropWhile fun c => c.toNat ≤ 0x20).reverse.filter fun c =>
      c ≠ '\t' && c ≠ '\n' && c ≠ '\r' := by
  have hp : ∀ c : Char, 0x20 < c.toNat → decide (c.toNat ≤ 0x20) = false := by simp
  have hd : ((cs ++ ds).dropWhile fun c => decide (c.toNat ≤ 0x20)) = cs ++ ds := by
    rw [List.dropWhile_append, dropWhile_of_visible hp h, if_neg (by simpa using hn)]
  have hr : ((ds.reverse ++ cs.reverse).dropWhile fun c => decide (c.toNat ≤ 0x20)) =
      (ds.reverse.dropWhile fun c => decide (c.toNat ≤ 0x20)) ++ cs.reverse := by
    rw [List.dropWhile_append, dropWhile_of_visible hp fun c hc => h c <| List.mem_reverse.mp hc]
    split
    case isTrue he => rw [List.isEmpty_iff.mp he, List.nil_append]
    case isFalse   => rfl
  have hf : (cs.filter fun c => c ≠ '\t' && c ≠ '\n' && c ≠ '\r') = cs := by
    refine List.filter_eq_self.mpr fun c hc => ?_
    have hn (d : Char) (hd : ¬0x20 < d.toNat) : c ≠ d := fun e => hd <| e ▸ h c hc
    simp [hn '\t' (by decide), hn '\n' (by decide), hn '\r' (by decide)]
  simp only [clean]
  rw [hd, List.reverse_append, hr, List.reverse_append, List.reverse_reverse, List.filter_append, hf]

theorem clean_eq_self (h : ∀ c ∈ cs, 0x20 < c.toNat) : clean cs = cs := by
  cases hn : cs with
  | nil      => rfl
  | cons _ _ =>
    have := clean_append h (by simp [hn]) []
    rwa [List.append_nil, List.reverse_nil, List.dropWhile_nil, List.reverse_nil, List.filter_nil, List.append_nil, hn]
      at this

theorem Normal.bare (h : u.Normal) : Bare (u.beforePath ++ u.path.text) := by
  have hs : Bare u.scheme := fun c hc => isBare_of_isSchemeChar (h.scheme.right c hc).left
  have ⟨ss, hp, hb⟩ := h.segments
  have hm : isBare ':' ∧ isBare '/' ∧ isBare '.' := by decide
  have ht : Bare u.path.text := by
    intro c hc
    rw [hp] at hc
    have ⟨s, hs, hc⟩ := List.mem_flatMap.mp hc
    exact Bare.cons_iff.mpr ⟨hm.right.left, hb s hs⟩ c hc
  refine Bare.append_iff.mpr ⟨Bare.append_iff.mpr ⟨hs, Bare.cons_iff.mpr ⟨hm.left, ?_⟩⟩, ht⟩
  split
  case h_1 a ha => simp [hm, (h.authority a ha).bare]
  case h_2      => split <;> simp [hm]

theorem Normal.tail_text (h : u.Normal) : tail u.text = ⟨u.beforePath ++ u.path.text, u.query, u.fragment⟩ := by
  refine tail_marked (.of_bare h.bare) fun q hq hm => ?_
  have := h.query q hq '#' hm
  revert this
  cases isSpecial u.scheme <;> decide

theorem lt_of_not_encoded (h : Percent.isControl c = false) (hc : c ≠ ' ') : 0x20 < c.toNat := by
  have hn : c.toNat ≠ 0x20 := fun e => hc <| by rw [← Char.ofNat_toNat c, e]
  simp only [Percent.isControl, Bool.or_eq_false_iff, decide_eq_false_iff_not] at h
  omega

theorem lt_of_not_inQuery (h : Percent.inQuery c = false) : 0x20 < c.toNat := by
  simp only [Percent.inQuery, Bool.or_eq_false_iff] at h
  exact lt_of_not_encoded h.left fun e => by simp [e] at h

theorem lt_of_not_queryClass (h : queryClass special c = false) : 0x20 < c.toNat := by
  cases special
  case false => exact lt_of_not_inQuery h
  case true  => exact lt_of_not_inQuery (Bool.or_eq_false_iff.mp h).left

theorem lt_of_not_inFragment (h : Percent.inFragment c = false) : 0x20 < c.toNat := by
  simp only [Percent.inFragment, Bool.or_eq_false_iff] at h
  exact lt_of_not_encoded h.left fun e => by simp [e] at h

theorem Normal.clean_text (h : u.Normal) : clean u.text = u.text := by
  refine clean_eq_self fun c hc => ?_
  rcases List.mem_append.mp hc with hc | hf
  · rcases List.mem_append.mp hc with hb | hq
    · have := h.bare c hb
      simp only [isBare, Bool.and_eq_true, decide_eq_true_eq] at this
      exact this.left.left
    · rcases mem_marked hq with rfl | ⟨q, hq, hc⟩
      · decide
      · exact lt_of_not_queryClass <| h.query q hq c hc
  · rcases mem_marked hf with rfl | ⟨f, hf, hc⟩
    · decide
    · exact lt_of_not_inFragment <| h.fragment f hf c hc

theorem Normal.encode_eq_self {part : Option (List Char)} (h : ∀ cs ∈ part, ∀ c ∈ cs, reserved c = false) :
    part.map (Percent.encode reserved) = part := by
  cases part with
  | none    => rfl
  | some cs => exact congrArg some <| Percent.encode_eq_self <| h cs rfl

theorem scheme_prefix_text (u : Url) : u.scheme ++ [':'] <+: u.text := by
  have hs : u.scheme ++ [':'] <+: u.beforePath := ⟨_, List.append_assoc _ _ _⟩
  have hp : u.beforePath <+: u.beforePath ++ u.path.text := List.prefix_append _ _
  have hq : u.beforePath ++ u.path.text <+: u.withoutFragment := List.prefix_append _ _
  have hf : u.withoutFragment <+: u.text := List.prefix_append _ _
  exact hs.trans <| hp.trans <| hq.trans hf

-- A text that comes from a URL is read as the same scheme, query and fragment again.
theorem Normal.parse_text (h : u.Normal) (hp : parse u.text = .ok v) :
    v.scheme = u.scheme ∧ v.query = u.query ∧ v.fragment = u.fragment := by
  have ⟨name, rest, hs, hr⟩ := parse_eq_ok hp
  have ⟨behind, ht⟩ := scheme_prefix_text u
  have hu : Unmarked (u.scheme ++ [':']) := .of_bare <| Bare.append_iff.mpr
    ⟨fun c hc => isBare_of_isSchemeChar (h.scheme.right c hc).left, by simp; rfl⟩
  rw [h.clean_text, ← ht, List.append_assoc, List.singleton_append, scheme?_append h.scheme] at hs
  cases hs
  have hl := h.tail_text
  rw [← ht, tail_append hu, Tail.mk.injEq] at hl
  refine ⟨hr.scheme, ?_, ?_⟩
  · rw [hr.query, Tail.encodedQuery_eq, hl.right.left, encode_eq_self h.query]
  · rw [hr.fragment, Tail.encodedFragment, hl.right.right, encode_eq_self h.fragment]

end Text

end StatsQuery.Url
