import StatsQuery.Proofs.Error.Steps
import StatsQuery.Proofs.Url.Marks

namespace StatsQuery

def Url.isRemote (scheme : List Char) : Bool :=
  isSpecial scheme && !isFile scheme

structure Authority.Normal (a : Authority) (scheme : List Char) : Prop where
  username : ∀ c ∈ a.username, Percent.inUserinfo c = false
  password : ∀ c ∈ a.password, Percent.inUserinfo c = false
  host     : Host.Written a.host
  remote   : Url.isRemote scheme → a.host ≠ []
  port     : ∀ n ∈ a.port, n ≤ 65535 ∧ Url.defaultPort? scheme ≠ some n

theorem Authority.Normal.forall_mem_text {a : Authority} {p : Char → Prop} (h : a.Normal scheme)
    (hi : ∀ c, Percent.inUserinfo c = false → p c) (hh : ∀ c, Host.isAllowed c → p c)
    (hm : p ':' ∧ p '@' ∧ p '[' ∧ p ']') : ∀ c ∈ a.text, p c := by
  have ⟨colon, sign, opening, closing⟩ := hm
  have hu : ∀ c ∈ a.username, p c := fun c hc => hi c (h.username c hc)
  have hp : ∀ c ∈ a.password, p c := fun c hc => hi c (h.password c hc)
  have hw : ∀ c ∈ a.host, p c := h.host.forall_mem hh ⟨colon, opening, closing⟩
  have hn : ∀ c ∈ a.port.elim [] fun n => ':' :: Text.numeral n, p c := by
    cases a.port with
    | none   => nofun
    | some n => exact List.forall_mem_cons.mpr ⟨colon, fun c hc => hh c <| Host.isAllowed_numeral n c hc⟩
  refine List.forall_mem_append.mpr ⟨List.forall_mem_append.mpr ⟨?_, hw⟩, hn⟩
  split
  case isTrue  => nofun
  case isFalse =>
    refine List.forall_mem_append.mpr ⟨List.forall_mem_append.mpr ⟨hu, ?_⟩, List.forall_mem_singleton.mpr sign⟩
    split
    case isTrue  => nofun
    case isFalse => exact List.forall_mem_cons.mpr ⟨colon, hp⟩

theorem Authority.Normal.bare {a : Authority} (h : a.Normal scheme) : Bare a.text :=
  h.forall_mem_text (fun _ => Percent.isBare_of_not_inUserinfo) (fun _ => Host.isBare_of_isAllowed) (by decide)

namespace Url

section Tail

variable {cs ds : List Char}

theorem tail.cut_mark : cut mark (mark :: cs) = ([], some cs) := by
  simp [cut, List.span_eq_takeWhile_dropWhile]

theorem tail.cut_append (h : mark ∉ cs) :
    cut mark (cs ++ ds) = (cs ++ (cut mark ds).1, (cut mark ds).2) := by
  have hc := forall_ne_of_not_mem h
  unfold cut
  rw [List.span_eq_takeWhile_dropWhile, List.span_eq_takeWhile_dropWhile,
    List.takeWhile_append_of_pos (p := (· ≠ mark)) hc, List.dropWhile_append_of_pos (p := (· ≠ mark)) hc]
  cases ds.dropWhile (· ≠ mark) <;> rfl

def Unmarked (cs : List Char) : Prop :=
  '?' ∉ cs ∧ '#' ∉ cs

theorem Unmarked.of_bare (h : Bare cs) : Unmarked cs :=
  ⟨fun hm => by simpa [isBare] using h _ hm, fun hm => by simpa [isBare] using h _ hm⟩

theorem Unmarked.append (hc : Unmarked cs) (hd : Unmarked ds) : Unmarked (cs ++ ds) :=
  ⟨by simp [hc.left, hd.left], by simp [hc.right, hd.right]⟩

theorem Unmarked.subset (h : Unmarked ds) (hs : cs ⊆ ds) : Unmarked cs :=
  ⟨fun hm => h.left <| hs hm, fun hm => h.right <| hs hm⟩

theorem tail_append (h : Unmarked cs) : tail (cs ++ ds) = { tail ds with path := cs ++ (tail ds).path } := by
  simp only [tail, tail.cut_append h.right, tail.cut_append h.left]

theorem mem_marked {part : Option (List Char)} (h : c ∈ part.elim [] (mark :: ·)) :
    c = mark ∨ ∃ cs ∈ part, c ∈ cs := by
  cases part with
  | none    => contradiction
  | some cs => exact (List.mem_cons.mp h).imp_right fun hc => ⟨cs, rfl, hc⟩

theorem tail.cut_marked (part : Option (List Char)) : cut mark (part.elim [] (mark :: ·)) = ([], part) := by
  cases part with
  | none    => rfl
  | some cs => exact cut_mark

theorem tail_marked {query fragment : Option (List Char)} (h : Unmarked cs) (hq : ∀ q ∈ query, '#' ∉ q) :
    tail (cs ++ query.elim [] ('?' :: ·) ++ fragment.elim [] ('#' :: ·)) = ⟨cs, query, fragment⟩ := by
  have hc : '#' ∉ cs ++ query.elim [] ('?' :: ·) := fun hm =>
    (List.mem_append.mp hm).elim h.right fun hm =>
      (mem_marked hm).elim nofun fun ⟨q, hqm, hm⟩ => hq q hqm hm
  simp only [tail, tail.cut_append hc, tail.cut_marked, List.append_nil, tail.cut_append h.left]

end Tail

section Path

variable {path ss : List (List Char)} {isFile : Bool}

theorem bare_segments (special : Bool) (cs : List Char) : ∀ s ∈ segments special cs, Bare s := by
  intro s hs
  have ⟨_, _, h⟩ := List.mem_map.mp hs
  exact h ▸ Percent.bare_encode fun _ _ => Percent.isBare_of_not_inPath

theorem shorten_subset : shorten path ⊆ path := by
  unfold shorten
  split
  case isTrue  => exact fun _ => id
  case isFalse => exact path.dropLast_subset

theorem bare_extend (hp : ∀ s ∈ path, Bare s) (hs : Bare s) : ∀ t ∈ extend isFile path s, Bare t := by
  intro t ht
  unfold extend at ht
  split at ht
  case isTrue =>
    cases List.mem_singleton.mp ht
    exact Bare.append_iff.mpr ⟨hs.subset <| s.take_subset 1, by simp; rfl⟩
  case isFalse =>
    cases List.mem_append.mp ht
    case inl ht => exact hp t ht
    case inr ht => exact List.mem_singleton.mp ht ▸ hs

theorem bare_follow (hp : ∀ s ∈ path, Bare s) (hs : ∀ s ∈ ss, Bare s) : ∀ t ∈ follow isFile path ss, Bare t := by
  induction ss generalizing path with
  | nil => exact hp
  | cons s ss hi =>
    have hl : ∀ t ∈ if ss.isEmpty then [[]] else ([] : List (List Char)), Bare t := by
      split <;> simp
    have ha : ∀ qs : List (List Char), (∀ t ∈ qs, Bare t) →
        ∀ t ∈ qs ++ (if ss.isEmpty then [[]] else []), Bare t :=
      fun qs hq t ht => (List.mem_append.mp ht).elim (hq t) (hl t)
    have hss : ∀ t ∈ ss, Bare t := fun t ht => hs t <| List.mem_cons_of_mem _ ht
    simp only [follow]
    split
    · exact hi (ha _ hp) hss
    · exact hi (ha _ fun t ht => hp t <| shorten_subset ht) hss
    · exact hi (bare_extend hp <| hs s List.mem_cons_self) hss

theorem bare_rooted (scheme cs : List Char) : ∀ s ∈ rooted scheme cs, Bare s := by
  unfold rooted
  split
  case h_1 => cases isSpecial scheme <;> simp
  case h_2 => exact bare_follow (by simp) <| bare_segments _ _

theorem dropEmpty_subset : dropEmpty path ⊆ path := by
  fun_induction dropEmpty path
  case case1 hi => exact List.Subset.trans hi <| List.subset_cons_self _ _
  case case2    => exact fun _ => id

theorem bare_stem (isFile : Bool) (h : ∀ s ∈ path, Bare s) :
    (∀ s ∈ (stem isFile path).1, Bare s) ∧ Bare (stem isFile path).2 := by
  have hl : ∀ s ∈ path.dropLast, Bare s := fun s hs => h s <| path.dropLast_subset hs
  unfold stem
  split
  case h_1 => simp
  case h_2 s hs =>
    split
    case isTrue => exact ⟨hl, .nil⟩
    case isFalse =>
      split
      case isTrue  => exact ⟨h, .nil⟩
      case isFalse => exact ⟨hl, h s <| List.mem_of_getLast? hs⟩

theorem bare_resolve (hp : ∀ s ∈ path, Bare s) (hs : ∀ s ∈ ss, Bare s) : ∀ t ∈ resolve isFile path ss, Bare t := by
  have ⟨hb, hf⟩ := bare_stem isFile hp
  have hd (found : List (List Char)) (h : ∀ t ∈ found, Bare t) :
      ∀ t ∈ if isFile then dropEmpty found else found, Bare t := by
    split
    case isTrue  => exact fun t ht => h t <| dropEmpty_subset ht
    case isFalse => exact h
  cases ss with
  | nil => exact hd _ hb
  | cons s ss =>
    refine hd _ <| bare_follow hb fun t ht => ?_
    cases ht with
    | head      => exact Bare.append_iff.mpr ⟨hf, hs s List.mem_cons_self⟩
    | tail _ ht => exact hs t <| List.mem_cons_of_mem _ ht

theorem follow_ne_nil (isFile : Bool) (path : List (List Char)) (s : List Char) (ss : List (List Char)) :
    follow isFile path (s :: ss) ≠ [] := by
  induction ss generalizing path s with
  | nil =>
    simp only [follow, List.isEmpty_nil, if_true]
    split
    · simp
    · simp
    · unfold extend
      split <;> simp
  | cons t ss hi =>
    rw [follow]
    split <;> exact hi _ t

theorem dropEmpty_ne_nil (h : path ≠ []) : dropEmpty path ≠ [] := by
  fun_induction dropEmpty path
  case case1 hi => exact hi (List.cons_ne_nil _ _)
  case case2    => exact h

theorem resolve_segments_ne_nil (isFile special : Bool) (path : List (List Char)) (cs : List Char) :
    resolve isFile path (segments special cs) ≠ [] := by
  have hs : segments special cs ≠ [] := by simp [segments, List.splitOnP_ne_nil]
  have ⟨s, ss, he⟩ := List.exists_cons_of_ne_nil hs
  have hf := follow_ne_nil isFile (stem isFile path).1 ((stem isFile path).2 ++ s) ss
  rw [he]
  simp only [resolve]
  split
  case isTrue  => exact dropEmpty_ne_nil hf
  case isFalse => exact hf

end Path

section Authority

variable {cs : List Char}

theorem Unmarked.splitAuthority (special : Bool) (cs : List Char) : Unmarked (splitAuthority special cs).1 := by
  have h : ∀ c ∈ (Url.splitAuthority special cs).1, (c == '?' || c == '#') = false := by
    intro c hc
    rw [Url.splitAuthority, List.span_eq_takeWhile_dropWhile] at hc
    have := List.all_eq_true.mp List.all_takeWhile c hc
    simp_all
  exact ⟨fun hm => by simpa using h _ hm, fun hm => by simpa using h _ hm⟩

theorem splitAuthority_append (special : Bool) (cs : List Char) :
    (splitAuthority special cs).1 ++ (splitAuthority special cs).2 = cs := by
  rw [splitAuthority, List.span_eq_takeWhile_dropWhile, List.takeWhile_append_dropWhile]

theorem splitUserinfo_subset : (splitUserinfo cs).2 ⊆ cs := by
  have h : (cs.reverse.takeWhile (· ≠ '@')).reverse ⊆ cs := fun c hc =>
    List.mem_reverse.mp <| List.takeWhile_subset _ <| List.mem_reverse.mp hc
  unfold splitUserinfo
  rw [List.span_eq_takeWhile_dropWhile]
  split <;> simp_all

theorem splitPort_subset {brackets : Bool} (h : (splitPort brackets cs).2 = some port) : port ⊆ cs := by
  induction cs generalizing brackets with
  | nil => contradiction
  | cons c cs hi =>
    rw [splitPort] at h
    split at h
    case isTrue =>
      cases h
      exact List.subset_cons_self _ _
    case isFalse => exact List.subset_cons_of_subset _ <| hi h

theorem behindPort_subset :
    (((splitPort false (splitUserinfo cs).2).2.getD []).span (· ≠ '\\')).2 ⊆ cs := by
  rw [List.span_eq_takeWhile_dropWhile]
  refine List.Subset.trans (List.dropWhile_subset _) ?_
  cases h : (splitPort false (splitUserinfo cs).2).2 with
  | none      => simp
  | some port => exact List.Subset.trans (splitPort_subset h) splitUserinfo_subset

theorem head?_behindPort : ∀ c ∈ (cs.span (· ≠ '\\')).2.head?, c = '\\' := by
  intro c hc
  have := List.head?_dropWhile_not (· ≠ '\\') cs
  rw [List.span_eq_takeWhile_dropWhile] at hc
  rw [hc] at this
  simpa using this

theorem readPort_eq_ok {scheme : List Char} (h : readPort scheme cs = .ok port) :
    ∀ n ∈ port, n ≤ 65535 ∧ defaultPort? scheme ≠ some n := by
  unfold readPort at h
  split at h
  case isTrue =>
    cases h
    simp
  case isFalse =>
    split at h
    case h_2 => contradiction
    case h_1 n _ =>
      split at h
      case isTrue => contradiction
      case isFalse hn =>
        cases h
        split
        case isTrue    => simp
        case isFalse hd =>
          rintro _ ⟨⟩
          exact ⟨by omega, hd⟩

theorem normal_encoded {scheme digits : List Char} (hh : Host.Written host) (hr : isRemote scheme → host ≠ [])
    (hp : readPort scheme digits = .ok port) (username password : List Char) :
    Authority.Normal ⟨Percent.encode Percent.inUserinfo username, Percent.encode Percent.inUserinfo password,
      host, port⟩ scheme where
  username := Percent.not_reserved_of_mem_encode (by decide)
  password := Percent.not_reserved_of_mem_encode (by decide)
  host     := hh
  remote   := hr
  port     := readPort_eq_ok hp

-- What follows an authority is left as it is. The part that a backslash cuts off goes before it, and has no marks since
-- the authority has none.
theorem readAuthority_eq_ok {scheme : List Char} (h : readAuthority scheme cs rest = .ok (a, behind)) :
    a.Normal scheme ∧ ∃ ds, ds ⊆ cs ∧ (∀ d ∈ ds.head?, d = '\\') ∧ behind = ds ++ rest := by
  unfold readAuthority at h
  simp only at h
  split at h
  case isTrue => contradiction
  case isFalse =>
    split at h <;> rw [bind_eq_ok_iff] at h
    case isTrue =>
      have ⟨host, hh, h⟩ := h
      have ⟨port, hp, h⟩ := bind_eq_ok_iff.mp h
      have ⟨hw, hn⟩ := Host.written_of_domain hh
      cases h
      exact ⟨normal_encoded hw (fun _ => hn) hp _ _, _, behindPort_subset, head?_behindPort, rfl⟩
    case isFalse hs =>
      have ⟨host, hh, h⟩ := h
      have ⟨port, hp, h⟩ := bind_eq_ok_iff.mp h
      have hr : isRemote scheme → host ≠ [] := fun hr => absurd (Bool.and_eq_true_iff.mp hr).left hs
      cases h
      exact ⟨normal_encoded (Host.written_of_verbatim hh) hr hp _ _, _, behindPort_subset, head?_behindPort, rfl⟩

end Authority

section Reading

variable {name cs ds text : List Char} {u : Url}

structure Reads (name cs : List Char) (u : Url) : Prop where
  scheme    : u.scheme = name
  authority : ∀ a ∈ u.authority, a.Normal name
  remote    : isRemote name → u.authority.isSome
  segments  : ∀ ss, u.path = .segments ss → ∀ s ∈ ss, Bare s
  query     : u.query = (tail cs).encodedQuery (isSpecial name)
  fragment  : u.fragment = (tail cs).encodedFragment

theorem Reads.prepend (h : Reads name ds u) (hc : Unmarked cs) : Reads name (cs ++ ds) u :=
  { h with
    query    := by rw [tail_append hc]; exact h.query
    fragment := by rw [tail_append hc]; exact h.fragment }

theorem Reads.withAuthority (h : withAuthority name cs = .ok u) : Reads name cs u := by
  have ⟨⟨a, behind⟩, ha, h⟩ := bind_eq_ok_iff.mp h
  have ⟨hn, ds, hs, _, hd⟩ := readAuthority_eq_ok ha
  cases h
  have hm := Unmarked.splitAuthority (isSpecial name) cs
  rw [← splitAuthority_append (isSpecial name) cs]
  refine .prepend ?_ hm
  exact
    { scheme    := rfl
      authority := fun _ e => Option.some.inj e ▸ hn
      remote    := fun _ => rfl
      segments  := fun _ e => UrlPath.segments.inj e ▸ bare_rooted _ _
      query     := by rw [hd, tail_append (hm.subset hs)]; rfl
      fragment  := by rw [hd, tail_append (hm.subset hs)]; rfl }

theorem Reads.foreign (hs : isSpecial name = false) (h : foreign name cs = .ok u) : Reads name cs u := by
  unfold Url.foreign at h
  split at h
  case h_1 cs =>
    have hm : Unmarked ['/', '/'] := by simp [Unmarked]
    exact Reads.prepend (.withAuthority h) hm
  case h_2 =>
    cases h
    exact
      { scheme    := rfl
        authority := nofun
        remote    := by simp [isRemote, hs]
        segments  := by
          intro ss e
          simp only at e
          split at e <;> cases e
          exact bare_rooted _ _
        query     := by rw [hs]
        fragment  := rfl }

theorem Reads.localFile (hs : isSpecial name = true) (hf : isFile name) (hw : Host.Written host) :
    Reads name cs ⟨name, some ⟨[], [], host, none⟩, .segments (dropEmpty (rooted name (tail cs).path)),
      (tail cs).encodedQuery true, (tail cs).encodedFragment⟩ where
  scheme    := rfl
  authority := fun a e => Option.some.inj e ▸ ⟨nofun, nofun, hw, by simp [isRemote, hf], nofun⟩
  remote    := fun _ => rfl
  segments  := fun _ e t ht => bare_rooted _ _ t <| dropEmpty_subset <| UrlPath.segments.inj e ▸ ht
  query     := by rw [hs]
  fragment  := rfl

theorem Unmarked.slashes (h : ∀ c ∈ cs, isSlash special c) : Unmarked cs := by
  constructor <;> intro hm <;> simpa [isSlash] using h _ hm

theorem Reads.file (hf : isFile name) (h : file name cs = .ok u) : Reads name cs u := by
  have hs : isSpecial name = true := by
    rw [eq_of_beq hf]
    decide
  unfold Url.file at h
  split at h
  rename_i hostText rest hm
  -- Slashes and a host come before the rest. Before a drive there is no host.
  obtain ⟨front, hu, hc⟩ : ∃ front, Unmarked front ∧ cs = front ++ rest := by
    have hn : ∃ front, Unmarked front ∧ cs = front ++ cs := ⟨[], by simp [Unmarked], rfl⟩
    split at hm
    case h_1 a b behind =>
      split at hm
      case isTrue hab =>
        have hs : ∀ c ∈ [a, b], isSlash true c := by simpa using hab
        have hab := Unmarked.slashes hs
        simp only at hm
        split at hm <;> cases hm
        case isTrue  => exact ⟨[a, b], hab, rfl⟩
        case isFalse =>
          refine ⟨[a, b] ++ (splitAuthority true behind).1, hab.append <| .splitAuthority true behind, ?_⟩
          rw [List.append_assoc, splitAuthority_append]
          rfl
      case isFalse => cases hm; exact hn
    case h_2 => cases hm; exact hn
  rw [hc]
  refine .prepend ?_ hu
  split at h
  case isTrue =>
    cases h
    refine .localFile hs hf ?_
    split <;> exact .named (by simp)
  case isFalse =>
    obtain ⟨host, hh, h⟩ := bind_eq_ok_iff.mp h
    cases h
    refine .localFile hs hf ?_
    split
    case isTrue  => exact .named (by simp)
    case isFalse => exact (Host.written_of_domain hh).left

theorem Reads.ofScheme (h : ofScheme name cs = .ok u) : Reads name cs u := by
  unfold Url.ofScheme at h
  split at h
  case isTrue hf => exact .file hf h
  case isFalse =>
    split at h
    case isTrue =>
      have hm : Unmarked (cs.takeWhile (isSlash true)) := .slashes <| List.all_eq_true.mp List.all_takeWhile
      rw [← List.takeWhile_append_dropWhile (p := isSlash true) (l := cs)]
      exact .prepend (.withAuthority h) hm
    case isFalse hs => exact .foreign (by simpa using hs) h

theorem parse_eq_ok (h : parse text = .ok u) :
    ∃ name rest, scheme? (clean text) = some (name, rest) ∧ Reads name rest u := by
  unfold parse at h
  split at h
  case h_1            => contradiction
  case h_2 name cs hs => exact ⟨name, cs, hs, .ofScheme h⟩

end Reading

end Url
end StatsQuery
