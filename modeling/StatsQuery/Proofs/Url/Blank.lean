import StatsQuery.Proofs.Url.Slash
import StatsQuery.Url.Host

namespace StatsQuery

section Decoding

variable {c : Char} {cs ds : List Char}

theorem decodeBytes_concat (h : isEdge c) (hl : cs.getLast? = some c) :
    ∃ bs, Percent.decodeBytes cs = bs ++ String.utf8EncodeChar c := by
  have hd : Text.hexValue? c = none := of_isEdge (p := fun c => Text.hexValue? c = none) (by decide) h
  fun_induction Percent.decodeBytes cs
  case case1 b cs m n hn _ hi =>
    cases cs with
    | nil =>
      have he : b = c := by simpa using hl
      rw [he, hd] at hn
      contradiction
    | cons _ _ =>
      have ⟨bs, hb⟩ := hi <| by simpa using hl
      exact ⟨_ :: bs, by rw [hb, List.cons_append]⟩
  case case2 hi =>
    have ⟨bs, hb⟩ := hi <| by simpa using hl
    exact ⟨_ :: bs, by rw [hb, List.cons_append]⟩
  case case3 d cs _ hi =>
    cases cs with
    | nil =>
      have he : d = c := by simpa using hl
      exact ⟨[], by rw [he, Percent.decodeBytes, List.append_nil, List.nil_append]⟩
    | cons _ _ =>
      have ⟨bs, hb⟩ := hi <| by simpa using hl
      exact ⟨_ ++ bs, by rw [hb, List.append_assoc]⟩
  case case4 => contradiction

theorem toNat_eq_of_mem_utf8EncodeChar {d : Char} (hm : b ∈ String.utf8EncodeChar d) (hb : b.toNat < 0x80) :
    d.toNat = b.toNat := by
  have hn : d.toNat = d.val.toNat := rfl
  simp only [String.utf8EncodeChar] at hm
  rw [hn]
  generalize d.val.toNat = v at hm
  split at hm
  case isTrue =>
    cases List.mem_singleton.mp hm
    simp
    omega
  case isFalse =>
    split at hm
    · simp only [List.mem_cons, List.not_mem_nil, or_false] at hm
      rcases hm with rfl | rfl <;> simp at hb <;> omega
    · split at hm <;> simp only [List.mem_cons, List.not_mem_nil, or_false] at hm
      · rcases hm with rfl | rfl | rfl <;> simp at hb <;> omega
      · rcases hm with rfl | rfl | rfl | rfl <;> simp at hb <;> omega

theorem flatMap_toList (text : String) :
    text.toList.flatMap String.utf8EncodeChar = text.toByteArray.data.toList := by
  have h : text.toByteArray = text.toList.utf8Encode := by
    rw [← String.toByteArray_ofList, String.ofList_toList]
  rw [h, List.utf8Encode, List.toList_data_toByteArray]

theorem decode?_concat (h : isEdge c) (hd : Percent.decode? (cs ++ [c]) = some ds) : ∃ es, ds = es ++ [c] := by
  have ⟨bs, hb⟩ := decodeBytes_concat h <| List.getLast?_concat (l := cs)
  have hc : String.utf8EncodeChar c = [.ofNat c.toNat] :=
    of_isEdge (p := fun c => String.utf8EncodeChar c = [.ofNat c.toNat]) (by decide) h
  have hn : (UInt8.ofNat c.toNat).toNat = c.toNat :=
    Nat.mod_eq_of_lt <| Nat.lt_trans (toNat_lt_of_isEdge h) (by decide)
  obtain ⟨text, ht, rfl⟩ := Option.map_eq_some_iff.mp hd
  have hu : text.toList.flatMap String.utf8EncodeChar = bs ++ [.ofNat c.toNat] := by
    unfold String.fromUTF8? at ht
    split at ht <;> cases ht
    rw [flatMap_toList, ← hc, ← hb]
    rfl
  cases hs : text.toList using List.reverseRecOn with
  | nil => simp [hs] at hu
  | append_singleton es d =>
    have hl : (String.utf8EncodeChar d).getLast? = some (.ofNat c.toNat) := by
      have := congrArg List.getLast? hu
      rw [hs, List.flatMap_append, List.getLast?_concat] at this
      simpa [List.getLast?_append, String.utf8EncodeChar_ne_nil] using this
    have he := toNat_eq_of_mem_utf8EncodeChar (List.mem_of_getLast? hl) (hn.symm ▸ toNat_lt_of_isEdge h)
    exact ⟨es, by rw [← Char.ofNat_toNat d, he, hn, Char.ofNat_toNat]⟩

end Decoding

section Domain

variable {c : Char} {cs ds : List Char}

theorem place_concat (h : isEdge c) (d : Char) (cs : List Char) :
    ∃ ds, Unicode.place d (cs ++ [c]) = ds ++ [c] := by
  have hc : Unicode.combiningClass c = 0 :=
    Unicode.combiningClass_of_lt <| Nat.lt_trans (toNat_lt_of_isEdge h) (by decide)
  induction cs with
  | nil          => exact ⟨[d], by simp [Unicode.place, hc]⟩
  | cons e cs hi =>
    obtain ⟨ds, hd⟩ := hi
    rw [List.cons_append, Unicode.place]
    split
    case isTrue  => exact ⟨e :: ds, by rw [hd, List.cons_append]⟩
    case isFalse => exact ⟨d :: e :: cs, rfl⟩

theorem foldr_place_concat (h : isEdge c) (cs : List Char) :
    ∃ ds, (cs ++ [c]).foldr Unicode.place [] = ds ++ [c] := by
  induction cs with
  | nil          => exact ⟨[], rfl⟩
  | cons d cs hi =>
    have ⟨ds, hd⟩ := hi
    rw [List.cons_append, List.foldr_cons, hd]
    exact place_concat h d ds

-- Nothing is composed with a blank before it, and nothing stands behind it.
theorem recompose_concat (h : isEdge c) (first : Char) (between cs : List Char) :
    ∃ ds, Unicode.recompose first between (cs ++ [c]) = ds ++ [c] := by
  have hl := toNat_lt_of_isEdge h
  induction cs generalizing first between with
  | nil =>
    have hc : Unicode.combiningClass c = 0 := Unicode.combiningClass_of_lt <| Nat.lt_trans hl (by decide)
    have hn : Unicode.compose? first c = none := if_pos <| Nat.lt_trans hl (by decide)
    exact ⟨first :: between, by simp [Unicode.recompose, hc, hn]⟩
  | cons d cs hi =>
    rw [List.cons_append, Unicode.recompose]
    split
    · exact hi _ _
    · split
      · obtain ⟨ds, hd⟩ := hi d []
        exact ⟨first :: between ++ ds, by rw [hd, List.append_assoc]⟩
      · exact hi _ _

theorem normalize_concat (h : isEdge c) (cs : List Char) : ∃ ds, Unicode.normalize (cs ++ [c]) = ds ++ [c] := by
  have hc : Unicode.decompose c = [c] := Unicode.decompose_of_lt <| Nat.lt_trans (toNat_lt_of_isEdge h) (by decide)
  have ⟨ds, hd⟩ := foldr_place_concat h (cs.flatMap Unicode.decompose)
  rw [Unicode.normalize, List.flatMap_append, List.flatMap_singleton, hc, hd]
  cases ds with
  | nil       => exact ⟨[], rfl⟩
  | cons d ds => exact recompose_concat h d [] ds

theorem number?_concat (h : Punycode.value? c = none)
    (hn : Punycode.number? bias position weight (cs ++ [c]) = some (n, rest)) :
    ∃ ds, rest = ds ++ [c] ∧ ds.length < cs.length := by
  induction cs generalizing position weight n with
  | nil          => simp [Punycode.number?, h] at hn
  | cons d cs hi =>
    rw [List.cons_append, Punycode.number?] at hn
    split at hn
    case h_1 => contradiction
    case h_2 =>
      simp only at hn
      split at hn
      case isTrue =>
        cases hn
        exact ⟨cs, rfl, by simp⟩
      case isFalse =>
        split at hn
        case isTrue => contradiction
        case isFalse =>
          obtain ⟨⟨_, _⟩, hm, he⟩ := Option.map_eq_some_iff.mp hn
          cases he
          obtain ⟨ds, hd, hl⟩ := hi hm
          exact ⟨ds, hd, Nat.lt_succ_of_lt hl⟩

theorem insertAll_concat (h : Punycode.value? c = none) (bias last index : Nat) (output cs : List Char) :
    Punycode.insertAll bias last index output (cs ++ [c]) = none := by
  induction hl : cs.length using Nat.strongRecOn generalizing bias last index output cs with
  | ind length hi =>
    rw [Punycode.insertAll, if_neg (by simp)]
    split
    case h_1 => rfl
    case h_2 n rest hn =>
      obtain ⟨ds, rfl, hd⟩ := number?_concat h hn
      simp only
      split
      case isTrue  => exact hi _ (hl ▸ hd) _ _ _ _ ds rfl
      case isFalse => rfl

theorem decode_concat (h : isEdge c) (cs : List Char) : Punycode.decode (cs ++ [c]) = none := by
  have hv : Punycode.value? c = none := of_isEdge (p := fun c => Punycode.value? c = none) (by decide) h
  have hc : c ≠ '-' := of_isEdge (p := fun c => c ≠ '-') (by decide) h
  unfold Punycode.decode
  rw [List.reverse_append, List.reverse_singleton, List.singleton_append, List.span_eq_takeWhile_dropWhile,
    List.takeWhile_cons_of_pos (by simpa using hc)]
  split
  case h_1          => exact insertAll_concat hv _ _ _ _ _
  case h_2          => rfl
  case h_3 he =>
    rw [← (Prod.mk.inj he).left, List.reverse_cons]
    exact insertAll_concat hv _ _ _ _ _

theorem text?_concat (h : isEdge c) (ht : Domain.text? (cs ++ [c]) = some ds) : ds = cs ++ [c] := by
  unfold Domain.text? at ht
  split at ht
  case h_2 => exact (Option.some.inj ht).symm
  case h_1 code he =>
    cases code using List.reverseRecOn with
    | nil =>
      have hc : c ≠ '-' := of_isEdge (p := fun c => c ≠ '-') (by decide) h
      have := congrArg List.getLast? he
      simp [hc] at this
    | append_singleton code d =>
      have := congrArg List.getLast? he
      simp only [← List.cons_append, List.getLast?_concat] at this
      obtain rfl : c = d := Option.some.inj this
      simp [decode_concat h] at ht

theorem mem_code (h : isEdge c) (hm : c ∈ cs) : c ∈ Domain.code cs := by
  have hl : decide (c.toNat < 0x80) := decide_eq_true <| toNat_lt_of_isEdge h
  unfold Domain.code
  split
  case isTrue  => exact hm
  case isFalse =>
    refine List.mem_append_right _ ?_
    exact List.mem_append_left _ <| List.mem_append_left _ <| List.mem_filter.mpr ⟨hm, hl⟩

theorem mapM_concat {f : α → Option β} {as : List α} (h : (as ++ [a]).mapM f = some bs) :
    ∃ cs b, bs = cs ++ [b] ∧ f a = some b := by
  rw [List.mapM_append] at h
  obtain ⟨cs, _, h⟩ := Option.bind_eq_some_iff.mp h
  obtain ⟨ds, hd, h⟩ := Option.bind_eq_some_iff.mp h
  obtain ⟨b, hb, hd⟩ := Option.bind_eq_some_iff.mp hd
  cases hd
  cases h
  exact ⟨cs, b, rfl, hb⟩

theorem mem_toAscii? (h : isEdge c) (ha : Domain.toAscii? (cs ++ [c]) = some ds) : c ∈ ds := by
  have hi : Domain.image? c = some [c] := of_isEdge (p := fun c => Domain.image? c = some [c]) (by decide) h
  have hp : (c == '.') = false := of_isEdge (p := fun c => (c == '.') = false) (by decide) h
  obtain ⟨images, hm, ha⟩ := Option.bind_eq_some_iff.mp ha
  obtain ⟨labels, hl, ha⟩ := Option.bind_eq_some_iff.mp ha
  obtain ⟨is, i, rfl, he⟩ := mapM_concat hm
  cases hi.symm.trans he
  have ⟨es, hn⟩ := normalize_concat h is.flatten
  have ⟨first, last, _, _, hs⟩ := splitOnP_append (· == '.') es
  rw [List.flatten_append, List.flatten_singleton, hn, List.splitOn, hs [c] (by simpa using hp)] at hl
  obtain ⟨ls, l, rfl, ht⟩ := mapM_concat hl
  split at ha <;> cases ha
  have hc : c ∈ l := text?_concat h ht ▸ List.mem_append_right _ List.mem_cons_self
  exact mem_intercalate (List.mem_map_of_mem <| List.mem_append_right _ List.mem_cons_self) (mem_code h hc)

end Domain

namespace Host

variable {c : Char} {cs : List Char}

-- No host of the web ends in a blank.
theorem domain_concat (h : isEdge c) (cs : List Char) : domain (cs ++ [c]) ≠ .ok host := by
  have hb : c ≠ '[' ∧ c ≠ ']' := of_isEdge (p := fun c => c ≠ '[' ∧ c ≠ ']') (by decide) h
  have hf : isForbiddenInDomain c := of_isEdge (p := fun c => isForbiddenInDomain c) (by decide) h
  intro hd
  unfold domain at hd
  split at hd
  case h_1 rest he =>
    have hl : rest.getLast? ≠ some ']' := by
      cases cs with
      | nil      => exact absurd (List.cons.inj he).left hb.left
      | cons _ _ =>
        have hr : _ ++ [c] = rest := (List.cons.inj he).right
        rw [← hr, List.getLast?_concat]
        exact fun e => hb.right <| Option.some.inj e
    rw [bracketed, if_neg hl] at hd
    contradiction
  case h_2 =>
    split at hd
    case h_1 => contradiction
    case h_2 ascii ha =>
      obtain ⟨ds, hp, ha⟩ := Option.bind_eq_some_iff.mp ha
      obtain ⟨es, rfl⟩ := decode?_concat h hp
      rw [if_pos <| List.any_eq_true.mpr ⟨c, mem_toAscii? h ha, hf⟩] at hd
      contradiction

end Host

namespace Url

variable {c : Char} {cs rest name : List Char}

theorem splitUserinfo_concat (h : isEdge c) (cs : List Char) : ∃ ds, (splitUserinfo (cs ++ [c])).2 = ds ++ [c] := by
  have hc : c ≠ '@' := of_isEdge (p := fun c => c ≠ '@') (by decide) h
  unfold splitUserinfo
  rw [List.reverse_append, List.reverse_singleton, List.singleton_append, List.span_eq_takeWhile_dropWhile,
    List.takeWhile_cons_of_pos (by simpa using hc)]
  split
  case h_1 he => exact ⟨_, (Prod.mk.inj he).left ▸ List.reverse_cons⟩
  case h_2 he => exact ⟨_, (Prod.mk.inj he).left ▸ List.reverse_cons⟩

theorem splitPort_concat (h : isEdge c) (brackets : Bool) (cs : List Char) :
    (∃ host, splitPort brackets (cs ++ [c]) = (host ++ [c], none)) ∨
      ∃ host port, splitPort brackets (cs ++ [c]) = (host, some (port ++ [c])) := by
  have hc : c ≠ ':' := of_isEdge (p := fun c => c ≠ ':') (by decide) h
  induction cs generalizing brackets with
  | nil          => exact .inl ⟨[], by simp [splitPort, hc]⟩
  | cons d cs hi =>
    rw [List.cons_append, splitPort]
    split
    case isTrue  => exact .inr ⟨[], cs, rfl⟩
    case isFalse =>
      cases hi (if d = '[' then true else if d = ']' then false else brackets) with
      | inl hh =>
        obtain ⟨host, hh⟩ := hh
        exact .inl ⟨d :: host, by rw [hh]; rfl⟩
      | inr hp =>
        obtain ⟨host, port, hp⟩ := hp
        exact .inr ⟨d :: host, port, by rw [hp]⟩

theorem readPort_concat (h : isEdge c) (cs : List Char) : readPort name (cs ++ [c]) ≠ .ok port := by
  have hd : c.isDigit = false := of_isEdge (p := fun c => c.isDigit = false) (by decide) h
  have hn : Text.numeral? (cs ++ [c]) = none := if_neg (by simp [Text.isNumeral, hd])
  have he : (cs ++ [c]).isEmpty = false := by simp
  rw [readPort, he, hn]
  exact fun h => by cases h

-- Neither does an authority of the web. What follows a backslash does not belong to it.
theorem readAuthority_concat (h : isEdge c) (hs : isSpecial name) (hn : '\\' ∉ cs ++ [c]) :
    readAuthority name (cs ++ [c]) rest ≠ .ok a := by
  have ⟨ds, hu⟩ := splitUserinfo_concat h cs
  intro ha
  unfold readAuthority at ha
  simp only [hs, if_true] at ha
  split at ha
  case isTrue => contradiction
  case isFalse =>
    have ⟨host, hh, ha⟩ := bind_eq_ok_iff.mp ha
    have ⟨port, hr, _⟩ := bind_eq_ok_iff.mp ha
    rcases splitPort_concat h false ds with ⟨_, hp⟩ | ⟨_, digits, hp⟩
    · rw [hu, hp] at hh
      exact Host.domain_concat h _ hh
    · have hd : digits ++ [c] ⊆ cs ++ [c] :=
        List.Subset.trans (splitPort_subset <| congrArg Prod.snd hp) (hu ▸ splitUserinfo_subset)
      have hb : ∀ d ∈ digits ++ [c], decide (d ≠ '\\') := forall_ne_of_not_mem fun hm => hn (hd hm)
      have hs : ((digits ++ [c]) ++ []).span (· ≠ '\\') = (digits ++ [c], []) := span_append hb (by simp)
      rw [List.append_nil] at hs
      rw [hu, hp, Option.getD_some, hs] at hr
      exact readPort_concat h _ hr

end Url

end StatsQuery
