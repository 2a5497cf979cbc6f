import StatsQuery.Proofs.Url.Normal

namespace StatsQuery.Url

variable {base : Url} {cs ds name : List Char}

theorem scheme?_segment (h : ∀ c ∈ name, isSchemeChar c) : scheme? (name ++ '/' :: cs) = none := by
  rw [scheme?, span_append h (by simp [isSchemeChar])]
  split
  case h_1 e => cases (Prod.mk.inj e).right
  case h_2   => rfl

theorem schemeless_eq_relative (h : c.isAlpha) : base.schemeless (c :: cs) = base.relative (c :: cs) := by
  have hc (d : Char) (hd : d.isAlpha = false) : c ≠ d := fun e => by simp_all
  have hs : isSlash (isSpecial base.scheme) c = false := by simp [isSlash, hc '/' rfl, hc '\\' rfl]
  unfold schemeless
  split
  case h_1 e         => exact absurd (List.cons.inj e).left (hc '#' rfl)
  case h_2 hp _      => simp only [Url.relative, hp]
  case h_3 e         => contradiction
  case h_4 e         => exact absurd (List.cons.inj e).left (hc '?' rfl)
  case h_5 e         =>
    cases e
    simp only [hs, Bool.false_eq_true, if_false]

theorem isSchemeChar_of_isAlpha {c : Char} (h : c.isAlpha) : isSchemeChar c := by
  simp [isSchemeChar, isAlphanum_of_isAlpha h]

-- The slash behind the name comes before any colon, so that there is no scheme, and the name before any slash, so that
-- there is no authority.
theorem join_eq_relative (hn : name ≠ []) (ha : ∀ c ∈ name, c.isAlpha) (hc : clean cs = name ++ '/' :: ds) (base : Url) :
    base.join cs = base.relative (name ++ '/' :: ds) := by
  unfold join
  simp only [hc, scheme?_segment fun c hc => isSchemeChar_of_isAlpha (ha c hc)]
  cases name with
  | nil      => contradiction
  | cons c _ => exact schemeless_eq_relative <| ha c List.mem_cons_self

theorem lt_of_isAlphanum {c : Char} (h : c.isAlphanum) : 0x20 < c.toNat :=
  of_ascii (p := fun c => c.isAlphanum → 0x20 < c.toNat) (by decide) (toNat_lt_of_isAlphanum h) h

theorem join_segment (hn : name ≠ []) (ha : name.all Char.isAlpha) (base : Url) (cs : List Char) :
    ∃ ds, base.join (name ++ '/' :: cs) = base.relative (name ++ '/' :: ds) := by
  rw [List.all_eq_true] at ha
  have hv : ∀ c ∈ name ++ ['/'], 0x20 < c.toNat :=
    List.forall_mem_append.mpr ⟨fun c hc => lt_of_isAlphanum <| isAlphanum_of_isAlpha <| ha c hc, by simp⟩
  have hc := clean_append hv (by simp) cs
  rw [List.append_assoc, List.append_assoc] at hc
  exact ⟨_, join_eq_relative hn ha hc base⟩

end StatsQuery.Url
