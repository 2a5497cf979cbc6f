import StatsQuery.Proofs.Url.Decoding
import StatsQuery.Url.Parser

namespace StatsQuery

section Characters

def isEdge (c : Char) : Bool :=
  c.toNat ≤ 0x20

theorem of_isEdge {p : Char → Prop} (h : ∀ n ≤ 0x20, p (Char.ofNat n)) (hc : isEdge c) : p c :=
  Char.ofNat_toNat c ▸ h _ (of_decide_eq_true hc)

theorem toNat_lt_of_isEdge (h : isEdge c) : c.toNat < 0x80 :=
  Nat.lt_of_le_of_lt (of_decide_eq_true h) (by decide)

def isBare (c : Char) : Bool :=
  0x20 < c.toNat && c ≠ '?' && c ≠ '#'

theorem isBare_of_le (h : 0x20 ≤ c.toNat) (hc : c ∉ [' ', '#', '?']) : isBare c := by
  simp only [List.mem_cons, List.not_mem_nil, or_false, not_or] at hc
  have : c.toNat ≠ 0x20 := fun e => hc.left <| by rw [← Char.ofNat_toNat c, e]
  simp [isBare, hc, show 0x20 < c.toNat by omega]

end Characters

def Bare (cs : List Char) : Prop :=
  ∀ c ∈ cs, isBare c

namespace Bare

variable {cs ds : List Char}

@[simp] theorem nil : Bare [] := by
  simp [Bare]

@[simp] theorem cons_iff : Bare (c :: cs) ↔ isBare c ∧ Bare cs := by
  simp [Bare]

@[simp] theorem append_iff : Bare (cs ++ ds) ↔ Bare cs ∧ Bare ds := by
  simp [Bare, or_imp, forall_and]

theorem subset (h : Bare ds) (hs : cs ⊆ ds) : Bare cs :=
  fun _ hc => h _ (hs hc)

end Bare

namespace Percent

variable {reserved : Char → Bool}

theorem toNat_lt_of_isWritten (h : isWritten c) : c.toNat < 0x80 := by
  simp only [isWritten, Bool.or_eq_true, beq_iff_eq, or_assoc] at h
  rcases h with rfl | h | h
  · decide
  · exact toNat_lt_of_isAlphanum <| isAlphanum_of_isDigit h
  · exact toNat_lt_of_isAlphanum <| isAlphanum_of_isUpper h

theorem of_isWritten {p : Char → Prop} (hw : ∀ n < 0x80, isWritten (Char.ofNat n) → p (Char.ofNat n))
    (h : isWritten c) : p c :=
  of_ascii (p := fun c => isWritten c → p c) hw (toNat_lt_of_isWritten h) h

theorem mem_encode (h : c ∈ encode reserved cs) : isWritten c ∨ c ∈ cs ∧ reserved c = false := by
  have ⟨d, hd, hc⟩ := List.mem_flatMap.mp h
  split at hc
  case isTrue     => exact .inl <| isWritten_of_mem hc
  case isFalse hr => simp_all

theorem forall_mem_encode {p : Char → Prop} (hw : ∀ n < 0x80, isWritten (Char.ofNat n) → p (Char.ofNat n))
    (h : ∀ c ∈ cs, reserved c = false → p c) : ∀ c ∈ encode reserved cs, p c :=
  fun c hc => (mem_encode hc).elim (of_isWritten hw) fun ⟨hm, hr⟩ => h c hm hr

theorem bare_encode (h : ∀ c ∈ cs, reserved c = false → isBare c) : Bare (encode reserved cs) :=
  forall_mem_encode (by decide) h

theorem not_reserved_of_mem_encode
    (hr : ∀ n < 0x80, isWritten (Char.ofNat n) → reserved (Char.ofNat n) = false) :
    ∀ c ∈ encode reserved cs, reserved c = false :=
  forall_mem_encode hr fun _ _ => id

theorem encode_eq_self (h : ∀ c ∈ cs, reserved c = false) : encode reserved cs = cs := by
  induction cs <;> simp_all [encode]

theorem isBare_of_not_inPath (h : inPath c = false) : isBare c := by
  simp only [inPath, inFragment, isControl, Bool.or_eq_false_iff, decide_eq_false_iff_not, List.contains_eq_mem] at h
  refine isBare_of_le (by omega) ?_
  simp_all

theorem isBare_of_not_inUserinfo (h : inUserinfo c = false) : isBare c :=
  isBare_of_not_inPath (Bool.or_eq_false_iff.mp h).left

end Percent

namespace Host

def isAllowed (c : Char) : Bool :=
  0x20 < c.toNat && !isForbidden c

-- Hosts as reading writes them: addresses of version six between brackets, anything else without a mark.
inductive Written : List Char → Prop
  | named (h : ∀ c ∈ cs, isAllowed c) : Written cs
  | bracketed (h : ∀ c ∈ cs, c = ':' ∨ isAllowed c) : Written ('[' :: cs ++ [']'])

theorem isAllowed_of_not_isForbidden (h : isForbidden c = false) (hc : 0x20 ≤ c.toNat) : isAllowed c := by
  have : c.toNat ≠ 0x20 := fun e => by
    rw [show c = ' ' by rw [← Char.ofNat_toNat c, e]] at h
    contradiction
  simp [isAllowed, h, show 0x20 < c.toNat by omega]

theorem isBare_of_isAllowed (h : isAllowed c) : isBare c := by
  simp only [isAllowed, Bool.and_eq_true, decide_eq_true_eq] at h
  refine isBare_of_le (by omega) ?_
  simp_all [isForbidden]

theorem Written.forall_mem {p : Char → Prop} (h : Written host) (ha : ∀ c, isAllowed c → p c)
    (hm : p ':' ∧ p '[' ∧ p ']') : ∀ c ∈ host, p c := by
  have ⟨colon, opening, closing⟩ := hm
  cases h with
  | named h     => exact fun c hc => ha c (h c hc)
  | bracketed h =>
    rw [List.forall_mem_append, List.forall_mem_cons, List.forall_mem_singleton]
    exact ⟨⟨opening, fun c hc => (h c hc).elim (fun e => e ▸ colon) (ha c)⟩, closing⟩

theorem isAllowed_numeral (n : Nat) : ∀ c ∈ Text.numeral n, isAllowed c :=
  forall_mem_toDigits (by decide) (by decide) n

theorem written_ipv4Text (n : Nat) : Written (ipv4Text n) := by
  refine .named <| forall_mem_intercalate (by simp; rfl) fun l hl => ?_
  have ⟨_, _, h⟩ := List.mem_map.mp hl
  exact h ▸ isAllowed_numeral _

theorem written_ipv6Text (ps : List Nat) : Written (ipv6Text ps) := by
  have hh (qs : List Nat) :
      ∀ c ∈ List.intercalate [':'] (qs.map (Nat.toDigits 16)), c = ':' ∨ isAllowed c := by
    refine forall_mem_intercalate (by simp) fun l hl => ?_
    have ⟨n, _, h⟩ := List.mem_map.mp hl
    exact h ▸ forall_mem_toDigits (by decide) (by decide) n
  simp only [ipv6Text]
  refine .bracketed ?_
  split
  case isTrue  => exact hh ps
  case isFalse =>
    rw [List.forall_mem_append, List.forall_mem_append]
    exact ⟨⟨hh _, by simp⟩, hh _⟩

theorem written_of_bracketed (h : bracketed cs = .ok host) : Written host ∧ host ≠ [] := by
  unfold bracketed at h
  split at h
  case isFalse => contradiction
  case isTrue =>
    split at h <;> cases h
    exact ⟨written_ipv6Text _, by simp [ipv6Text]⟩

theorem written_of_domain (h : domain cs = .ok host) : Written host ∧ host ≠ [] := by
  unfold domain at h
  split at h
  case h_1 => exact written_of_bracketed h
  case h_2 =>
    split at h
    case h_1 => contradiction
    case h_2 ascii _ =>
      split at h
      case isTrue => contradiction
      case isFalse hf =>
        have ha : ∀ c ∈ ascii, isAllowed c := by
          intro c hc
          have : ¬isForbiddenInDomain c := fun h => hf <| List.any_eq_true.mpr ⟨c, hc, h⟩
          simp only [isForbiddenInDomain, Bool.or_eq_true, not_or, decide_eq_true_eq] at this
          exact isAllowed_of_not_isForbidden (by simpa using this.left.left.left) (by omega)
        split at h
        case isTrue => contradiction
        case isFalse hn =>
          split at h
          case isFalse => exact Except.ok.inj h ▸ ⟨.named ha, by simpa using hn⟩
          case isTrue =>
            split at h <;> cases h
            exact ⟨written_ipv4Text _, by simp [ipv4Text]⟩

theorem written_of_verbatim (h : verbatim cs = .ok host) : Written host := by
  unfold verbatim at h
  split at h
  case h_1 => exact (written_of_bracketed h).left
  case h_2 =>
    split at h
    case isTrue => contradiction
    case isFalse hf =>
      cases h
      refine .named <| Percent.forall_mem_encode (by decide) fun c hc hr => ?_
      have := fun h => hf <| List.any_eq_true.mpr ⟨c, hc, h⟩
      refine isAllowed_of_not_isForbidden (by simpa using this) ?_
      simp only [Percent.isControl, Bool.or_eq_false_iff, decide_eq_false_iff_not] at hr
      omega

end Host

end StatsQuery
