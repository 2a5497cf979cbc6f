import Mathlib.Data.List.Induction
import Mathlib.Data.List.TakeDrop

namespace StatsQuery

section Characters

theorem isAlphanum_of_isDigit {c : Char} (h : c.isDigit) : c.isAlphanum :=
  Bool.or_eq_true_iff.mpr <| .inr h

theorem isAlphanum_of_isAlpha {c : Char} (h : c.isAlpha) : c.isAlphanum :=
  Bool.or_eq_true_iff.mpr <| .inl h

theorem isAlphanum_of_isUpper {c : Char} (h : c.isUpper) : c.isAlphanum :=
  isAlphanum_of_isAlpha <| Bool.or_eq_true_iff.mpr <| .inl h

theorem toNat_lt_of_isAlphanum {c : Char} (h : c.isAlphanum) : c.toNat < 0x80 := by
  have below {d : Char} (h : c.val ≤ d.val) (hd : d.toNat < 0x80) : c.toNat < 0x80 :=
    Nat.lt_of_le_of_lt (UInt32.le_iff_toNat_le.mp h) hd
  rcases Bool.or_eq_true_iff.mp h with h | hd
  · rcases Bool.or_eq_true_iff.mp h with hu | hl
    · exact below (of_decide_eq_true hu).right (by decide)
    · exact below (of_decide_eq_true (Bool.and_eq_true_iff.mp hl).right) (by decide)
  · exact below (of_decide_eq_true (Bool.and_eq_true_iff.mp hd).right) (by decide)

theorem of_ascii {p : Char → Prop} (h : ∀ n < 0x80, p (Char.ofNat n)) (hc : c.toNat < 0x80) : p c :=
  Char.ofNat_toNat c ▸ h _ hc

end Characters

section Runs

variable {cs ds rest : List Char}

theorem forall_mem_intercalate {p : Char → Prop} (hs : ∀ c ∈ ds, p c) (h : ∀ l ∈ ls, ∀ c ∈ l, p c) :
    ∀ c ∈ List.intercalate ds ls, p c := by
  induction ls with
  | nil => simp
  | cons l ls hi =>
    have hl := h l List.mem_cons_self
    cases ls with
    | nil      => simpa
    | cons _ _ =>
      rw [List.intercalate_cons_cons, List.forall_mem_append, List.forall_mem_append]
      exact ⟨⟨hl, hs⟩, hi fun k hk => h k <| List.mem_cons_of_mem _ hk⟩

theorem mem_intercalate {separator : List Char} (hl : l ∈ ls) (hc : c ∈ l) : c ∈ List.intercalate separator ls := by
  induction ls with
  | nil => contradiction
  | cons k ks hi =>
    cases ks with
    | nil => simp_all only [List.mem_singleton, List.intercalate_singleton]
    | cons m ms =>
      simp only [List.intercalate_cons_cons, List.mem_append]
      cases hl with
      | head      => exact .inl (.inl hc)
      | tail _ hl => exact .inr (hi hl)

theorem length_le_intercalate (h : ds ≠ []) (ls : List (List Char)) :
    ls.length ≤ (List.intercalate ds ls).length + 1 := by
  induction ls
  case nil => simp
  case cons l ls hi =>
    have hp := List.length_pos_iff.mpr h
    cases ls
    case nil  => simp
    case cons => simp [List.intercalate_cons_cons] at hi ⊢; omega

theorem forall_mem_toDigits {p : Char → Prop} (h : 1 < base) (hd : ∀ d < base, p (Nat.digitChar d)) (n : Nat) :
    ∀ c ∈ Nat.toDigits base n, p c := by
  induction n using Nat.strongRecOn with
  | ind n hi =>
    by_cases hn : n < base
    case pos => simpa [Nat.toDigits_of_lt_base hn] using hd n hn
    case neg =>
      have hl : n % base < base := Nat.mod_lt n (by omega)
      rw [Nat.toDigits_of_base_le h (by omega), List.forall_mem_append, List.forall_mem_singleton]
      exact ⟨hi (n / base) (Nat.div_lt_self (by omega) h), hd _ hl⟩

theorem forall_ne_of_not_mem (h : d ∉ cs) : ∀ c ∈ cs, decide (c ≠ d) :=
  fun _ hc => decide_eq_true fun e => h <| e ▸ hc

theorem while_append
    {p : Char → Bool} (rest : List Char) (h : ∀ c ∈ cs, p c) (hr : ∀ c ∈ rest.head?, p c = false) :
    (cs ++ rest).takeWhile p = cs ∧ (cs ++ rest).dropWhile p = rest := by
  rw [List.takeWhile_append_of_pos h, List.dropWhile_append_of_pos h]
  cases rest <;> simp_all

theorem exists_run (p : Char → Bool) (cs : List Char) : ∃ run, (∀ c ∈ run, p c) ∧ cs = run ++ cs.dropWhile p :=
  ⟨cs.takeWhile p, List.all_eq_true.mp List.all_takeWhile, List.takeWhile_append_dropWhile.symm⟩

theorem span_append
    {p : Char → Bool} (h : ∀ c ∈ cs, p c) (hr : ∀ c ∈ rest.head?, p c = false) :
    (cs ++ rest).span p = (cs, rest) := by
  rw [List.span_eq_takeWhile_dropWhile, (while_append rest h hr).left, (while_append rest h hr).right]

end Runs

section Pieces

variable {p : α → Bool} {as piece : List α}

theorem not_of_mem_splitOnP (h : piece ∈ as.splitOnP p) : ∀ a ∈ piece, p a = false := by
  induction as generalizing piece with
  | nil => simp_all
  | cons a as hi =>
    rw [List.splitOnP_cons_eq_if_modifyHead] at h
    split at h
    case isTrue =>
      cases h with
      | head     => simp
      | tail _ h => exact hi h
    case isFalse ha =>
      have ⟨first, rest, hs⟩ := List.exists_cons_of_ne_nil (as.splitOnP_ne_nil p)
      rw [hs] at h hi
      cases h with
      | head     => exact List.forall_mem_cons.mpr ⟨Bool.eq_false_iff.mpr ha, hi List.mem_cons_self⟩
      | tail _ h => exact hi <| List.mem_cons_of_mem _ h

-- Without a separator, what is added to a list is added to its last piece.
theorem splitOnP_append (p : α → Bool) (as : List α) :
    ∃ first last, (∀ a ∈ last, p a = false) ∧ (last = [] ↔ ∀ a ∈ as.getLast?, p a) ∧
      ∀ bs, (∀ b ∈ bs, p b = false) → (as ++ bs).splitOnP p = first ++ [last ++ bs] := by
  induction as using List.reverseRecOn with
  | nil => exact ⟨[], [], nofun, by simp, fun _ hb => List.splitOnP_eq_singleton hb⟩
  | append_singleton as a hi =>
    have ⟨first, last, hl, _, hs⟩ := hi
    cases ha : p a with
    | true =>
      refine ⟨first ++ [last], [], nofun, by simp [ha], fun bs hb => ?_⟩
      rw [List.append_assoc, List.singleton_append, List.splitOnP_append_cons _ _ ha, List.splitOnP_eq_singleton hb,
        ← List.append_nil as, hs [] nofun, List.append_nil, List.nil_append]
    | false =>
      refine ⟨first, last ++ [a], ?_, by simp [ha], fun bs hb => ?_⟩
      · exact List.forall_mem_append.mpr ⟨hl, List.forall_mem_singleton.mpr ha⟩
      · have := hs (a :: bs) <| List.forall_mem_cons.mpr ⟨ha, hb⟩
        rwa [List.append_assoc, List.append_assoc]

end Pieces

end StatsQuery
