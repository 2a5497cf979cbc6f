import Mathlib.Data.List.Basic
import Mathlib.Data.List.Induction
import StatsQuery.Proofs.Json.Preorder
import StatsQuery.Sort

namespace StatsQuery

structure PreorderOn (cmp : α → α → Ordering) (as : List α) : Prop where
  swap  : ∀ a b, cmp a b = (cmp b a).swap
  trans : ∀ a ∈ as, ∀ b ∈ as, ∀ c ∈ as, (cmp a b).isLE → (cmp b c).isLE → (cmp a c).isLE

structure Arranged (cmp : α → α → Ordering) (as sorted : List α) : Prop where
  perm    : sorted.Perm as
  ordered : sorted.Pairwise fun a b => (cmp a b).isLE
  stable  : ∀ a ∈ as, sorted.filter (cmp a · == .eq) = as.filter (cmp a · == .eq)

def ThenBy (cmp : α → α → Ordering) (R : α → α → Prop) (a b : α) : Prop :=
  cmp a b = .lt ∨ cmp a b = .eq ∧ R a b

section

variable {cmp cmp' : α → α → Ordering} {before : α → α → Bool} {R : α → α → Prop} {p : α → Bool}
variable {a b c : α} {as bs : List α}

namespace PreorderOn

variable (h : PreorderOn cmp as)

include h

theorem self (a : α) : cmp a a = .eq :=
  Ordering.eq_eq_of_eq_swap (h.swap a a)

theorem mono (hs : bs ⊆ as) : PreorderOn cmp bs where
  swap  := h.swap
  trans := fun a ha b hb c hc => h.trans a (hs ha) b (hs hb) c (hs hc)

theorem isLE_of_ne_lt (hn : cmp a b ≠ .lt) : (cmp b a).isLE := by
  rw [h.swap]
  cases hc : cmp a b <;> simp_all

theorem eq_iff : cmp a b = .eq ↔ (cmp a b).isLE ∧ (cmp b a).isLE := by
  rw [h.swap b a]
  cases cmp a b <;> simp

theorem tie_trans
    (ha : a ∈ as) (hb : b ∈ as) (hc : c ∈ as) (h₁ : cmp a b = .eq) (h₂ : cmp a c = .eq) :
    cmp b c = .eq := by
  have ⟨hab, hba⟩ := h.eq_iff.mp h₁
  have ⟨hac, hca⟩ := h.eq_iff.mp h₂
  exact h.eq_iff.mpr ⟨h.trans b hb a ha c hc hba hac, h.trans c hc a ha b hb hca hab⟩

theorem followedBy (h' : PreorderOn cmp' as) :
    PreorderOn (fun a b => (cmp a b).then (cmp' a b)) as where
  swap := fun a b => by rw [h.swap, h'.swap, Ordering.swap_then]
  trans := by
    intro a ha b hb c hc h₁ h₂
    have hab := Ordering.isLE_left_of_isLE_then h₁
    have hbc := Ordering.isLE_left_of_isLE_then h₂
    refine Json.then_isLE_trans (h.trans a ha b hb c hc) ?_ (h'.trans a ha b hb c hc) h₁ h₂
    intro _ _ he
    have hca : (cmp c a).isLE := (h.eq_iff.mp he).right
    have hba : (cmp b a).isLE := h.trans b hb c hc a ha hbc hca
    have hcb : (cmp c b).isLE := h.trans c hc a ha b hb hca hab
    exact ⟨h.eq_iff.mpr ⟨hab, hba⟩, h.eq_iff.mpr ⟨hbc, hcb⟩⟩

end PreorderOn

namespace ThenBy

theorem isLE (h : ThenBy cmp R a b) : (cmp a b).isLE := by
  cases h
  case inl h => simp [h]
  case inr h => simp [h.left]

theorem then_isLE (h : ThenBy cmp (fun a b => (cmp' a b).isLE) a b) :
    ((cmp a b).then (cmp' a b)).isLE := by
  cases h
  case inl h => simp [h]
  case inr h => simp [h.left, h.right]

theorem of_isLE (h : (cmp a b).isLE) (hr : R a b) : ThenBy cmp R a b := by
  cases hc : cmp a b
  case lt => exact .inl hc
  case eq => exact .inr ⟨hc, hr⟩
  case gt => simp [hc] at h

end ThenBy

-- The sorted items are given from the last to the first, and the new item was behind all of them.
theorem settle_pairwise
    (h : PreorderOn cmp (a :: bs)) (hb : bs.Pairwise fun x y => ThenBy cmp R y x)
    (hr : ∀ b ∈ bs, R b a) :
    (settle (cmp · · == .lt) a bs).Pairwise fun x y => ThenBy cmp R y x := by
  induction bs
  case nil => simp [settle]
  case cons b bs hi =>
    obtain ⟨hf, hbs⟩ := List.pairwise_cons.mp hb
    simp only [settle, beq_iff_eq]
    split
    case isTrue hlt =>
      have h' : PreorderOn cmp (a :: bs) := h.mono <| List.cons_subset_cons a (List.subset_cons_self b bs)
      refine .cons (fun x hx => ?_) (hi h' hbs fun x hx => hr x (.tail b hx))
      cases List.mem_cons.mp (settle_perm.mem_iff.mp hx)
      case inl hx => exact .inl (hx ▸ hlt)
      case inr hx => exact hf x hx
    case isFalse hn =>
      have hba : (cmp b a).isLE := h.isLE_of_ne_lt hn
      refine .cons (fun x hx => .of_isLE ?_ (hr x hx)) hb
      cases List.mem_cons.mp hx
      case inl hx => exact hx ▸ hba
      case inr hx => exact h.trans x (by simp [hx]) b (by simp) a (by simp) (hf x hx).isLE hba

theorem settle_filter (h : ∀ b ∈ bs, p a → p b → before a b = false) :
    (settle before a bs).filter p = (a :: bs).filter p := by
  induction bs
  case nil => rfl
  case cons b bs hi =>
    simp only [settle]
    split
    case isFalse => rfl
    case isTrue hb =>
      have hn : p a = false ∨ p b = false := by
        cases ha : p a <;> cases hb' : p b <;> simp
        simp [h b (by simp) ha hb'] at hb
      rw [List.filter_cons, hi fun x hx => h x (.tail b hx)]
      cases hn <;> simp_all [List.filter_cons]

theorem insertionSort_concat :
    insertionSort before (as ++ [a]) = (settle before a (insertionSort before as).reverse).reverse := by
  simp [insertionSort]

theorem insertionSort_pairwise (h : PreorderOn cmp as) (hr : as.Pairwise R) :
    (insertionSort (cmp · · == .lt) as).Pairwise (ThenBy cmp R) := by
  induction as using List.reverseRecOn
  case nil => simp [insertionSort]
  case append_singleton as a hi =>
    obtain ⟨hr, _, ha⟩ := List.pairwise_append.mp hr
    have hi := hi (h.mono <| List.subset_append_left as [a]) hr
    rw [insertionSort_concat, List.pairwise_reverse]
    refine settle_pairwise (h.mono ?_) (List.pairwise_reverse.mpr hi) fun b hb => ?_
    case refine_1 =>
      intro b hb
      simpa [insertionSort_perm.mem_iff, or_comm] using hb
    case refine_2 =>
      exact ha b (insertionSort_perm.mem_iff.mp (List.mem_reverse.mp hb)) a (by simp)

theorem insertionSort_filter (h : ∀ a ∈ as, ∀ b ∈ as, p a → p b → before a b = false) :
    (insertionSort before as).filter p = as.filter p := by
  induction as using List.reverseRecOn
  case nil => rfl
  case append_singleton as a hi =>
    have hi := hi fun a ha b hb => h a (by simp [ha]) b (by simp [hb])
    have hs : ∀ b ∈ (insertionSort before as).reverse, p a → p b → before a b = false := by
      intro b hb
      have hb : b ∈ as := insertionSort_perm.mem_iff.mp (List.mem_reverse.mp hb)
      exact h a (by simp) b (by simp [hb])
    rw [insertionSort_concat, List.filter_reverse, settle_filter hs, List.filter_cons, List.filter_append]
    split <;> simp_all

namespace Arranged

variable {sorted sorted' : List α}

theorem insertionSort (h : PreorderOn cmp as) :
    Arranged cmp as (insertionSort (cmp · · == .lt) as) where
  perm    := insertionSort_perm
  ordered :=
    have ht := List.pairwise_of_forall fun _ _ => trivial
    (insertionSort_pairwise (R := fun _ _ => True) h ht).imp ThenBy.isLE
  stable  := by
    intro a ha
    refine insertionSort_filter fun b hb c hc hab hac => ?_
    simp [h.tie_trans ha hb hc (by simpa using hab) (by simpa using hac)]

-- What is in order already stays as it is: its first item ties with the first item of the arrangement, and of
-- the items that tie with it the same one comes first in both.
theorem eq_of_ordered
    (h : PreorderOn cmp as) (hs : Arranged cmp as sorted) (ho : as.Pairwise fun a b => (cmp a b).isLE) :
    sorted = as := by
  induction sorted generalizing as
  case nil => exact hs.perm.nil_eq
  case cons x xs hi =>
    cases as
    case nil => exact hs.perm.eq_nil
    case cons y ys =>
      have ⟨hx, hxs⟩ := List.pairwise_cons.mp hs.ordered
      have ⟨hy, hys⟩ := List.pairwise_cons.mp ho
      have hx' : x ∈ y :: ys := hs.perm.mem_iff.mp (by simp)
      have hy' : y ∈ x :: xs := hs.perm.mem_iff.mpr (by simp)
      have hxy : cmp x y = .eq := by
        refine h.eq_iff.mpr ⟨?_, ?_⟩
        case refine_1 => exact (List.mem_cons.mp hy').elim (· ▸ (h.eq_iff.mp (h.self _)).left) (hx y)
        case refine_2 => exact (List.mem_cons.mp hx').elim (· ▸ (h.eq_iff.mp (h.self _)).left) (hy x)
      -- As the two tie, both lists begin with the first of the items that tie with them.
      have he := hs.stable x hx'
      simp only [List.filter_cons, h.self, hxy, beq_self_eq_true, if_true, List.cons.injEq] at he
      have hxy := he.left
      subst hxy
      refine congrArg (x :: ·) <| hi (h.mono (List.subset_cons_self x ys)) ⟨?_, hxs, fun a ha => ?_⟩ hys
      case refine_1 => exact hs.perm.cons_inv
      case refine_2 =>
        have ha := hs.stable a (.tail x ha)
        rw [List.filter_cons, List.filter_cons] at ha
        split at ha
        case isTrue  => exact (List.cons.inj ha).right
        case isFalse => exact ha

theorem unique (h : PreorderOn cmp as) (hs : Arranged cmp as sorted) (hs' : Arranged cmp as sorted') :
    sorted = sorted' := by
  have h' : PreorderOn cmp sorted' := h.mono hs'.perm.subset
  refine eq_of_ordered h' ⟨hs.perm.trans hs'.perm.symm, hs.ordered, fun a ha => ?_⟩ hs'.ordered
  have ha := hs'.perm.mem_iff.mp ha
  rw [hs.stable a ha, hs'.stable a ha]

theorem filter (hs : Arranged cmp as sorted) (p : α → Bool) :
    Arranged cmp (as.filter p) (sorted.filter p) where
  perm    := hs.perm.filter p
  ordered := hs.ordered.filter p
  stable  := by
    intro a ha
    rw [List.filter_comm, hs.stable a (List.mem_filter.mp ha).left, List.filter_comm]

end Arranged

end
end StatsQuery
