import StatsQuery.Json.Order
import StatsQuery.Proofs.Numeric.Rounding

open Std

namespace StatsQuery

namespace Number

variable {m n k : Number}

-- Two integers in decreasing order, and a third number between them that equals both.
inductive Clash (m n k : Number) : Prop
  | intro :
    (m.toSigned? = some a) → (n.toSigned? = none) → (k.toSigned? = some b) → (b < a) →
    (m.toDouble = n.toDouble) → (n.toDouble = k.toDouble) → Clash m n k

def ClashFree (P : Number → Prop) : Prop :=
  ∀ m n k, P m → P n → P k → ¬Clash m n k

theorem compare_of_signed (hm : m.toSigned? = some a) (hn : n.toSigned? = some b) :
    m.compare n = Ord.compare a b := by
  simp [compare, hm, hn]

theorem compare_of_not_signed (h : m.toSigned? = none ∨ n.toSigned? = none) :
    m.compare n = Ord.compare m.toDouble.rank n.toDouble.rank := by
  cases h
  case inl h => simp only [compare, h]; rfl
  case inr h => cases hm : m.toSigned? <;> simp only [compare, h, hm] <;> rfl

theorem signed_or_not (m n : Number) :
    (∃ a b, m.toSigned? = some a ∧ n.toSigned? = some b) ∨
      (m.toSigned? = none ∨ n.toSigned? = none) := by
  cases m.toSigned? <;> cases n.toSigned? <;> simp

theorem toDouble_of_signed (h : m.toSigned? = some a) : m.toDouble = .ofInt a := by
  cases m <;> simp [toSigned?] at h
  case int => simp [toDouble, h.right]

theorem compare_swap (m n : Number) : m.compare n = (n.compare m).swap := by
  cases signed_or_not m n
  case inl h =>
    have ⟨_, _, hm, hn⟩ := h
    rw [compare_of_signed hm hn, compare_of_signed hn hm]
    exact OrientedOrd.eq_swap
  case inr h =>
    rw [compare_of_not_signed h, compare_of_not_signed h.symm]
    exact OrientedOrd.eq_swap

theorem rank_le_of_isLE (h : (m.compare n).isLE) : m.toDouble.rank ≤ n.toDouble.rank := by
  cases signed_or_not m n
  case inl hs =>
    have ⟨_, _, hm, hn⟩ := hs
    rw [compare_of_signed hm hn] at h
    rw [toDouble_of_signed hm, toDouble_of_signed hn]
    exact Double.rank_ofInt_mono <| Int.isLE_compare.mp h
  case inr hs =>
    rw [compare_of_not_signed hs] at h
    exact Int.isLE_compare.mp h

theorem compare_of_toDouble_eq (h : n.toSigned? = none) (h' : m.toDouble = n.toDouble) :
    m.compare n = .eq := by
  rw [compare_of_not_signed (.inr h), h']
  exact compare_self

theorem breaks_iff_clash :
    (m.compare n).isLE ∧ (n.compare k).isLE ∧ ¬(m.compare k).isLE ↔ Clash m n k := by
  constructor
  case mp =>
    intro ⟨h₁, h₂, h⟩
    have hr := Int.le_trans (rank_le_of_isLE h₁) (rank_le_of_isLE h₂)
    cases signed_or_not m k
    case inr hs =>
      rw [compare_of_not_signed hs] at h
      exact absurd (Int.isLE_compare.mpr hr) h
    case inl hs =>
      have ⟨a, b, hm, hk⟩ := hs
      rw [compare_of_signed hm hk, Int.isLE_compare, Int.not_le] at h
      cases hn : n.toSigned?
      case some =>
        rw [compare_of_signed hm hn, Int.isLE_compare] at h₁
        rw [compare_of_signed hn hk, Int.isLE_compare] at h₂
        omega
      case none =>
        -- The signed numbers keep their order when they are rounded, so that all three are rounded alike.
        have hr' : k.toDouble.rank ≤ m.toDouble.rank := by
          rw [toDouble_of_signed hm, toDouble_of_signed hk]
          exact Double.rank_ofInt_mono <| Int.le_of_lt h
        have h₁ : m.toDouble.rank ≤ n.toDouble.rank := rank_le_of_isLE h₁
        have h₂ : n.toDouble.rank ≤ k.toDouble.rank := rank_le_of_isLE h₂
        refine .intro hm hn hk h ?_ ?_ <;> exact Double.rank_injective <| by omega
  case mpr =>
    intro ⟨hm, hn, hk, h, h₁, h₂⟩
    refine ⟨?_, ?_, ?_⟩
    case refine_1 => rw [compare_of_toDouble_eq hn h₁]; rfl
    case refine_2 => rw [compare_swap, compare_of_toDouble_eq hn h₂.symm]; rfl
    case refine_3 => rw [compare_of_signed hm hk, Int.isLE_compare]; omega

end Number

namespace Json

mutual

-- All numbers of a value that are compared have a property. Those within objects never are.
def NumbersIn (P : Number → Prop) : Json → Prop
  | num n  => P n
  | arr js => ItemsIn P js
  | _      => True

def ItemsIn (P : Number → Prop) : List Json → Prop
  | []      => True
  | j :: js => NumbersIn P j ∧ ItemsIn P js

end

theorem compare_of_kind_ne {j k : Json} (h : j.kind ≠ k.kind) :
    j.compare k = Ord.compare j.kind k.kind := by
  cases j <;> cases k <;> try contradiction
  all_goals rfl

theorem kind_le_of_isLE {j k : Json} (h : (j.compare k).isLE) : j.kind ≤ k.kind := by
  by_cases hk : j.kind = k.kind
  case pos => exact Nat.le_of_eq hk
  case neg =>
    rw [compare_of_kind_ne hk] at h
    exact Nat.isLE_compare.mp h

mutual

theorem compare_swap (j k : Json) : j.compare k = (k.compare j).swap := by
  by_cases h : j.kind = k.kind
  case neg =>
    rw [compare_of_kind_ne h, compare_of_kind_ne (Ne.symm h)]
    exact OrientedOrd.eq_swap
  case pos =>
    cases j <;> cases k <;> simp [kind] at h
    case arr.arr js ks             => exact compareItems_swap js ks
    case num.num m n               => exact Number.compare_swap m n
    case null.null | obj.obj       => rfl
    case bool.bool | str.str       => exact OrientedOrd.eq_swap

theorem compareItems_swap (js ks : List Json) : compareItems js ks = (compareItems ks js).swap := by
  cases js <;> cases ks
  case cons.cons j js k ks =>
    rw [compareItems, compareItems, compare_swap j k, compareItems_swap js ks, Ordering.swap_then]
  all_goals rfl

end

theorem compare_self (j : Json) : j.compare j = .eq :=
  Ordering.eq_eq_of_eq_swap (compare_swap j j)

theorem then_isLE_trans {a b c a' b' c' : Ordering}
    (h : a.isLE → b.isLE → c.isLE) (he : a.isLE → b.isLE → c = .eq → a = .eq ∧ b = .eq)
    (h' : a'.isLE → b'.isLE → c'.isLE) (h₁ : (a.then a').isLE) (h₂ : (b.then b').isLE) :
    (c.then c').isLE := by
  have ha := Ordering.isLE_left_of_isLE_then h₁
  have hb := Ordering.isLE_left_of_isLE_then h₂
  cases c
  case lt => rfl
  case gt => exact absurd (h ha hb) (by decide)
  case eq =>
    have ⟨ha, hb⟩ := he ha hb rfl
    subst ha hb
    exact h' h₁ h₂

variable {P : Number → Prop}

mutual

theorem isLE_trans {a b c : Json}
    (hP : Number.ClashFree P) (ha : a.NumbersIn P) (hb : b.NumbersIn P) (hc : c.NumbersIn P)
    (h₁ : (a.compare b).isLE) (h₂ : (b.compare c).isLE) : (a.compare c).isLE := by
  have hk₁ := kind_le_of_isLE h₁
  have hk₂ := kind_le_of_isLE h₂
  by_cases hk : a.kind = c.kind
  case neg =>
    rw [compare_of_kind_ne hk, Nat.isLE_compare]
    exact Nat.le_trans hk₁ hk₂
  case pos =>
    have hk' : a.kind = b.kind := by omega
    cases a <;> cases c <;> simp [kind] at hk
    all_goals cases b <;> simp [kind] at hk'
    case arr.arr.arr as cs bs => exact items_isLE_trans hP ha hb hc h₁ h₂
    case num.num.num m k n =>
      by_cases h : (m.compare k).isLE
      case pos => exact h
      case neg => exact absurd (Number.breaks_iff_clash.mp ⟨h₁, h₂, h⟩) (hP m n k ha hb hc)
    case null.null.null | obj.obj.obj => rfl
    case bool.bool.bool | str.str.str => exact TransOrd.isLE_trans h₁ h₂
termination_by sizeOf a + sizeOf b + sizeOf c

theorem items_isLE_trans {as bs cs : List Json}
    (hP : Number.ClashFree P) (ha : ItemsIn P as) (hb : ItemsIn P bs) (hc : ItemsIn P cs)
    (h₁ : (compareItems as bs).isLE) (h₂ : (compareItems bs cs).isLE) :
    (compareItems as cs).isLE := by
  cases as <;> cases bs <;> cases cs <;> try first | rfl | contradiction
  case cons.cons.cons a as b bs c cs =>
    have ⟨ha, has⟩ := ha
    have ⟨hb, hbs⟩ := hb
    have ⟨hc, hcs⟩ := hc
    refine then_isLE_trans (isLE_trans hP ha hb hc) ?_ (items_isLE_trans hP has hbs hcs) h₁ h₂
    intro h₁ h₂ he
    have he : (c.compare a).isLE := by rw [compare_swap, he]; rfl
    have h₁' : (b.compare a).isLE := isLE_trans hP hb hc ha h₂ he
    have h₂' : (c.compare b).isLE := isLE_trans hP hc ha hb he h₁
    rw [compare_swap] at h₁' h₂'
    exact ⟨Ordering.eq_eq_of_isLE_of_isLE_swap h₁ h₁', Ordering.eq_eq_of_isLE_of_isLE_swap h₂ h₂'⟩
termination_by sizeOf as + sizeOf bs + sizeOf cs

end

-- The order is reflexive and total. It is transitive on the values made of numbers without a clash, and
-- on no others.
theorem compare_preorder_iff (P : Number → Prop) :
    (∀ j : Json, j.compare j = .eq) ∧
    (∀ j k : Json, k.compare j = (j.compare k).swap) ∧
    (∀ m n k : Number,
      ((m.compare n).isLE ∧ (n.compare k).isLE ∧ ¬(m.compare k).isLE) ↔ Number.Clash m n k) ∧
    ((∀ a b c : Json, a.NumbersIn P → b.NumbersIn P → c.NumbersIn P →
      (a.compare b).isLE → (b.compare c).isLE → (a.compare c).isLE) ↔ Number.ClashFree P) := by
  refine ⟨compare_self, fun j k => compare_swap k j, fun _ _ _ => Number.breaks_iff_clash, ?_⟩
  constructor
  case mp =>
    intro h m n k hm hn hk hc
    have ⟨h₁, h₂, h₃⟩ := Number.breaks_iff_clash.mpr hc
    exact h₃ <| h (num m) (num n) (num k) hm hn hk h₁ h₂
  case mpr =>
    intro hP a b c ha hb hc
    exact isLE_trans hP ha hb hc

theorem compare_not_transitive :
    ¬∀ a b c : Json, (a.compare b).isLE → (b.compare c).isLE → (a.compare c).isLE := by
  intro h
  let a := num (.int 0x7FFFFFFFFFFFFFFF (by decide))
  let b := num (.int 0x8000000000000000 (by decide))
  let c := num (.int 0x7FFFFFFFFFFFFFFE (by decide))
  have h : (a.compare c).isLE := h a b c (by decide +kernel) (by decide +kernel)
  exact absurd h (by decide +kernel)

end Json

end StatsQuery
