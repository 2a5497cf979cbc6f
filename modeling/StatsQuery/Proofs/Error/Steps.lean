import Mathlib.Data.List.Forall2
import StatsQuery.Error

namespace StatsQuery

theorem bind_eq_ok_iff {r : Except ε α} {f : α → Except ε β} :
    (r >>= f) = .ok b ↔ ∃ a, r = .ok a ∧ f a = .ok b := by
  cases r <;> simp [bind, Except.bind]

theorem bind_eq_error_iff {r : Except Error α} {f : α → Except Error β} :
    r.bind f = .error e ↔ r = .error e ∨ ∃ a, r = .ok a ∧ f a = .error e := by
  cases r <;> simp [Except.bind]

theorem eq_ok_of_toOption {r : Except ε α} (h : r.toOption = some a) : r = .ok a := by
  cases r with
  | error => contradiction
  | ok    => rw [Option.some.inj h]

theorem bind_eq_some_iff
    {r : Except Error (Option α)} {f : Option α → Except Error (Option β)} (make : α → Except Error β)
    (hn : f none = .ok none) (hf : ∀ a, f (some a) = (make a).bind fun b => .ok (some b)) :
    r.bind f = .ok (some b) ↔ ∃ a, r = .ok (some a) ∧ make a = .ok b := by
  cases r with
  | error => simp [Except.bind]
  | ok o =>
    cases o with
    | none   => simp [Except.bind, hn]
    | some a => cases h : make a <;> simp [Except.bind, hf, h]

inductive Agree (R : α → α → Prop) : Except Error α → Except Error α → Prop
  | error : Agree R (.error e) (.error e)
  | ok    : R a a' → Agree R (.ok a) (.ok a')

theorem Agree.bind_eq {r r' : Except Error α} {f g : α → Except Error β}
    (h : Agree R r r') (hf : ∀ a a', R a a' → f a = g a') : (r >>= f) = (r' >>= g) := by
  cases h with
  | error => rfl
  | ok h  => exact hf _ _ h

section Checks

variable {as : List α} {check : α → Except Error Unit}

theorem forM_eq_ok_iff : as.forM check = .ok () ↔ ∀ a ∈ as, check a = .ok () := by
  induction as with
  | nil          => simp [pure, Except.pure]
  | cons a as hi =>
    rw [List.forall_mem_cons, ← hi]
    exact bind_eq_ok_iff.trans ⟨fun ⟨_, ha, hs⟩ => ⟨ha, hs⟩, fun ⟨ha, hs⟩ => ⟨_, ha, hs⟩⟩

-- The first element that fails its check is the one whose error is reported.
theorem forM_eq_error_iff :
    as.forM check = .error e ↔
      ∃ before a after, as = before ++ a :: after ∧ (∀ b ∈ before, check b = .ok ()) ∧ check a = .error e := by
  induction as with
  | nil          => simp [pure, Except.pure]
  | cons a as hi =>
    refine bind_eq_error_iff.trans ⟨?mp, ?mpr⟩
    case mp =>
      intro h
      cases h with
      | inl ha => exact ⟨[], a, as, rfl, nofun, ha⟩
      | inr h  =>
        have ⟨_, ha, hs⟩ := h
        have ⟨before, b, after, he, hb, hf⟩ := hi.mp hs
        exact ⟨a :: before, b, after, congrArg _ he, List.forall_mem_cons.mpr ⟨ha, hb⟩, hf⟩
    case mpr =>
      intro ⟨before, b, after, he, hb, hf⟩
      cases before with
      | nil =>
        cases he
        exact .inl hf
      | cons _ before =>
        cases he
        have ⟨ha, hb⟩ := List.forall_mem_cons.mp hb
        exact .inr ⟨_, ha, hi.mpr ⟨before, b, after, rfl, hb, hf⟩⟩

end Checks

theorem mapM_eq_ok_iff {f : α → Except ε β} : as.mapM f = .ok bs ↔ List.Forall₂ (f · = .ok ·) as bs := by
  induction as generalizing bs with
  | nil          => cases bs <;> simp [pure, Except.pure]
  | cons a as hi =>
    rw [List.mapM_cons, bind_eq_ok_iff, List.forall₂_cons_left_iff]
    constructor
    case mp =>
      intro ⟨b, hb, h⟩
      have ⟨bs, hs, he⟩ := bind_eq_ok_iff.mp h
      exact ⟨b, bs, hb, hi.mp hs, (Except.ok.inj he).symm⟩
    case mpr =>
      intro ⟨b, bs, hb, hs, he⟩
      exact ⟨b, hb, bind_eq_ok_iff.mpr ⟨bs, hi.mpr hs, he ▸ rfl⟩⟩

end StatsQuery
