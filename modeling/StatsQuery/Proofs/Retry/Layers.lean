import Mathlib.Tactic.Choose
import StatsQuery.Proofs.Error.Steps
import StatsQuery.Retry

namespace StatsQuery

namespace Setting

def bound : Setting → Nat
  | retries           => UInt32.size
  | timeout | backoff => UInt64.size

def fallback : Setting → Nat
  | timeout => 10
  | retries => 3
  | backoff => 300

def assign (forTimeout forRetries forBackoff : α) : Setting → α
  | timeout => forTimeout
  | retries => forRetries
  | backoff => forBackoff

def Admits (s : Setting) (n : Nat) : Prop :=
  s = backoff ∨ n ≠ 0

theorem admits_getD_iff {s : Setting} {value : Option Nat} :
    s.Admits (value.getD s.fallback) ↔ ∀ n ∈ value, s.Admits n := by
  have : s.Admits s.fallback := by cases s <;> simp [Admits, fallback]
  cases value <;> simp [this]

end Setting

theorem Duration.ofSeconds_eq_zero_iff : Duration.ofSeconds n = .zero ↔ n = 0 := by
  simp only [ofSeconds, zero, second, mk.injEq]
  omega

def RetryOptions.number? (o : RetryOptions) : Setting → Option Nat
  | .timeout => o.timeout
  | .retries => o.retries
  | .backoff => o.backoff

namespace Environment

variable {env : Environment} {s : Setting}

inductive Holds (env : Environment) (s : Setting) : Option Nat → Prop
  | unset : (env.text? s = none) → Holds env s none
  | set :
    (env.text? s = some text) → (Text.unsigned? (Text.trim text.toList) = some n) → (n < s.bound) →
      Holds env s (some n)

def Sound (env : Environment) (s : Setting) : Prop :=
  ∃ value, env.Holds s value ∧ ∀ n ∈ value, s.Admits n

def read (env : Environment) (s : Setting) : Except Error (Option Nat) :=
  (env.number s).bind fun
    | some n => if n < s.bound then .ok (some n) else .error (.badPolicy (.tooLarge s n))
    | none   => .ok none

theorem read_eq_number (h : s.bound = UInt64.size) : env.read s = env.number s := by
  unfold read number
  split
  case h_1 => rfl
  case h_2 =>
    split
    case h_1 n _ =>
      by_cases hn : n < UInt64.size <;> simp [Except.bind, hn, h]
    case h_2 => rfl

theorem read_eq_ok_iff : env.read s = .ok value ↔ env.Holds s value := by
  have hb : s.bound ≤ UInt64.size := by cases s <;> decide
  unfold read number
  constructor
  case mp =>
    intro h
    split at h
    case h_1 ht =>
      cases h
      exact .unset ht
    case h_2 text ht =>
      split at h
      case h_2 => contradiction
      case h_1 n hn =>
        split at h
        case isFalse => contradiction
        case isTrue =>
          simp only [Except.bind] at h
          split at h <;> cases h
          exact .set ht hn ‹_›
  case mpr =>
    intro h
    cases h
    case unset ht => simp [ht, Except.bind]
    case set ht hn hl => simp [ht, hn, Except.bind, hl, Nat.lt_of_lt_of_le hl hb]

theorem read_congr {env' : Environment} (h : env.text? s = env'.text? s) : env.read s = env'.read s := by
  simp only [read, number, h]

end Environment

namespace RetryPolicy

open Setting (Admits)

variable {env : Environment} {o : RetryOptions} {number : Setting → Nat}

def ofNumbers (number : Setting → Nat) : RetryPolicy where
  timeout     := .ofSeconds (number .timeout)
  maxAttempts := number .retries
  baseBackoff := .ofMilliseconds (number .backoff)

theorem valid_ofNumbers_iff : (ofNumbers number).Valid ↔ ∀ s : Setting, s.Admits (number s) := by
  constructor
  case mp =>
    intro ⟨ha, hn⟩ s
    cases s
    case timeout => exact .inr <| mt Duration.ofSeconds_eq_zero_iff.mpr hn
    case retries => exact .inr ha
    case backoff => exact .inl rfl
  case mpr =>
    intro h
    exact ⟨(h .retries).resolve_left nofun, mt Duration.ofSeconds_eq_zero_iff.mp <| (h .timeout).resolve_left nofun⟩

theorem override_ofNumbers :
    (ofNumbers number).override o = (ofNumbers fun s => (o.number? s).getD (number s)).validate := by
  unfold override ofNumbers RetryOptions.number?
  cases o.timeout <;> cases o.backoff <;>
    simp only [Option.map_some, Option.map_none, Option.getD_some, Option.getD_none]

-- The policy of an environment is checked only when all of its numbers have been read.
theorem ofEnvironment_eq :
    ofEnvironment env = (do
      let timeout ← env.read .timeout
      let retries ← env.read .retries
      let backoff ← env.read .backoff
      (ofNumbers fun s => (Setting.assign timeout retries backoff s).getD s.fallback).validate) := by
  have hp : ∀ timeout retries backoff : Option Nat,
      ({ timeout     := (timeout.map .ofSeconds).getD ({} : RetryPolicy).timeout
         maxAttempts := retries.getD ({} : RetryPolicy).maxAttempts
         baseBackoff := (backoff.map .ofMilliseconds).getD ({} : RetryPolicy).baseBackoff } : RetryPolicy) =
        ofNumbers fun s => (Setting.assign timeout retries backoff s).getD s.fallback := by
    intro timeout retries backoff
    cases timeout <;> cases backoff <;> rfl
  rw [Environment.read_eq_number (s := .timeout) rfl, Environment.read_eq_number (s := .backoff) rfl]
  unfold ofEnvironment Environment.read
  simp only [hp, bind, Except.bind, pure, Except.pure, throw, throwThe, MonadExceptOf.throw]
  cases env.number .timeout <;> try rfl
  case ok timeout =>
    rcases env.number .retries with _ | _ | n <;> try rfl
    case ok.some =>
      simp only [Setting.bound]
      by_cases hn : n < UInt32.size <;> simp only [hn, if_true, if_false]

theorem ofEnvironment_eq_ok_iff :
    ofEnvironment env = .ok p ↔
      ∃ value : Setting → Option Nat, (∀ s, env.Holds s (value s)) ∧
        p = ofNumbers (fun s => (value s).getD s.fallback) ∧ p.Valid := by
  rw [ofEnvironment_eq]
  simp only [bind_eq_ok_iff, Environment.read_eq_ok_iff, validate_eq_ok_iff]
  constructor
  case mp =>
    intro ⟨timeout, ht, retries, hr, backoff, hb, hp, hv⟩
    exact ⟨Setting.assign timeout retries backoff, fun s => by cases s <;> assumption, hp.symm, hp ▸ hv⟩
  case mpr =>
    intro ⟨value, hh, hp, hv⟩
    have ha : Setting.assign (value .timeout) (value .retries) (value .backoff) = value := by
      funext s
      cases s <;> rfl
    exact ⟨_, hh _, _, hh _, _, hh _, by rw [ha, hp], by rwa [ha, ← hp]⟩

inductive InForce (env : Environment) (o : RetryOptions) (s : Setting) : Nat → Prop
  | given : (o.number? s = some n) → InForce env o s n
  | held  : (o.number? s = none) → (env.Holds s (some n)) → InForce env o s n
  | unset : (o.number? s = none) → (env.Holds s none) → InForce env o s s.fallback

theorem InForce.of_holds (h : env.Holds s value) :
    InForce env o s ((o.number? s).getD (value.getD s.fallback)) := by
  cases ho : o.number? s with
  | some n => exact .given ho
  | none   =>
    cases value with
    | none   => exact .unset ho h
    | some n => exact .held ho h

theorem InForce.exists_holds
    (h : InForce env o s n) (hs : o.number? s ≠ none → env.Sound s) (hn : s.Admits n) :
    ∃ value, env.Holds s value ∧ s.Admits (value.getD s.fallback) ∧
      n = (o.number? s).getD (value.getD s.fallback) := by
  cases h
  case held ho hh  => exact ⟨_, hh, hn, by simp [ho]⟩
  case unset ho hh => exact ⟨_, hh, hn, by simp [ho]⟩
  case given ho =>
    have ⟨value, hh, ha⟩ := hs (by simp [ho])
    exact ⟨value, hh, Setting.admits_getD_iff.mpr ha, by simp [ho]⟩

theorem resolve_eq_ok_iff :
    resolve env o = .ok p ↔
      (∀ s, o.number? s ≠ none → env.Sound s) ∧
      ∃ number, (∀ s, InForce env o s (number s)) ∧ p = ofNumbers number ∧ p.Valid := by
  change (ofEnvironment env >>= (·.override o)) = .ok p ↔ _
  simp only [bind_eq_ok_iff, ofEnvironment_eq_ok_iff]
  constructor
  case mp =>
    intro ⟨_, ⟨value, hh, he, hv⟩, hp⟩
    subst he
    rw [override_ofNumbers, validate_eq_ok_iff] at hp
    have ha := valid_ofNumbers_iff.mp hv
    exact ⟨fun s _ => ⟨value s, hh s, Setting.admits_getD_iff.mp (ha s)⟩,
      _, fun s => .of_holds (hh s), hp.left.symm, hp.left ▸ hp.right⟩
  case mpr =>
    intro ⟨hs, number, hf, hp, hv⟩
    subst hp
    have ha := valid_ofNumbers_iff.mp hv
    choose value hh hd hn using fun s => (hf s).exists_holds (hs s) (ha s)
    refine ⟨_, ⟨value, hh, rfl, valid_ofNumbers_iff.mpr hd⟩, ?_⟩
    rw [override_ofNumbers, ← funext hn, validate_eq_ok_iff]
    exact ⟨rfl, hv⟩

def Exchangeable (o : RetryOptions) (s : Setting) (m n : Nat) : Prop :=
  m = n ∨ o.number? s ≠ none ∧ s.Admits m ∧ s.Admits n

theorem Exchangeable.eq_zero_iff (h : Exchangeable o s m n) (hs : s ≠ .backoff) : m = 0 ↔ n = 0 := by
  cases h
  case inl h => rw [h]
  case inr h =>
    have ⟨_, hm, hn⟩ := h
    simp [hm.resolve_left hs, hn.resolve_left hs]

theorem Exchangeable.getD_eq (h : Exchangeable o s m n) : (o.number? s).getD m = (o.number? s).getD n := by
  cases h
  case inl h => rw [h]
  case inr h =>
    have ⟨_, ho⟩ := Option.ne_none_iff_exists'.mp h.left
    simp [ho]

theorem validate_ofNumbers :
    (ofNumbers number).validate =
      if number .retries = 0 then .error (.badPolicy .noAttempts)
      else if number .timeout = 0 then .error (.badPolicy .noTimeout)
      else .ok (ofNumbers number) := by
  simp only [validate, ofNumbers, Duration.ofSeconds_eq_zero_iff]

theorem override_congr {number number' : Setting → Nat} (h : ∀ s, Exchangeable o s (number s) (number' s)) :
    ((ofNumbers number).validate >>= (·.override o)) = ((ofNumbers number').validate >>= (·.override o)) := by
  have hr := (h .retries).eq_zero_iff nofun
  have ht := (h .timeout).eq_zero_iff nofun
  rw [validate_ofNumbers, validate_ofNumbers]
  by_cases hr' : number' .retries = 0
  case pos => simp only [hr, hr', if_true]
  case neg =>
    by_cases ht' : number' .timeout = 0
    case pos => simp only [hr, hr', ht, ht', if_true, if_false]
    case neg =>
      simp only [hr, hr', ht, ht', if_false]
      change (ofNumbers number).override o = (ofNumbers number').override o
      rw [override_ofNumbers, override_ofNumbers]
      simp only [(h _).getD_eq]

theorem resolve_eq_bind :
    resolve env o = (do
      let timeout ← env.read .timeout
      let retries ← env.read .retries
      let backoff ← env.read .backoff
      (ofNumbers fun s => (Setting.assign timeout retries backoff s).getD s.fallback).validate >>=
        (·.override o)) := by
  change (ofEnvironment env >>= (·.override o)) = _
  rw [ofEnvironment_eq]
  simp only [bind_assoc]

theorem read_agree {env' : Environment}
    (ha : o.number? s = none → env.text? s = env'.text? s)
    (hs : o.number? s ≠ none → env.Sound s ∧ env'.Sound s) :
    Agree (fun v v' => Exchangeable o s (v.getD s.fallback) (v'.getD s.fallback)) (env.read s) (env'.read s) := by
  by_cases ho : o.number? s = none
  case pos =>
    rw [Environment.read_congr (ha ho)]
    cases env'.read s with
    | error => exact .error
    | ok    => exact .ok (.inl rfl)
  case neg =>
    have ⟨⟨_, hh, hv⟩, _, hh', hv'⟩ := hs ho
    rw [Environment.read_eq_ok_iff.mpr hh, Environment.read_eq_ok_iff.mpr hh']
    exact .ok <| .inr ⟨ho, Setting.admits_getD_iff.mpr hv, Setting.admits_getD_iff.mpr hv'⟩

theorem resolve_congr {env' : Environment}
    (ha : ∀ s, o.number? s = none → env.text? s = env'.text? s)
    (hs : ∀ s, o.number? s ≠ none → env.Sound s ∧ env'.Sound s) : resolve env o = resolve env' o := by
  have hr s := read_agree (ha s) (hs s)
  rw [resolve_eq_bind, resolve_eq_bind]
  refine (hr .timeout).bind_eq fun _ _ ht => (hr .retries).bind_eq fun _ _ hn => ?_
  refine (hr .backoff).bind_eq fun _ _ hb => override_congr fun s => ?_
  cases s <;> assumption

-- The policy is made of the settings in force, whatever else the environment holds, as long as the variables
-- that options replace are sound. One of them that is not refuses the policy.
theorem resolve_overridden_iff (env : Environment) (o : RetryOptions) :
    (∀ p, resolve env o = .ok p ↔
      (∀ s, o.number? s ≠ none → env.Sound s) ∧
      ∃ number, (∀ s, InForce env o s (number s)) ∧ p = ofNumbers number ∧ p.Valid) ∧
    (∀ env' : Environment, (∀ s, o.number? s = none → env.text? s = env'.text? s) →
      (∀ s, o.number? s ≠ none → env.Sound s ∧ env'.Sound s) → resolve env o = resolve env' o) :=
  ⟨fun _ => resolve_eq_ok_iff, fun _ => resolve_congr⟩

theorem resolve_not_overridden :
    let o : RetryOptions := { retries := some 5 }
    resolve {} o = .ok { maxAttempts := 5 } ∧
    ∀ text ∈ ["lots", "0"],
      let env : Environment := { retries := some text }
      (∀ s, o.number? s = none → env.text? s = ({} : Environment).text? s) ∧ ∀ p, resolve env o ≠ .ok p := by
  have hl : resolve { retries := some "lots" } { retries := some 5 } =
      .error (.badPolicy (.notANumber .retries "lots")) := rfl
  have hz : resolve { retries := some "0" } { retries := some 5 } = .error (.badPolicy .noAttempts) := rfl
  refine ⟨rfl, fun text ht => ⟨fun s => ?_, ?_⟩⟩
  · cases s <;> simp [RetryOptions.number?, Environment.text?]
  · simp only [List.mem_cons, List.not_mem_nil, or_false] at ht
    rcases ht with ht | ht <;> subst ht <;> simp [hl, hz]

end RetryPolicy

end StatsQuery
