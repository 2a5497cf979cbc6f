import StatsQuery.Environment

namespace StatsQuery

structure Duration where
  nanoseconds : Nat
deriving DecidableEq

namespace Duration

def zero : Duration := ⟨0⟩

def second : Nat := 1000000000

def millisecond : Nat := 1000000

def max : Duration := ⟨UInt64.size * second - 1⟩

def ofSeconds (n : Nat) : Duration := ⟨n * second⟩

def ofMilliseconds (n : Nat) : Duration := ⟨n * millisecond⟩

def seconds (d : Duration) : Nat :=
  d.nanoseconds / second

def subseconds (d : Duration) : Nat :=
  d.nanoseconds % second

-- A multiple, or the longest span if the multiple would be longer. The two parts are multiplied apart, and
-- the whole seconds that the subseconds amount to are carried over.
def times (d : Duration) (n : Nat) : Duration :=
  let parts := d.subseconds * n
  let seconds := d.seconds * n + parts / second
  if seconds < UInt64.size then ⟨seconds * second + parts % second⟩ else max

end Duration

structure RetryPolicy where
  timeout     : Duration := .ofSeconds 10
  maxAttempts : Nat := 3
  baseBackoff : Duration := .ofMilliseconds 300
deriving DecidableEq

structure RetryOptions where
  timeout : Option Nat := none
  retries : Option Nat := none
  backoff : Option Nat := none
deriving DecidableEq

namespace RetryPolicy

def validate (p : RetryPolicy) : Except Error RetryPolicy :=
  if p.maxAttempts = 0 then .error (.badPolicy .noAttempts)
  else if p.timeout = .zero then .error (.badPolicy .noTimeout)
  else .ok p

def Valid (p : RetryPolicy) : Prop :=
  p.maxAttempts ≠ 0 ∧ p.timeout ≠ .zero

theorem valid_default : ({} : RetryPolicy).Valid :=
  ⟨by decide, by decide⟩

theorem validate_eq_ok_iff {p q : RetryPolicy} : p.validate = .ok q ↔ p = q ∧ p.Valid := by
  unfold validate Valid
  split <;> simp_all
  split <;> simp_all

def ofEnvironment (env : Environment) : Except Error RetryPolicy := do
  let timeout ← env.number .timeout
  let retries ← env.number .retries
  let retries ← match retries with
    | some n => if n < UInt32.size then pure (some n) else throw (.badPolicy (.tooLarge .retries n))
    | none   => pure none
  let backoff ← env.number .backoff
  let default : RetryPolicy := {}
  validate {
    timeout     := (timeout.map .ofSeconds).getD default.timeout
    maxAttempts := retries.getD default.maxAttempts
    baseBackoff := (backoff.map .ofMilliseconds).getD default.baseBackoff }

def override (p : RetryPolicy) (o : RetryOptions) : Except Error RetryPolicy :=
  validate {
    timeout     := (o.timeout.map .ofSeconds).getD p.timeout
    maxAttempts := o.retries.getD p.maxAttempts
    baseBackoff := (o.backoff.map .ofMilliseconds).getD p.baseBackoff }

def resolve (env : Environment) (o : RetryOptions) : Except Error RetryPolicy := do
  (← ofEnvironment env).override o

def factor (attempt : Nat) : Nat :=
  if attempt - 2 < 32 then 1 <<< (attempt - 2) else UInt32.size - 1

def delayBefore (p : RetryPolicy) (attempt : Nat) : Duration :=
  if attempt ≤ 1 then .zero else p.baseBackoff.times (factor attempt)

end RetryPolicy
end StatsQuery
