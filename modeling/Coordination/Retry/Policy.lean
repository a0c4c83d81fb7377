import Coordination.Duration
import Coordination.Store.Answer

/-!
# Retry policies

What a client does after a failed attempt: a rule says which errors it considers at all, and how
long to wait before the next attempt, if there is to be one. It is told the number of retries
already made, the time since the first attempt, and the roll of a die for what it leaves to chance.

## Main definitions

* `RetryRule`: any rule
* `Backoff`: waiting longer and longer, by chance
* `RetryPolicy`, `RetryPolicy.rule`: the policies that can be configured, and their rules
-/

namespace Coordination

/-- What to do after a failed attempt. -/
structure RetryRule where
  /-- Which errors are considered at all. -/
  retriesOn : StoreError → Bool
  /-- How long to wait, if there is to be another attempt, after so many retries and so much time,
  with the roll of a die. -/
  delay? : (retries : Nat) → (elapsed : Duration) → (roll : Nat) → StoreError → Option Duration

/-- How long to wait before the next attempt; errors that are not considered end the attempts. -/
def RetryRule.next? (rule : RetryRule) (retries : Nat) (elapsed : Duration) (roll : Nat)
    (e : StoreError) : Option Duration :=
  if rule.retriesOn e then rule.delay? retries elapsed roll e else none

/-! ## Waiting longer and longer -/

/-- A wait of the base length times a factor that is drawn from a range which doubles with every
retry. -/
structure Backoff where
  /-- The base length. -/
  base : Duration
  /-- The number of retries. -/
  retries : Nat
  /-- The longest wait, if there is one. -/
  cap : Option Duration
  deriving DecidableEq

namespace Backoff

/-- The greatest number of retries, for which the range of factors still fits into a 32-bit word. -/
def retryLimit : Nat := 29

/-- Waits of a base length, for at most `retryLimit` retries. -/
def ofRetries (base : Duration) (retries : Nat) (cap : Option Duration) : Backoff :=
  { base, retries := Nat.min retries retryLimit, cap }

/-- How many factors can be drawn. -/
def factors (retries : Nat) : Nat := Nat.pow 2 (Nat.min retries retryLimit + 1) - 1

/-- A wait cut to the longest. -/
def capped (b : Backoff) (d : Duration) : Duration :=
  match b.cap with
  | none => d
  | some longest => d.min longest

/-- The wait for a factor. -/
def wait (b : Backoff) (factor : Nat) : Duration := b.capped (b.base.times factor)

/-- The wait for a roll of the die, the factor being at least one. -/
def delay (b : Backoff) (retries roll : Nat) : Duration := b.wait (1 + roll % factors retries)

/-- The waits that can be drawn, the shortest first. -/
def delays (b : Backoff) (retries : Nat) : List Duration :=
  ((List.range (factors retries)).map fun n => b.wait (n + 1)).eraseDups

/-- The shortest wait. -/
def shortest (b : Backoff) : Duration := b.wait 1

/-- The longest wait that can be drawn. -/
def longest (b : Backoff) (retries : Nat) : Duration := b.wait (factors retries)

/-- A backoff as text. -/
def text (b : Backoff) : String :=
  Text.record "ExponentialBackoffRetry"
    [("base_sleep", b.base.text), ("max_retries", Text.Decimal.natural b.retries),
      ("max_sleep", Text.optional (b.cap.map Duration.text))]

end Backoff

/-! ## Policies -/

/-- A policy that can be configured. -/
inductive RetryPolicy where
  /-- So many retries. -/
  | nTimes (n : Nat) (sleep : Duration)
  /-- One retry. -/
  | oneTime (sleep : Duration)
  /-- Retries without end. -/
  | forever (sleep : Duration)
  /-- Retries until some time has passed. -/
  | untilElapsed (limit sleep : Duration)
  /-- Waiting longer and longer. -/
  | exponential (backoff : Backoff)
  /-- Waiting longer and longer up to a longest wait. -/
  | bounded (backoff : Backoff)
  /-- So many retries, on some codes: of the rules that callers may write themselves, the ones that
  look at nothing else. A loop takes any rule. -/
  | custom (n : Nat) (sleep : Duration) (codes : List ErrorCode)
  deriving DecidableEq

namespace RetryPolicy

/-- How long the policy waits, if it does. -/
def delay? : RetryPolicy → (retries : Nat) → (elapsed : Duration) → (roll : Nat) → Option Duration
  | nTimes n sleep, retries, _, _ | custom n sleep _, retries, _, _ =>
    if retries < n then some sleep else none
  | oneTime sleep, retries, _, _ => if retries < 1 then some sleep else none
  | forever sleep, _, _, _ => some sleep
  | untilElapsed limit sleep, _, elapsed, _ =>
    if elapsed.nanos < limit.nanos then some sleep else none
  | exponential b, retries, _, roll | bounded b, retries, _, roll =>
    if retries < b.retries then some (b.delay retries roll) else none

/-- Whether the policy considers an error. -/
def retriesOn : RetryPolicy → StoreError → Bool
  | custom _ _ codes, e => codes.contains e.code
  | _, e => e.isRetryable

/-- The rule of a policy. -/
def rule (p : RetryPolicy) : RetryRule :=
  { retriesOn := p.retriesOn
    delay? := fun retries elapsed roll _ => p.delay? retries elapsed roll }

/-- The number of retries after which the policy gives up; none if the count alone does not end
them. -/
def retryLimit? : RetryPolicy → Option Nat
  | nTimes n _ | custom n _ _ => some n
  | oneTime _ => some 1
  | forever _ | untilElapsed _ _ => none
  | exponential b | bounded b => some b.retries

/-- The draws that decide how long the policy waits, if it leaves that to chance. -/
def backoff? : RetryPolicy → Option Backoff
  | exponential b | bounded b => some b
  | _ => none

/-- So many retries as text. -/
def nTimesText (n : Nat) (sleep : Duration) : String :=
  Text.record "RetryNTimes" [("n", Text.Decimal.natural n), ("sleep_between", sleep.text)]

/-- A policy as text. -/
def text : RetryPolicy → String
  | nTimes n sleep => nTimesText n sleep
  | oneTime sleep => Text.tuple "RetryOneTime" [nTimesText 1 sleep]
  | forever sleep => Text.record "RetryForever" [("sleep_between", sleep.text)]
  | untilElapsed limit sleep =>
    Text.record "RetryUntilElapsed" [("max_elapsed", limit.text), ("sleep_between", sleep.text)]
  | exponential b => b.text
  | bounded b => Text.tuple "BoundedExponentialBackoffRetry" [b.text]
  | custom n sleep codes =>
    Text.record "Custom"
      [("n", Text.Decimal.natural n), ("sleep", sleep.text),
        ("on", Text.listing (codes.map ErrorCode.name))]

theorem delay?_eq_none_of_retryLimit? {p : RetryPolicy} {n : Nat} (h : p.retryLimit? = some n)
    {retries : Nat} (hn : n ≤ retries) (elapsed : Duration) (roll : Nat) :
    p.delay? retries elapsed roll = none := by
  cases p <;> simp only [retryLimit?, Option.some.injEq, reduceCtorEq] at h <;> subst h <;>
    simp [delay?, Nat.not_lt.mpr hn]

end RetryPolicy

end Coordination
