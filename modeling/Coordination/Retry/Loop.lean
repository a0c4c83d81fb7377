import Coordination.Failure
import Coordination.Retry.Policy

/-!
# The retry loop

A call is attempted until it succeeds, until it fails with an error that its rule does not consider,
or until the rule gives up. Attempts are numbered by the retries made before them, so that a first
attempt can be told from a repeat. A loop that is run again goes on counting.

Time and chance come from outside: `Surroundings` reads both off the waits made so far, and what is
proved of loops holds for all of them. The number of retries in one run is bounded by a budget; the
budget is no part of the rule, and a run that the rule ends within it does not depend on it.
-/

namespace Coordination

/-- Time and chance, as a loop meets them. -/
structure Surroundings where
  /-- The time since the first attempt, after some waits. -/
  elapsed : List Duration → Duration
  /-- The roll of the die after some waits. -/
  roll : List Duration → Nat

namespace Surroundings

/-- The waits are the only time that passes, and nothing is left to chance. -/
def waiting : Surroundings :=
  { elapsed := fun sleeps => .ofNanos (sleeps.foldl (fun n d => n + d.nanos) 0)
    roll := fun _ => 0 }

/-- No time passes, and nothing is left to chance. -/
def still : Surroundings := { elapsed := fun _ => .zero, roll := fun _ => 0 }

end Surroundings

/-- How far a retry loop has come. -/
structure RetryLoop where
  /-- The retries made. They are counted without a bound here; the program has a word of 32 bits for
  them, which is full after 4294967295 retries. -/
  retries : Nat
  /-- The waits made before them, in order. -/
  sleeps : List Duration
  deriving DecidableEq

namespace RetryLoop

/-- A loop that has not begun. -/
def fresh : RetryLoop := ⟨0, []⟩

/-- The loop after one more retry. -/
def retried (l : RetryLoop) (sleep : Duration) : RetryLoop :=
  ⟨l.retries + 1, l.sleeps ++ [sleep]⟩

/-- Makes attempts, each of which is given its number, with at most `budget` retries. -/
def run {σ α : Type} (rule : RetryRule) (around : Surroundings)
    (attempt : Nat → σ → Except StoreError α × σ) :
    (budget : Nat) → RetryLoop → σ → Except Failure α × RetryLoop × σ
  | budget, l, s =>
    match attempt l.retries s with
    | (.ok a, s') => (.ok a, l, s')
    | (.error e, s') =>
      if !rule.retriesOn e then (.error (.store e), l, s')
      else
        let elapsed := around.elapsed l.sleeps
        match budget, rule.next? l.retries elapsed (around.roll l.sleeps) e with
        | budget + 1, some sleep => run rule around attempt budget (l.retried sleep) s'
        | _, _ => (.error (.retriesExhausted (l.retries + 1) elapsed e), l, s')

/-! ## Scripts -/

/-- What is left of a script, and the numbers of the attempts that have read from it. -/
structure Script (α : Type) where
  /-- The outcomes to come. -/
  outcomes : List (Except StoreError α)
  /-- The numbers of the attempts made. -/
  seen : List Nat

/-- An attempt that has the next outcome of a script, or succeeds with `ending` after the last. -/
def Script.attempt {α : Type} (ending : α) (n : Nat) (s : Script α) :
    Except StoreError α × Script α :=
  match s.outcomes with
  | [] => (.ok ending, ⟨[], s.seen ++ [n]⟩)
  | o :: os => (o, ⟨os, s.seen ++ [n]⟩)

/-- Makes attempts with the outcomes of a script. Every retry reads an outcome, so the length of the
script bounds their number. -/
def runScript {α : Type} (rule : RetryRule) (around : Surroundings) (ending : α)
    (outcomes : List (Except StoreError α)) (l : RetryLoop) :
    Except Failure α × RetryLoop × Script α :=
  run rule around (Script.attempt ending) outcomes.length l ⟨outcomes, []⟩

end RetryLoop

end Coordination
