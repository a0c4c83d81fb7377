import Mathlib
import Coordination.Proofs.Retry.Parallel

/-!
# The course of a run

What a retry loop does from its first attempt to its last. A run goes on as long as attempts fail
with errors that the rule considers and that it answers with a wait, and stops at the first attempt
of another kind. Attempts are numbered one after another, from the retries that the loop has made
before on; every wait is the one that the rule has asked for, and is over before the next attempt is
made.

The rule is any rule, and so are time, chance and the attempts. The budget that bounds a run is no
part of its course: a run has the same course under every budget that is not too small for it.

## Main definitions

* `RetryLoop.found`, `RetryLoop.outcome`: what an attempt finds, and what it comes to
* `RetryLoop.GoesOn`: the loop makes some waits
* `RetryLoop.Course`: the loop makes some waits and then stops
* `RetryLoop.noting`: attempts that note their numbers
* `RetryLoop.Used`: the loops that a fresh one becomes when it is run

## Main results

* `RetryLoop.run_noting`: a run that has a course follows it
* `RetryLoop.exists_course`: a run has a course, or goes on for ever
* `RetryLoop.run_fresh`: what a fresh loop does
* `RetryLoop.numbers_of_used`: what a loop does that has been run before
-/

namespace Coordination

namespace RetryLoop

section

variable {σ α : Type}

/-! ## Attempts one after another -/

section Attempts

variable (attempt : Nat → σ → Except StoreError α × σ)

/-- The state that an attempt finds when so many have been made, the first of them with number
`first`. -/
def found (first : Nat) (s : σ) : Nat → σ
  | 0 => s
  | i + 1 => (attempt (first + i) (found first s i)).2

/-- What an attempt comes to when so many have been made. -/
def outcome (first : Nat) (s : σ) (i : Nat) : Except StoreError α :=
  (attempt (first + i) (found attempt first s i)).1

theorem attempt_found (first : Nat) (s : σ) (i : Nat) :
    attempt (first + i) (found attempt first s i) =
      (outcome attempt first s i, found attempt first s (i + 1)) := rfl

/-- Attempts that note their numbers. -/
def noting (n : Nat) (s : σ × List Nat) : Except StoreError α × σ × List Nat :=
  ((attempt n s.1).1, (attempt n s.1).2, s.2 ++ [n])

theorem found_noting (first : Nat) (s : σ) (i : Nat) :
    found (noting attempt) first (s, []) i =
      (found attempt first s i, (List.range i).map (first + ·)) := by
  induction i with
  | zero => rfl
  | succ i ih => simp [found, ih, noting, List.range_succ]

/-- Whether attempts note their numbers makes no difference to what they come to. -/
theorem outcome_noting (first : Nat) (s : σ) (i : Nat) :
    outcome (noting attempt) first (s, []) i = outcome attempt first s i := by
  rw [outcome, found_noting]
  rfl

end Attempts

/-! ## Waits one after another -/

/-- The loop after some more retries. -/
def waited (l : RetryLoop) (ws : List Duration) : RetryLoop :=
  ⟨l.retries + ws.length, l.sleeps ++ ws⟩

theorem waited_snoc (l : RetryLoop) (ws : List Duration) (w : Duration) :
    l.waited (ws ++ [w]) = (l.waited ws).retried w := by
  simp [waited, retried, Nat.add_assoc]

theorem waited_nil (l : RetryLoop) : l.waited [] = l := by
  simp [waited]

variable (rule : RetryRule) (around : Surroundings) (attempt : Nat → σ → Except StoreError α × σ)
  (l : RetryLoop) (s : σ)

/-- **The loop makes some waits**: each comes after an attempt that has failed with an error which
the rule considers, and is the one that the rule asks for, given the retries and the waits before
it. -/
def GoesOn (ws : List Duration) : Prop :=
  ∀ i (hi : i < ws.length), ∃ e, outcome attempt l.retries s i = .error e ∧ rule.retriesOn e ∧
    rule.delay? (l.retries + i) (around.elapsed (l.sleeps ++ ws.take i))
      (around.roll (l.sleeps ++ ws.take i)) e = some (ws[i])

/-- **What a loop stops with**, by the outcome of its last attempt: a success as it is, an error
that the rule does not consider as it is, and any other error if the rule gives up. -/
inductive Stops : Except StoreError α → Except Failure α → Prop where
  | ok (a : α) : Stops (.ok a) (.ok a)
  | refused {e : StoreError} (h : rule.retriesOn e = false) : Stops (.error e) (.error (.store e))
  | exhausted {e : StoreError} (h : rule.retriesOn e)
      (hnone : rule.delay? l.retries (around.elapsed l.sleeps) (around.roll l.sleeps) e = none) :
      Stops (.error e)
        (.error (.retriesExhausted (l.retries + 1) (around.elapsed l.sleeps) e))

/-- **The course of a run**: it makes some waits, and stops at the next attempt. -/
structure Course (ws : List Duration) (r : Except Failure α) : Prop where
  goesOn : GoesOn rule around attempt l s ws
  stops : Stops rule around (l.waited ws) (outcome attempt l.retries s ws.length) r

variable {rule around attempt l s} {ws : List Duration} {w : Duration} {r : Except Failure α}
  {e : StoreError}

theorem next?_eq_some_iff :
    l.next? rule around e = some w ↔ rule.retriesOn e ∧
      rule.delay? l.retries (around.elapsed l.sleeps) (around.roll l.sleeps) e = some w := by
  rw [next?, RetryRule.next?]
  split <;> simp_all

theorem Stops.attempts_eq {o : Except StoreError α} {attempts : Nat} {elapsed : Duration}
    (h : Stops rule around l o (.error (.retriesExhausted attempts elapsed e))) :
    attempts = l.retries + 1 := by
  cases h
  rfl

theorem GoesOn.nil : GoesOn rule around attempt l s [] := fun i hi => absurd hi (Nat.not_lt_zero i)

/-- The loop has made the waits but the last, and then the last. -/
theorem goesOn_snoc_iff :
    GoesOn rule around attempt l s (ws ++ [w]) ↔ GoesOn rule around attempt l s ws ∧
      ∃ e, outcome attempt l.retries s ws.length = .error e ∧
        (l.waited ws).next? rule around e = some w := by
  simp only [next?_eq_some_iff]
  constructor
  · intro h
    refine ⟨fun i hi => ?_, ?_⟩
    · have hwait := h i (by simp; omega)
      rwa [List.take_append_of_le_length (Nat.le_of_lt hi), List.getElem_append_left hi] at hwait
    · have hlast := h ws.length (by simp)
      rwa [List.take_left' rfl, List.getElem_concat_length rfl] at hlast
  · rintro ⟨h, hlast⟩ i hi
    by_cases hlt : i < ws.length
    · rw [List.take_append_of_le_length (Nat.le_of_lt hlt), List.getElem_append_left hlt]
      exact h i hlt
    · simp only [List.length_append, List.length_singleton] at hi
      obtain rfl : i = ws.length := by omega
      rw [List.take_left' rfl, List.getElem_concat_length rfl]
      exact hlast

/-! ## Runs -/

/-- A loop that goes on comes to the next attempt, with the waits made. -/
theorem run_of_goesOn (h : GoesOn rule around attempt l s ws) (budget : Nat) :
    run rule around attempt (budget + ws.length) l s =
      run rule around attempt budget (l.waited ws) (found attempt l.retries s ws.length) := by
  -- the last wait is taken off, so that the attempts before it are found as they were
  induction ws using List.reverseRecOn generalizing budget with
  | nil => rw [waited_nil]; rfl
  | append_singleton ws w ih =>
    obtain ⟨hws, e, he, hnext⟩ := goesOn_snoc_iff.mp h
    have hlength : budget + (ws ++ [w]).length = budget + 1 + ws.length := by simp; omega
    have hattempt : attempt (l.waited ws).retries (found attempt l.retries s ws.length) =
        (.error e, found attempt l.retries s (ws.length + 1)) := by
      rw [← he]
      rfl
    rw [hlength, ih hws, run_of_retry hattempt hnext, waited_snoc, List.length_append,
      List.length_singleton]

/-- A loop that stops has made its last attempt. -/
theorem run_of_stops {o : Except StoreError α} {s' : σ} {budget : Nat}
    (hattempt : attempt l.retries s = (o, s')) (h : Stops rule around l o r) :
    run rule around attempt budget l s = (r, l, s') := by
  cases h with
  | ok a => exact run_of_ok hattempt
  | @refused e h =>
    have hnone : l.next? rule around e = none := by simp [next?, RetryRule.next?, h]
    rw [run_of_end_eq hattempt (.inr hnone), ending, if_neg (by simp [h])]
  | @exhausted e h hdelay =>
    have hnone : l.next? rule around e = none := by simp [next?, RetryRule.next?, hdelay]
    rw [run_of_end_eq hattempt (.inr hnone), ending, if_pos h]

/-- **A run that has a course follows it**, whatever its budget is. -/
theorem Course.run_eq {budget : Nat} (h : Course rule around attempt l s ws r)
    (hbudget : ws.length ≤ budget) :
    run rule around attempt budget l s =
      (r, l.waited ws, found attempt l.retries s (ws.length + 1)) := by
  obtain ⟨rest, rfl⟩ := Nat.exists_eq_add_of_le' hbudget
  rw [run_of_goesOn h.goesOn]
  exact run_of_stops (attempt_found attempt l.retries s ws.length) h.stops

variable (rule around l) in
/-- A loop stops after an attempt unless the rule asks for a wait. -/
theorem exists_stops_or_next? (o : Except StoreError α) :
    (∃ r, Stops rule around l o r) ∨ ∃ e w, o = .error e ∧ l.next? rule around e = some w := by
  cases o with
  | ok a => exact .inl ⟨_, .ok a⟩
  | error e =>
    by_cases hretries : rule.retriesOn e = true
    · cases hdelay : rule.delay? l.retries (around.elapsed l.sleeps) (around.roll l.sleeps) e with
      | none => exact .inl ⟨_, .exhausted hretries hdelay⟩
      | some w => exact .inr ⟨e, w, rfl, next?_eq_some_iff.mpr ⟨hretries, hdelay⟩⟩
    · exact .inl ⟨_, .refused (by simpa using hretries)⟩

variable (rule around attempt l s) in
/-- **A run has a course, or goes on for ever**: it stops after fewer than `n` retries, or makes
`n`. -/
theorem exists_course (n : Nat) :
    (∃ ws r, ws.length < n ∧ Course rule around attempt l s ws r) ∨
      ∃ ws, ws.length = n ∧ GoesOn rule around attempt l s ws := by
  induction n with
  | zero => exact .inr ⟨[], rfl, .nil⟩
  | succ n ih =>
    obtain ⟨ws, r, hlt, hcourse⟩ | ⟨ws, rfl, hws⟩ := ih
    · exact .inl ⟨ws, r, by omega, hcourse⟩
    · -- the next attempt decides
      obtain ⟨r, hr⟩ | ⟨e, w, ho, hw⟩ :=
        exists_stops_or_next? rule around (l.waited ws) (outcome attempt l.retries s ws.length)
      · exact .inl ⟨ws, r, Nat.lt_succ_self _, hws, hr⟩
      · exact .inr ⟨ws ++ [w], by simp, goesOn_snoc_iff.mpr ⟨hws, e, ho, hw⟩⟩

/-- A rule that gives up ends the run by then. -/
theorem exists_course_of_givesUpBy {n : Nat} (h : rule.GivesUpBy n) :
    ∃ ws r, ws.length ≤ n ∧ Course rule around attempt fresh s ws r := by
  obtain ⟨ws, r, hlt, hcourse⟩ | ⟨ws, hlength, hws⟩ :=
    exists_course rule around attempt fresh s (n + 1)
  · exact ⟨ws, r, Nat.le_of_lt_succ hlt, hcourse⟩
  · -- the last of these waits is one that the rule does not ask for
    obtain ⟨e, -, hretries, hdelay⟩ := hws n (by omega)
    have hnone := h (fresh.retries + n) (Nat.le_add_left n _)
      (around.elapsed (fresh.sleeps ++ ws.take n)) (around.roll (fresh.sleeps ++ ws.take n)) e
    rw [RetryRule.next?, if_pos hretries, hdelay] at hnone
    cases hnone

theorem goesOn_noting_iff :
    GoesOn rule around (noting attempt) l (s, []) ws ↔ GoesOn rule around attempt l s ws := by
  simp only [GoesOn, outcome_noting]

theorem course_noting_iff :
    Course rule around (noting attempt) l (s, []) ws r ↔ Course rule around attempt l s ws r := by
  constructor
  · rintro ⟨hws, hr⟩
    rw [outcome_noting] at hr
    exact ⟨goesOn_noting_iff.mp hws, hr⟩
  · rintro ⟨hws, hr⟩
    refine ⟨goesOn_noting_iff.mpr hws, ?_⟩
    rwa [outcome_noting]

/-- A run that has a course makes an attempt before each wait and one in the end, and numbers them
from the retries that the loop has made before on. -/
theorem Course.run_noting {budget : Nat} (h : Course rule around attempt l s ws r)
    (hbudget : ws.length ≤ budget) :
    run rule around (noting attempt) budget l (s, []) =
      (r, l.waited ws, found attempt l.retries s (ws.length + 1),
        (List.range (ws.length + 1)).map (l.retries + ·)) := by
  rw [(course_noting_iff.mpr h).run_eq hbudget, found_noting]

/-- Before each attempt a run has made all attempts and all waits that come before it. -/
theorem run_noting_of_goesOn (h : GoesOn rule around attempt l s ws) (budget : Nat) :
    run rule around (noting attempt) (budget + ws.length) l (s, []) =
      run rule around (noting attempt) budget (l.waited ws)
        (found attempt l.retries s ws.length, (List.range ws.length).map (l.retries + ·)) := by
  rw [run_of_goesOn (goesOn_noting_iff.mpr h), found_noting]

/-! ## Fresh loops -/

theorem waited_fresh (ws : List Duration) : fresh.waited ws = ⟨ws.length, ws⟩ := by
  simp [waited, fresh]

variable (rule around attempt s) in
/-- **What a fresh loop does.** Whatever the rule, time and chance are, and whatever attempts come
to, a run stops after some waits, or it makes as many as one likes. When it has made some waits, the
run stands before the next attempt; it has made just these waits, and one attempt before each, with
the numbers from zero on. If it stops, it has the result of its course, has made the waits of its
course and no others, and has made one attempt more than waits, with the numbers from zero on. The
rules that count retries end every run within the retries that they count. -/
theorem run_fresh :
    (∀ n, (∃ ws r, ws.length < n ∧ Course rule around attempt fresh s ws r) ∨
      ∃ ws, ws.length = n ∧ GoesOn rule around attempt fresh s ws) ∧
    (∀ ws, GoesOn rule around attempt fresh s ws → ∀ budget,
      run rule around (noting attempt) (budget + ws.length) fresh (s, []) =
        run rule around (noting attempt) budget ⟨ws.length, ws⟩
          (found attempt 0 s ws.length, List.range ws.length)) ∧
    (∀ ws r, Course rule around attempt fresh s ws r → ∀ budget, ws.length ≤ budget →
      run rule around attempt budget fresh s =
        (r, ⟨ws.length, ws⟩, found attempt 0 s (ws.length + 1)) ∧
      run rule around (noting attempt) budget fresh (s, []) =
        (r, ⟨ws.length, ws⟩, found attempt 0 s (ws.length + 1), List.range (ws.length + 1))) ∧
    (∀ n sleep, ∃ ws r, ws.length ≤ n ∧
      Course (RetryPolicy.nTimes n sleep).rule around attempt fresh s ws r) ∧
    (∀ sleep, ∃ ws r, ws.length ≤ 1 ∧
      Course (RetryPolicy.oneTime sleep).rule around attempt fresh s ws r) ∧
    (∀ base n cap, ∃ ws r, ws.length ≤ min n 29 ∧
      Course (RetryPolicy.exponential (.ofRetries base n cap)).rule around attempt fresh s ws r) ∧
    (∀ base n cap, ∃ ws r, ws.length ≤ min n 29 ∧
      Course (RetryPolicy.bounded (.ofRetries base n cap)).rule around attempt fresh s ws r) := by
  have hcounted : ∀ (p : RetryPolicy) n, p.retryLimit? = some n →
      ∃ ws r, ws.length ≤ n ∧ Course p.rule around attempt fresh s ws r :=
    fun p n hp => exists_course_of_givesUpBy (RetryPolicy.givesUpBy_rule hp)
  refine ⟨exists_course rule around attempt fresh s, fun ws hws budget => ?_,
    fun ws r hcourse budget hbudget => ⟨?_, ?_⟩, fun n sleep => hcounted _ n rfl,
    fun sleep => hcounted _ 1 rfl, fun base n cap => hcounted _ _ rfl,
    fun base n cap => hcounted _ _ rfl⟩
  · rw [run_noting_of_goesOn hws, waited_fresh]
    simp [fresh]
  · rw [hcourse.run_eq hbudget, waited_fresh]
    rfl
  · rw [hcourse.run_noting hbudget, waited_fresh]
    simp [fresh]

example :
    run (RetryPolicy.nTimes 2 (.ofMillis 3)).rule .waiting
      (noting fun n (_ : Unit) =>
        (if n < 2 then .error (.refused .connectionLoss none) else .ok n, ()))
      5 fresh ((), []) = (.ok 2, ⟨2, [.ofMillis 3, .ofMillis 3]⟩, (), [0, 1, 2]) := by
  decide

end

/-! ## Loops that are run again -/

/-- **The loops that a fresh loop becomes when it is run**, one run after another, each with
attempts, time and chance of its own, and the number of retries in each run. -/
inductive Used (rule : RetryRule) : List Nat → RetryLoop → Prop where
  | fresh : Used rule [] fresh
  | run {retries : List Nat} {l : RetryLoop} (h : Used rule retries l) {σ α : Type}
      {around : Surroundings} {attempt : Nat → σ → Except StoreError α × σ} {s : σ}
      {ws : List Duration} {r : Except Failure α} (hcourse : Course rule around attempt l s ws r)
      {budget : Nat} (hbudget : ws.length ≤ budget) :
      Used rule (retries ++ [ws.length]) (RetryLoop.run rule around attempt budget l s).2.1

/-- A loop counts the retries of all its runs. -/
theorem Used.retries_eq {rule : RetryRule} {retries : List Nat} {l : RetryLoop}
    (h : Used rule retries l) : l.retries = retries.sum := by
  induction h with
  | fresh => rfl
  | run h hcourse hbudget ih =>
    rw [hcourse.run_eq hbudget, List.sum_append, List.sum_singleton, ← ih]
    rfl

/-- Numbers that follow one another begin with zero just if their first is zero. -/
theorem map_add_range_eq_iff {k n : Nat} :
    (List.range (n + 1)).map (k + ·) = List.range (n + 1) ↔ k = 0 := by
  constructor
  · intro h
    simpa [List.range_succ_eq_map] using congrArg List.head? h
  · rintro rfl
    simp

/-- **What a loop does that has been run before.** It goes on counting: the first attempt has the
number of all retries that earlier runs have made, and the number of attempts that the loop reports
when it gives up is greater by as much than that of the attempts made. So the attempts of a run have
the numbers from zero on, and the number reported is theirs, just if no earlier run has made a
retry. -/
theorem numbers_of_used {σ α : Type} {rule : RetryRule} {retries : List Nat} {l : RetryLoop}
    (h : Used rule retries l) (around : Surroundings)
    (attempt : Nat → σ → Except StoreError α × σ) (s : σ) :
    (∀ ws, GoesOn rule around attempt l s ws → ∀ budget,
      run rule around (noting attempt) (budget + ws.length) l (s, []) =
        run rule around (noting attempt) budget (l.waited ws)
          (found attempt retries.sum s ws.length,
            (List.range ws.length).map (retries.sum + ·))) ∧
    (∀ ws r, Course rule around attempt l s ws r → ∀ budget, ws.length ≤ budget →
      ∃ seen, run rule around (noting attempt) budget l (s, []) =
          (r, l.waited ws, found attempt retries.sum s (ws.length + 1), seen) ∧
        seen = (List.range (ws.length + 1)).map (retries.sum + ·) ∧
        (seen = List.range (ws.length + 1) ↔ ∀ n ∈ retries, n = 0) ∧
        ∀ attempts elapsed e, r = .error (.retriesExhausted attempts elapsed e) →
          attempts = retries.sum + seen.length ∧
            (attempts = seen.length ↔ ∀ n ∈ retries, n = 0)) := by
  obtain ⟨k, sleeps⟩ := l
  obtain rfl : k = retries.sum := h.retries_eq
  have hzero : retries.sum = 0 ↔ ∀ n ∈ retries, n = 0 := List.sum_eq_zero_iff_forall_eq_nat
  refine ⟨fun ws hws budget => run_noting_of_goesOn hws budget, fun ws r hcourse budget hbudget =>
    ⟨_, hcourse.run_noting hbudget, rfl, ?_, fun attempts elapsed e hr => ?_⟩⟩
  · rw [← hzero]
    exact map_add_range_eq_iff
  · subst hr
    have hattempts : attempts = retries.sum + ws.length + 1 := hcourse.stops.attempts_eq
    rw [← hzero, List.length_map, List.length_range]
    omega

/-- An error that is met once: the first of two runs on a loop repeats its attempt, and the second
makes one. -/
theorem numbers_of_second_run :
    let rule := (RetryPolicy.nTimes 5 (.ofMillis 1)).rule
    let first := runScript rule .waiting 0 [.error (.refused .connectionLoss none), .ok 1] fresh
    let second := runScript rule .waiting 0 [.ok 2] first.2.1
    first.1 = .ok 1 ∧ first.2.2.seen = [0, 1] ∧ second.1 = .ok 2 ∧ second.2.2.seen = [1] := by
  decide

theorem numbers_of_used_twice :
    let rule := (RetryPolicy.nTimes 1 (.ofMillis 1)).rule
    let lossy : Nat → Nat → Except StoreError Nat × Nat := fun _ faults =>
      match faults with
      | 0 => (.ok 0, 0)
      | faults + 1 => (.error (.refused .connectionLoss none), faults)
    ∃ l, Used rule [1] l ∧
      run rule .still (noting lossy) 0 l (1, []) =
        (.error (.retriesExhausted 2 .zero (.refused .connectionLoss none)), l, 0, [1]) := by
  intro rule lossy
  have hfirst : Course rule .still lossy fresh 1 [.ofMillis 1] (.ok 0) := by
    refine ⟨fun i hi => ?_, .ok 0⟩
    obtain rfl : i = 0 := Nat.lt_one_iff.mp hi
    exact ⟨_, rfl, rfl, rfl⟩
  have hused : Used rule [1] (run rule .still lossy 1 fresh 1).2.1 :=
    .run .fresh hfirst (Nat.le_refl 1)
  have hsecond : Course rule .still lossy (run rule .still lossy 1 fresh 1).2.1 1 []
      (.error (.retriesExhausted 2 .zero (.refused .connectionLoss none))) :=
    ⟨.nil, .exhausted rfl rfl⟩
  obtain ⟨seen, hrun, hseen, -, -⟩ :=
    (numbers_of_used hused .still lossy 1).2 [] _ hsecond 0 (Nat.le_refl 0)
  subst hseen
  exact ⟨_, hused, hrun⟩

end RetryLoop

end Coordination
