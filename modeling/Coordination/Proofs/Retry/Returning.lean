import Mathlib.Data.PFun
import Coordination.Proofs.Retry.Courses

/-!
# Runs that return

A retry loop as it is run: it makes attempts until one ends the run, and nothing bounds their
number. Such a run may go on for ever, and is a partial value; it is defined just if the run has a
course, and then it is what the course comes to. So a bound on the number of retries has to come
from the attempts, if the rule has none: a run returns if everything that the rule answers with a
wait uses something up of which there is only so much.

## Main definitions

* `RetryLoop.turn`: one attempt, and whether the run goes on after it
* `RetryLoop.runFreely`: a run without a budget, which may not return
* `RetryLoop.Drains`: attempts that use something up whenever they are to be made again

## Main results

* `RetryLoop.mem_runFreely_iff`: a run returns just if it has a course
* `RetryLoop.Drains.exists_course`: a run whose attempts use something up has a course
-/

namespace Coordination

namespace RetryLoop

section

variable {σ α : Type}

/-! ## Runs without a budget -/

/-- **One attempt**, which has its number: what the run ends with, or how far the loop has come when
it is to make the next one. -/
def turn (rule : RetryRule) (around : Surroundings)
    (attempt : Nat → σ → Except StoreError α × σ) (l : RetryLoop) (s : σ) :
    (Except Failure α × RetryLoop × σ) ⊕ (RetryLoop × σ) :=
  match attempt l.retries s with
  | (.ok a, s') => .inl (.ok a, l, s')
  | (.error e, s') =>
    if !rule.retriesOn e then .inl (.error (.store e), l, s')
    else
      let elapsed := around.elapsed l.sleeps
      match rule.next? l.retries elapsed (around.roll l.sleeps) e with
      | some sleep => .inr (l.retried sleep, s')
      | none => .inl (.error (.retriesExhausted (l.retries + 1) elapsed e), l, s')

/-- **Makes attempts until one ends the run**; there is no result if none does. -/
noncomputable def runFreely (rule : RetryRule) (around : Surroundings)
    (attempt : Nat → σ → Except StoreError α × σ) :
    RetryLoop × σ →. Except Failure α × RetryLoop × σ :=
  PFun.fix fun x => Part.some (turn rule around attempt x.1 x.2)

variable {rule : RetryRule} {around : Surroundings} {attempt : Nat → σ → Except StoreError α × σ}
  {l : RetryLoop} {s s' : σ} {ws : List Duration} {w : Duration} {r : Except Failure α}

theorem turn_of_retry {e : StoreError} (h : attempt l.retries s = (.error e, s'))
    (hnext : l.next? rule around e = some w) :
    turn rule around attempt l s = .inr (l.retried w, s') := by
  have hretries : rule.retriesOn e = true := (next?_eq_some_iff.mp hnext).1
  rw [next?] at hnext
  rw [turn, h]
  simp [hretries, hnext]

theorem turn_of_stops {o : Except StoreError α} (h : attempt l.retries s = (o, s'))
    (hstops : Stops rule around l o r) : turn rule around attempt l s = .inl (r, l, s') := by
  rw [turn, h]
  cases hstops with
  | ok a => rfl
  | refused hrefused => simp [hrefused]
  | exhausted hretries hdelay => simp [RetryRule.next?, hretries, hdelay]

theorem runFreely_of_retry {e : StoreError} (h : attempt l.retries s = (.error e, s'))
    (hnext : l.next? rule around e = some w) :
    runFreely rule around attempt (l, s) = runFreely rule around attempt (l.retried w, s') :=
  PFun.fix_fwd_eq (Part.mem_some_iff.mpr (turn_of_retry h hnext).symm)

/-- An attempt that is not to be made again ends the run. -/
theorem runFreely_of_stops {o : Except StoreError α} (h : attempt l.retries s = (o, s'))
    (hstops : Stops rule around l o r) : (r, l, s') ∈ runFreely rule around attempt (l, s) :=
  PFun.fix_stop (Part.mem_some_iff.mpr (turn_of_stops h hstops).symm)

/-- A run that goes on comes to the next attempt, with the waits made. -/
theorem runFreely_of_goesOn (h : GoesOn rule around attempt l s ws) :
    runFreely rule around attempt (l, s) =
      runFreely rule around attempt (l.waited ws, found attempt l.retries s ws.length) := by
  -- the last wait is taken off, so that the attempts before it are found as they were
  induction ws using List.reverseRecOn with
  | nil => rw [waited_nil]; rfl
  | append_singleton ws w ih =>
    obtain ⟨hws, e, he, hnext⟩ := goesOn_snoc_iff.mp h
    have hattempt : attempt (l.waited ws).retries (found attempt l.retries s ws.length) =
        (.error e, found attempt l.retries s (ws.length + 1)) := by
      rw [← he]
      rfl
    rw [ih hws, runFreely_of_retry hattempt hnext, waited_snoc, List.length_append,
      List.length_singleton]

/-- **A run that has a course returns**, with what the course comes to. -/
theorem Course.runFreely_eq (h : Course rule around attempt l s ws r) :
    runFreely rule around attempt (l, s) =
      Part.some (r, l.waited ws, found attempt l.retries s (ws.length + 1)) := by
  rw [runFreely_of_goesOn h.goesOn]
  exact Part.eq_some_iff.mpr
    (runFreely_of_stops (attempt_found attempt l.retries s ws.length) h.stops)

/-! ## Runs that return -/

/-- The attempts after the first are those of a run that begins with the second. -/
theorem found_succ (attempt : Nat → σ → Except StoreError α × σ) (first : Nat) (s : σ) (i : Nat) :
    found attempt first s (i + 1) = found attempt (first + 1) (attempt first s).2 i := by
  induction i with
  | zero => rfl
  | succ i ih => rw [found, ih, found, Nat.add_right_comm, Nat.add_assoc first]

theorem waited_cons (l : RetryLoop) (w : Duration) (ws : List Duration) :
    l.waited (w :: ws) = (l.retried w).waited ws := by
  simp [waited, retried, Nat.add_assoc, Nat.add_comm 1]

/-- A run that is to make its first attempt again has the course of the run that does so. -/
theorem Course.cons {e : StoreError} (h : attempt l.retries s = (.error e, s'))
    (hnext : l.next? rule around e = some w)
    (hcourse : Course rule around attempt (l.retried w) s' ws r) :
    Course rule around attempt l s (w :: ws) r := by
  obtain rfl : s' = (attempt l.retries s).2 := (congrArg Prod.snd h).symm
  have houtcome : ∀ i, outcome attempt l.retries s (i + 1) =
      outcome attempt (l.retried w).retries (attempt l.retries s).2 i := by
    intro i
    rw [outcome, outcome, found_succ, retried, Nat.add_assoc, Nat.add_comm 1]
  refine ⟨fun i hi => ?_, ?_⟩
  · cases i with
    | zero =>
      obtain ⟨hretries, hdelay⟩ := next?_eq_some_iff.mp hnext
      exact ⟨e, congrArg Prod.fst h, hretries, by simpa using hdelay⟩
    | succ i =>
      obtain ⟨e', ho, hretries, hdelay⟩ := hcourse.goesOn i (Nat.lt_of_succ_lt_succ hi)
      refine ⟨e', (houtcome i).trans ho, hretries, ?_⟩
      simpa [retried, Nat.add_assoc, Nat.add_comm 1] using hdelay
  · rw [List.length_cons, houtcome, waited_cons]
    exact hcourse.stops

/-- A run that returns has a course: its attempts are followed from the first to the last. -/
theorem exists_course_of_mem {x : RetryLoop × σ} {y : Except Failure α × RetryLoop × σ}
    (h : y ∈ runFreely rule around attempt x) :
    ∃ ws r, Course rule around attempt x.1 x.2 ws r := by
  refine PFun.fixInduction h fun x hx ih => ?_
  obtain ⟨l, s⟩ := x
  -- the first attempt ends the run, or the rest of the run has a course
  obtain ⟨r, hstops⟩ | ⟨e, w, he, hnext⟩ :=
    exists_stops_or_next? rule around l (outcome attempt l.retries s 0)
  · exact ⟨[], r, .nil, by rwa [waited_nil]⟩
  · have hattempt : attempt l.retries s = (.error e, (attempt l.retries s).2) :=
      Prod.ext he rfl
    obtain ⟨ws, r, hcourse⟩ := ih (l.retried w, (attempt l.retries s).2)
      (Part.mem_some_iff.mpr (turn_of_retry hattempt hnext).symm)
    exact ⟨w :: ws, r, hcourse.cons hattempt hnext⟩

/-- **A run returns just if it has a course**, and then with what the course comes to. -/
theorem mem_runFreely_iff {y : Except Failure α × RetryLoop × σ} :
    y ∈ runFreely rule around attempt (l, s) ↔
      ∃ ws r, Course rule around attempt l s ws r ∧
        y = (r, l.waited ws, found attempt l.retries s (ws.length + 1)) := by
  constructor
  · intro h
    obtain ⟨ws, r, hcourse⟩ := exists_course_of_mem h
    rw [hcourse.runFreely_eq] at h
    exact ⟨ws, r, hcourse, Part.mem_some_iff.mp h⟩
  · rintro ⟨ws, r, hcourse, rfl⟩
    rw [hcourse.runFreely_eq]
    exact Part.mem_some _

/-! ## Attempts that use something up -/

/-- **Attempts that use something up** whenever they are to be made again, and bring nothing of
it. -/
structure Drains (rule : RetryRule) (attempt : Nat → σ → Except StoreError α × σ)
    (pending : σ → Nat) : Prop where
  le : ∀ n s, pending (attempt n s).2 ≤ pending s
  lt : ∀ n s e, (attempt n s).1 = .error e → rule.retriesOn e →
    pending (attempt n s).2 < pending s

variable {pending : σ → Nat}

/-- A wait costs at least one of what there is. -/
theorem Drains.length_le (hdrains : Drains rule attempt pending)
    (h : GoesOn rule around attempt l s ws) :
    ws.length + pending (found attempt l.retries s ws.length) ≤ pending s := by
  induction ws using List.reverseRecOn with
  | nil => simp [found]
  | append_singleton ws w ih =>
    obtain ⟨hws, e, he, hnext⟩ := goesOn_snoc_iff.mp h
    have hlt := hdrains.lt _ _ e he (next?_eq_some_iff.mp hnext).1
    have hrest := ih hws
    rw [List.length_append, List.length_singleton, found]
    omega

/-- A run makes at most as many waits as there was of it and is not any more. -/
theorem Drains.length_le_of_course (hdrains : Drains rule attempt pending)
    (h : Course rule around attempt l s ws r) :
    ws.length + pending (found attempt l.retries s (ws.length + 1)) ≤ pending s := by
  have hwaits := hdrains.length_le h.goesOn
  have hlast := hdrains.le (l.retries + ws.length) (found attempt l.retries s ws.length)
  rw [found]
  omega

/-- **A run whose attempts use something up has a course.** -/
theorem Drains.exists_course (hdrains : Drains rule attempt pending) (around : Surroundings)
    (l : RetryLoop) (s : σ) : ∃ ws r, Course rule around attempt l s ws r := by
  obtain ⟨ws, r, -, hcourse⟩ | ⟨ws, hlength, hws⟩ :=
    RetryLoop.exists_course rule around attempt l s (pending s + 1)
  · exact ⟨ws, r, hcourse⟩
  · -- there is not as much as so many waits would cost
    have := hdrains.length_le hws
    omega

end

end RetryLoop

end Coordination
