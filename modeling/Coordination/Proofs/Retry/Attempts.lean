import Coordination.Retry.Loop

/-!
# The attempts of a retry loop

What a retry loop does is what its attempts do, so whatever every attempt preserves the loop
preserves, and if the loop fails it is with the error that its last attempt left behind. Neither
depends on how many attempts the rule allows.

## Main results

* `RetryLoop.run_preserves`: what every attempt preserves
* `RetryLoop.exists_attempt_of_run`: the attempt that the result comes from, be it a success or a
  failure
-/

namespace Coordination

/-- The rule makes no more than so many retries. -/
def RetryRule.GivesUpBy (rule : RetryRule) (n : Nat) : Prop :=
  ∀ retries ≥ n, ∀ elapsed roll e, rule.next? retries elapsed roll e = none

theorem RetryPolicy.givesUpBy_rule {p : RetryPolicy} {n : Nat} (h : p.retryLimit? = some n) :
    p.rule.GivesUpBy n := by
  intro retries hn elapsed roll e
  rw [RetryRule.next?]
  split
  · exact delay?_eq_none_of_retryLimit? h hn elapsed roll
  · rfl

namespace RetryLoop

variable {σ α : Type} {rule : RetryRule} {around : Surroundings}
  {attempt : Nat → σ → Except StoreError α × σ} {budget : Nat} {l : RetryLoop} {s s' : σ}

/-- What the rule says to an error of the attempt that the loop has come to. -/
def next? (rule : RetryRule) (around : Surroundings) (l : RetryLoop) (e : StoreError) :
    Option Duration :=
  rule.next? l.retries (around.elapsed l.sleeps) (around.roll l.sleeps) e

/-- The failures that a loop ends with because of an error. -/
inductive EndsBy (rule : RetryRule) (e : StoreError) : Failure → Prop where
  /-- The rule does not consider the error. -/
  | refused (h : rule.retriesOn e = false) : EndsBy rule e (.store e)
  /-- The rule gives up. -/
  | exhausted (h : rule.retriesOn e) (attempts : Nat) (elapsed : Duration) :
      EndsBy rule e (.retriesExhausted attempts elapsed e)

/-- What a loop comes to when its last attempt has come to something. -/
inductive Ends (rule : RetryRule) : Except StoreError α → Except Failure α → Prop where
  | ok (a : α) : Ends rule (.ok a) (.ok a)
  | error {e : StoreError} {f : Failure} (h : EndsBy rule e f) : Ends rule (.error e) (.error f)

/-! ## One attempt -/

theorem run_of_ok {a : α} (h : attempt l.retries s = (.ok a, s')) :
    run rule around attempt budget l s = (.ok a, l, s') := by
  unfold run
  rw [h]

theorem run_of_retry {e : StoreError} {sleep : Duration}
    (h : attempt l.retries s = (.error e, s')) (hnext : l.next? rule around e = some sleep) :
    run rule around attempt (budget + 1) l s =
      run rule around attempt budget (l.retried sleep) s' := by
  have hretries : rule.retriesOn e = true := by
    by_cases hr : rule.retriesOn e = true
    · exact hr
    · rw [next?, RetryRule.next?, if_neg hr] at hnext
      cases hnext
  rw [next?] at hnext
  rw [run, h]
  simp [hretries, hnext]

/-- An attempt that fails ends the loop if the rule says so, or if the budget is spent. -/
theorem run_of_end {e : StoreError} (h : attempt l.retries s = (.error e, s'))
    (hend : budget = 0 ∨ l.next? rule around e = none) :
    ∃ f, EndsBy rule e f ∧ run rule around attempt budget l s = (.error f, l, s') := by
  by_cases hretries : rule.retriesOn e = true
  · refine ⟨_, .exhausted hretries (l.retries + 1) (around.elapsed l.sleeps), ?_⟩
    unfold run
    rw [h]
    simp only [hretries, Bool.not_true, Bool.false_eq_true, if_false]
    split
    · rename_i hnext
      rcases hend with hbudget | hnone
      · cases hbudget
      · rw [next?, hnext] at hnone
        cases hnone
    · rfl
  · refine ⟨_, .refused (by simpa using hretries), ?_⟩
    unfold run
    rw [h]
    simp [hretries]

/-! ## Runs -/

/-- Induction over the retries of a loop. -/
@[elab_as_elim]
theorem run_induction (rule : RetryRule) (around : Surroundings)
    (attempt : Nat → σ → Except StoreError α × σ) {motive : Nat → RetryLoop → σ → Prop}
    (ok : ∀ budget l s a s', attempt l.retries s = (.ok a, s') → motive budget l s)
    (ended : ∀ budget l s e s', attempt l.retries s = (.error e, s') →
      (budget = 0 ∨ l.next? rule around e = none) → motive budget l s)
    (retry : ∀ budget l s e s' sleep, attempt l.retries s = (.error e, s') →
      l.next? rule around e = some sleep → motive budget (l.retried sleep) s' →
      motive (budget + 1) l s)
    (budget : Nat) (l : RetryLoop) (s : σ) : motive budget l s := by
  induction budget generalizing l s with
  | zero =>
    rcases h : attempt l.retries s with ⟨e | a, s'⟩
    · exact ended 0 l s e s' h (.inl rfl)
    · exact ok 0 l s a s' h
  | succ budget ih =>
    rcases h : attempt l.retries s with ⟨e | a, s'⟩
    · cases hnext : l.next? rule around e with
      | none => exact ended (budget + 1) l s e s' h (.inr hnext)
      | some sleep => exact retry budget l s e s' sleep h hnext (ih _ _)
    · exact ok (budget + 1) l s a s' h

/-- **What every attempt preserves the loop preserves.** -/
theorem run_preserves {P : σ → Prop} (hattempt : ∀ n s, P s → P (attempt n s).2) (h : P s) :
    P (run rule around attempt budget l s).2.2 := by
  induction budget, l, s using run_induction rule around attempt with
  | ok budget l s a s' ha =>
    rw [run_of_ok ha]
    simpa [ha] using hattempt l.retries s h
  | ended budget l s e s' he hend =>
    obtain ⟨f, -, hrun⟩ := run_of_end he hend
    rw [hrun]
    simpa [he] using hattempt l.retries s h
  | retry budget l s e s' sleep he hnext ih =>
    rw [run_of_retry he hnext]
    exact ih (by simpa [he] using hattempt l.retries s h)

variable (rule around attempt budget l) in
/-- **A loop comes to what its last attempt has come to**, in the state that this attempt left
behind. What every attempt preserves held when the last one was made. -/
theorem exists_attempt_of_run {P : σ → Prop} (hattempt : ∀ n s, P s → P (attempt n s).2)
    (hs : P s) :
    ∃ n s₁, P s₁ ∧ Ends rule (attempt n s₁).1 (run rule around attempt budget l s).1 ∧
      (attempt n s₁).2 = (run rule around attempt budget l s).2.2 := by
  induction budget, l, s using run_induction rule around attempt with
  | ok budget l s a s' ha =>
    refine ⟨l.retries, s, hs, ?_⟩
    rw [run_of_ok ha, ha]
    exact ⟨.ok a, rfl⟩
  | ended budget l s e s' he hend =>
    obtain ⟨f, hf, hrun⟩ := run_of_end he hend
    refine ⟨l.retries, s, hs, ?_⟩
    rw [hrun, he]
    exact ⟨.error hf, rfl⟩
  | retry budget l s e s' sleep he hnext ih =>
    rw [run_of_retry he hnext]
    exact ih (by simpa [he] using hattempt l.retries s hs)

/-- A loop succeeds with the answer of its last attempt. -/
theorem exists_attempt_of_run_ok {P : σ → Prop} {a : α}
    (hattempt : ∀ n s, P s → P (attempt n s).2) (hs : P s)
    (h : (run rule around attempt budget l s).1 = .ok a) :
    ∃ n s₁, P s₁ ∧ attempt n s₁ = (.ok a, (run rule around attempt budget l s).2.2) := by
  obtain ⟨n, s₁, hs₁, hends, hstate⟩ :=
    exists_attempt_of_run rule around attempt budget l hattempt hs
  refine ⟨n, s₁, hs₁, Prod.ext ?_ hstate⟩
  rw [h] at hends
  generalize (attempt n s₁).1 = tried at hends
  cases hends
  rfl

/-- A loop fails with the error of its last attempt. -/
theorem exists_attempt_of_run_error {f : Failure}
    (h : (run rule around attempt budget l s).1 = .error f) :
    ∃ n s₁ e, EndsBy rule e f ∧
      attempt n s₁ = (.error e, (run rule around attempt budget l s).2.2) := by
  obtain ⟨n, s₁, -, hends, hstate⟩ :=
    exists_attempt_of_run rule around attempt budget l (P := fun _ => True)
      (fun _ _ _ => trivial) trivial
  rw [h] at hends
  generalize htried : (attempt n s₁).1 = tried at hends
  cases hends with
  | error he => exact ⟨n, s₁, _, he, Prod.ext htried hstate⟩

end RetryLoop

end Coordination
