import Coordination.Proofs.Retry.Attempts

/-!
# Two loops side by side

Two retry loops under one rule, each over a state of its own. If their attempts agree, so do the
loops: they make the same number of attempts, wait as long, and end with results that belong
together. Errors may differ in what the rule does not look at.

## Main definitions

* `Agree`: two results that belong together
* `RetryRule.Overlooks`: the changes of an error that a rule does not see

## Main results

* `RetryLoop.run_agree`: loops whose attempts agree
-/

namespace Coordination

/-- **Two results belong together**: both are failures that do, or both are successes that do. -/
inductive Agree {ε ε' α α' : Type} (E : ε → ε' → Prop) (P : α → α' → Prop) :
    Except ε α → Except ε' α' → Prop where
  | error {e : ε} {e' : ε'} (h : E e e') : Agree E P (.error e) (.error e')
  | ok {a : α} {a' : α'} (h : P a a') : Agree E P (.ok a) (.ok a')

namespace Agree

variable {ε ε' α α' β β' : Type} {E : ε → ε' → Prop} {P : α → α' → Prop} {Q : β → β' → Prop}
  {x : Except ε α} {x' : Except ε' α'}

theorem map {f : α → β} {f' : α' → β'} (h : Agree E P x x')
    (hf : ∀ a a', P a a' → Q (f a) (f' a')) : Agree E Q (x.map f) (x'.map f') := by
  cases h with
  | error h => exact .error h
  | ok h => exact .ok (hf _ _ h)

theorem mono {F : ε → ε' → Prop} {R : α → α' → Prop} (h : Agree E P x x')
    (hE : ∀ e e', E e e' → F e e') (hP : ∀ a a', P a a' → R a a') : Agree F R x x' := by
  cases h with
  | error h => exact .error (hE _ _ h)
  | ok h => exact .ok (hP _ _ h)

/-- Both sides put a question, and stop at the same answer to it. -/
theorem guard {stop : Prop} [Decidable stop] {e : ε} {e' : ε'} (he : E e e')
    (h : ¬ stop → Agree E P x x') :
    Agree E P (if stop then .error e else x) (if stop then .error e' else x') := by
  by_cases hstop : stop
  · rw [if_pos hstop, if_pos hstop]
    exact .error he
  · rw [if_neg hstop, if_neg hstop]
    exact h hstop

end Agree

/-- Whether a rule does not see a change of an error. -/
def RetryRule.Overlooks (rule : RetryRule) (φ : StoreError → StoreError) : Prop :=
  ∀ e, rule.retriesOn (φ e) = rule.retriesOn e ∧
    ∀ retries elapsed roll, rule.delay? retries elapsed roll (φ e) =
      rule.delay? retries elapsed roll e

/-- A policy looks at no more than the code of an error, and whether it may be tried again. -/
theorem RetryPolicy.overlooks_rule (p : RetryPolicy) {φ : StoreError → StoreError}
    (hcode : ∀ e, (φ e).code = e.code) (hretryable : ∀ e, (φ e).isRetryable = e.isRetryable) :
    p.rule.Overlooks φ := by
  intro e
  refine ⟨?_, fun _ _ _ => rfl⟩
  cases p <;> simp only [rule, retriesOn, hcode, hretryable]

/-- A failure, with the store's error changed. -/
def Failure.mapError (φ : StoreError → StoreError) : Failure → Failure
  | .store e => .store (φ e)
  | .retriesExhausted attempts elapsed e => .retriesExhausted attempts elapsed (φ e)
  | f => f

namespace RetryLoop

variable {σ σ' α α' : Type} {rule : RetryRule} {around : Surroundings}
  {attempt : Nat → σ → Except StoreError α × σ} {attempt' : Nat → σ' → Except StoreError α' × σ'}
  {budget : Nat} {l : RetryLoop} {s : σ} {s' : σ'} {φ : StoreError → StoreError}

theorem next?_of_overlooks (hφ : rule.Overlooks φ) (e : StoreError) :
    l.next? rule around (φ e) = l.next? rule around e := by
  obtain ⟨hretries, hdelay⟩ := hφ e
  rw [next?, next?, RetryRule.next?, RetryRule.next?, hretries, hdelay]

/-- What a loop fails with when it ends with an error. -/
def ending (rule : RetryRule) (around : Surroundings) (l : RetryLoop) (e : StoreError) : Failure :=
  if rule.retriesOn e then .retriesExhausted (l.retries + 1) (around.elapsed l.sleeps) e
  else .store e

theorem run_of_end_eq {e : StoreError} {s₁ : σ} (h : attempt l.retries s = (.error e, s₁))
    (hend : budget = 0 ∨ l.next? rule around e = none) :
    run rule around attempt budget l s = (.error (l.ending rule around e), l, s₁) := by
  unfold run ending
  rw [h]
  by_cases hretries : rule.retriesOn e = true
  · simp only [hretries, Bool.not_true, Bool.false_eq_true, if_false, if_true]
    split
    · rename_i hnext
      rcases hend with hbudget | hnone
      · cases hbudget
      · rw [next?, hnext] at hnone
        cases hnone
    · rfl
  · simp [hretries]

theorem ending_of_overlooks (hφ : rule.Overlooks φ) (e : StoreError) :
    l.ending rule around (φ e) = (l.ending rule around e).mapError φ := by
  rw [ending, ending, (hφ e).1]
  split <;> rfl

variable (around budget l) in
/-- **Two loops whose attempts agree agree**: their results belong together, they have waited alike,
and what every pair of attempts preserves holds in the end. -/
theorem run_agree {P : α → α' → Prop} {I : σ → σ' → Prop} (hφ : rule.Overlooks φ)
    (hattempt : ∀ n s s', I s s' →
      Agree (fun e e' => e' = φ e) P (attempt n s).1 (attempt' n s').1 ∧
        I (attempt n s).2 (attempt' n s').2) (h : I s s') :
    Agree (fun f f' => f' = f.mapError φ) P (run rule around attempt budget l s).1
        (run rule around attempt' budget l s').1 ∧
      (run rule around attempt budget l s).2.1 = (run rule around attempt' budget l s').2.1 ∧
      I (run rule around attempt budget l s).2.2 (run rule around attempt' budget l s').2.2 := by
  -- the second loop follows the cases of the first, one attempt at a time
  induction budget, l, s using run_induction rule around attempt generalizing s' with
  | ok budget l s a s₁ ha =>
    obtain ⟨hresult, hI⟩ := hattempt l.retries s s' h
    rcases ha' : attempt' l.retries s' with ⟨result', s₁'⟩
    rw [ha, ha'] at hresult hI
    cases hresult with
    | ok hP =>
      rw [run_of_ok ha, run_of_ok ha']
      exact ⟨.ok hP, rfl, hI⟩
  | ended budget l s e s₁ he hend =>
    obtain ⟨hresult, hI⟩ := hattempt l.retries s s' h
    rcases he' : attempt' l.retries s' with ⟨result', s₁'⟩
    rw [he, he'] at hresult hI
    cases hresult with
    | error hE =>
      subst hE
      have hend' : budget = 0 ∨ l.next? rule around (φ e) = none := by
        rwa [next?_of_overlooks hφ]
      rw [run_of_end_eq he hend, run_of_end_eq he' hend']
      exact ⟨.error (ending_of_overlooks hφ e), rfl, hI⟩
  | retry budget l s e s₁ sleep he hnext ih =>
    obtain ⟨hresult, hI⟩ := hattempt l.retries s s' h
    rcases he' : attempt' l.retries s' with ⟨result', s₁'⟩
    rw [he, he'] at hresult hI
    cases hresult with
    | error hE =>
      subst hE
      have hnext' : l.next? rule around (φ e) = some sleep := by
        rwa [next?_of_overlooks hφ]
      rw [run_of_retry he hnext, run_of_retry he' hnext']
      exact ih hI

end RetryLoop

end Coordination
