import Coordination.Proofs.Client.Calls

/-!
# Repeats in the foreground

An operation that is run in the foreground counts its own requests: the loop passes the number of
requests sent before to each attempt, and the root of the namespace is ensured before the loop. So
what is taken for a repeat has been sent before, over any link.

## Main definitions

* `Client.Submitted`: one state of a link comes from another one by so many sendings of a request

## Main results

* `Client.exists_submitted_of_execute`: how an operation succeeds
* `Client.execute_of_first_error`: how an operation fails at once
-/

namespace Coordination

variable {σ : Type} {link : Link σ} {c : Client} {o : Operation} {r : Request} {n : Nat}
  {s s₀ s₁ : σ} {a : Answer} {e : StoreError} {rule : RetryRule} {around : Surroundings}
  {budget : Nat} {l : RetryLoop}

namespace Client

/-- Whether one state behind a link comes from another one by so many sendings of a request. -/
inductive Submitted (link : Link σ) (r : Request) : Nat → σ → σ → Prop
  | refl {s : σ} : Submitted link r 0 s s
  | tail {n : Nat} {s s₁ : σ} (h : Submitted link r n s s₁) :
      Submitted link r (n + 1) s (link.submit s₁ r).2

end Client

open Client

/-- A loop that succeeds does so with an attempt that knows how many sendings there have been. -/
theorem RetryLoop.exists_submitted_of_run
    (h : (run rule around (attempt link r) budget l s).1 = .ok a)
    (hs : Submitted link r l.retries s₀ s) :
    ∃ n s₁, Submitted link r n s₀ s₁ ∧ r.settled n (link.submit s₁ r).1 = .ok a := by
  induction budget, l, s using run_induction rule around (attempt link r) with
  | ok budget l s a' s' hattempt =>
    rw [run_of_ok hattempt] at h
    obtain rfl : a' = a := by simpa using h
    exact ⟨l.retries, s, hs, congrArg Prod.fst hattempt⟩
  | ended budget l s e s' hattempt hend =>
    obtain ⟨f, -, hrun⟩ := run_of_end hattempt hend
    rw [hrun] at h
    cases h
  | retry budget l s e s' sleep hattempt hnext ih =>
    rw [run_of_retry hattempt hnext] at h
    obtain rfl : (link.submit s r).2 = s' := congrArg Prod.snd hattempt
    exact ih h hs.tail

namespace Client

theorem call_of_ensureRoot {α : Type} {attempt : Nat → σ → Except StoreError α × σ}
    (hroot : (c.ensureRoot link s).1 = .ok ()) :
    (c.call link attempt s).1 =
      (c.config.withRetries link attempt (c.ensureRoot link s).2.2).1 := by
  have hconfig := config_ensureRoot link c s
  unfold call
  generalize c.ensureRoot link s = y at hroot hconfig ⊢
  obtain ⟨result, c', s'⟩ := y
  obtain rfl : result = .ok () := hroot
  dsimp only at hconfig ⊢
  rw [hconfig]

theorem space_call {α : Type} (attempt : Nat → σ → Except StoreError α × σ) :
    (c.call link attempt s).2.1.space = c.space := by
  have hspace : (c.ensureRoot link s).2.1.space = c.space := by
    unfold ensureRoot
    split <;> rfl
  unfold call
  split
  · rename_i hroot
    rwa [hroot] at hspace
  · rename_i hroot
    rwa [hroot] at hspace

/-- A call that succeeds has ensured the root of its namespace. -/
theorem ensureRoot_of_call {α : Type} {attempt : Nat → σ → Except StoreError α × σ} {a : α}
    (h : (c.call link attempt s).1 = .ok a) : (c.ensureRoot link s).1 = .ok () := by
  unfold call at h
  split at h
  · cases h
  · rename_i hroot
    rw [hroot]

theorem eq_or_replayed_of_settled (h : r.settled n (link.submit s r).1 = .ok a) :
    (link.submit s r).1 = .ok a ∨
      ∃ e, (link.submit s r).1 = .error e ∧ r.replayed? e = some a ∧ 1 ≤ n := by
  unfold Request.settled at h
  split at h
  · rename_i hanswer
    exact .inl (hanswer.trans h)
  · rename_i e hanswer
    split at h
    · cases h
    · rename_i hn
      split at h
      · rename_i hreplayed
        cases h
        exact .inr ⟨e, hanswer, hreplayed, Nat.one_le_iff_ne_zero.mpr hn⟩
      · cases h

/-- **An operation succeeds with the store's answer to its request, or with an error that shows its
request to have been applied, and then it has sent the request before.** -/
theorem exists_submitted_of_execute (h : (c.execute link o s).1 = .ok a) :
    ∃ r n s₁ answer, c.prepare o = .ok r ∧ Submitted link r n (c.ensureRoot link s).2.2 s₁ ∧
      a = reported c.space answer ∧
      ((link.submit s₁ r).1 = .ok answer ∨
        ∃ e, (link.submit s₁ r).1 = .error e ∧ r.replayed? e = some answer ∧ 1 ≤ n) := by
  unfold execute at h
  split at h
  · cases h
  · split at h
    · cases h
    · rename_i r hr
      have hspace : (c.call link (attempt link r) s).2.1.space = c.space := space_call _
      cases hcall : (c.call link (attempt link r) s).1 with
      | error f =>
        dsimp only at h
        rw [hcall] at h
        cases h
      | ok answer =>
        dsimp only at h
        rw [hcall, hspace] at h
        have hroot := ensureRoot_of_call hcall
        rw [call_of_ensureRoot hroot] at hcall
        obtain ⟨n, s₁, hsubmitted, hsettled⟩ :=
          RetryLoop.exists_submitted_of_run hcall .refl
        exact ⟨r, n, s₁, answer, hr, hsubmitted, (Except.ok.inj h).symm,
          eq_or_replayed_of_settled hsettled⟩

/-- **An error of the first sending is reported**, unless the policy asks for another one. -/
theorem execute_of_first_error (hopen : c.closed = false) (hr : c.prepare o = .ok r)
    (hroot : (c.ensureRoot link s).1 = .ok ())
    (he : (link.submit (c.ensureRoot link s).2.2 r).1 = .error e)
    (hfinal : c.config.policy.retriesOn e = false) :
    (c.execute link o s).1 = .error (.store e) := by
  have hattempt : attempt link r RetryLoop.fresh.retries (c.ensureRoot link s).2.2 =
      (.error e, (link.submit (c.ensureRoot link s).2.2 r).2) := by
    simp only [attempt, he, Request.settled, RetryLoop.fresh, if_true]
  have hcall : (c.call link (attempt link r) s).1 = .error (.store e) := by
    rw [call_of_ensureRoot hroot]
    unfold Config.withRetries RetryLoop.run
    rw [hattempt]
    simp only [RetryPolicy.rule, hfinal, Bool.not_false, if_true]
  unfold execute
  rw [checkOpen, hopen, if_neg Bool.false_ne_true, hr]
  dsimp only
  rw [hcall]
  rfl

end Client

end Coordination
