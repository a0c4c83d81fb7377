import Coordination.Client.Basic
import Coordination.Proofs.Path.Spaces
import Coordination.Proofs.Retry.Attempts

/-!
# Calls over a link

What the parts of a client's call keep, whatever the link: a property of the state behind the link
that every request keeps is kept by the ensuring of a path. And how the parts fail: a call that is
not sent is rejected, and one that is sent fails as its retry loop does.

## Main results

* `Ensurer.ensure_keeps`, `Client.ensureRoot_keeps`: what the creates on the way to a path keep
* `Client.exists_attempt_of_call`, `Client.exists_attempt_of_call_error`: the attempt that a call
  ends with
* `Client.isRejection_of_prepare`, `Client.isRejection_of_prepareBatch`: how a call fails that is
  not sent
* `Client.conclude_eq_transactionFailed`: how a transaction fails that the store has aborted
-/

namespace Coordination

variable {σ α : Type} {link : Link σ} {s : σ} {p : String} {P : σ → Prop}

/-! ## Ensuring paths -/

theorem Config.withRetries_preserves {c : Config} {attempt : Nat → σ → Except StoreError α × σ}
    (hattempt : ∀ n s, P s → P (attempt n s).2) (h : P s) :
    P (c.withRetries link attempt s).2.2 :=
  RetryLoop.run_preserves hattempt h

/-- A call succeeds as its retry loop does, and in the state that the last attempt left behind. -/
theorem Config.exists_attempt_of_withRetries {c : Config}
    {attempt : Nat → σ → Except StoreError α × σ} {a : α}
    (hattempt : ∀ n s, P s → P (attempt n s).2) (hs : P s)
    (h : (c.withRetries link attempt s).1 = .ok a) :
    ∃ n s₁, P s₁ ∧ attempt n s₁ = (.ok a, (c.withRetries link attempt s).2.2) :=
  RetryLoop.exists_attempt_of_run_ok hattempt hs h

/-- A call fails as its retry loop does, and in the state that the last attempt left behind. -/
theorem Config.exists_attempt_of_withRetries_error {c : Config}
    {attempt : Nat → σ → Except StoreError α × σ} {f : Failure}
    (h : (c.withRetries link attempt s).1 = .error f) :
    ∃ n s₁ e, RetryLoop.EndsBy c.policy.rule e f ∧
      attempt n s₁ = (.error e, (c.withRetries link attempt s).2.2) :=
  RetryLoop.exists_attempt_of_run_error h

namespace Ensurer

theorem createLineage_keeps {e : Ensurer} {ps : List String}
    (hsubmit : ∀ p ∈ ps, ∀ s, P s → P (link.submit s (e.request p)).2) (h : P s) :
    P (createLineage link e ps s).2 := by
  induction ps generalizing s with
  | nil => exact h
  | cons p ps ih =>
    have hnext := hsubmit p List.mem_cons_self s h
    have hrest : ∀ q ∈ ps, ∀ s, P s → P (link.submit s (e.request q)).2 :=
      fun q hq => hsubmit q (List.mem_cons_of_mem _ hq)
    rw [createLineage]
    split
    · rename_i hresult
      rw [hresult] at hnext
      exact ih hrest hnext
    · rename_i hresult
      rw [hresult] at hnext
      split
      · exact ih hrest hnext
      · exact hnext

/-- What is no path is not ensured. -/
theorem ensureBy_of_not_isValid {ε : Type} {e : Ensurer} (h : Path.isValid p = false) (nothing : ε)
    (work : σ → Except Failure Unit × ε × σ) (s : σ) :
    ∃ message,
      e.ensureBy p nothing work s = (.error (.invalidArgument message), e, nothing, s) := by
  simp [ensureBy, Path.check, h]

/-- There is nothing to do about a path that has been ensured. -/
theorem ensureBy_of_isEnsured {ε : Type} {e : Ensurer} (hvalid : Path.isValid p)
    (h : e.isEnsured p) (nothing : ε) (work : σ → Except Failure Unit × ε × σ) (s : σ) :
    e.ensureBy p nothing work s = (.ok (), e, nothing, s) := by
  simp [ensureBy, Path.check, hvalid, h]

/-- A path that has not been ensured is worked on, and remembered if the work succeeds. -/
theorem ensureBy_of_not_isEnsured {ε : Type} {e : Ensurer} (hvalid : Path.isValid p)
    (h : e.isEnsured p = false) (nothing : ε) (work : σ → Except Failure Unit × ε × σ) (s : σ) :
    e.ensureBy p nothing work s =
      ((work s).1, if (work s).1.isOk then e.remember p else e, (work s).2.1, (work s).2.2) := by
  simp only [ensureBy, Path.check, hvalid, h, if_true, Bool.false_eq_true, if_false]
  rcases work s with ⟨f | ⟨⟩, extra, s'⟩ <;> rfl

theorem ensureBy_keeps {ε : Type} {e : Ensurer} {nothing : ε}
    {work : σ → Except Failure Unit × ε × σ} (hwork : Path.isValid p → P (work s).2.2) (h : P s) :
    P (e.ensureBy p nothing work s).2.2.2 := by
  by_cases hvalid : Path.isValid p = true
  · cases hensured : e.isEnsured p with
    | true =>
      rw [ensureBy_of_isEnsured hvalid hensured]
      exact h
    | false =>
      rw [ensureBy_of_not_isEnsured hvalid hensured]
      exact hwork hvalid
  · obtain ⟨message, heq⟩ :=
      ensureBy_of_not_isValid (e := e) (by simpa using hvalid) nothing work s
    rw [heq]
    exact h

/-- Creating nodes fails as one of the requests does, or as the look at a node that was refused. -/
theorem createLineage_eq_error {e : Ensurer} {ps : List String} {refusal : StoreError}
    (h : (createLineage link e ps s).1 = .error refusal) :
    ∃ s₁, (∃ r, (link.submit s₁ r).1 = .error refusal) ∨
      ∃ p, link.exists? s₁ p = .error refusal := by
  induction ps generalizing s with
  | nil => cases h
  | cons p ps ih =>
    rw [createLineage] at h
    split at h
    · exact ih h
    · rename_i e' s' hresult
      split at h
      · exact ih h
      · rename_i e'' htolerates
        obtain rfl : e'' = refusal := by simpa using h
        -- what is not tolerated is the refusal itself, or comes from the look at the node
        unfold tolerates at htolerates
        repeat' split at htolerates
        all_goals cases htolerates
        · rename_i hexists
          exact ⟨s', .inr ⟨p, hexists⟩⟩
        all_goals exact ⟨s, .inl ⟨e.request p, by rw [hresult]⟩⟩

/-- **What the creates on the way to a path keep, the ensuring of the path keeps.** -/
theorem ensure_keeps {c : Config} {e : Ensurer}
    (hsubmit : Path.isValid p → ∀ q ∈ Path.lineage (e.space.fix p), ∀ s, P s →
      P (link.submit s (e.request q)).2)
    (h : P s) : P (e.ensure link c p s).2.2.2 :=
  ensureBy_keeps
    (fun hp => c.withRetries_preserves (fun _ _ => createLineage_keeps (hsubmit hp)) h) h

/-- Ensuring fails because the path is not well formed, or as its work fails. -/
theorem ensureBy_eq_error {ε : Type} {e : Ensurer} {nothing : ε}
    {work : σ → Except Failure Unit × ε × σ} {f : Failure}
    (h : (e.ensureBy p nothing work s).1 = .error f) :
    (∃ message, f = .invalidArgument message) ∨ (work s).1 = .error f := by
  by_cases hvalid : Path.isValid p = true
  · cases hensured : e.isEnsured p with
    | true =>
      rw [ensureBy_of_isEnsured hvalid hensured] at h
      cases h
    | false =>
      rw [ensureBy_of_not_isEnsured hvalid hensured] at h
      exact .inr h
  · obtain ⟨message, heq⟩ :=
      ensureBy_of_not_isValid (e := e) (by simpa using hvalid) nothing work s
    rw [heq] at h
    obtain rfl : _ = f := by simpa using h
    exact .inl ⟨message, rfl⟩

end Ensurer

/-! ## Calls -/

namespace Client

variable {c : Client} {os : List Operation} {index : Nat} {f : Failure}

/-- What the creates on the way to the root keep, the ensuring of the root keeps. -/
theorem ensureRoot_keeps
    (hsubmit : ∀ root, c.space.root = some root → Path.isValid root →
      ∀ q ∈ Path.lineage (c.rootEnsurer.space.fix root), ∀ s, P s →
        P (link.submit s (c.rootEnsurer.request q)).2)
    (h : P s) : P (c.ensureRoot link s).2.2 := by
  unfold ensureRoot
  split
  · exact h
  · rename_i root hroot
    exact Ensurer.ensure_keeps (hsubmit root hroot) h

theorem ensureRoot_preserves (hsubmit : ∀ s r, P s → P (link.submit s r).2) (h : P s) :
    P (c.ensureRoot link s).2.2 :=
  ensureRoot_keeps (fun _ _ _ _ _ s => hsubmit s _) h

theorem config_ensureRoot (link : Link σ) (c : Client) (s : σ) :
    (c.ensureRoot link s).2.1.config = c.config := by
  unfold ensureRoot
  split <;> rfl

/-- The root that a client works under is a path once it has been ensured. -/
theorem isWellFormed_of_ensureRoot (h : (c.ensureRoot link s).1 = .ok ()) :
    c.space.IsWellFormed := by
  intro root hroot
  unfold ensureRoot at h
  rw [hroot] at h
  by_cases hvalid : Path.isValid root = true
  · exact hvalid
  · simp [Ensurer.ensure, Ensurer.ensureBy, Path.check, hvalid] at h

/-- Ensuring the root fails because the root is malformed, or as a loop does. -/
theorem ensureRoot_eq_error (h : (c.ensureRoot link s).1 = .error f) :
    (∃ message, f = .invalidArgument message) ∨ ∃ e, RetryLoop.EndsBy c.config.policy.rule e f := by
  unfold ensureRoot at h
  split at h
  · cases h
  · rcases Ensurer.ensureBy_eq_error h with hmalformed | hwork
    · exact .inl hmalformed
    · obtain ⟨n, s₁, e, hends, -⟩ := Config.exists_attempt_of_withRetries_error hwork
      exact .inr ⟨e, hends⟩

/-- A call that succeeds has ensured the root, and then made an attempt that succeeded. -/
theorem exists_attempt_of_call {attempt : Nat → σ → Except StoreError α × σ} {a : α}
    (hattempt : ∀ n s, P s → P (attempt n s).2) (hs : P (c.ensureRoot link s).2.2)
    (h : (c.call link attempt s).1 = .ok a) :
    (c.ensureRoot link s).1 = .ok () ∧
      ∃ n s₁, P s₁ ∧ attempt n s₁ = (.ok a, (c.call link attempt s).2.2) := by
  unfold call at h ⊢
  rcases hroot : c.ensureRoot link s with ⟨f | ⟨⟩, c', s'⟩
  · rw [hroot] at h
    cases h
  · rw [hroot] at h hs
    exact ⟨rfl, Config.exists_attempt_of_withRetries hattempt hs h⟩

/-- A call that fails has failed to ensure the root, or made an attempt that it ended with. -/
theorem exists_attempt_of_call_error {attempt : Nat → σ → Except StoreError α × σ}
    (h : (c.call link attempt s).1 = .error f) :
    (c.ensureRoot link s).1 = .error f ∨
      ∃ n s₁ e, RetryLoop.EndsBy c.config.policy.rule e f ∧
        attempt n s₁ = (.error e, (c.call link attempt s).2.2) := by
  have hconfig := config_ensureRoot link c s
  unfold call at h ⊢
  rcases hroot : c.ensureRoot link s with ⟨g | ⟨⟩, c', s'⟩
  · rw [hroot] at h
    exact .inl (by simpa using h)
  · rw [hroot] at h hconfig
    right
    rw [← (show c'.config = c.config from hconfig)]
    exact Config.exists_attempt_of_withRetries_error h

/-! ## Failures -/

theorem isRejection_of_checkOpen (h : c.checkOpen = .error f) : f.isRejection := by
  unfold checkOpen at h
  split at h
  · cases h
    rfl
  · cases h

theorem isRejection_of_checkSchema {o : Operation} (h : c.checkSchema index o = .error f) :
    f.isRejection := by
  unfold checkSchema at h
  split at h
  · cases h
    rfl
  · cases h

/-- **An operation that is not sent is rejected.** -/
theorem isRejection_of_prepare {o : Operation} (h : c.prepare o = .error f) : f.isRejection := by
  unfold prepare at h
  split at h
  · cases h
    rfl
  · split at h
    · rename_i hschema
      cases h
      exact isRejection_of_checkSchema hschema
    · cases h

theorem isRejection_of_prepareEntry {o : Operation} (h : c.prepareEntry index o = .error f) :
    f.isRejection := by
  unfold prepareEntry at h
  split at h
  · cases h
    rfl
  · split at h
    · rename_i hschema
      cases h
      exact isRejection_of_checkSchema hschema
    · cases h

theorem isRejection_of_prepareEntries (h : c.prepareEntries index os = .error f) :
    f.isRejection := by
  induction os generalizing index with
  | nil => cases h
  | cons o os ih =>
    rw [prepareEntries] at h
    split at h
    · rename_i hentry
      cases h
      exact isRejection_of_prepareEntry hentry
    · split at h
      · rename_i hentries
        cases h
        exact ih hentries
      · cases h

/-- **A transaction that is not sent is rejected.** -/
theorem isRejection_of_prepareBatch (h : c.prepareBatch os = .error f) : f.isRejection := by
  unfold prepareBatch at h
  split at h
  · rename_i hentries
    cases h
    exact isRejection_of_prepareEntries hentries
  · cases h
    rfl
  · cases h

end Client

theorem Batch.matched_eq_error {n : Namespace} {b : Batch} {as : List Answer} {f : Failure}
    (h : b.matched n as = .error f) : ∃ message, f = .protocol message := by
  induction b generalizing as with
  | nil => cases h
  | cons e b ih =>
    cases as with
    | nil => cases h
    | cons a as =>
      rw [matched] at h
      split at h
      · rename_i hentry
        cases h
        unfold BatchEntry.outcome at hentry
        split at hentry
        all_goals
          cases hentry
        exact ⟨_, rfl⟩
      · split at h
        · rename_i hrest
          cases h
          exact ih hrest
        · cases h

theorem Batch.outcomes_eq_error {n : Namespace} {b : Batch} {as : List Answer} {f : Failure}
    (h : b.outcomes n as = .error f) : ∃ message, f = .protocol message := by
  unfold outcomes at h
  split at h
  · exact matched_eq_error h
  · cases h
    exact ⟨_, rfl⟩

/-- **A transaction is reported to have failed if the store has aborted its batch.** -/
theorem Client.conclude_eq_transactionFailed {n : Namespace} {b : Batch} {index : Nat}
    {path : String} {code : ErrorCode} {outcomes : List Outcome}
    {result : Except Failure (List Answer)}
    (h : conclude n b result = .error (.transactionFailed index path code outcomes)) :
    (∃ answers, result = .error (.store (.aborted index code answers))) ∨
      result = .error (.transactionFailed index path code outcomes) := by
  unfold conclude at h
  split at h
  · obtain ⟨message, hmessage⟩ := Batch.outcomes_eq_error h
    cases hmessage
  · split at h
    · rename_i houtcomes
      obtain ⟨message, hmessage⟩ := Batch.outcomes_eq_error houtcomes
      rw [hmessage] at h
      cases h
    · cases h
      exact .inl ⟨_, rfl⟩
  · cases h
    exact .inr rfl

/-- A transaction that is sent is not rejected for its outcome. -/
theorem Client.eq_error_of_conclude {n : Namespace} {b : Batch} {f : Failure}
    {result : Except Failure (List Answer)} (h : conclude n b result = .error f)
    (hf : f.isRejection) : result = .error f := by
  unfold conclude at h
  split at h
  · obtain ⟨message, rfl⟩ := Batch.outcomes_eq_error h
    cases hf
  · split at h
    · rename_i houtcomes
      obtain ⟨message, rfl⟩ := Batch.outcomes_eq_error houtcomes
      cases h
      cases hf
    · cases h
      cases hf
  · rw [Except.error.inj h]

end Coordination
