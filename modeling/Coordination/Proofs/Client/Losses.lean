import Coordination.Proofs.Client.Operations
import Coordination.Proofs.Store.Answers

/-!
# Transactions whose requests are lost

A request that is lost has not reached the tree, so a transaction that is sent again after it is the
one that its caller asked for, no more and no less. Under a policy that counts, with a retry for
each lost request, the caller gets what the store would have said at once; what is left of the
losses are the requests that the store has counted and the waits of the client.

## Main results

* `RetryLoop.run_of_lost`: the loop after all requests that are lost
* `Client.submit_of_lost`: a transaction, with requests lost and without
-/

namespace Coordination

open Store

variable {around : Surroundings} {budget n : Nat} {sleep : Duration} {l : RetryLoop}
  {st : Store} {s : Session} {rs : List Request}

/-! ## The store -/

/-- A batch does not depend on how many requests have come in before it. -/
theorem Store.multi_drained (hs : st.isConnected s) (rs : List Request) (k : Nat) :
    (st.drained k).multi s rs =
      (((st.drained 0).multi s rs).1,
        { ((st.drained 0).multi s rs).2 with
          requests := ((st.drained 0).multi s rs).2.requests + k }) := by
  have hk : ∀ k, (st.drained k).multi s rs =
      ({ st.drained k with requests := st.requests + k + 1 } : Store).applyBatch s rs := by
    intro k
    exact multi_of_connected rfl (show (st.drained k).isConnected s from hs) rs
  rw [hk k, hk 0]
  -- the tree decides, and it knows nothing of the counter
  simp only [applyBatch, drained]
  cases st.tree.applyAll s (st.tree.transaction + 1) 0 rs with
  | error failure => simp only [Nat.add_zero, Nat.add_right_comm]
  | ok result => simp only [Nat.add_zero, Nat.add_right_comm]

/-! ## The loop -/

namespace RetryLoop

/-- **The loop passes over requests that are lost**, one retry for each. -/
theorem run_of_lost (hs : st.isConnected s)
    (hlost : ∀ f ∈ st.faults, f.timing = .beforeApply ∧ f.code.isRetryable)
    (hn : l.retries + st.faults.length ≤ n) :
    run (RetryPolicy.nTimes n sleep).rule around (fun _ st => st.multi s rs)
        (budget + st.faults.length) l st =
      run (RetryPolicy.nTimes n sleep).rule around (fun _ st => st.multi s rs) budget
        ⟨l.retries + st.faults.length, l.sleeps ++ List.replicate st.faults.length sleep⟩
        (st.drained st.faults.length) := by
  generalize hfs : st.faults = fs at hlost hn ⊢
  induction fs generalizing st l with
  | nil =>
    have hst : st.drained 0 = st := by simp only [drained, Nat.add_zero, ← hfs]
    rw [List.length_nil, hst, List.replicate_zero, List.append_nil]
    rfl
  | cons f fs ih =>
    simp only [List.mem_cons, forall_eq_or_imp, List.length_cons] at hlost hn
    obtain ⟨⟨htiming, hcode⟩, hrest⟩ := hlost
    have hmulti : st.multi s rs = (.error (plainError f.code), st.letIn fs) := by
      rw [multi, receive_of_connected hs, hfs]
      obtain ⟨code, timing⟩ := f
      obtain rfl : timing = .beforeApply := htiming
      rfl
    have hnext : l.next? (RetryPolicy.nTimes n sleep).rule around (plainError f.code) =
        some sleep := next?_nTimes (by omega) hcode
    have hretries : (l.retried sleep).retries + fs.length ≤ n := by
      simp only [retried]
      omega
    -- the request has been counted, and the loop stands before the faults that are left
    have hstep : run (RetryPolicy.nTimes n sleep).rule around (fun _ st => st.multi s rs)
        (budget + fs.length + 1) l st =
          run (RetryPolicy.nTimes n sleep).rule around (fun _ st => st.multi s rs)
            (budget + fs.length) (l.retried sleep) (st.letIn fs) :=
      run_of_retry hmulti hnext
    have hconnected : (st.letIn fs).isConnected s := hs
    rw [List.length_cons, ← Nat.add_assoc, hstep, ih hconnected rfl hrest hretries, drained_letIn]
    simp only [retried, List.append_assoc, List.singleton_append, ← List.replicate_succ,
      Nat.add_assoc, Nat.add_comm 1]

/-- A batch that meets no fault is sent once. -/
theorem run_of_faultless (hs : st.isConnected s) (hfs : st.faults = []) :
    run (RetryPolicy.nTimes n sleep).rule around (fun _ st => st.multi s rs) budget l st =
      ((st.multi s rs).1.mapError .store, l, (st.multi s rs).2) := by
  rcases hmulti : st.multi s rs with ⟨e | as, st'⟩
  · -- it is the tree that refuses, and its refusals are final
    have hfinal : (RetryPolicy.nTimes n sleep).rule.retriesOn e = false := by
      rw [multi_of_connected hfs hs] at hmulti
      exact isRetryable_of_applyBatch (congrArg Prod.fst hmulti)
    unfold run
    simp only [hmulti, hfinal, Bool.not_false, if_true, Except.mapError]
  · exact run_of_ok hmulti

end RetryLoop

/-! ## Calls -/

namespace Client

variable {c c₀ : Client} {os : List Operation} {b : Batch} {st₀ : Store}
  {result : Except Failure (List Outcome)}

theorem withRetries_of_lost (hpolicy : c.config.policy = .nTimes n sleep)
    (hs : st.isConnected s)
    (hlost : ∀ f ∈ st.faults, f.timing = .beforeApply ∧ f.code.isRetryable)
    (hlength : st.faults.length ≤ n) (rs : List Request) :
    c.config.withRetries (Store.link s) (fun _ st => st.multi s rs) st =
      (((st.drained 0).multi s rs).1.mapError .store,
        List.replicate st.faults.length sleep,
        { ((st.drained 0).multi s rs).2 with
          requests := ((st.drained 0).multi s rs).2.requests + st.faults.length }) := by
  have hn : RetryLoop.fresh.retries + st.faults.length ≤ n := by
    simpa [RetryLoop.fresh] using hlength
  -- the budget is what the policy allows, and the losses take their share of it
  obtain ⟨budget, hbudget⟩ : ∃ budget, n = budget + st.faults.length :=
    ⟨n - st.faults.length, by omega⟩
  have hretries : c.config.retryBudget (Store.link s) st = budget + st.faults.length := by
    rw [Config.retryBudget, hpolicy, ← hbudget]
    rfl
  have hdrained : (st.drained st.faults.length).isConnected s := hs
  rw [Config.withRetries, hretries, hpolicy, RetryLoop.run_of_lost hs hlost hn,
    RetryLoop.run_of_faultless hdrained rfl, multi_drained hs]
  rfl

/-- **Requests that are lost are invisible to a transaction**, if the policy has a retry for each:
the caller is told what it would have been told without them, and the store is left as it would have
been, but for the requests that it has counted. The client has waited once for each. -/
theorem submit_of_lost (hpolicy : c.config.policy = .nTimes n sleep) (hroot : c.IsRooted)
    (hopen : c.closed = false) (hs : st.isConnected s) (hb : c.prepareBatch os = .ok b)
    (hlost : ∀ f ∈ st.faults, f.timing = .beforeApply ∧ f.code.isRetryable)
    (hlength : st.faults.length ≤ n)
    (h : c.submit (Store.link s) os { st with faults := [] } = (result, c₀, st₀)) :
    c.submit (Store.link s) os st =
        (result, c.slept (List.replicate st.faults.length sleep),
          { st₀ with requests := st₀.requests + st.faults.length }) ∧
      c₀ = c ∧ st₀.faults = [] := by
  have hs₀ : (st.drained 0).isConnected s := hs
  -- without faults the call is one sending of the batch
  have hlost₀ : ∀ f ∈ (st.drained 0).faults, f.timing = .beforeApply ∧ f.code.isRetryable := by
    intro f hf
    cases hf
  have hfaultless : c.config.withRetries (Store.link s) (fun _ st => st.multi s b.requests)
      { st with faults := [] } = (((st.drained 0).multi s b.requests).1.mapError .store, [],
        ((st.drained 0).multi s b.requests).2) :=
    withRetries_of_lost hpolicy hs₀ hlost₀ (Nat.zero_le n) b.requests
  have hfaults : ((st.drained 0).multi s b.requests).2.faults = [] :=
    (multi_of_faultless hs₀ rfl b.requests).2.1
  have hlossy := withRetries_of_lost hpolicy hs hlost hlength b.requests
  rw [submit_of_prepared hroot hopen hb] at h ⊢
  dsimp only [Store.link] at h hfaultless hlossy ⊢
  rw [hfaultless, Prod.mk.injEq, Prod.mk.injEq] at h
  obtain ⟨rfl, rfl, rfl⟩ := h
  rw [hlossy]
  refine ⟨rfl, ?_, hfaults⟩
  simp only [slept, List.append_nil]

/-- A store with the root of a namespace, which will lose two requests. -/
def deaf : Store :=
  Store.Move.run .initial
    [.connect [], .submit ⟨1, []⟩ (.createContainer "/svc" ByteArray.empty .worldOpen),
      .failNext .connectionLoss 1, .failNext .operationTimeout 1]

/-- A transaction that creates two nodes, the second with a counter. -/
def enrolling : List Operation :=
  [.create "/members" ByteArray.empty .persistent none,
    .create "/members/m-" "x".toUTF8 .ephemeralSequential none]

/-- Two lost requests, and the nodes are created as if there had been none. -/
theorem submit_enrolling_of_deaf :
    deaf.faults.length = 2 ∧
      (tenant.submit (Store.link ⟨1, []⟩) enrolling { deaf with faults := [] }).1.isOk ∧
      tenant.submit (Store.link ⟨1, []⟩) enrolling deaf =
        ((tenant.submit (Store.link ⟨1, []⟩) enrolling { deaf with faults := [] }).1,
          tenant.slept [.ofMillis 1, .ofMillis 1],
          { (tenant.submit (Store.link ⟨1, []⟩) enrolling { deaf with faults := [] }).2.2 with
            requests := 4 }) := by
  have hconnected : deaf.isConnected ⟨1, []⟩ := by decide +kernel
  have hfaults : deaf.faults.length = 2 := by decide +kernel
  have hrooted : tenant.IsRooted := by
    intro root hroot
    obtain rfl : "/svc" = root := by simpa [tenant] using hroot
    exact ⟨by decide +kernel, by decide +kernel⟩
  have hpolicy : tenant.config.policy = .nTimes 5 (.ofMillis 1) := rfl
  have hprepared : (tenant.prepareBatch enrolling).isOk := by decide +kernel
  generalize hrun : tenant.submit (Store.link ⟨1, []⟩) enrolling { deaf with faults := [] } = run
  obtain ⟨result, c₀, st₀⟩ := run
  have hdone :
      (tenant.submit (Store.link ⟨1, []⟩) enrolling { deaf with faults := [] }).1.isOk := by
    decide +kernel
  have hrequests : (tenant.submit (Store.link ⟨1, []⟩) enrolling
      { deaf with faults := [] }).2.2.requests = 2 := by decide +kernel
  rw [hrun] at hdone hrequests
  refine ⟨hfaults, hdone, ?_⟩
  cases hb : tenant.prepareBatch enrolling with
  | error f =>
    rw [hb] at hprepared
    cases hprepared
  | ok b =>
    obtain ⟨hsubmit, -, -⟩ := submit_of_lost hpolicy hrooted rfl hconnected hb
      (by decide +kernel) (by decide +kernel) hrun
    rw [hsubmit, hfaults, show st₀.requests = 2 from hrequests]
    rfl

end Client

end Coordination
