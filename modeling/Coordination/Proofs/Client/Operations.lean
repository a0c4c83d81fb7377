import Coordination.Proofs.Client.Transactions
import Coordination.Proofs.Store.Replays

/-!
# Operations whose answers are lost

A client sends an operation again when it learns nothing of the last sending, like a transaction,
but it recognises a create or delete that an earlier sending has done. So creates of a given name
and deletes are applied exactly once under any faults that the policy has retries for: the first
sending that reaches the tree does the work, the others are refused as repeats and change nothing.

## Main definitions

* `Client.IsRooted`: the clients that ask for nothing before their request

## Main results

* `RetryLoop.exists_run_of_applied`: the loop of a request that applies once
* `Client.execute_of_faults`: a call for such a request, with faults and without
-/

namespace Coordination

open Store

/-! ## The loop -/

namespace RetryLoop

variable {rule : RetryRule} {around : Surroundings} {budget n : Nat} {sleep : Duration}
  {l : RetryLoop} {st : Store} {s : Session} {r : Request} {a : Answer} {t : Tree}
  {code : ErrorCode} {e : StoreError}

theorem next?_of_not_retriesOn (h : rule.retriesOn e = false) : l.next? rule around e = none := by
  rw [next?, RetryRule.next?, if_neg (by simpa using h)]

theorem next?_nTimes (hl : l.retries < n) (he : e.isRetryable) :
    l.next? (RetryPolicy.nTimes n sleep).rule around e = some sleep := by
  have hrule : (RetryPolicy.nTimes n sleep).rule.retriesOn e = true := he
  rw [next?, RetryRule.next?, if_pos hrule]
  exact if_pos hl

/-- An attempt that meets a fault is made again as long as there are retries. -/
theorem run_of_fault {f : Fault} {st' : Store} (hf : f.code.isRetryable) (hl : l.retries < n)
    (hsubmit : st.submit s r = (.error (plainError f.code), st')) :
    run (RetryPolicy.nTimes n sleep).rule around (Client.attempt (Store.link s) r) (budget + 1) l
        st =
      run (RetryPolicy.nTimes n sleep).rule around (Client.attempt (Store.link s) r) budget
        (l.retried sleep) st' := by
  have he : (plainError f.code).isRetryable := hf
  refine run_of_retry ?_ (next?_nTimes hl he)
  simp only [Client.attempt, Store.link, hsubmit, Request.settled, r.replayed?_eq_none he,
    ite_self]

/-- A request that meets no fault is applied at the first attempt. -/
theorem run_of_applied (hs : st.isConnected s) (hr : r.isMutation) (hfs : st.faults = [])
    (happly : st.tree.apply s (st.tree.transaction + 1) r = .ok (a, t)) :
    run rule around (Client.attempt (Store.link s) r) budget l st =
      (.ok a, l, (st.advanced t).drained 1) := by
  refine run_of_ok ?_
  have hsubmit : st.submit s r = (.ok a, (st.advanced t).drained 1) := by
    rw [submit_of_faultless hs hfs]
    exact applyOne_of_applied hr happly
  simp only [Client.attempt, Store.link, hsubmit, Request.settled]

/-- A request that meets no fault and is refused at the first attempt is not sent again. -/
theorem exists_run_of_refused (around : Surroundings) (budget n : Nat) (sleep : Duration)
    (hs : st.isConnected s) (hfs : st.faults = [])
    (happly : st.tree.apply s (st.tree.transaction + 1) r = .error code) :
    ∃ f, (run (RetryPolicy.nTimes n sleep).rule around (Client.attempt (Store.link s) r) budget
      .fresh st).1 = .error f := by
  have hsubmit : st.submit s r = (.error (.refused code (some r.path)), st.letIn []) := by
    rw [submit_of_faultless hs hfs]
    exact applyOne_of_refused happly
  have hattempt : Client.attempt (Store.link s) r fresh.retries st =
      (.error (.refused code (some r.path)), st.letIn []) := by
    simp only [Client.attempt, Store.link, hsubmit, Request.settled, fresh, if_true]
  have hfinal : (RetryPolicy.nTimes n sleep).rule.retriesOn (.refused code (some r.path)) = false :=
    Tree.isRetryable_of_apply_eq_error happly
  obtain ⟨f, -, hrun⟩ := run_of_end hattempt (.inr (next?_of_not_retriesOn hfinal))
  exact ⟨f, by rw [hrun]⟩

/-- A request that has been applied before is found to have been, once there are no faults. -/
theorem exists_run_of_replayed (around : Surroundings) (sleep : Duration) (hs : st.isConnected s)
    (happly : st.tree.apply s (st.tree.transaction + 1) r = .error code)
    (hreplayed : r.replayed? (.refused code (some r.path)) = some a)
    (hcodes : ∀ f ∈ st.faults, f.code.isRetryable) (hl : l.retries ≠ 0)
    (hn : l.retries + st.faults.length ≤ n) (hbudget : st.faults.length ≤ budget) :
    ∃ l', run (RetryPolicy.nTimes n sleep).rule around (Client.attempt (Store.link s) r) budget l
      st = (.ok a, l', st.drained (st.faults.length + 1)) := by
  generalize hfs : st.faults = fs at hcodes hn hbudget ⊢
  induction fs generalizing st l budget with
  | nil =>
    refine ⟨l, run_of_ok ?_⟩
    have hsubmit : st.submit s r = (.error (.refused code (some r.path)), st.drained 1) := by
      rw [submit_of_faultless hs hfs]
      exact applyOne_of_refused happly
    simp only [Client.attempt, Store.link, hsubmit, Request.settled, hl, if_false, hreplayed,
      List.length_nil]
  | cons f fs ih =>
    obtain ⟨budget, rfl⟩ : ∃ n, budget = n + 1 := ⟨budget - 1, by simp at hbudget; omega⟩
    simp only [List.mem_cons, forall_eq_or_imp, List.length_cons] at hcodes hn hbudget
    -- lost or applied, the request leaves the tree as it was
    have hagain : (st.letIn fs).tree.apply s ((st.letIn fs).tree.transaction + 1) r =
        .error code := happly
    have hsubmit : st.submit s r = (.error (plainError f.code), st.letIn fs) := by
      rw [submit_of_fault hs hfs, applyOne_of_refused hagain]
      split <;> rfl
    have hretries : (l.retried sleep).retries + fs.length ≤ n := by
      simp only [retried]
      omega
    have hconnected : (st.letIn fs).isConnected s := hs
    obtain ⟨l', hrun⟩ := ih hconnected hagain (Nat.succ_ne_zero _) rfl hcodes.2 hretries
      (Nat.le_of_succ_le_succ hbudget)
    exact ⟨l', by rw [run_of_fault hcodes.1 (by omega) hsubmit, hrun, drained_letIn,
      List.length_cons]⟩

/-- **A request that applies once is applied once**, whatever faults it meets, as long as there are
retries. -/
theorem exists_run_of_applied (around : Surroundings) (sleep : Duration) (hs : st.isConnected s)
    (hr : r.appliesOnce)
    (happly : st.tree.apply s (st.tree.transaction + 1) r = .ok (a, t))
    (hcodes : ∀ f ∈ st.faults, f.code.isRetryable)
    (hn : l.retries + st.faults.length ≤ n) (hbudget : st.faults.length ≤ budget) :
    ∃ a' l', run (RetryPolicy.nTimes n sleep).rule around (Client.attempt (Store.link s) r) budget
      l st = (.ok a', l', (st.advanced t).drained (st.faults.length + 1)) ∧
        (a' = a ∨ a' = a.statless) := by
  have hmutation := Request.isMutation_of_appliesOnce hr
  generalize hfs : st.faults = fs at hcodes hn hbudget ⊢
  induction fs generalizing st l budget with
  | nil => exact ⟨a, l, run_of_applied hs hmutation hfs happly, .inl rfl⟩
  | cons f fs ih =>
    obtain ⟨budget, rfl⟩ : ∃ n, budget = n + 1 := ⟨budget - 1, by simp at hbudget; omega⟩
    simp only [List.mem_cons, forall_eq_or_imp, List.length_cons] at hcodes hn hbudget
    have hsubmit := submit_of_fault hs hfs r
    have hretries : (l.retried sleep).retries + fs.length ≤ n := by
      simp only [retried]
      omega
    have hleft : fs.length ≤ budget := Nat.le_of_succ_le_succ hbudget
    cases hf : f.timing with
    | beforeApply =>
      -- the request is lost, and the next sending finds the tree as it was
      rw [hf] at hsubmit
      have hkept : (st.letIn fs).tree.apply s ((st.letIn fs).tree.transaction + 1) r =
          .ok (a, t) := happly
      have hconnected : (st.letIn fs).isConnected s := hs
      obtain ⟨a', l', hrun, ha'⟩ := ih hconnected hkept rfl hcodes.2 hretries hleft
      refine ⟨a', l', ?_, ha'⟩
      rw [run_of_fault hcodes.1 (by omega) hsubmit, hrun, advanced_letIn, drained_letIn,
        List.length_cons]
    | afterApply =>
      -- the work is done here, and every sending that follows is refused as a repeat
      have hdone : (st.letIn fs).applyOne s r = (.ok a, (st.advanced t).letIn fs) :=
        applyOne_of_applied hmutation happly
      rw [hf, hdone] at hsubmit
      obtain ⟨code, hagain, hreplayed⟩ := Tree.exists_replayed_of_applied hr
        (Tree.apply_eq_ok_iff.mp happly) (st.tree.transaction + 1) (st.tree.transaction + 1 + 1)
      have hconnected : ((st.advanced t).letIn fs).isConnected s := hs
      have hrepeat : ((st.advanced t).letIn fs).tree.apply s
          (((st.advanced t).letIn fs).tree.transaction + 1) r = .error code := hagain
      obtain ⟨l', hrun⟩ := exists_run_of_replayed around sleep hconnected hrepeat hreplayed
        hcodes.2 (Nat.succ_ne_zero _) hretries hleft
      refine ⟨a.statless, l', ?_, .inr rfl⟩
      rw [run_of_fault hcodes.1 (by omega) hsubmit, hrun, drained_letIn, List.length_cons]
      rfl

end RetryLoop

/-! ## Calls -/

namespace Client

variable {σ : Type} {link : Link σ} {c : Client} {o : Operation} {r : Request}

/-- Whether a client need not ask for the root of its namespace: there is none, or it has been
ensured. -/
def IsRooted (c : Client) : Prop :=
  ∀ root, c.space.root = some root → Path.isValid root ∧ c.rootEnsurer.isEnsured root

theorem ensureRoot_of_isRooted (h : c.IsRooted) (s : σ) : c.ensureRoot link s = (.ok (), c, s) := by
  unfold ensureRoot
  split
  · rfl
  · rename_i root hroot
    obtain ⟨hvalid, hensured⟩ := h root hroot
    simp only [Ensurer.ensure, Ensurer.ensureBy, Path.check, hvalid, if_true, hensured, slept,
      List.append_nil]

theorem call_of_isRooted {α : Type} {attempt : Nat → σ → Except StoreError α × σ} (h : c.IsRooted)
    (s : σ) :
    c.call link attempt s =
      ((c.config.withRetries link attempt s).1,
        c.slept (c.config.withRetries link attempt s).2.1,
        (c.config.withRetries link attempt s).2.2) := by
  unfold call
  rw [ensureRoot_of_isRooted h]

/-- An operation that is not refused is a call for its request. -/
theorem execute_of_prepared (hroot : c.IsRooted) (hopen : c.closed = false)
    (hr : c.prepare o = .ok r) (s : σ) :
    c.execute link o s =
      ((c.config.withRetries link (attempt link r) s).1.map (reported c.space),
        c.slept (c.config.withRetries link (attempt link r) s).2.1,
        (c.config.withRetries link (attempt link r) s).2.2) := by
  rw [execute, checkOpen, hopen, if_neg Bool.false_ne_true, hr]
  dsimp only
  rw [call_of_isRooted hroot]
  rfl

/-- A transaction that is not refused is a call for its batch. -/
theorem submit_of_prepared {os : List Operation} {b : Batch} (hroot : c.IsRooted)
    (hopen : c.closed = false) (hb : c.prepareBatch os = .ok b) (s : σ) :
    c.submit link os s =
      (conclude c.space b (c.config.withRetries link (fun _ s => link.multi s b.requests) s).1,
        c.slept (c.config.withRetries link (fun _ s => link.multi s b.requests) s).2.1,
        (c.config.withRetries link (fun _ s => link.multi s b.requests) s).2.2) := by
  rw [submit, checkOpen, hopen, if_neg Bool.false_ne_true, hb]
  dsimp only
  rw [call_of_isRooted hroot]
  rfl

/-- An operation whose call succeeds has been let in and prepared. -/
theorem exists_prepare_of_execute {s : σ} {a : Answer} (h : (c.execute link o s).1 = .ok a) :
    c.closed = false ∧ ∃ r, c.prepare o = .ok r := by
  unfold execute at h
  split at h
  · cases h
  · rename_i hopen
    refine ⟨?_, ?_⟩
    · by_cases hc : c.closed = true
      · simp [checkOpen, hc] at hopen
      · simpa using hc
    · split at h
      · cases h
      · exact ⟨_, by assumption⟩

theorem eq_request_of_prepare (h : c.prepare o = .ok r) : r = c.request o := by
  unfold prepare at h
  split at h
  · cases h
  · split at h
    · cases h
    · cases h
      rfl

theorem appliesOnce_request (c : Client) (o : Operation) :
    (c.request o).appliesOnce = o.request.appliesOnce := by
  rw [request, Namespace.fixRequest, Request.appliesOnce_withPath, Operation.resolved]
  split
  · rfl
  · split <;> simp_all [Request.appliesOnce]

theorem reported_statless (n : Namespace) (a : Answer) :
    reported n a.statless = (reported n a).statless := by
  cases a <;> rfl

/-- **Creates and deletes are applied exactly once**, whatever requests and answers are lost, as
long as the policy has a retry for each: the call succeeds if it would have succeeded without the
faults, with the same answer, of which only the stat may be missing, and leaves the store that it
would have left, but for the requests that it took. -/
theorem execute_of_faults {s : Session} {st st₀ : Store} {n : Nat} {sleep : Duration} {a : Answer}
    {c₀ : Client} (hpolicy : c.config.policy = .nTimes n sleep) (hroot : c.IsRooted)
    (hs : st.isConnected s) (ho : o.request.appliesOnce) (hlength : st.faults.length ≤ n)
    (hcodes : ∀ f ∈ st.faults, f.code.isRetryable)
    (h : c.execute (Store.link s) o { st with faults := [] } = (.ok a, c₀, st₀)) :
    ∃ a' c', c.execute (Store.link s) o st =
        (.ok a', c', { st₀ with requests := st₀.requests + st.faults.length }) ∧
      (a' = a ∨ a' = a.statless) := by
  obtain ⟨hopen, r, hr⟩ := exists_prepare_of_execute (congrArg Prod.fst h)
  have honce : r.appliesOnce := by rwa [eq_request_of_prepare hr, appliesOnce_request]
  have hrun : ∀ st : Store, c.config.withRetries (Store.link s) (attempt (Store.link s) r) st =
      (fun x => (x.1, x.2.1.sleeps, x.2.2)) (RetryLoop.run (RetryPolicy.nTimes n sleep).rule
        c.config.sleeper.surroundings (attempt (Store.link s) r) n .fresh st) := fun st => by
    rw [Config.withRetries, Config.retryBudget, hpolicy]
    rfl
  rw [execute_of_prepared hroot hopen hr, hrun] at h ⊢
  have hs₀ : ({ st with faults := [] } : Store).isConnected s := hs
  -- whether the request is refused does not depend on the faults
  cases happly : st.tree.apply s (st.tree.transaction + 1) r with
  | error code =>
    obtain ⟨f, hf⟩ :=
      RetryLoop.exists_run_of_refused c.config.sleeper.surroundings n n sleep hs₀ rfl happly
    rw [hf] at h
    cases h
  | ok result =>
    obtain ⟨answer, t⟩ := result
    have hretries : RetryLoop.fresh.retries + st.faults.length ≤ n := by
      simpa [RetryLoop.fresh] using hlength
    obtain ⟨a', l', hfaulty, ha'⟩ := RetryLoop.exists_run_of_applied
      c.config.sleeper.surroundings sleep hs honce happly hcodes hretries hlength
    rw [RetryLoop.run_of_applied hs₀ (Request.isMutation_of_appliesOnce honce) rfl happly] at h
    rw [hfaulty]
    simp only [Except.map, Prod.mk.injEq, Except.ok.injEq] at h
    obtain ⟨rfl, -, rfl⟩ := h
    refine ⟨reported c.space a', c.slept l'.sleeps, ?_, ?_⟩
    · simp only [Except.map, drained, advanced, Nat.add_assoc, Nat.add_comm 1]
    · rcases ha' with rfl | rfl
      · exact .inl rfl
      · exact .inr (reported_statless c.space answer)

/-- A client of a namespace whose root it has ensured. -/
def tenant : Client :=
  { someClient with
    space := ⟨some "/svc"⟩
    rootEnsurer := someClient.rootEnsurer.remember "/svc"
    ensurer := .ofConfig .trial ⟨some "/svc"⟩ }

/-- A store with that root, which will lose a request and then two answers. -/
def lossy : Store :=
  Store.Move.run .initial
    [.connect [], .submit ⟨1, []⟩ (.createContainer "/svc" ByteArray.empty .worldOpen),
      .failNext .connectionLoss 1, .failAfter .operationTimeout 2]

/-- An ephemeral node of the client's own. -/
def presence : Operation := .create "/here" "x".toUTF8 .ephemeral none

/-- Three faults, and the node is created once. -/
theorem execute_presence_of_lossy :
    lossy.isConnected ⟨1, []⟩ ∧ lossy.faults.length = 3 ∧
      ∃ a' c', tenant.execute (Store.link ⟨1, []⟩) presence lossy =
          (.ok a', c',
            { (tenant.execute (Store.link ⟨1, []⟩) presence { lossy with faults := [] }).2.2 with
              requests := 5 }) ∧
        a'.statless = .created "/here" none := by
  have hconnected : lossy.isConnected ⟨1, []⟩ := by decide +kernel
  have hfaults : lossy.faults.length = 3 := by decide +kernel
  have hrooted : tenant.IsRooted := by
    intro root hroot
    obtain rfl : "/svc" = root := by simpa [tenant] using hroot
    exact ⟨by decide +kernel, by decide +kernel⟩
  generalize hrun : tenant.execute (Store.link ⟨1, []⟩) presence { lossy with faults := [] } = run
  obtain ⟨result, c₀, st₀⟩ := run
  have hdone : (tenant.execute (Store.link ⟨1, []⟩) presence { lossy with faults := [] }).1 =
      .ok (.created "/here" (some ⟨2, 2, 0, 0, 0, 1, 1, 0⟩)) := by decide +kernel
  have hrequests : (tenant.execute (Store.link ⟨1, []⟩) presence
      { lossy with faults := [] }).2.2.requests = 2 := by decide +kernel
  rw [hrun] at hdone hrequests
  obtain rfl : result = _ := hdone
  obtain ⟨a', c', hexecute, ha'⟩ :=
    execute_of_faults rfl hrooted hconnected rfl (by decide +kernel) (by decide +kernel) hrun
  refine ⟨hconnected, hfaults, a', c', ?_, ?_⟩
  · rw [hexecute, hfaults, show st₀.requests = 2 from hrequests]
  · rcases ha' with rfl | rfl <;> rfl

end Client

end Coordination
