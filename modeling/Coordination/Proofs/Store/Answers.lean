import Coordination.Batch
import Coordination.Client.Basic
import Coordination.Proofs.Store.Replays

/-!
# What a connected session is told

An error after which a client asks again is one that a fault has caused, so the faults to come bound
the retries; and what the store answers to a batch fits the batch, so the client can always tell the
outcomes of its operations.

## Main results

* `Store.faults_submit_of_retryable`, `Store.faults_multi_of_retryable`: an error that is worth a
  retry takes a fault
* `Batch.exists_outcomes_of_multi`, `Batch.exists_outcomes_of_aborted`: the answers to a batch can
  be told as the outcomes of its operations
* `Client.isTyped_of_prepareBatch`: a prepared batch is such a batch
-/

namespace Coordination

/-! ## Errors -/

namespace Store

variable {α : Type} {st : Store} {s : Session} {r : Request} {rs : List Request} {e : StoreError}
  {work : Store → Except StoreError α × Store}

/-- An error that is worth a retry has taken a fault, if the work leaves the faults alone and fails
with final errors only. -/
theorem faults_receive_of_retryable (hs : st.isConnected s)
    (hfaults : ∀ st, (work st).2.faults = st.faults)
    (hfinal : ∀ st e, (work st).1 = .error e → e.isRetryable = false)
    (h : (st.receive s work).1 = .error e) (he : e.isRetryable) :
    st.faults.length = (st.receive s work).2.faults.length + 1 := by
  rw [receive_of_connected hs] at h ⊢
  rcases hfs : st.faults with _ | ⟨⟨code, _ | _⟩, fs⟩
  · rw [hfs] at h
    rw [hfinal _ e h] at he
    cases he
  · rfl
  · dsimp only
    rw [hfaults, List.length_cons]

theorem isConnected_receive (hs : st.isConnected s)
    (hwork : ∀ st, (work st).2.isConnected s = st.isConnected s) :
    (st.receive s work).2.isConnected s := by
  rw [receive_of_connected hs]
  rcases hfs : st.faults with _ | ⟨⟨code, _ | _⟩, fs⟩
  · exact (hwork _).trans hs
  · exact hs
  · exact (hwork _).trans hs

theorem isRetryable_of_applyOne (h : (st.applyOne s r).1 = .error e) : e.isRetryable = false := by
  unfold applyOne at h
  dsimp only at h
  split at h
  · rename_i happly
    cases h
    exact Tree.isRetryable_of_apply_eq_error happly
  · split at h <;> cases h

theorem isRetryable_of_applyBatch (h : (st.applyBatch s rs).1 = .error e) :
    e.isRetryable = false := by
  unfold applyBatch at h
  dsimp only at h
  split at h
  · rename_i happly
    cases h
    exact Tree.isRetryable_of_applyAll_eq_error happly
  · cases h

/-- **An error of a request that is worth a retry takes a fault.** -/
theorem faults_submit_of_retryable (hs : st.isConnected s) (h : (st.submit s r).1 = .error e)
    (he : e.isRetryable) : st.faults.length = (st.submit s r).2.faults.length + 1 :=
  faults_receive_of_retryable hs (fun st => faults_applyOne st s r)
    (fun _ _ => isRetryable_of_applyOne) h he

/-- **An error of a batch that is worth a retry takes a fault.** -/
theorem faults_multi_of_retryable (hs : st.isConnected s) (h : (st.multi s rs).1 = .error e)
    (he : e.isRetryable) : st.faults.length = (st.multi s rs).2.faults.length + 1 :=
  faults_receive_of_retryable hs (fun st => faults_applyBatch st s rs)
    (fun _ _ => isRetryable_of_applyBatch) h he

theorem isConnected_submit (hs : st.isConnected s) (r : Request) :
    (st.submit s r).2.isConnected s :=
  isConnected_receive hs fun st => isConnected_applyOne st s r s

theorem isConnected_multi (hs : st.isConnected s) (rs : List Request) :
    (st.multi s rs).2.isConnected s :=
  isConnected_receive hs fun st => by
    unfold applyBatch
    dsimp only
    split <;> rfl

/-- A session that is connected is told that it has expired only by a fault. -/
theorem exists_fault_of_receive (hs : st.isConnected s)
    (hwork : ∀ st e, (work st).1 = .error e → e.code ≠ .sessionExpired)
    (h : (st.receive s work).1 = .error e) (he : e.code = .sessionExpired) :
    ∃ f ∈ st.faults, f.code = .sessionExpired := by
  rw [receive_of_connected hs] at h
  rcases hfaults : st.faults with _ | ⟨⟨code, timing⟩, fs⟩
  · rw [hfaults] at h
    exact absurd he (hwork _ e h)
  · refine ⟨⟨code, timing⟩, List.mem_cons_self, ?_⟩
    rw [hfaults] at h
    cases timing <;> cases h <;> exact he

theorem exists_fault_of_submit (hs : st.isConnected s) (h : (st.submit s r).1 = .error e)
    (he : e.code = .sessionExpired) : ∃ f ∈ st.faults, f.code = .sessionExpired := by
  refine exists_fault_of_receive hs (fun st e h => ?_) h he
  unfold applyOne at h
  dsimp only at h
  split at h
  · rename_i happly
    cases h
    exact Tree.ne_sessionExpired_of_apply_eq_error happly
  · split at h <;> cases h

theorem exists_fault_of_multi (hs : st.isConnected s) (h : (st.multi s rs).1 = .error e)
    (he : e.code = .sessionExpired) : ∃ f ∈ st.faults, f.code = .sessionExpired := by
  refine exists_fault_of_receive hs (fun st e h => ?_) h he
  unfold applyBatch at h
  dsimp only at h
  split at h
  · rename_i happly
    cases h
    obtain ⟨t, r, happly⟩ := Tree.exists_apply_eq_error happly
    exact Tree.ne_sessionExpired_of_apply_eq_error happly
  · cases h

/-! ## Aborted batches -/

/-- Only the tree's refusal of a batch is an abort: of its requests the one at `index` failed. -/
theorem eq_abortedBatch_of_multi {index : Nat} {code : ErrorCode} {answers : List Answer}
    (h : (st.multi s rs).1 = .error (.aborted index code answers)) :
    code.isRetryable = false ∧
      .aborted index code answers = StoreError.abortedBatch rs.length index code := by
  unfold multi receive applyBatch plainError at h
  dsimp only at h
  repeat' split at h
  all_goals simp only [Except.error.injEq, reduceCtorEq] at h
  rename_i happly
  cases h
  exact ⟨Tree.isRetryable_of_applyAll_eq_error happly, rfl⟩

/-- A batch that is answered is applied, in one transaction. -/
theorem exists_applyAll_of_multi {answers : List Answer} (h : (st.multi s rs).1 = .ok answers) :
    ∃ t, st.tree.applyAll s (st.tree.transaction + 1) 0 rs = .ok (answers, t) ∧
      (st.multi s rs).2.tree = { t with transaction := st.tree.transaction + 1 } := by
  rcases receive_cases st s (·.applyBatch s rs) with ⟨e, -, he⟩ | ⟨st', hst', hwork⟩
  · rw [multi, he] at h
    cases h
  · rw [multi, hwork] at h ⊢
    rw [← hst']
    unfold applyBatch at h ⊢
    dsimp only at h ⊢
    cases happly : st'.tree.applyAll s (st'.tree.transaction + 1) 0 rs with
    | error e =>
      rw [happly] at h
      cases h
    | ok result =>
      obtain ⟨answers', t⟩ := result
      rw [happly] at h
      obtain rfl : answers' = answers := by simpa using h
      exact ⟨t, rfl, rfl⟩

end Store

/-! ## Answers -/

/-- Whether an answer is one to a request of a type. -/
def Answer.IsTo : RequestType → Answer → Prop
  | .create, .created .. | .setData, .dataSet _ | .delete, .deleted | .check, .checked => True
  | _, _ => False

theorem Tree.isTo_of_apply {t t' : Tree} {s : Session} {stamp : Int} {r : Request} {a : Answer}
    (h : t.apply s stamp r = .ok (a, t')) : a.IsTo r.type := by
  cases Tree.apply_eq_ok_iff.mp h with
  | created hmode => cases r <;> trivial
  | deleted htype =>
    rw [htype]
    trivial
  | dataSet | checked => trivial

/-- A request that is answered is not answered with a failure. -/
theorem Store.ne_failed_of_submit {st : Store} {s : Session} {r : Request} {a : Answer}
    (h : (st.submit s r).1 = .ok a) (code : ErrorCode) : a ≠ .failed code := by
  rintro rfl
  rcases Store.receive_cases st s (·.applyOne s r) with ⟨e, -, he⟩ | ⟨st', -, hwork⟩
  · rw [Store.submit, he] at h
    cases h
  · rw [Store.submit, hwork, Store.applyOne] at h
    split at h
    · cases h
    · rename_i answer t happly
      have hto := Tree.isTo_of_apply happly
      have hfailed : ¬(Answer.failed code).IsTo r.type := by
        cases r <;> exact id
      split at h <;> cases h <;> exact hfailed hto

theorem BatchEntry.exists_outcome {n : Namespace} {e : BatchEntry} {a : Answer}
    (h : a.IsTo e.type) : ∃ o, e.outcome n a = .ok o := by
  unfold outcome
  split
  case h_6 hfailed hcreated hset hdeleted hchecked =>
    -- an answer to the request is one of the others
    unfold Answer.IsTo at h
    split at h
    · exact absurd rfl (hcreated _ _ (by assumption))
    · exact absurd rfl (hset _ (by assumption))
    · exact absurd rfl (hdeleted (by assumption))
    · exact absurd rfl (hchecked (by assumption))
    · cases h
  all_goals exact ⟨_, rfl⟩

namespace Batch

variable {n : Namespace} {b : Batch} {answers : List Answer} {t t' : Tree} {s : Session}
  {stamp : Int} {i : Nat}

/-- Whether the entries of a batch say what their requests do. -/
def IsTyped (b : Batch) : Prop := ∀ e ∈ b, e.type = e.request.type

/-- The outcomes of a batch that has been applied can be told. -/
theorem exists_outcomes_of_applyAll (hb : b.IsTyped)
    (h : t.applyAll s stamp i b.requests = .ok (answers, t')) :
    answers.length = b.length ∧ ∃ os, b.matched n answers = .ok os := by
  induction b generalizing t i answers with
  | nil =>
    cases h
    exact ⟨rfl, [], rfl⟩
  | cons e b ih =>
    rw [requests, List.map_cons, Tree.applyAll] at h
    split at h
    · cases h
    · rename_i answer t₁ happly
      split at h
      · cases h
      · rename_i hrest
        cases h
        obtain ⟨hlength, os, hos⟩ := ih (fun e he => hb e (List.mem_cons_of_mem _ he)) hrest
        have hto : answer.IsTo e.type := hb e List.mem_cons_self ▸ Tree.isTo_of_apply happly
        obtain ⟨o, ho⟩ := BatchEntry.exists_outcome (n := n) hto
        exact ⟨by simp [hlength], o :: os, by simp only [matched, ho, hos]⟩

/-- The outcomes of a batch that has failed are told by their codes. -/
theorem matched_failed (n : Namespace) (b : Batch) (codes : List ErrorCode) :
    b.matched n (codes.map .failed) =
      .ok (List.zipWith (fun e code => { e.bare with code := some code }) b codes) := by
  induction b generalizing codes with
  | nil => rfl
  | cons e b ih =>
    cases codes with
    | nil => rfl
    | cons code codes =>
      simp only [List.map_cons, matched, BatchEntry.outcome, ih, List.zipWith_cons_cons]

theorem exists_outcomes_of_multi {st : Store} (hb : b.IsTyped) (n : Namespace)
    (h : (st.multi s b.requests).1 = .ok answers) : ∃ os, b.outcomes n answers = .ok os := by
  obtain ⟨t, happly, -⟩ := Store.exists_applyAll_of_multi h
  obtain ⟨hlength, os, hos⟩ := exists_outcomes_of_applyAll hb happly
  exact ⟨os, by rw [outcomes, if_pos hlength, hos]⟩

theorem exists_outcomes_of_aborted {st : Store} {index : Nat} {code : ErrorCode} (n : Namespace)
    (h : (st.multi s b.requests).1 = .error (.aborted index code answers)) :
    ∃ os, b.outcomes n answers = .ok os := by
  obtain ⟨-, heq⟩ := Store.eq_abortedBatch_of_multi h
  simp only [StoreError.abortedBatch, StoreError.aborted.injEq, true_and] at heq
  have hos := matched_failed n b
    ((List.range b.requests.length).map fun i => if i = index then code else .runtimeInconsistency)
  rw [List.map_map] at hos
  have hlength : answers.length = b.length := by
    rw [heq]
    simp [requests]
  exact ⟨_, by rw [outcomes, if_pos hlength, heq]; exact hos⟩

end Batch

/-! ## Prepared batches -/

namespace Operation

theorem type_resolved (o : Operation) (fallback : Acl) :
    (o.resolved fallback).type = o.request.type := by
  unfold resolved
  split
  · rfl
  · split <;> simp_all [Request.type]

theorem mode?_resolved (o : Operation) (fallback : Acl) :
    (o.resolved fallback).mode? = o.request.mode? := by
  unfold resolved
  split
  · rfl
  · split <;> simp_all [Request.mode?]

end Operation

namespace Client

variable {c : Client} {o : Operation} {os : List Operation} {b : Batch} {i : Nat}

theorem type_request (c : Client) (o : Operation) : (c.request o).type = o.request.type := by
  rw [request, Namespace.fixRequest, Request.type_withPath, Operation.type_resolved]

theorem path_request (c : Client) (o : Operation) : (c.request o).path = c.space.fix o.path := by
  rw [request, Namespace.path_fixRequest, Operation.path_resolved]

theorem mode?_request (c : Client) (o : Operation) : (c.request o).mode? = o.request.mode? := by
  rw [request, Namespace.fixRequest, Request.mode?_withPath, Operation.mode?_resolved]

theorem isTyped_of_prepareEntries (h : c.prepareEntries i os = .ok b) : b.IsTyped := by
  induction os generalizing i b with
  | nil =>
    cases h
    exact fun e he => by cases he
  | cons o os ih =>
    rw [prepareEntries] at h
    split at h
    · cases h
    · rename_i e hentry
      split at h
      · cases h
      · rename_i hrest
        cases h
        intro e' he'
        rcases List.mem_cons.mp he' with rfl | he'
        · unfold prepareEntry at hentry
          split at hentry
          · cases hentry
          · split at hentry
            · cases hentry
            · cases hentry
              exact (type_request c o).symm
        · exact ih hrest e' he'

/-- The entries of a prepared batch say what their requests do. -/
theorem isTyped_of_prepareBatch (h : c.prepareBatch os = .ok b) : b.IsTyped := by
  unfold prepareBatch at h
  split at h
  · cases h
  · cases h
  · rename_i hentries
    cases h
    exact isTyped_of_prepareEntries hentries

end Client

end Coordination
