import Coordination.Proofs.Store.Reach
import Coordination.Proofs.Store.Stamps

/-!
# Batches and single requests

A batch does what its requests do when they are submitted one at a time, or it does nothing. The two
ways go through different trees: single requests are stamped with transactions of their own, and the
requests of a batch with one. So both are compared with the run of the batch on the unstamped tree.

## Main definitions

* `Store.submitEach`: requests submitted one at a time
* `Store.FailsFirst`: the first failure among some results

## Main results

* `Store.multi_eq_submitEach`: a batch against its requests one at a time
-/

namespace Coordination

namespace Store

variable {st : Store} {s : Session} {r : Request} {rs : List Request} {a : Answer}
  {as : List Answer} {t : Tree} {code : ErrorCode}

/-! ## One request -/

theorem eq_of_apply_check {t' : Tree} {stamp : Int} (hr : r.isMutation = false)
    (h : t.apply s stamp r = .ok (a, t')) : t' = t := by
  cases Tree.apply_eq_ok_iff.mp h with
  | created hmode => cases r <;> simp [Request.isMutation, Request.mode?] at hr hmode
  | deleted htype => cases r <;> simp [Request.isMutation, Request.type] at hr htype
  | dataSet => simp [Request.isMutation] at hr
  | checked => rfl

theorem submit_of_refused (hf : st.faults = []) (hs : st.isConnected s)
    (h : st.tree.apply s (st.tree.transaction + 1) r = .error code) :
    st.submit s r =
      (.error (.refused code (some r.path)), { st with requests := st.requests + 1 }) := by
  rw [submit, receive_of_connected hs, hf]
  simp only [applyOne, h]

/-- An accepted request is counted, and leaves the store ready for the next one. -/
theorem submit_of_applied (hf : st.faults = []) (hs : st.isConnected s)
    (h : st.tree.apply s (st.tree.transaction + 1) r = .ok (a, t)) :
    ∃ st' : Store, st.submit s r = (.ok a, st') ∧ st'.tree.unstamped = t.unstamped ∧
      st'.mutations = st.mutations + (if r.isMutation then 1 else 0) ∧ st'.faults = [] ∧
      st'.isConnected s := by
  rw [submit, receive_of_connected hs, hf]
  simp only [applyOne, h]
  by_cases hr : r.isMutation = true
  · rw [if_pos hr, if_pos hr]
    exact ⟨_, rfl, rfl, rfl, rfl, hs⟩
  · rw [if_neg hr, if_neg hr]
    have ht : t = st.tree := eq_of_apply_check (by simpa using hr) h
    exact ⟨_, rfl, congrArg Tree.unstamped ht.symm, rfl, rfl, hs⟩

/-! ## Requests one at a time -/

/-- Asks for requests one at a time, whatever becomes of them. -/
def submitEach (st : Store) (s : Session) : List Request → List (Except StoreError Answer) × Store
  | [] => ([], st)
  | r :: rs =>
    let (result, st') := st.submit s r
    let (results, st'') := st'.submitEach s rs
    (result :: results, st'')

/-- The first failure among some results is the one at `index`. -/
def FailsFirst (results : List (Except StoreError Answer)) (index : Nat) (e : StoreError) : Prop :=
  results[index]? = some (.error e) ∧ ∀ i < index, results[i]?.any (·.isOk)

instance (results : List (Except StoreError Answer)) (index : Nat) (e : StoreError) :
    Decidable (FailsFirst results index e) :=
  inferInstanceAs (Decidable (_ ∧ _))

theorem submitEach_cons (st : Store) (s : Session) (r : Request) (rs : List Request) :
    st.submitEach s (r :: rs) =
      ((st.submit s r).1 :: ((st.submit s r).2.submitEach s rs).1,
        ((st.submit s r).2.submitEach s rs).2) := rfl

/-- If requests are accepted one at a time, the first one is, and then the others. -/
theorem accepted_cons (hf : st.faults = []) (hs : st.isConnected s)
    (h : (st.submitEach s (r :: rs)).1 = as.map .ok) :
    ∃ (a : Answer) (as' : List Answer) (t : Tree) (st' : Store), as = a :: as' ∧
      st.tree.apply s (st.tree.transaction + 1) r = .ok (a, t) ∧
      st'.tree.unstamped = t.unstamped ∧
      st'.mutations = st.mutations + (if r.isMutation then 1 else 0) ∧
      st'.faults = [] ∧ st'.isConnected s ∧ (st'.submitEach s rs).1 = as'.map .ok ∧
      (st.submitEach s (r :: rs)).2 = (st'.submitEach s rs).2 := by
  rw [submitEach_cons] at h ⊢
  cases happly : st.tree.apply s (st.tree.transaction + 1) r with
  | error code =>
    rw [submit_of_refused hf hs happly] at h
    cases as <;> simp at h
  | ok result =>
    obtain ⟨a, t⟩ := result
    obtain ⟨st', hsubmit, htree, hmutations, hf', hs'⟩ := submit_of_applied hf hs happly
    rw [hsubmit] at h ⊢
    obtain _ | ⟨a', as⟩ := as
    · simp at h
    · rw [List.map_cons, List.cons.injEq, Except.ok.injEq] at h
      obtain ⟨rfl, h⟩ := h
      exact ⟨a, as, t, st', rfl, rfl, htree, hmutations, hf', hs', h, rfl⟩

/-- Requests that are accepted one at a time are accepted as a batch, but for the stamps. -/
theorem applyAll_unstamped_of_accepted (hf : st.faults = []) (hs : st.isConnected s) (index : Nat)
    (h : (st.submitEach s rs).1 = as.map .ok) :
    st.tree.unstamped.applyAll s 0 index rs =
      .ok (as.map Answer.unstamped, (st.submitEach s rs).2.tree.unstamped) := by
  induction rs generalizing st as index with
  | nil =>
    obtain rfl : as = [] := by simpa [submitEach] using h.symm
    rfl
  | cons r rs ih =>
    obtain ⟨a, as, t, st', rfl, happly, htree, -, hf', hs', h, hend⟩ := accepted_cons hf hs h
    -- The store goes on from a tree that is `t` but for its stamps, and so does the batch.
    have hrest := ih hf' hs' (index + 1) h
    rw [htree] at hrest
    rw [Tree.applyAll, Tree.apply_unstamped _ s (st.tree.transaction + 1), happly, hend]
    simp only [Except.map, Tree.outcome, hrest, List.map_cons]

/-- If a request is the first to be refused, it is the one that a batch fails at. -/
theorem applyAll_unstamped_of_failsFirst (hf : st.faults = []) (hs : st.isConnected s)
    (index : Nat) {i : Nat} {e : StoreError} (h : FailsFirst (st.submitEach s rs).1 i e) :
    st.tree.unstamped.applyAll s 0 index rs = .error (index + i, e.code) := by
  induction rs generalizing st index i with
  | nil => simp [FailsFirst, submitEach] at h
  | cons r rs ih =>
    rw [submitEach_cons] at h
    rw [Tree.applyAll, Tree.apply_unstamped _ s (st.tree.transaction + 1)]
    obtain ⟨hi, hbefore⟩ := h
    cases happly : st.tree.apply s (st.tree.transaction + 1) r with
    | error code =>
      rw [submit_of_refused hf hs happly] at hi hbefore
      cases i with
      | zero =>
        obtain rfl : StoreError.refused code (some r.path) = e := by simpa using hi
        rfl
      | succ i =>
        have hok := hbefore 0 (by omega)
        simp [Except.isOk, Except.toBool] at hok
    | ok result =>
      obtain ⟨a, t⟩ := result
      obtain ⟨st', hsubmit, htree, -, hf', hs'⟩ := submit_of_applied hf hs happly
      rw [hsubmit] at hi hbefore
      cases i with
      | zero => simp at hi
      | succ i =>
        have hfirst : FailsFirst (st'.submitEach s rs).1 i e :=
          ⟨by simpa using hi, fun j hj => by simpa using hbefore (j + 1) (by omega)⟩
        have hrest := ih hf' hs' (index + 1) hfirst
        rw [htree] at hrest
        simp only [Except.map, Tree.outcome, hrest]
        rw [Nat.add_assoc, Nat.add_comm 1]

theorem mutations_submitEach (hf : st.faults = []) (hs : st.isConnected s)
    (h : (st.submitEach s rs).1 = as.map .ok) :
    (st.submitEach s rs).2.mutations = st.mutations + rs.countP (·.isMutation) := by
  induction rs generalizing st as with
  | nil => rfl
  | cons r rs ih =>
    obtain ⟨a, as, t, st', rfl, -, -, hmutations, hf', hs', h, hend⟩ := accepted_cons hf hs h
    rw [hend, ih hf' hs' h, hmutations, List.countP_cons]
    omega

/-! ## Batches -/

/-- A batch without a fault is applied to the tree at once. -/
theorem multi_of_connected (hf : st.faults = []) (hs : st.isConnected s) (rs : List Request) :
    st.multi s rs = ({ st with requests := st.requests + 1 } : Store).applyBatch s rs := by
  rw [multi, receive_of_connected hs, hf]

theorem answers_abortedBatch (size index : Nat) (code : ErrorCode) :
    ∃ answers, StoreError.abortedBatch size index code = .aborted index code answers ∧
      answers.length = size ∧
      ∀ i < size, answers[i]? =
        some (.failed (if i = index then code else .runtimeInconsistency)) := by
  refine ⟨_, rfl, by simp, fun i hi => ?_⟩
  rw [List.getElem?_map, List.getElem?_range hi]
  rfl

/-- **A batch does what its requests do one at a time, or nothing.** If all of them are accepted one
at a time, the batch is accepted with the same answers, and leads to the same tree, but for the
numbers of transactions. If one is the first to fail, the batch fails at this one, with its code for
it and an inconsistency for every other, and nothing of the batch is applied. -/
theorem multi_eq_submitEach (hf : st.faults = []) (hs : st.isConnected s) (rs : List Request) :
    (∀ as : List Answer, (st.submitEach s rs).1 = as.map .ok →
      ∃ as', (st.multi s rs).1 = .ok as' ∧
        as'.map Answer.unstamped = as.map Answer.unstamped ∧
        (st.multi s rs).2.tree.unstamped = (st.submitEach s rs).2.tree.unstamped ∧
        (st.multi s rs).2.mutations = (st.submitEach s rs).2.mutations) ∧
    (∀ index e, FailsFirst (st.submitEach s rs).1 index e →
      ∃ answers, (st.multi s rs).1 = .error (.aborted index e.code answers) ∧
        answers.length = rs.length ∧
        (∀ i < rs.length, answers[i]? =
          some (.failed (if i = index then e.code else .runtimeInconsistency))) ∧
        (st.multi s rs).2.tree = st.tree ∧ (st.multi s rs).2.mutations = st.mutations ∧
        (st.multi s rs).2.commits = st.commits) := by
  -- the run that the batch and its requests one at a time are both compared with
  have hstamps := Tree.applyAll_unstamped st.tree s (st.tree.transaction + 1) 0 rs
  rw [multi_of_connected hf hs, applyBatch]
  refine ⟨fun as has => ?_, fun index e he => ?_⟩
  · rw [applyAll_unstamped_of_accepted hf hs 0 has] at hstamps
    cases happly : st.tree.applyAll s (st.tree.transaction + 1) 0 rs with
    | error failure => simp [happly, Except.map] at hstamps
    | ok result =>
      obtain ⟨as', t⟩ := result
      simp only [happly, Except.map, Except.ok.injEq, Prod.mk.injEq] at hstamps
      refine ⟨as', rfl, hstamps.1.symm, hstamps.2.symm, ?_⟩
      rw [mutations_submitEach hf hs has]
  · rw [applyAll_unstamped_of_failsFirst hf hs 0 he, Nat.zero_add] at hstamps
    cases happly : st.tree.applyAll s (st.tree.transaction + 1) 0 rs with
    | ok result => simp [happly, Except.map] at hstamps
    | error failure =>
      obtain rfl : (index, e.code) = failure := by simpa [happly, Except.map] using hstamps
      obtain ⟨answers, habort, hlength, hget⟩ := answers_abortedBatch rs.length index e.code
      exact ⟨answers, congrArg Except.error habort, hlength, hget, rfl, rfl, rfl⟩

/-- Requests that `someMoves` makes way for, each one for the next. -/
def someBatch : List Request :=
  [.create "/a/b" ByteArray.empty .worldOpen .persistent, .setData "/a/b" "b".toUTF8 0,
    .check "/a/b" 1]

theorem multi_eq_submitEach_after_someMoves :
    (∃ as, ((Move.run .initial someMoves).multi ⟨2, []⟩ someBatch).1 = .ok as) ∧
    (∃ answers, ((Move.run .initial someMoves).multi ⟨2, []⟩
      (someBatch ++ [.delete "/a" 0])).1 = .error (.aborted 3 .notEmpty answers)) := by
  have hf : (Move.run .initial someMoves).faults = [] := by decide +kernel
  have hs : (Move.run .initial someMoves).isConnected ⟨2, []⟩ := by decide +kernel
  have haccepted : ((Move.run .initial someMoves).submitEach ⟨2, []⟩ someBatch).1 =
      (((Move.run .initial someMoves).submitEach ⟨2, []⟩ someBatch).1.filterMap
        Except.toOption).map .ok := by decide +kernel
  have hfails : FailsFirst ((Move.run .initial someMoves).submitEach ⟨2, []⟩
      (someBatch ++ [.delete "/a" 0])).1 3 (.refused .notEmpty (some "/a")) := by decide +kernel
  obtain ⟨as, has, -⟩ := (multi_eq_submitEach hf hs someBatch).1 _ haccepted
  obtain ⟨answers, hanswers, -⟩ := (multi_eq_submitEach hf hs _).2 _ _ hfails
  exact ⟨⟨as, has⟩, answers, hanswers⟩

end Store

end Coordination
