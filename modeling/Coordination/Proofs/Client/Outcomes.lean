import Coordination.Proofs.Client.Losses
import Coordination.Proofs.Client.Preparation

/-!
# What a transaction reports

The outcomes of a transaction are those of its own operations, one for each and in their order. If
it has been applied, each outcome tells what its operation did to the tree that the operations
before it had led to, in the paths of the caller; if it has failed, every outcome carries a code,
the one that the store gave for the operation that failed and an inconsistency for the others. The
store answers every batch with just as many answers as it has requests, each of its request's type,
so a client over it never meets an answer that it cannot tell.

## Main definitions

* `Tree.through`: the tree within a batch
* `Client.Tells`: what the outcome of an operation tells of two trees
* `Client.Reports`, `Client.ReportsFailure`: what a transaction reports

## Main results

* `Client.tells_of_applyAll`: the outcomes of a batch that has been applied
* `Client.submit_ne_protocol`: the store never answers with what a client cannot tell
* `Client.submit_reports`: the outcomes of a transaction
-/

namespace Coordination

/-! ## Trees -/

namespace Tree

variable {t t' : Tree} {s : Session} {stamp : Int} {rs : List Request} {r : Request} {a : Answer}

/-- The tree within a batch, after some of its requests. -/
def through (t : Tree) (s : Session) (stamp : Int) (rs : List Request) : Tree :=
  rs.foldl (fun t r => match t.apply s stamp r with
    | .ok (_, t') => t'
    | .error _ => t) t

theorem through_cons (h : t.apply s stamp r = .ok (a, t')) (rs : List Request) :
    t.through s stamp (r :: rs) = t'.through s stamp rs := by
  rw [through, List.foldl_cons, h]
  rfl

/-- The request that a batch fails at is one of the batch. -/
theorem lt_of_applyAll_eq_error {i index : Nat} {code : ErrorCode}
    (h : t.applyAll s stamp i rs = .error (index, code)) : index < i + rs.length := by
  induction rs generalizing t i with
  | nil => cases h
  | cons r rs ih =>
    rw [applyAll] at h
    split at h
    · cases h
      simp
    · split at h
      · rename_i hrest
        cases h
        have := ih hrest
        rw [List.length_cons]
        omega
      · cases h

end Tree

namespace Client

variable {c : Client} {s : Session} {o : Operation} {os : List Operation} {st : Store}
  {t t' : Tree} {stamp : Int} {a : Answer} {out : Outcome} {outs : List Outcome}

/-! ## Outcomes -/

/-- **What the outcome of an operation tells** of the tree that the operation met and the one that
it led to. -/
structure Tells (c : Client) (s : Session) (stamp : Int) (o : Operation) (t t' : Tree)
    (out : Outcome) : Prop where
  /-- The operation leads from the one tree to the other. -/
  applied : ∃ a, t.apply s stamp (c.request o) = .ok (a, t')
  /-- The outcome is of the operation's type. -/
  type : out.type = o.request.type
  /-- It is told under the caller's path. -/
  path : out.path = o.path
  /-- It is no error. -/
  code : out.code = none
  /-- Of a create it tells the node that is new, by the caller's path, with a counter behind it if
  the mode says so. -/
  created : ∀ mode, o.request.mode? = some mode → ∃ q node,
    t.apply s stamp (c.request o) = .ok (.created q (some node.stat), t') ∧
      t.node? q = none ∧ t'.node? q = some node ∧
      out.createdPath = some (c.space.unfix q) ∧ out.stat = some node.stat ∧
      (mode.isSequential = false → c.space.unfix q = o.path) ∧
      (mode.isSequential → o.path ≠ Path.root →
        ∃ i, c.space.unfix q = o.path ++ Text.Decimal.zeroFilled 10 i)
  /-- Of a change of data it tells the stat that the node has then. -/
  dataSet : o.request.type = .setData → out.createdPath = none ∧
    ∃ node, t'.node? (c.space.fix o.path) = some node ∧ out.stat = some node.stat
  /-- Of a delete or a check it tells no more. -/
  silent : o.request.type = .delete ∨ o.request.type = .check →
    out.createdPath = none ∧ out.stat = none

theorem tells_of_apply (hn : c.space.IsWellFormed) (hp : Path.isValid o.path)
    (happly : t.apply s stamp (c.request o) = .ok (a, t'))
    (hout : (c.entry o).outcome c.space a = .ok out) : c.Tells s stamp o t t' out := by
  have htype := type_request c o
  have hpath := path_request c o
  have hmode := mode?_request c o
  have happlied := Tree.apply_eq_ok_iff.mp happly
  generalize c.request o = r at happlied htype hpath hmode
  cases happlied with
  | @created _ data acl mode above parent hmode' hdata hacl hvalid habove hparent hpermits hne
      hlasts hfresh =>
    have hcreate : o.request.type = .create := htype.symm.trans (Request.type_of_mode? hmode')
    obtain rfl : _ = out := by simpa [BatchEntry.outcome, entry, hcreate] using hout
    refine ⟨⟨_, happly⟩, hcreate.symm, rfl, rfl, ?_, by simp [hcreate], by simp [hcreate]⟩
    intro mode' hmode''
    obtain rfl : mode = mode' := by
      rw [← hmode, hmode'] at hmode''
      exact Option.some.inj hmode''
    refine ⟨_, _, happly, hfresh, by rw [Tree.node?_attach, if_pos rfl], rfl, rfl, ?_, ?_⟩
    · intro hseq
      rw [Tree.actualPath, hseq, if_neg Bool.false_ne_true, hpath]
      exact hn.unfix_fix hp
    · intro hseq hroot
      -- the store writes the counter behind the path in the namespace
      refine ⟨parent.stat.childVersion.toInt, ?_⟩
      rw [Tree.actualPath, if_pos hseq, hpath, Text.Decimal.zeroFilled_eq]
      exact hn.unfix_fix_append hp hroot (Text.Decimal.zeroFilledChars_ne_nil _ _)
        fun _ => Tree.ne_of_mem_zeroFilledChars
  | deleted hdelete =>
    have hkind : o.request.type = .delete := htype.symm.trans hdelete
    obtain rfl : _ = out := by simpa [BatchEntry.outcome, entry, hkind] using hout
    refine ⟨⟨_, happly⟩, hkind.symm, rfl, rfl, ?_, by simp [hkind], fun _ => ⟨rfl, rfl⟩⟩
    intro mode hmode'
    rw [Request.type_of_mode? hmode'] at hkind
    cases hkind
  | @dataSet p data v node hvalid hnode hpermits hversion =>
    have hkind : o.request.type = .setData := htype.symm
    obtain rfl : _ = out := by simpa [BatchEntry.outcome, entry, hkind] using hout
    obtain rfl : p = c.space.fix o.path := hpath
    have hwritten : ∀ n, (t.put (c.space.fix o.path) n).node? (c.space.fix o.path) = some n := by
      intro n
      rw [Tree.node?_put, if_pos rfl]
    refine ⟨⟨_, happly⟩, hkind.symm, rfl, rfl, ?_, fun _ => ⟨rfl, _, hwritten _, rfl⟩,
      by simp [hkind]⟩
    intro mode hmode'
    rw [Request.type_of_mode? hmode'] at hkind
    cases hkind
  | checked hvalid hnode hversion =>
    have hkind : o.request.type = .check := htype.symm
    obtain rfl : _ = out := by simpa [BatchEntry.outcome, entry, hkind] using hout
    refine ⟨⟨_, happly⟩, hkind.symm, rfl, rfl, ?_, by simp [hkind], fun _ => ⟨rfl, rfl⟩⟩
    intro mode hmode'
    rw [Request.type_of_mode? hmode'] at hkind
    cases hkind

/-- **The outcomes of a batch that has been applied** tell what its operations have done, each to
the tree that those before it had led to. -/
theorem tells_of_applyAll (hn : c.space.IsWellFormed) (hos : ∀ o ∈ os, Path.isValid o.path)
    {i : Nat} {answers : List Answer}
    (happly : t.applyAll s stamp i (os.map c.request) = .ok (answers, t'))
    (hout : (c.entries os).matched c.space answers = .ok outs) :
    t' = t.through s stamp (os.map c.request) ∧ outs.length = os.length ∧
      ∀ j o out, os[j]? = some o → outs[j]? = some out →
        c.Tells s stamp o (t.through s stamp ((os.take j).map c.request))
          (t.through s stamp ((os.take (j + 1)).map c.request)) out := by
  induction os generalizing t i answers outs with
  | nil =>
    cases happly
    cases hout
    exact ⟨rfl, rfl, by simp⟩
  | cons o os ih =>
    rw [List.map_cons, Tree.applyAll] at happly
    split at happly
    · cases happly
    · rename_i a t₁ hfirst
      split at happly
      · cases happly
      · rename_i hrest
        cases happly
        rw [entries, List.map_cons, Batch.matched] at hout
        split at hout
        · cases hout
        · rename_i out hhead
          split at hout
          · cases hout
          · rename_i htail
            cases hout
            -- the other operations meet the tree that the first one has left
            obtain ⟨htree, hlength, htells⟩ :=
              ih (fun o ho => hos o (List.mem_cons_of_mem _ ho)) hrest htail
            rw [List.map_cons, Tree.through_cons hfirst]
            refine ⟨htree, by rw [List.length_cons, List.length_cons, hlength], ?_⟩
            rintro (_ | j) o' out' ho' hout'
            · obtain rfl : o = o' := by simpa using ho'
              obtain rfl : out = out' := by simpa using hout'
              rw [List.take_succ_cons, List.map_cons, Tree.through_cons hfirst]
              exact tells_of_apply hn (hos o List.mem_cons_self) hfirst hhead
            · rw [List.take_succ_cons, List.take_succ_cons, List.map_cons, List.map_cons,
                Tree.through_cons hfirst, Tree.through_cons hfirst]
              exact htells j o' out' (by simpa using ho') (by simpa using hout')

/-! ## Reports -/

/-- **What a transaction reports that has been applied** to a tree and has led to another one. -/
structure Reports (c : Client) (s : Session) (os : List Operation) (t t' : Tree)
    (outs : List Outcome) : Prop where
  /-- There is an outcome for each operation. -/
  length : outs.length = os.length
  /-- The operations have led from the one tree to the other, in one transaction. -/
  tree : t' = { t.through s (t.transaction + 1) (os.map c.request) with
    transaction := t.transaction + 1 }
  /-- The outcomes tell what the operations have done, in order. -/
  tells : ∀ i o out, os[i]? = some o → outs[i]? = some out →
    c.Tells s (t.transaction + 1) o (t.through s (t.transaction + 1) ((os.take i).map c.request))
      (t.through s (t.transaction + 1) ((os.take (i + 1)).map c.request)) out

/-- **What a transaction reports that has failed** because of the operation at `index`. -/
structure ReportsFailure (os : List Operation) (index : Nat) (path : String) (code : ErrorCode)
    (outs : List Outcome) : Prop where
  /-- The operation is one of the transaction, and the path is the one that the caller gave. -/
  path : os[index]?.map Operation.path = some path
  /-- There is an outcome for each operation. -/
  length : outs.length = os.length
  /-- The outcomes carry the code of the operation, and an inconsistency for the others. -/
  code : ∀ i o, os[i]? = some o → outs[i]? = some
    ({ type := o.request.type, path := o.path, createdPath := none, stat := none,
       code := some (if i = index then code else .runtimeInconsistency) } : Outcome)

theorem conclude_eq_ok {n : Namespace} {b : Batch} {result : Except Failure (List Answer)}
    (h : conclude n b result = .ok outs) :
    ∃ answers, result = .ok answers ∧ b.matched n answers = .ok outs := by
  unfold conclude at h
  split at h
  · refine ⟨_, rfl, ?_⟩
    unfold Batch.outcomes at h
    split at h
    · exact h
    · cases h
  · split at h
    all_goals cases h
  · cases h

/-- A transaction that failed reports the codes that the store gave. -/
theorem reportsFailure_of_conclude {index index' : Nat} {path : String} {code code' : ErrorCode}
    (hindex : index' < os.length)
    (h : conclude c.space (c.entries os)
        (.error (.store (StoreError.abortedBatch os.length index' code'))) =
      .error (.transactionFailed index path code outs)) :
    ReportsFailure os index path code outs := by
  -- what an aborted batch is answered with is codes, which fit entries of every type
  let codes := (List.range os.length).map fun i =>
    if i = index' then code' else ErrorCode.runtimeInconsistency
  have habort : StoreError.abortedBatch os.length index' code' =
      .aborted index' code' (codes.map .failed) := by
    rw [StoreError.abortedBatch, List.map_map]
    rfl
  have houtcomes : (c.entries os).outcomes c.space (codes.map .failed) =
      .ok
        (List.zipWith (fun e code => { e.bare with code := some code }) (c.entries os) codes) := by
    rw [Batch.outcomes, if_pos (by simp [codes, entries]), Batch.matched_failed]
  simp only [habort, conclude, houtcomes, Except.error.injEq, Failure.transactionFailed.injEq] at h
  obtain ⟨rfl, hpath, rfl, rfl⟩ := h
  have hat : os[index']? = some os[index'] := List.getElem?_eq_getElem hindex
  constructor
  · rw [← hpath, entries, List.getElem?_map, hat]
    rfl
  · simp [codes, entries]
  · intro i o ho
    have hi : i < os.length := (List.getElem?_eq_some_iff.mp ho).1
    rw [List.getElem?_zipWith, entries, List.getElem?_map, ho, List.getElem?_map,
      List.getElem?_range hi]
    rfl

/-! ## Transactions -/

/-- If a call tells of an aborted batch, the store has aborted it. -/
theorem exists_multi_of_call_aborted {rs : List Request} {index : Nat} {code : ErrorCode}
    {answers : List Answer}
    (h : (c.call (Store.link s) (fun _ st => st.multi s rs) st).1 =
      .error (.store (.aborted index code answers))) :
    ∃ st₁ : Store, (st₁.multi s rs).1 = .error (.aborted index code answers) := by
  rcases exists_attempt_of_call_error h with hroot | ⟨n, st₁, e, hends, hattempt⟩
  · cases isAbort_of_ensureRoot_error hroot
  · cases hends
    exact ⟨st₁, congrArg Prod.fst hattempt⟩

/-- **No answer of the store is one that its client cannot tell.** -/
theorem submit_ne_protocol (message : String) :
    (c.submit (Store.link s) os st).1 ≠ .error (.protocol message) := by
  intro h
  rcases submit_cases (Store.link s) c os st with ⟨f, hf, hrejected⟩ | ⟨hb, hsubmit⟩
  · rw [hrejected] at h
    cases h
    cases hf
  · have htyped := isTyped_of_prepareBatch hb
    rw [hsubmit] at h
    unfold conclude at h
    split at h
    · -- the batch has been applied, and each answer is to its request
      rename_i answers hresult
      obtain ⟨-, n, st₁, -, hmulti⟩ :=
        exists_attempt_of_call (P := fun _ => True) (fun _ _ _ => trivial) trivial hresult
      have hanswers : (st₁.multi s (c.entries os).requests).1 = .ok answers := by
        rw [requests_entries]
        exact congrArg Prod.fst hmulti
      obtain ⟨outs, houts⟩ := Batch.exists_outcomes_of_multi htyped c.space hanswers
      rw [houts] at h
      cases h
    · -- the batch has been aborted, and all answers are codes
      rename_i index code answers hresult
      obtain ⟨st₁, hmulti⟩ := exists_multi_of_call_aborted hresult
      rw [← requests_entries] at hmulti
      obtain ⟨outs, houts⟩ := Batch.exists_outcomes_of_aborted c.space hmulti
      rw [houts] at h
      cases h
    · -- the call has failed otherwise
      rename_i f hresult
      cases h
      rcases exists_attempt_of_call_error hresult with hroot | ⟨n, st₁, e, hends, -⟩
      · rcases ensureRoot_eq_error hroot with ⟨message', hmessage⟩ | ⟨e, hends⟩
        · cases hmessage
        · cases hends
      · cases hends

theorem reports_of_submit (h : (c.submit (Store.link s) os st).1 = .ok outs) :
    ∃ n, c.Reports s os ((c.rooted s st).tree.sentTimes s (os.map c.request) n)
      (c.submit (Store.link s) os st).2.2.tree outs := by
  rcases submit_cases (Store.link s) c os st with ⟨f, -, hrejected⟩ | ⟨hb, hsubmit⟩
  · rw [hrejected] at h
    cases h
  · rw [hsubmit] at h ⊢
    obtain ⟨answers, hresult, hmatched⟩ := conclude_eq_ok h
    -- the last sending met the tree that those before it had left
    have hattempt : ∀ (n : Nat) (st' : Store),
        (∃ k, st'.tree = (c.rooted s st).tree.sentTimes s (os.map c.request) k) →
        ∃ k, (st'.multi s (os.map c.request)).2.tree =
          (c.rooted s st).tree.sentTimes s (os.map c.request) k := by
      rintro n st' ⟨k, hk⟩
      obtain ⟨j, hj⟩ := Store.exists_sentTimes_of_multi st' s (os.map c.request)
      exact ⟨k + j, by rw [Tree.sentTimes_add, ← hk, hj]⟩
    obtain ⟨hroot, n, st₁, ⟨k, hk⟩, hmulti⟩ := exists_attempt_of_call hattempt ⟨0, rfl⟩ hresult
    obtain ⟨t, happly, htree⟩ := Store.exists_applyAll_of_multi (congrArg Prod.fst hmulti)
    obtain ⟨rfl, hlength, htells⟩ := tells_of_applyAll (isWellFormed_of_ensureRoot hroot)
      (isValid_of_prepareBatch hb) happly hmatched
    refine ⟨k, ?_⟩
    rw [← hk]
    exact ⟨hlength, (congrArg (·.2.tree) hmulti).symm.trans htree, htells⟩

theorem reportsFailure_of_submit {index : Nat} {path : String} {code : ErrorCode}
    (h : (c.submit (Store.link s) os st).1 = .error (.transactionFailed index path code outs)) :
    ReportsFailure os index path code outs := by
  rcases submit_cases (Store.link s) c os st with ⟨f, hf, hrejected⟩ | ⟨hb, hsubmit⟩
  · rw [hrejected] at h
    cases h
    cases hf
  · rw [hsubmit] at h
    rcases conclude_eq_transactionFailed h with ⟨answers, hresult⟩ | hresult
    · obtain ⟨st₁, hmulti⟩ := exists_multi_of_call_aborted hresult
      obtain ⟨-, habort⟩ := Store.eq_abortedBatch_of_multi hmulti
      have hindex : index < os.length := by
        have hsend := Store.send_of_multi_aborted (Prod.ext hmulti rfl)
        simpa using Tree.lt_of_applyAll_eq_error hsend
      rw [List.length_map] at habort
      rw [hresult, habort] at h
      exact reportsFailure_of_conclude hindex h
    · -- only an aborted batch is told of like this
      rcases exists_attempt_of_call_error hresult with hroot | ⟨n, st₁, e, hends, -⟩
      · cases isAbort_of_ensureRoot_error hroot
      · cases hends

/-- **The outcomes of a transaction are those of its own operations**, in their order, and the store
never answers with anything else. -/
theorem submit_reports (c : Client) (s : Session) (os : List Operation) (st : Store) :
    (∀ message, (c.submit (Store.link s) os st).1 ≠ .error (.protocol message)) ∧
    (∀ outs, (c.submit (Store.link s) os st).1 = .ok outs →
      ∃ n, c.Reports s os ((c.rooted s st).tree.sentTimes s (os.map c.request) n)
        (c.submit (Store.link s) os st).2.2.tree outs) ∧
    ∀ index path code outs,
      (c.submit (Store.link s) os st).1 = .error (.transactionFailed index path code outs) →
        ReportsFailure os index path code outs :=
  ⟨submit_ne_protocol, fun _ => reports_of_submit, fun _ _ _ _ => reportsFailure_of_submit⟩

/-- A transaction of requests of every kind, of which the last one is refused. -/
def enrollingInVain : List Operation :=
  enrolling ++ [.plain (.setData "/members" "x".toUTF8 0), .plain (.check "/members" 1),
    .plain (.delete "/members" anyVersion)]

/-- What is told of it. -/
def inVain : List Outcome :=
  enrollingInVain.mapIdx fun i o =>
    { type := o.request.type, path := o.path, createdPath := none, stat := none,
      code := some (if i = 4 then .notEmpty else .runtimeInconsistency) }

/-- The members are told of by the paths of the caller, and the refusal by its place. -/
theorem reports_of_deaf :
    (∃ outs n, (tenant.submit (Store.link ⟨1, []⟩) enrolling deaf).1 = .ok outs ∧
      outs.map Outcome.createdPath = [some "/members", some "/members/m-0000000000"] ∧
      tenant.Reports ⟨1, []⟩ enrolling
        ((tenant.rooted ⟨1, []⟩ deaf).tree.sentTimes ⟨1, []⟩ (enrolling.map tenant.request) n)
        (tenant.submit (Store.link ⟨1, []⟩) enrolling deaf).2.2.tree outs) ∧
    (tenant.submit (Store.link ⟨1, []⟩) enrollingInVain deaf).1 =
        .error (.transactionFailed 4 "/members" .notEmpty inVain) ∧
      ReportsFailure enrollingInVain 4 "/members" .notEmpty inVain := by
  have hdone : (tenant.submit (Store.link ⟨1, []⟩) enrolling deaf).1.toOption.map
      (·.map Outcome.createdPath) = some [some "/members", some "/members/m-0000000000"] := by
    decide +kernel
  have hfailed : (tenant.submit (Store.link ⟨1, []⟩) enrollingInVain deaf).1 =
      .error (.transactionFailed 4 "/members" .notEmpty inVain) := by decide +kernel
  constructor
  · cases hresult : (tenant.submit (Store.link ⟨1, []⟩) enrolling deaf).1 with
    | error f =>
      rw [hresult] at hdone
      cases hdone
    | ok outs =>
      rw [hresult] at hdone
      obtain ⟨n, hreports⟩ := (submit_reports tenant ⟨1, []⟩ enrolling deaf).2.1 outs hresult
      exact ⟨outs, n, rfl, by simpa [Except.toOption] using hdone, hreports⟩
  · exact ⟨hfailed, (submit_reports tenant ⟨1, []⟩ enrollingInVain deaf).2.2 _ _ _ _ hfailed⟩

end Client

end Coordination
