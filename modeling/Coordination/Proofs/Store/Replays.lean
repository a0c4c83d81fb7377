import Coordination.Proofs.Store.Batches
import Coordination.Proofs.Store.Resending
import Coordination.Retry.Replay

/-!
# A request that is sent again

What becomes of a store to which the same request is sent several times, because some sendings meet
faults. A create of a given name and a delete change the tree so that they are refused from then on,
and the refusal is one that `Request.replayed?` takes for an answer; the other requests leave no
such trace. No refusal by the tree is one after which a request is sent again.

## Main definitions

* `Request.appliesOnce`: the requests that a tree refuses once it has applied them
* `Store.letIn`, `Store.drained`, `Store.advanced`: what a request does to a store

## Main results

* `Tree.exists_replayed_of_applied`: a request that has been applied is refused as a repeat
* `Tree.accepts_sent`: so are all sendings after the first
* `Tree.isRetryable_of_apply_eq_error`: a tree's refusal is final
* `Store.submit_of_fault`, `Store.submit_of_faultless`: one request and the faults to come
-/

namespace Coordination

/-! ## Requests -/

namespace Request

/-- Whether a tree that has applied the request refuses it from then on, for a reason that shows
this. -/
def appliesOnce : Request → Bool
  | create _ _ _ mode => !mode.isSequential
  | createContainer .. | delete .. | deleteContainer _ => true
  | setData .. | check .. => false

theorem isMutation_of_appliesOnce {r : Request} (h : r.appliesOnce) : r.isMutation := by
  cases r <;> first | rfl | cases h

theorem type_of_mode? {r : Request} {mode : CreateMode} (h : r.mode? = some mode) :
    r.type = .create := by
  cases r <;> first | rfl | cases h

theorem isSequential_of_appliesOnce {r : Request} {mode : CreateMode} (hr : r.appliesOnce)
    (hmode : r.mode? = some mode) : mode.isSequential = false := by
  cases r <;> simp only [mode?, Option.some.injEq, reduceCtorEq] at hmode
  all_goals
    subst hmode
    first | rfl | simpa [appliesOnce] using hr

@[simp] theorem appliesOnce_withPath (r : Request) (q : String) :
    (r.withPath q).appliesOnce = r.appliesOnce := by
  cases r <;> rfl

/-- An error after which a request is sent again shows nothing of earlier sendings. -/
theorem replayed?_eq_none {r : Request} {e : StoreError} (h : e.isRetryable) :
    r.replayed? e = none := by
  unfold replayed?
  split <;> first | cases h | rfl

end Request

/-- An answer that has lost its stat. -/
def Answer.statless : Answer → Answer
  | created path _ => created path none
  | a => a

/-! ## Trees -/

namespace Tree

variable {t t' : Tree} {s : Session} {stamp : Int} {r : Request} {a : Answer} {code : ErrorCode}

theorem isRetryable_of_checkVersion_eq_error {expected actual : Int32}
    (h : checkVersion expected actual = .error code) : code.isRetryable = false := by
  unfold checkVersion at h
  split at h
  all_goals cases h
  rfl

/-- **A tree's refusal is final**: no client asks again after it. -/
theorem isRetryable_of_apply_eq_error (h : t.apply s stamp r = .error code) :
    code.isRetryable = false := by
  unfold apply create delete setData check at h
  dsimp only at h
  repeat' split at h
  all_goals cases h
  -- what is left is either a refusal by name or one of the version
  all_goals first | rfl | exact isRetryable_of_checkVersion_eq_error ‹_›

/-- A batch is refused because of one of its requests. -/
theorem exists_apply_eq_error {rs : List Request} {i index : Nat}
    (h : t.applyAll s stamp i rs = .error (index, code)) :
    ∃ (t' : Tree) (r : Request), t'.apply s stamp r = .error code := by
  induction rs generalizing t i with
  | nil => cases h
  | cons r rs ih =>
    rw [applyAll] at h
    split at h
    · rename_i happly
      cases h
      exact ⟨t, r, happly⟩
    · split at h
      · rename_i hrest
        cases h
        exact ih hrest
      · cases h

theorem isRetryable_of_applyAll_eq_error {rs : List Request} {i index : Nat}
    (h : t.applyAll s stamp i rs = .error (index, code)) : code.isRetryable = false := by
  obtain ⟨t', r, happly⟩ := exists_apply_eq_error h
  exact isRetryable_of_apply_eq_error happly

/-- A tree refuses nothing for the sake of the session. -/
theorem ne_sessionExpired_of_apply_eq_error (h : t.apply s stamp r = .error code) :
    code ≠ .sessionExpired := by
  have hversion {expected actual : Int32} (h : checkVersion expected actual = .error code) :
      code ≠ .sessionExpired := by
    unfold checkVersion at h
    split at h <;> cases h
    decide
  unfold apply create delete setData check at h
  dsimp only at h
  repeat' split at h
  all_goals cases h
  all_goals first | decide | exact hversion ‹_›

/-- A node that is there is not created again. -/
theorem create_of_present {p above : String} {parent : Node} {data : ByteArray} {acl : Acl}
    {mode : CreateMode} (habove : Path.parent? p = some above)
    (hparent : t.node? above = some parent) (hpermits : parent.permits s .create) (hne : acl ≠ [])
    (hlasts : parent.mode.isEphemeral = false)
    (hpresent : (t.node? (actualPath parent p mode)).isSome) :
    t.create s stamp p data acl mode = .error .nodeExists := by
  simp [create, habove, hparent, hpermits, hne, hlasts, hpresent]

/-- A node that is not there is not deleted again. -/
theorem delete_of_absent {p above : String} {parent : Node} {version : Int32} {asContainer : Bool}
    (habove : Path.parent? p = some above) (hparent : t.node? above = some parent)
    (hpermits : asContainer = false → parent.permits s .delete) (habsent : t.node? p = none) :
    t.delete s p version asContainer = .error .noNode := by
  cases asContainer <;> simp_all [delete]

/-- A node that has been put below its parent is not created again: the parent has one more child,
which takes nothing from what the first sending needed. -/
theorem create_of_attach {p above : String} {parent : Node} {data : ByteArray} {acl : Acl}
    {mode : CreateMode} (hvalid : Path.isValid p) (habove : Path.parent? p = some above)
    (hparent : t.node? above = some parent) (hpermits : parent.permits s .create) (hne : acl ≠ [])
    (hlasts : parent.mode.isEphemeral = false) (hactual : ∀ n : Node, actualPath n p mode = p)
    (child : Node) (transaction : Int) :
    ({ t.attach above p child with transaction } : Tree).create s stamp p data acl mode =
      .error .nodeExists := by
  have hne' : above ≠ p := by
    rintro rfl
    exact Path.parent?_ne_self hvalid habove
  have hgained : ({ t.attach above p child with transaction } : Tree).node? above =
      some (parent.gain (Path.name p)) := by
    rw [node?_transaction, node?_attach, if_neg hne', if_pos rfl, hparent, Option.map_some]
  refine create_of_present habove hgained hpermits hne hlasts ?_
  rw [hactual, node?_transaction, node?_attach, if_pos rfl]
  rfl

/-- A node that has been removed is not deleted again. -/
theorem delete_of_remove {p above : String} {parent : Node} {version : Int32} {asContainer : Bool}
    (hvalid : Path.isValid p) (habove : Path.parent? p = some above)
    (hparent : t.node? above = some parent)
    (hpermits : asContainer = false → parent.permits s .delete) (transaction : Int) :
    ({ t.remove p with transaction } : Tree).delete s p version asContainer = .error .noNode := by
  have hne : above ≠ p := by
    rintro rfl
    exact Path.parent?_ne_self hvalid habove
  have hparent' : ({ t.remove p with transaction } : Tree).node? above =
      some (parent.lose (Path.name p)) := by
    rw [node?_transaction, node?_remove habove hne, if_neg hne, if_pos rfl, hparent,
      Option.map_some]
  refine delete_of_absent habove hparent' hpermits ?_
  rw [node?_transaction, node?_remove habove hne, if_pos rfl]

/-- **A create or delete that has been applied is refused from then on**, and the refusal stands for
the answer that the first sending had. -/
theorem exists_replayed_of_applied (hr : r.appliesOnce) (h : t.Applied s stamp r a t')
    (transaction stamp' : Int) :
    ∃ code, ({ t' with transaction } : Tree).apply s stamp' r = .error code ∧
      r.replayed? (.refused code (some r.path)) = some a.statless := by
  cases h with
  | @created _ data acl mode above parent hmode hdata hacl hvalid habove hparent hpermits hne
      hlasts hfresh =>
    -- a sequential create would get another name each time
    have hseq : mode.isSequential = false := Request.isSequential_of_appliesOnce hr hmode
    have hactual : ∀ n : Node, actualPath n r.path mode = r.path := fun n => by
      rw [actualPath, hseq, if_neg Bool.false_ne_true]
    rw [hactual] at hfresh ⊢
    generalize Node.leaf data acl (freshStat s data mode stamp) mode = child
    have hcreate : ({ t.attach above r.path child with transaction } : Tree).create s stamp' r.path
        data acl mode = .error .nodeExists :=
      create_of_attach hvalid habove hparent hpermits hne hlasts hactual child transaction
    refine ⟨.nodeExists, ?_, ?_⟩
    · unfold apply
      rw [if_neg (by simpa using hvalid)]
      cases r <;> simp only [Request.mode?, Request.data?, Request.acl?, Option.some.injEq,
        reduceCtorEq] at hmode hdata hacl
      all_goals
        subst hmode hdata hacl
        exact hcreate
    · cases r <;> simp only [Request.mode?, Option.some.injEq, reduceCtorEq] at hmode
      · subst hmode
        simp [Request.replayed?, hseq, Answer.statless, Request.path]
      · rfl
  | @deleted _ above parent node htype hvalid habove hparent hnode hpermits hversion hcontainer
      hchildless =>
    refine ⟨.noNode, ?_, ?_⟩
    · unfold apply
      rw [if_neg (by simpa using hvalid)]
      cases r <;> simp only [Request.type, reduceCtorEq] at htype
      · exact delete_of_remove hvalid habove hparent (fun _ => hpermits _ rfl) transaction
      · exact delete_of_remove hvalid habove hparent (by rintro ⟨⟩) transaction
    · cases r <;> simp only [Request.type, reduceCtorEq] at htype
      all_goals rfl
  | dataSet => cases hr
  | checked => cases hr

/-! A request that changes the tree counts as a batch of one. -/

theorem send_of_refused (h : t.apply s (t.transaction + 1) r = .error code) :
    t.send s [r] = .error (0, code) := by
  rw [send, applyAll, h]

theorem send_of_applied (h : t.apply s (t.transaction + 1) r = .ok (a, t')) :
    t.send s [r] = .ok ([a], t') := by
  rw [send, applyAll, h]
  rfl

theorem accepts_of_refused (h : t.apply s (t.transaction + 1) r = .error code) :
    t.accepts s [r] = false :=
  accepts_eq_false_iff.mpr ⟨_, send_of_refused h⟩

theorem accepts_of_applied (h : t.apply s (t.transaction + 1) r = .ok (a, t')) :
    t.accepts s [r] := by
  rw [accepts, send_of_applied h]
  rfl

theorem sent_of_applied (h : t.apply s (t.transaction + 1) r = .ok (a, t')) :
    t.sent s [r] = { t' with transaction := t.transaction + 1 } := by
  rw [sent, send_of_applied h]

/-- **A create or delete is not accepted twice**, whether the tree has applied it or refused it. -/
theorem accepts_sent (hr : r.appliesOnce) : (t.sent s [r]).accepts s [r] = false := by
  cases happly : t.apply s (t.transaction + 1) r with
  | error code =>
    have hrefused : t.accepts s [r] = false := accepts_of_refused happly
    rwa [sent_of_refused hrefused]
  | ok result =>
    obtain ⟨a, t'⟩ := result
    obtain ⟨code, hagain, -⟩ := exists_replayed_of_applied hr (apply_eq_ok_iff.mp happly)
      (t.transaction + 1) (t.transaction + 1 + 1)
    rw [sent_of_applied happly]
    exact accepts_of_refused hagain

theorem sentTimes_succ (hr : r.appliesOnce) (n : Nat) : sentTimes s [r] (n + 1) t = t.sent s [r] :=
  sentTimes_of_refused (accepts_sent hr) n

end Tree

/-! ## Stores -/

namespace Store

variable {st : Store} {s : Session} {r : Request} {a : Answer} {t : Tree} {code : ErrorCode}

/-- The store when a request has come in and these faults are left to come. -/
def letIn (st : Store) (faults : List Fault) : Store :=
  { st with requests := st.requests + 1, faults }

/-- The store when so many requests have come in and met all faults. -/
def drained (st : Store) (n : Nat) : Store :=
  { st with requests := st.requests + n, faults := [] }

/-- The store after a request has been applied that led to a tree. -/
def advanced (st : Store) (t : Tree) : Store :=
  { st with
    tree := { t with transaction := st.tree.transaction + 1 }
    mutations := st.mutations + 1 }

theorem drained_letIn (st : Store) (fs : List Fault) (n : Nat) :
    (st.letIn fs).drained n = st.drained (n + 1) := by
  simp only [letIn, drained, Nat.add_assoc, Nat.add_comm 1]

theorem advanced_letIn (st : Store) (fs : List Fault) (t : Tree) :
    (st.letIn fs).advanced t = (st.advanced t).letIn fs := rfl

/-- A request that meets a fault is lost, or applied without an answer. -/
theorem submit_of_fault {f : Fault} {fs : List Fault} (hs : st.isConnected s)
    (hfs : st.faults = f :: fs) (r : Request) :
    st.submit s r = (.error (plainError f.code),
      match f.timing with
      | .beforeApply => st.letIn fs
      | .afterApply => ((st.letIn fs).applyOne s r).2) := by
  rw [submit, receive_of_connected hs, hfs]
  obtain ⟨code, _ | _⟩ := f <;> rfl

theorem submit_of_faultless (hs : st.isConnected s) (hfs : st.faults = []) (r : Request) :
    st.submit s r = (st.letIn []).applyOne s r := by
  rw [submit, receive_of_connected hs]
  simp only [hfs, letIn]

theorem applyOne_of_refused (h : st.tree.apply s (st.tree.transaction + 1) r = .error code) :
    st.applyOne s r = (.error (.refused code (some r.path)), st) := by
  simp only [applyOne, h]

theorem applyOne_of_applied (hr : r.isMutation)
    (h : st.tree.apply s (st.tree.transaction + 1) r = .ok (a, t)) :
    st.applyOne s r = (.ok a, st.advanced t) := by
  simp only [applyOne, h, hr, if_true, advanced]

theorem applyOne_of_checked (hr : r.isMutation = false)
    (h : st.tree.apply s (st.tree.transaction + 1) r = .ok (a, t)) :
    st.applyOne s r = (.ok a, st) := by
  simp [applyOne, h, hr]

theorem tree_applyOne (hr : r.isMutation) (st : Store) :
    (st.applyOne s r).2.tree = st.tree.sent s [r] := by
  cases happly : st.tree.apply s (st.tree.transaction + 1) r with
  | error code =>
    rw [applyOne_of_refused happly, Tree.sent_of_refused (Tree.accepts_of_refused happly)]
  | ok result =>
    obtain ⟨a, t⟩ := result
    rw [applyOne_of_applied hr happly, Tree.sent_of_applied happly]
    rfl

/-- A request reaches the tree once, or not at all. -/
theorem exists_sentTimes_of_submit (hr : r.isMutation) (st : Store) (s : Session) :
    ∃ n, (st.submit s r).2.tree = st.tree.sentTimes s [r] n := by
  refine tree_receive (P := fun t => ∃ n, t = st.tree.sentTimes s [r] n) ⟨0, rfl⟩ ?_
  intro st' hst'
  refine ⟨1, ?_⟩
  rw [tree_applyOne hr, hst']
  rfl

/-- A request that is not disrupted reaches the tree. -/
theorem tree_submit_of_undisrupted (hr : r.isMutation)
    (h : ∀ e, (st.submit s r).1 = .error e → ¬ st.Disrupts e) :
    (st.submit s r).2.tree = st.tree.sent s [r] := by
  rcases receive_cases st s (·.applyOne s r) with ⟨e, hdisrupts, he⟩ | ⟨st', hst', hwork⟩
  · exact absurd hdisrupts (h e he)
  · rw [submit, hwork, tree_applyOne hr, hst']

/-- A request that is answered has been applied. -/
theorem exists_apply_of_submit (h : (st.submit s r).1 = .ok a) :
    ∃ t, st.tree.apply s (st.tree.transaction + 1) r = .ok (a, t) := by
  rcases receive_cases st s (·.applyOne s r) with ⟨e, -, he⟩ | ⟨st', hst', hwork⟩
  · rw [submit, he] at h
    cases h
  · rw [submit, hwork, applyOne] at h
    rw [← hst']
    cases happly : st'.tree.apply s (st'.tree.transaction + 1) r with
    | error code =>
      rw [happly] at h
      cases h
    | ok result =>
      rw [happly] at h
      dsimp only at h
      refine ⟨result.2, ?_⟩
      split at h
      all_goals
        obtain rfl : result.1 = a := by simpa using h
        rfl

end Store

end Coordination
