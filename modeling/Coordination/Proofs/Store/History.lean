import Coordination.Proofs.Store.Replays

/-!
# What happens in a run, one change at a time

A move may change a tree more than once: a batch applies its requests one after the other, and the
end of a session removes nodes one by one. The history of a run lists every tree on the way, each
with the request that led to it and the answer that the request had, if it was a request that did.
Aborted batches and lost requests have left no trace in it; requests whose answers were lost have.

## Main definitions

* `Tree.Step`: what one change of a tree can be
* `Store.Move.stages`, `Store.history`: the stages of a move and of a run

## Main results

* `Store.steps_history`, `Store.final_history`: a history is made of single changes, and ends in the
  tree that the run leads to
* `Store.stages_of_submit`, `Store.stages_of_multi`: what a session is told has been applied is
  part of the history
-/

namespace Coordination

/-- A tree on the way of a run. -/
structure Stage where
  /-- The request that led to the tree and its answer, if it was a request that did. -/
  applied : Option (Request × Answer)
  /-- The tree. -/
  tree : Tree
  deriving DecidableEq

/-! ## Trees -/

namespace Tree

variable {t t' : Tree} {s : Session} {stamp : Int} {e : Stage} {es fs : List Stage}

/-- **What can happen to a tree at once.** -/
inductive Step (t : Tree) : Stage → Prop where
  /-- A request is applied. -/
  | applied {s : Session} {stamp : Int} {r : Request} {a : Answer} {t' : Tree}
      (h : t.Applied s stamp r a t') : Step t ⟨some (r, a), t'⟩
  /-- A node is removed. -/
  | removed (p : String) : Step t ⟨none, t.remove p⟩
  /-- The access list of a node is replaced. -/
  | granted {s : Session} {p : String} {acl : Acl} {version : Int32} {stat : Stat} {t' : Tree}
      (h : t.setAcl s p acl version = .ok (stat, t')) (transaction : Int) :
      Step t ⟨none, { t' with transaction }⟩
  /-- A transaction is counted. -/
  | counted (transaction : Int) : Step t ⟨none, { t with transaction }⟩

theorem Step.refl (t : Tree) : t.Step ⟨none, t⟩ := .counted t.transaction

/-- Whether each stage comes from the one before it, the first one from a tree. -/
def Steps (t : Tree) : List Stage → Prop
  | [] => True
  | e :: es => t.Step e ∧ Steps e.tree es

/-- The tree of the last stage; without stages the tree at the start. -/
def final (t : Tree) : List Stage → Tree
  | [] => t
  | e :: es => final e.tree es

theorem final_append (t : Tree) (es fs : List Stage) :
    t.final (es ++ fs) = (t.final es).final fs := by
  induction es generalizing t with
  | nil => rfl
  | cons e es ih => exact ih e.tree

theorem steps_append : t.Steps (es ++ fs) ↔ t.Steps es ∧ (t.final es).Steps fs := by
  induction es generalizing t with
  | nil => simp [Steps, final]
  | cons e es ih => simp [Steps, final, ih, and_assoc]

/-- The stages of the requests of a batch, up to the first one that is refused. -/
def stages (t : Tree) (s : Session) (stamp : Int) : List Request → List Stage
  | [] => []
  | r :: rs =>
    match t.apply s stamp r with
    | .error _ => []
    | .ok (a, t') => ⟨some (r, a), t'⟩ :: t'.stages s stamp rs

/-- The stages of the removal of nodes. -/
def removals (t : Tree) : List String → List Stage
  | [] => []
  | p :: ps => ⟨none, t.remove p⟩ :: (t.remove p).removals ps

/-- The stages of so many rounds of reaping. -/
def reapings : Nat → Tree → List Stage
  | 0, _ => []
  | rounds + 1, t =>
    match t.pathsWhere (·.isIdle) with
    | [] => []
    | ps => t.removals ps ++ reapings rounds (t.removeAll ps)

theorem steps_stages (t : Tree) (s : Session) (stamp : Int) (rs : List Request) :
    t.Steps (t.stages s stamp rs) := by
  induction rs generalizing t with
  | nil => trivial
  | cons r rs ih =>
    rw [stages]
    split
    · trivial
    · rename_i a t' happly
      exact ⟨.applied (apply_eq_ok_iff.mp happly), ih t'⟩

/-- The stages of a batch that is accepted are those of its requests, each with its answer. -/
theorem stages_of_applyAll {rs : List Request} {as : List Answer} {i : Nat}
    (h : t.applyAll s stamp i rs = .ok (as, t')) :
    (t.stages s stamp rs).map Stage.applied = (rs.zip as).map some ∧
      t.final (t.stages s stamp rs) = t' := by
  -- the stages are those of the recursion of the batch, so the induction is on the requests
  induction rs generalizing t i as with
  | nil =>
    obtain ⟨rfl, rfl⟩ : [] = as ∧ t = t' := by simpa [applyAll] using h
    exact ⟨rfl, rfl⟩
  | cons r rs ih =>
    unfold applyAll at h
    repeat' split at h
    all_goals simp only [reduceCtorEq, Except.ok.injEq, Prod.mk.injEq] at h
    rename_i a t₁ happly _ as₁ t₂ hrest
    obtain ⟨rfl, rfl⟩ := h
    obtain ⟨happlied, hfinal⟩ := ih hrest
    rw [stages, happly]
    exact ⟨by rw [List.map_cons, happlied]; rfl, hfinal⟩

theorem steps_removals (t : Tree) (ps : List String) : t.Steps (t.removals ps) := by
  induction ps generalizing t with
  | nil => trivial
  | cons p ps ih => exact ⟨.removed p, ih (t.remove p)⟩

theorem final_removals (t : Tree) (ps : List String) :
    t.final (t.removals ps) = t.removeAll ps := by
  induction ps generalizing t with
  | nil => rfl
  | cons p ps ih => exact ih (t.remove p)

theorem steps_reapings (rounds : Nat) (t : Tree) : t.Steps (reapings rounds t) := by
  induction rounds generalizing t with
  | zero => trivial
  | succ rounds ih =>
    rw [reapings]
    split
    · trivial
    · exact steps_append.mpr ⟨steps_removals t _, by rw [final_removals]; exact ih _⟩

theorem final_reapings (rounds : Nat) (t : Tree) :
    t.final (reapings rounds t) = (t.reapRounds rounds).2 := by
  induction rounds generalizing t with
  | zero => rfl
  | succ rounds ih =>
    rw [reapings, reapRounds]
    cases hps : t.pathsWhere (·.isIdle) with
    | nil => rfl
    | cons p ps =>
      dsimp only
      rw [final_append, final_removals]
      exact ih _

end Tree

/-! ## Stores -/

namespace Store

variable {st : Store} {s : Session}

/-- The stages of what a session asks for, if it reaches the tree and is accepted. -/
def asked (st : Store) (s : Session) (rs : List Request) : List Stage :=
  if st.letsIn s && st.tree.accepts s rs then st.tree.stages s (st.tree.transaction + 1) rs else []

/-- What a move applies and removes. -/
def Move.changes (st : Store) : Move → List Stage
  | submit s r => st.asked s [r]
  | multi s rs => st.asked s rs
  | close s =>
    if st.isClosed s then [] else st.tree.removals (st.tree.pathsWhere (·.stat.owner == s.id))
  | expire session => st.tree.removals (st.tree.pathsWhere (·.stat.owner == session))
  | reap => Tree.reapings (st.tree.size + 1) st.tree
  | connect _ | setAcl .. | failNext .. | failAfter .. => []

/-- **The stages of a move**: what it applies and removes, and the tree that it leaves behind, an
access list replaced and the transaction counted. -/
def Move.stages (st : Store) (m : Move) : List Stage :=
  m.changes st ++ [⟨none, (m.next st).tree⟩]

/-- **The stages of a run.** -/
def history (st : Store) : List Move → List Stage
  | [] => []
  | m :: ms => m.stages st ++ history (m.next st) ms

/-! ### Requests -/

section Receive

variable {α : Type} {work : Store → Except StoreError α × Store}

/-- What does not reach the tree leaves it alone and is not answered. -/
theorem receive_of_not_letsIn (h : st.letsIn s = false)
    (work : Store → Except StoreError α × Store) :
    (st.receive s work).2.tree = st.tree ∧ ∀ a, (st.receive s work).1 ≠ .ok a := by
  rw [snd_receive, h, fst_receive]
  refine ⟨rfl, fun a => ?_⟩
  by_cases hs : st.isConnected s
  · obtain ⟨hc, he⟩ := isConnected_iff.mp hs
    -- a fault that strikes before the request is applied is at the head
    rw [letsIn, hs, Bool.true_and] at h
    rw [struck?, if_pos hs, hc, he]
    cases hfault : st.faults.head? with
    | none => simp [hfault] at h
    | some f => simp
  · split
    · simp
    · rename_i hc
      have he : st.hasExpired s = true := by
        simpa [isConnected, hc] using hs
      simp [he]

/-- What reaches the tree finds it as it is, whether its sender hears of it or not. -/
theorem receive_of_letsIn (h : st.letsIn s) (work : Store → Except StoreError α × Store) :
    ∃ st' : Store, st'.tree = st.tree ∧ (st.receive s work).2 = (work st').2 ∧
      ∀ a, (st.receive s work).1 = .ok a → (work st').1 = .ok a := by
  refine ⟨st.admitted s, rfl, by rw [snd_receive, if_pos h], fun a => ?_⟩
  obtain ⟨hc, he⟩ := isConnected_iff.mp (Bool.and_eq_true_iff.mp h).1
  rw [fst_receive, hc, he]
  cases st.struck? s with
  | none => exact id
  | some f => rintro ⟨⟩

end Receive

theorem steps_asked (st : Store) (s : Session) (rs : List Request) :
    st.tree.Steps (st.asked s rs) := by
  rw [asked]
  split
  · exact Tree.steps_stages _ s _ rs
  · trivial

theorem asked_of_not_letsIn (h : st.letsIn s = false) (rs : List Request) : st.asked s rs = [] := by
  rw [asked, h]
  rfl

theorem asked_of_refused {rs : List Request} (h : st.tree.accepts s rs = false) :
    st.asked s rs = [] := by
  rw [asked, h, Bool.and_false]
  rfl

theorem asked_of_accepted {rs : List Request} {as : List Answer} {t : Tree} (hin : st.letsIn s)
    (h : st.tree.send s rs = .ok (as, t)) :
    (st.asked s rs).map Stage.applied = (rs.zip as).map some ∧
      st.tree.final (st.asked s rs) = t := by
  have haccepts : st.tree.accepts s rs = true := by
    rw [Tree.accepts, h]
    rfl
  rw [asked, hin, haccepts]
  exact Tree.stages_of_applyAll h

/-- A request leads to the last of its stages, but for the count of transactions. -/
theorem exists_tree_submit (st : Store) (s : Session) (r : Request) :
    ∃ z, (st.submit s r).2.tree = { st.tree.final (st.asked s [r]) with transaction := z } := by
  cases hin : st.letsIn s with
  | false =>
    rw [asked_of_not_letsIn hin, submit, (receive_of_not_letsIn hin _).1]
    exact ⟨st.tree.transaction, rfl⟩
  | true =>
    obtain ⟨st', hst', hwork, -⟩ := receive_of_letsIn hin (·.applyOne s r)
    rw [submit, hwork, applyOne, hst']
    dsimp only
    cases happly : st.tree.apply s (st.tree.transaction + 1) r with
    | error code =>
      have hrefused : st.tree.accepts s [r] = false :=
        Tree.accepts_eq_false_iff.mpr ⟨(0, code), by rw [Tree.send, Tree.applyAll, happly]⟩
      rw [asked_of_refused hrefused]
      exact ⟨st.tree.transaction, by rw [← hst']; rfl⟩
    | ok result =>
      obtain ⟨a, t⟩ := result
      have hsend : st.tree.send s [r] = .ok ([a], t) := by
        rw [Tree.send, Tree.applyAll, happly]
        rfl
      rw [(asked_of_accepted hin hsend).2]
      by_cases hr : r.isMutation
      · exact ⟨st.tree.transaction + 1, by simp only [hr, if_true]⟩
      · -- a check that succeeds is not counted as a transaction, and changes nothing
        have ht : t = st.tree := by
          cases r with
          | check p version =>
            cases Tree.apply_eq_ok_iff.mp happly with
            | created hmode => cases hmode
            | deleted htype => cases htype
            | checked => rfl
          | _ => exact absurd rfl hr
        refine ⟨st.tree.transaction, ?_⟩
        simp only [hr, ht, hst', Bool.false_eq_true, if_false]

/-- So does a batch. -/
theorem exists_tree_multi (st : Store) (s : Session) (rs : List Request) :
    ∃ z, (st.multi s rs).2.tree = { st.tree.final (st.asked s rs) with transaction := z } := by
  cases hin : st.letsIn s with
  | false =>
    rw [asked_of_not_letsIn hin, multi, (receive_of_not_letsIn hin _).1]
    exact ⟨st.tree.transaction, rfl⟩
  | true =>
    obtain ⟨st', hst', hwork, -⟩ := receive_of_letsIn hin (·.applyBatch s rs)
    rw [multi, hwork, applyBatch, hst']
    dsimp only
    cases happly : st.tree.applyAll s (st.tree.transaction + 1) 0 rs with
    | error e =>
      have hrefused : st.tree.accepts s rs = false := Tree.accepts_eq_false_iff.mpr ⟨e, happly⟩
      rw [asked_of_refused hrefused]
      exact ⟨st.tree.transaction, by rw [← hst']; rfl⟩
    | ok result =>
      rw [(asked_of_accepted hin happly).2]
      exact ⟨st.tree.transaction + 1, rfl⟩

/-! ### Runs -/

/-- A change of an access list is a single change. -/
theorem step_setAcl (st : Store) (s : Session) (p : String) (acl : Acl) (version : Int32) :
    st.tree.Step ⟨none, (st.setAcl s p acl version).2.tree⟩ := by
  unfold setAcl
  -- every refusal leaves the tree alone; the last case is the one that is granted
  repeat' split
  all_goals first | exact .refl _ | skip
  rename_i stat t ht
  exact .granted ht _

theorem final_removals_owned (st : Store) (session : Int) :
    st.tree.final (st.tree.removals (st.tree.pathsWhere (·.stat.owner == session))) =
      st.tree.removeOwned session :=
  Tree.final_removals _ _

/-- **A move is made of single changes.** -/
theorem steps_stages (st : Store) (m : Move) : st.tree.Steps (m.stages st) := by
  rw [Move.stages, Tree.steps_append]
  cases m with
  | connect identities => exact ⟨trivial, .refl _, trivial⟩
  | submit s r =>
    obtain ⟨z, hz⟩ := exists_tree_submit st s r
    refine ⟨steps_asked st s [r], ?_, trivial⟩
    rw [Move.next, hz]
    exact .counted z
  | multi s rs =>
    obtain ⟨z, hz⟩ := exists_tree_multi st s rs
    refine ⟨steps_asked st s rs, ?_, trivial⟩
    rw [Move.next, hz]
    exact .counted z
  | setAcl s p acl version => exact ⟨trivial, step_setAcl st s p acl version, trivial⟩
  | failNext code count => exact ⟨trivial, .refl _, trivial⟩
  | failAfter code count => exact ⟨trivial, .refl _, trivial⟩
  | close s =>
    -- a session that has been closed before takes nothing with it
    simp only [Move.next, close, Move.changes]
    split
    · exact ⟨trivial, .refl _, trivial⟩
    · refine ⟨Tree.steps_removals _ _, ?_, trivial⟩
      rw [final_removals_owned]
      exact .refl _
  | expire session =>
    refine ⟨Tree.steps_removals _ _, ?_, trivial⟩
    rw [Move.changes, final_removals_owned]
    exact .refl _
  | reap =>
    refine ⟨Tree.steps_reapings _ _, ?_, trivial⟩
    rw [Move.changes, Tree.final_reapings]
    exact .refl _

theorem final_stages (st : Store) (m : Move) : st.tree.final (m.stages st) = (m.next st).tree := by
  rw [Move.stages, Tree.final_append]
  rfl

/-- **So is a run.** -/
theorem steps_history (st : Store) (ms : List Move) : st.tree.Steps (history st ms) := by
  induction ms generalizing st with
  | nil => trivial
  | cons m ms ih =>
    refine Tree.steps_append.mpr ⟨steps_stages st m, ?_⟩
    rw [final_stages]
    exact ih (m.next st)

/-- **A history ends in the tree that the run leads to.** -/
theorem final_history (st : Store) (ms : List Move) :
    st.tree.final (history st ms) = (Move.run st ms).tree := by
  induction ms generalizing st with
  | nil => rfl
  | cons m ms ih =>
    rw [history, Tree.final_append, final_stages]
    exact ih (m.next st)

/-! ### What sessions are told -/

theorem letsIn_of_receive {α : Type} {work : Store → Except StoreError α × Store} {a : α}
    (h : (st.receive s work).1 = .ok a) : st.letsIn s := by
  cases hin : st.letsIn s with
  | false => exact absurd h ((receive_of_not_letsIn hin work).2 a)
  | true => rfl

/-- A batch that a session is told of has been accepted by the tree. -/
theorem exists_send_of_multi {rs : List Request} {as : List Answer}
    (h : (st.multi s rs).1 = .ok as) : ∃ t, st.tree.send s rs = .ok (as, t) := by
  obtain ⟨st', hst', -, hok⟩ := receive_of_letsIn (letsIn_of_receive h) (·.applyBatch s rs)
  have hbatch := hok as h
  unfold applyBatch at hbatch
  dsimp only at hbatch
  rw [hst'] at hbatch
  split at hbatch
  · cases hbatch
  · rename_i as' t happly
    obtain rfl : as' = as := by simpa using hbatch
    exact ⟨t, happly⟩

/-- **What a session is told of a batch has happened**, request by request. -/
theorem stages_of_multi {rs : List Request} {as : List Answer} (h : (st.multi s rs).1 = .ok as) :
    ((Move.multi s rs).stages st).map Stage.applied = (rs.zip as).map some ++ [none] := by
  obtain ⟨t, hsend⟩ := exists_send_of_multi h
  rw [Move.stages, List.map_append, Move.changes,
    (asked_of_accepted (letsIn_of_receive h) hsend).1]
  rfl

/-- **So has what it is told of a request.** -/
theorem stages_of_submit {r : Request} {a : Answer} (h : (st.submit s r).1 = .ok a) :
    ((Move.submit s r).stages st).map Stage.applied = [some (r, a), none] := by
  have hin : st.letsIn s := letsIn_of_receive h
  obtain ⟨t, happly⟩ := exists_apply_of_submit h
  have hsend : st.tree.send s [r] = .ok ([a], t) := by
    rw [Tree.send, Tree.applyAll, happly]
    rfl
  rw [Move.stages, List.map_append, Move.changes, (asked_of_accepted hin hsend).1]
  rfl

end Store

end Coordination
