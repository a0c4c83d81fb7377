import Coordination.Proofs.Store.Versions

/-!
# Transaction numbers order what happens

A store numbers its transactions. Every request that changes the tree is one, every batch that is
accepted is one, whatever it holds, and every grant of an access list is one; nothing else is. A
node carries the number of the transaction that created it and of the one that last wrote it. So
what a request writes is younger than all that was there before, and only what one batch has created
is of the same age.

## Main definitions

* `Store.Move.commits`: whether a move is a transaction
* `Tree.Stamped`: no node is younger than its tree

## Main results

* `Store.transaction_next`: how the number of the last transaction advances
* `Tree.Edits.stamps_cases`: what several entries do to the numbers that a node carries
* `Store.exists_birth`: when a node was created
* `Store.transactions_order`: transaction numbers order what happens
-/

namespace Coordination

/-! ## Trees -/

namespace Tree

variable {t t' : Tree} {stamp z : Int} {e : Entry} {es : List Entry} {p : String} {n : Node}

@[simp] theorem transaction_removeAll (t : Tree) (ps : List String) :
    (t.removeAll ps).transaction = t.transaction := by
  induction ps generalizing t with
  | nil => rfl
  | cons p ps ih => exact (ih _).trans (transaction_remove t p)

@[simp] theorem transaction_removeOwned (t : Tree) (session : Int) :
    (t.removeOwned session).transaction = t.transaction := transaction_removeAll t _

theorem transaction_reapRounds (rounds : Nat) (t : Tree) :
    (t.reapRounds rounds).2.transaction = t.transaction := by
  induction rounds generalizing t with
  | zero => rfl
  | succ rounds ih =>
    rw [reapRounds]
    split
    · rfl
    · exact (ih _).trans (transaction_removeAll t _)

/-- **No node is younger than its tree**, and none has been written before it was created. -/
def Stamped (z : Int) (t : Tree) : Prop :=
  ∀ p n, t.node? p = some n →
    0 ≤ n.stat.created ∧ n.stat.created ≤ n.stat.modified ∧ n.stat.modified ≤ z

/-- **What one entry does to the numbers that a node carries.** -/
theorem Edit.stamps_cases (h : t.Edit stamp e t') (hn : t'.node? p = some n) :
    (e = .added p ∧ n.stat.created = stamp ∧ n.stat.modified = stamp) ∨
      (e ≠ .added p ∧ ∃ m, t.node? p = some m ∧ n.stat.created = m.stat.created ∧
        ((∃ v, e = .written p v) ∧ n.stat.modified = stamp ∨
          (∀ v, e ≠ .written p v) ∧ n.stat.modified = m.stat.modified)) := by
  cases h with
  | @added s data acl mode above q parent habove hne hparent hnew hfresh =>
    rcases node?_attach_cases hn with ⟨rfl, rfl⟩ | ⟨hp, -, m, hm, rfl⟩ | ⟨hp, -, hn⟩
    · exact .inl ⟨rfl, rfl, rfl⟩
    · exact .inr ⟨by simpa using Ne.symm hp, m, hm, rfl, .inr ⟨by simp, rfl⟩⟩
    · exact .inr ⟨by simpa using Ne.symm hp, n, hn, rfl, .inr ⟨by simp, rfl⟩⟩
  | @removed above q parent habove hne hparent hlisted =>
    refine .inr ⟨by simp, ?_⟩
    obtain ⟨-, ⟨-, m, hm, rfl⟩ | ⟨-, hn⟩⟩ := node?_remove_cases habove hne hn
    · exact ⟨m, hm, rfl, .inr ⟨by simp, rfl⟩⟩
    · exact ⟨n, hn, rfl, .inr ⟨by simp, rfl⟩⟩
  | @written q data v node hnode hversion =>
    refine .inr ⟨by simp, ?_⟩
    rcases node?_put_cases hn with ⟨rfl, rfl⟩ | ⟨hp, hn⟩
    · exact ⟨node, hnode, rfl, .inl ⟨⟨v, rfl⟩, rfl⟩⟩
    · exact ⟨n, hn, rfl, .inr ⟨by simp [Ne.symm hp], rfl⟩⟩
  | @granted q acl node hnode =>
    refine .inr ⟨by simp, ?_⟩
    rcases node?_put_cases hn with ⟨rfl, rfl⟩ | ⟨-, hn⟩
    · exact ⟨node, hnode, rfl, .inr ⟨by simp, rfl⟩⟩
    · exact ⟨n, hn, rfl, .inr ⟨by simp, rfl⟩⟩

/-- **What several entries do to the numbers that a node carries**: it has been created among them,
or it was there before and has been written or left alone. -/
theorem Edits.stamps_cases (h : Edits stamp t es t') (hn : t'.node? p = some n) :
    (.added p ∈ es ∧ n.stat.created = stamp ∧ n.stat.modified = stamp) ∨
      (.added p ∉ es ∧ ∃ m, t.node? p = some m ∧ n.stat.created = m.stat.created ∧
        ((∃ v, .written p v ∈ es) ∧ n.stat.modified = stamp ∨
          (∀ v, .written p v ∉ es) ∧ n.stat.modified = m.stat.modified)) := by
  induction h with
  | nil => exact .inr ⟨by simp, n, hn, rfl, .inr ⟨by simp, rfl⟩⟩
  | @cons t t₁ t' e es he hs ih =>
    -- what comes last decides; what came first is asked if the rest has left the node alone
    rcases ih hn with ⟨hmem, hcreated, hmodified⟩ | ⟨hmem, m, hm, hcreated, hmodified⟩
    · exact .inl ⟨List.mem_cons_of_mem _ hmem, hcreated, hmodified⟩
    · rcases he.stamps_cases hm with ⟨rfl, hc, hw⟩ | ⟨hne, m₀, hm₀, hc, hw⟩
      · refine .inl ⟨List.mem_cons_self, hcreated.trans hc, ?_⟩
        rcases hmodified with ⟨-, heq⟩ | ⟨-, heq⟩
        · exact heq
        · exact heq.trans hw
      · refine .inr ⟨by simpa [hmem] using Ne.symm hne, m₀, hm₀, hcreated.trans hc, ?_⟩
        rcases hmodified with ⟨⟨v, hv⟩, heq⟩ | ⟨hnone, heq⟩
        · exact .inl ⟨⟨v, List.mem_cons_of_mem _ hv⟩, heq⟩
        · rcases hw with ⟨⟨v, rfl⟩, heq'⟩ | ⟨hnone', heq'⟩
          · exact .inl ⟨⟨v, List.mem_cons_self⟩, heq.trans heq'⟩
          · exact .inr ⟨fun v => by simpa [hnone v] using Ne.symm (hnone' v), heq.trans heq'⟩

end Tree

/-! ## Stores -/

namespace Store

variable {st : Store} {s : Session} {m : Move} {ms ms' : List Move} {p q : String} {n k : Node}

namespace Move

/-- Whether a move is a transaction: a request other than a check or a batch that reaches the tree
and is accepted, whether or not its sender hears of it, or a grant. -/
def commits (st : Store) : Move → Bool
  | submit s r => st.letsIn s && st.tree.accepts s [r] && r.isMutation
  | multi s rs => st.letsIn s && st.tree.accepts s rs
  | setAcl s p acl version => (st.setAcl s p acl version).1.isOk
  | connect _ | failNext .. | failAfter .. | close _ | expire _ | reap => false

end Move

/-! ### The number of the last transaction -/

theorem transaction_submit (st : Store) (s : Session) (r : Request) :
    (st.submit s r).2.tree.transaction =
      st.tree.transaction + if (Move.submit s r).commits st then 1 else 0 := by
  rw [Move.commits]
  cases hin : st.letsIn s with
  | false =>
    rw [submit, (receive_of_not_letsIn hin _).1]
    simp
  | true =>
    obtain ⟨st', hst', hwork, -⟩ := receive_of_letsIn hin (·.applyOne s r)
    rw [submit, hwork, applyOne, hst', Tree.accepts, Tree.send, Tree.applyAll]
    cases happly : st.tree.apply s (st.tree.transaction + 1) r with
    | error code => simp [hst', Except.isOk, Except.toBool]
    | ok result =>
      by_cases hr : r.isMutation
      · simp [hr, Tree.applyAll, Except.isOk, Except.toBool]
      · simp [hr, hst']

theorem transaction_multi (st : Store) (s : Session) (rs : List Request) :
    (st.multi s rs).2.tree.transaction =
      st.tree.transaction + if (Move.multi s rs).commits st then 1 else 0 := by
  rw [Move.commits]
  cases hin : st.letsIn s with
  | false =>
    rw [multi, (receive_of_not_letsIn hin _).1]
    simp
  | true =>
    obtain ⟨st', hst', hwork, -⟩ := receive_of_letsIn hin (·.applyBatch s rs)
    rw [multi, hwork, applyBatch, hst', Tree.accepts, Tree.send]
    cases st.tree.applyAll s (st.tree.transaction + 1) 0 rs with
    | error e => simp [hst', Except.isOk, Except.toBool]
    | ok result => simp [Except.isOk, Except.toBool]

/-- **The number of the last transaction advances by one with every transaction**, and with nothing
else. -/
theorem transaction_next (st : Store) (m : Move) :
    (m.next st).tree.transaction = st.tree.transaction + if m.commits st then 1 else 0 := by
  cases m with
  | submit s r => exact transaction_submit st s r
  | multi s rs => exact transaction_multi st s rs
  | setAcl s p acl version =>
    rw [Move.next, Move.commits]
    rcases setAcl_cases st s p acl version with ⟨e, he⟩ | ⟨stat, t, -, -, hst⟩
    · rw [he]
      simp [Except.isOk, Except.toBool]
    · rw [hst]
      simp [Except.isOk, Except.toBool]
  | connect | failNext | failAfter => exact (Int.add_zero _).symm
  | close s =>
    rw [Move.next, close]
    split
    · exact (Int.add_zero _).symm
    · exact (Tree.transaction_removeOwned _ _).trans (Int.add_zero _).symm
  | expire session => exact (Tree.transaction_removeOwned _ _).trans (Int.add_zero _).symm
  | reap =>
    exact (Tree.transaction_reapRounds (st.tree.size + 1) st.tree).trans (Int.add_zero _).symm

/-- So it does with a request that a session is told of, unless the request is a check. -/
theorem transaction_of_submit_eq_ok {r : Request} {a : Answer} (h : (st.submit s r).1 = .ok a) :
    (st.submit s r).2.tree.transaction = st.tree.transaction + if r.isMutation then 1 else 0 := by
  obtain ⟨t, happly⟩ := exists_apply_of_submit h
  rw [transaction_submit, Move.commits, letsIn_of_receive h, Tree.accepts, Tree.send, Tree.applyAll,
    happly]
  simp [Tree.applyAll, Except.isOk, Except.toBool]

/-- So it does with every batch that a session is told of. -/
theorem transaction_of_multi_eq_ok {rs : List Request} {as : List Answer}
    (h : (st.multi s rs).1 = .ok as) :
    (st.multi s rs).2.tree.transaction = st.tree.transaction + 1 := by
  obtain ⟨t, hsend⟩ := exists_send_of_multi h
  rw [transaction_multi, Move.commits, letsIn_of_receive h, Tree.accepts, hsend]
  rfl

/-- A batch that is aborted is no transaction. -/
theorem transaction_of_multi_aborted {rs : List Request} {index : Nat} {code : ErrorCode}
    {answers : List Answer} (h : (st.multi s rs).1 = .error (.aborted index code answers)) :
    (st.multi s rs).2.tree.transaction = st.tree.transaction := by
  rcases receive_cases st s (·.applyBatch s rs) with ⟨e, he, hwork⟩ | ⟨st', hst', hwork⟩
  · -- a call that is disrupted is not aborted
    obtain rfl : e = .aborted index code answers := by simpa [multi, hwork] using h
    generalize hab : StoreError.aborted index code answers = e at he
    cases he <;> simp [plainError] at hab
  · rw [multi, hwork, applyBatch] at h ⊢
    cases happly : st'.tree.applyAll s (st'.tree.transaction + 1) 0 rs with
    | error e => exact congrArg Tree.transaction hst'
    | ok result =>
      rw [happly] at h
      cases h

theorem transaction_le_next (st : Store) (m : Move) :
    st.tree.transaction ≤ (m.next st).tree.transaction := by
  rw [transaction_next]
  split <;> omega

/-- So it never goes back. -/
theorem transaction_le_run (st : Store) (ms : List Move) :
    st.tree.transaction ≤ (Move.run st ms).tree.transaction := by
  induction ms generalizing st with
  | nil => exact Int.le_refl _
  | cons m ms ih => exact Int.le_trans (transaction_le_next st m) (ih _)

/-- What is no transaction removes nodes, if it does anything to them. -/
theorem exists_removed_of_not_commits (h : m.commits st = false) {e : Entry}
    (he : e ∈ m.entries st) : ∃ p, e = .removed p := by
  have hremoved : ∀ ps : List String, e ∈ ps.map Entry.removed → ∃ p, e = .removed p := by
    intro ps hmem
    obtain ⟨p, -, rfl⟩ := List.mem_map.mp hmem
    exact ⟨p, rfl⟩
  cases m with
  | submit s r =>
    rw [Move.commits] at h
    rw [Move.entries] at he
    rcases entered_cases st s [r] with ⟨hnil, -⟩ | ⟨as, t, hin, hsend, hentered, -⟩
    · rw [hnil] at he
      cases he
    · have haccepts : st.tree.accepts s [r] = true := by rw [Tree.accepts, hsend]; rfl
      -- a request that is accepted and no transaction is a check, for which nothing is entered
      have hr : r.isMutation = false := by simpa [hin, haccepts] using h
      rw [hentered] at he
      cases r with
      | check p v => rcases as with _ | ⟨a, as⟩ <;> simp [Entry.ofBatch, Entry.ofAnswered?] at he
      | _ => cases hr
  | multi s rs =>
    rw [Move.commits] at h
    rw [Move.entries] at he
    rcases entered_cases st s rs with ⟨hnil, -⟩ | ⟨as, t, hin, hsend, -, -⟩
    · rw [hnil] at he
      cases he
    · have haccepts : st.tree.accepts s rs = true := by rw [Tree.accepts, hsend]; rfl
      simp [hin, haccepts] at h
  | setAcl s p acl version =>
    rw [Move.commits] at h
    rw [Move.entries, h] at he
    cases he
  | close s =>
    rw [Move.entries] at he
    split at he
    · cases he
    · exact hremoved _ he
  | expire | reap => exact hremoved _ he
  | connect | failNext | failAfter => cases he

/-! ### The numbers that nodes carry -/

/-- What a move does to the numbers that a node carries. -/
theorem stamps_next (hwf : st.tree.WellFormed) (hm : m.Allowed st)
    (hn : (m.next st).tree.node? p = some n) :
    (.added p ∈ m.entries st ∧ m.commits st ∧ n.stat.created = st.tree.transaction + 1 ∧
      n.stat.modified = st.tree.transaction + 1) ∨
    (.added p ∉ m.entries st ∧ ∃ l, st.tree.node? p = some l ∧ n.stat.created = l.stat.created ∧
      ((∃ v, .written p v ∈ m.entries st) ∧ m.commits st ∧
          n.stat.modified = st.tree.transaction + 1 ∨
        (∀ v, .written p v ∉ m.entries st) ∧ n.stat.modified = l.stat.modified)) := by
  obtain ⟨t, z, hedits, hnext⟩ := exists_edits_next hwf hm
  rw [hnext] at hn
  have hcommits : ∀ e ∈ m.entries st, (∀ q, e ≠ .removed q) → m.commits st = true := by
    intro e he hne
    by_contra h
    obtain ⟨q, hq⟩ := exists_removed_of_not_commits (by simpa using h) he
    exact hne q hq
  rcases hedits.stamps_cases hn with ⟨hmem, hc, hw⟩ | ⟨hmem, l, hl, hc, ⟨⟨v, hv⟩, hw⟩ | hw⟩
  · exact .inl ⟨hmem, hcommits _ hmem (by simp), hc, hw⟩
  · exact .inr ⟨hmem, l, hl, hc, .inl ⟨⟨v, hv⟩, hcommits _ hv (by simp), hw⟩⟩
  · exact .inr ⟨hmem, l, hl, hc, .inr hw⟩

/-- A move leaves no node younger than its tree. -/
theorem stamped_next (hwf : st.tree.WellFormed) (hm : m.Allowed st)
    (h : Tree.Stamped st.tree.transaction st.tree) :
    Tree.Stamped (m.next st).tree.transaction (m.next st).tree := by
  intro p n hn
  have hle := transaction_le_next st m
  have hnext := transaction_next st m
  -- there is a root, so the numbers have started at zero
  obtain ⟨r, hr, -⟩ := hwf.root
  obtain ⟨hr₀, hr₁, hr₂⟩ := h _ r hr
  rcases stamps_next hwf hm hn with ⟨-, hcommits, hc, hw⟩ | ⟨-, l, hl, hc, hw⟩
  · rw [hcommits, if_pos rfl] at hnext
    omega
  · obtain ⟨hl₀, hl₁, hl₂⟩ := h p l hl
    rcases hw with ⟨-, hcommits, hw⟩ | ⟨-, hw⟩
    · rw [hcommits, if_pos rfl] at hnext
      omega
    · omega

theorem stamped_initial : Tree.Stamped 0 Tree.initial := by
  intro p n hn
  rw [Tree.node?_initial] at hn
  split at hn
  · obtain rfl := Option.some.inj hn
    exact ⟨Int.le_refl 0, Int.le_refl 0, Int.le_refl 0⟩
  · cases hn

/-- **No node is younger than its tree**, in every store that can be reached. -/
theorem Reachable.stamped (h : st.Reachable) : Tree.Stamped st.tree.transaction st.tree := by
  induction h with
  | initial => exact stamped_initial
  | move hst m hm ih => exact stamped_next hst.wellFormed hm ih

/-! ### Births -/

/-- **When a node was created**: it has been there from the start, or a move of the run has added it
and none after that move. -/
theorem exists_birth (hms : Move.Legal .initial ms)
    (hn : (Move.run .initial ms).tree.node? p = some n) :
    (p = Path.root ∧ n.stat.created = 0 ∧ .added p ∉ initial.journal ms) ∨
      ∃ before m after, ms = before ++ m :: after ∧
        .added p ∈ m.entries (Move.run .initial before) ∧ m.commits (Move.run .initial before) ∧
        n.stat.created = (Move.run .initial before).tree.transaction + 1 ∧
        .added p ∉ (Move.run .initial (before ++ [m])).journal after := by
  -- the last move is looked at first: either it has added the node, or the node was there before
  induction ms using List.reverseRecOn generalizing n with
  | nil =>
    change Tree.initial.node? p = some n at hn
    rw [Tree.node?_initial] at hn
    split at hn
    · rename_i hp
      obtain rfl := Option.some.inj hn
      exact .inl ⟨hp, rfl, by simp [journal]⟩
    · cases hn
  | append_singleton ms m ih =>
    obtain ⟨hlegal, hm, -⟩ := Move.legal_append.mp hms
    have hwf := (Reachable.initial.run hlegal).wellFormed
    rw [Move.run_append] at hn
    rcases stamps_next hwf hm hn with ⟨hmem, hcommits, hc, -⟩ | ⟨hmem, l, hl, hc, -⟩
    · exact .inr ⟨ms, m, [], rfl, hmem, hcommits, hc, by simp [journal]⟩
    · rcases ih hlegal hl with
        ⟨hp, hc₀, hnone⟩ | ⟨before, m', after, rfl, hadded, hcommits, hc', hnone⟩
      · refine .inl ⟨hp, hc.trans hc₀, ?_⟩
        simp [journal_append, journal, hnone, hmem]
      · refine .inr ⟨before, m', after ++ [m], by simp, hadded, hcommits, hc.trans hc', ?_⟩
        have hrun : Move.run (Move.run .initial (before ++ [m'])) after =
            Move.run .initial (before ++ m' :: after) := by
          rw [← Move.run_append]
          simp
        simp [journal_append, journal, hnone, hrun, hmem]

/-- Single requests are entered once. -/
theorem length_entered_singleton_le (st : Store) (s : Session) (r : Request) :
    (st.entered s [r]).length ≤ 1 := by
  rcases entered_cases st s [r] with ⟨hnil, -⟩ | ⟨as, t, -, -, hentered, -⟩
  · rw [hnil]
    exact Nat.zero_le 1
  · rw [hentered, Entry.ofBatch]
    refine (List.length_filterMap_le _ _).trans ?_
    rw [List.length_zip]
    exact Nat.min_le_left _ _

/-- A move that adds two nodes is a batch. -/
theorem exists_multi_of_added (hp : .added p ∈ m.entries st) (hq : .added q ∈ m.entries st)
    (hne : p ≠ q) : ∃ s rs, m = .multi s rs := by
  cases m with
  | multi s rs => exact ⟨s, rs, rfl⟩
  | submit s r =>
    rw [Move.entries] at hp hq
    obtain ⟨e, he⟩ := List.length_eq_one_iff.mp (Nat.le_antisymm
      (length_entered_singleton_le st s r) (List.length_pos_of_mem hp))
    rw [he, List.mem_singleton] at hp hq
    exact absurd (Entry.added.inj (hp.trans hq.symm)) hne
  | setAcl s p acl version =>
    rw [Move.entries] at hp
    split at hp <;> simp at hp
  | close s =>
    rw [Move.entries] at hp
    split at hp <;> simp at hp
  | expire | reap => simp [Move.entries] at hp
  | connect | failNext | failAfter => cases hp

/-- A transaction has a smaller number than all that follow it. -/
theorem transaction_lt_of_commits (h : m.commits (Move.run st ms)) (ms' : List Move) :
    (Move.run st ms).tree.transaction < (Move.run st (ms ++ m :: ms')).tree.transaction := by
  have hnext := transaction_next (Move.run st ms) m
  rw [h, if_pos rfl] at hnext
  rw [Move.run_append]
  have hle := transaction_le_run (m.next (Move.run st ms)) ms'
  exact Int.lt_of_lt_of_le (by omega) hle

/-- Two transactions of a run with the same number are the same one. -/
theorem eq_of_transaction_eq {before before' after after' : List Move} {m' : Move}
    (h : before ++ m :: after = before' ++ m' :: after')
    (hm : m.commits (Move.run st before)) (hm' : m'.commits (Move.run st before'))
    (heq : (Move.run st before).tree.transaction = (Move.run st before').tree.transaction) :
    before = before' ∧ m = m' ∧ after = after' := by
  -- if one of them came first, the other one would have a greater number
  rcases List.append_eq_append_iff.mp h with ⟨c, rfl, hc⟩ | ⟨c, rfl, hc⟩ <;>
    rcases c with _ | ⟨x, c⟩
  · obtain ⟨rfl, rfl⟩ := List.cons.inj hc
    exact ⟨(List.append_nil _).symm, rfl, rfl⟩
  · obtain ⟨rfl, -⟩ := List.cons.inj hc
    exact absurd heq (Int.ne_of_lt (transaction_lt_of_commits hm c))
  · obtain ⟨rfl, rfl⟩ := List.cons.inj hc
    exact ⟨List.append_nil _, rfl, rfl⟩
  · obtain ⟨rfl, -⟩ := List.cons.inj hc
    exact absurd heq.symm (Int.ne_of_lt (transaction_lt_of_commits hm' c))

theorem transaction_nonneg (ms : List Move) : 0 ≤ (Move.run .initial ms).tree.transaction :=
  transaction_le_run .initial ms

/-- **Nodes of one age are the same node, or one batch has created both**, also if they are looked
at in different states of a run. -/
theorem eq_or_exists_multi_of_created_eq (hms : Move.Legal .initial (ms ++ ms'))
    (hn : (Move.run .initial ms).tree.node? p = some n)
    (hk : (Move.run .initial (ms ++ ms')).tree.node? q = some k)
    (heq : n.stat.created = k.stat.created) :
    (p = q ∧ .added p ∉ (Move.run .initial ms).journal ms') ∨
      ∃ before s rs after, ms = before ++ .multi s rs :: after ∧
        .added p ∈ (Move.multi s rs).entries (Move.run .initial before) ∧
        .added q ∈ (Move.multi s rs).entries (Move.run .initial before) := by
  rcases exists_birth (Move.legal_append.mp hms).1 hn with
    ⟨hp, hn₀, -⟩ | ⟨before, m, after, rfl, hpm, hm, hn₁, -⟩ <;>
  rcases exists_birth hms hk with
    ⟨hq, hk₀, hnone⟩ | ⟨before', m', after', hsplit, hqm, hm', hk₁, hnone⟩
  · rw [journal_append] at hnone
    rw [hp, ← hq]
    exact .inl ⟨rfl, fun hmem => hnone (List.mem_append_right _ hmem)⟩
  · -- a node that has been created does not carry the number of the root
    have := transaction_nonneg before'
    omega
  · have := transaction_nonneg before
    omega
  · rw [List.append_assoc, List.cons_append] at hsplit
    obtain ⟨rfl, rfl, rfl⟩ := eq_of_transaction_eq hsplit hm hm' (by omega)
    by_cases hpq : p = q
    · subst hpq
      rw [journal_append] at hnone
      refine .inl ⟨rfl, fun hmem => hnone (List.mem_append_right _ ?_)⟩
      rwa [← Move.run_append, List.append_assoc, List.singleton_append]
    · obtain ⟨s, rs, rfl⟩ := exists_multi_of_added hpm hqm hpq
      exact .inr ⟨before, s, rs, after, rfl, hpm, hqm⟩

/-- **Transaction numbers order what happens.** At every point of every run no node is younger than
the last transaction, and none has been written before it was created. Whatever happens next, the
number advances by one if it is a transaction and stays the same otherwise; so it advances with
every request other than a check and with every batch that a session is told of, and not with a
batch that is aborted. A node that is created next carries the new number twice, and one that is
written carries it as the number of its writing, so both are younger than all nodes that were there
before. And two nodes are of the same age only if one batch has created both. -/
theorem transactions_order (hms : Move.Legal .initial ms) (hst : Move.run .initial ms = st) :
    (∀ p n, st.tree.node? p = some n →
      0 ≤ n.stat.created ∧ n.stat.created ≤ n.stat.modified ∧
        n.stat.modified ≤ st.tree.transaction) ∧
    (∀ m : Move, (m.next st).tree.transaction =
      st.tree.transaction + if m.commits st then 1 else 0) ∧
    (∀ s r a, (st.submit s r).1 = .ok a → (st.submit s r).2.tree.transaction =
      st.tree.transaction + if r.isMutation then 1 else 0) ∧
    (∀ s rs as, (st.multi s rs).1 = .ok as →
      (st.multi s rs).2.tree.transaction = st.tree.transaction + 1) ∧
    (∀ s rs index code answers, (st.multi s rs).1 = .error (.aborted index code answers) →
      (st.multi s rs).2.tree.transaction = st.tree.transaction) ∧
    (∀ (m : Move) (p : String) (k : Node), m.Allowed st → (m.next st).tree.node? p = some k →
      (.added p ∈ m.entries st → k.stat.created = k.stat.modified) ∧
      (.added p ∈ m.entries st ∨ (∃ v, .written p v ∈ m.entries st) →
        k.stat.modified = (m.next st).tree.transaction ∧
        ∀ q n, st.tree.node? q = some n →
          n.stat.created < k.stat.modified ∧ n.stat.modified < k.stat.modified)) ∧
    (∀ ms', Move.Legal st ms' →
      st.tree.transaction ≤ (Move.run st ms').tree.transaction ∧
      ∀ p q n k, st.tree.node? p = some n → (Move.run st ms').tree.node? q = some k →
        n.stat.created = k.stat.created →
        (p = q ∧ .added p ∉ st.journal ms') ∨
          ∃ before s rs after, ms = before ++ .multi s rs :: after ∧
            .added p ∈ (Move.multi s rs).entries (Move.run .initial before) ∧
            .added q ∈ (Move.multi s rs).entries (Move.run .initial before)) := by
  subst hst
  have hreach : (Move.run .initial ms).Reachable := Reachable.initial.run hms
  refine ⟨hreach.stamped, transaction_next _, fun s r a => transaction_of_submit_eq_ok,
    fun s rs as => transaction_of_multi_eq_ok,
    fun s rs index code answers => transaction_of_multi_aborted, fun m p k hm hk => ?_,
    fun ms' hms' => ⟨transaction_le_run _ ms', fun p q n k hn hk heq => ?_⟩⟩
  · have hnext := transaction_next (Move.run .initial ms) m
    have hyounger : m.commits (Move.run .initial ms) = true →
        k.stat.modified = (Move.run .initial ms).tree.transaction + 1 →
        k.stat.modified = (m.next (Move.run .initial ms)).tree.transaction ∧
          ∀ q n, (Move.run .initial ms).tree.node? q = some n →
            n.stat.created < k.stat.modified ∧ n.stat.modified < k.stat.modified := by
      intro hcommits hmodified
      rw [hcommits, if_pos rfl] at hnext
      refine ⟨hmodified.trans hnext.symm, fun q n hn => ?_⟩
      obtain ⟨-, hle, hle'⟩ := hreach.stamped q n hn
      omega
    rcases stamps_next hreach.wellFormed hm hk with
      ⟨-, hcommits, hc, hw⟩ | ⟨hnone, l, -, -, ⟨-, hcommits, hw⟩ | ⟨hnone', -⟩⟩
    · exact ⟨fun _ => hc.trans hw.symm, fun _ => hyounger hcommits hw⟩
    · exact ⟨fun hmem => absurd hmem hnone, fun _ => hyounger hcommits hw⟩
    · refine ⟨fun hmem => absurd hmem hnone, ?_⟩
      rintro (hmem | ⟨v, hv⟩)
      · exact absurd hmem hnone
      · exact absurd hv (hnone' v)
  · refine eq_or_exists_multi_of_created_eq (Move.legal_append.mpr ⟨hms, hms'⟩) hn ?_ heq
    rwa [Move.run_append]

/-- A batch adds two nodes, one of them is written to, and a batch is aborted. -/
def someAges : List Move :=
  [.connect [],
    .multi ⟨1, []⟩
      [.create "/a" ByteArray.empty .worldOpen .persistent,
        .create "/b" ByteArray.empty .worldOpen .ephemeral],
    .submit ⟨1, []⟩ (.setData "/a" ByteArray.empty 0),
    .multi ⟨1, []⟩ [.delete "/a" anyVersion, .check "/c" anyVersion],
    .multi ⟨1, []⟩ [],
    .reap]

theorem transactions_order_of_someAges :
    (∃ n k, (Move.run .initial someAges).tree.node? "/a" = some n ∧
      (Move.run .initial someAges).tree.node? "/b" = some k ∧
      n.stat.created ≤ n.stat.modified ∧ n.stat.created = k.stat.created) ∧
    (Move.run .initial someAges).tree.transaction = 3 ∧
    ∃ before s rs after, someAges = before ++ .multi s rs :: after ∧
      .added "/a" ∈ (Move.multi s rs).entries (Move.run .initial before) ∧
      .added "/b" ∈ (Move.multi s rs).entries (Move.run .initial before) := by
  have hlegal : Move.Legal .initial someAges := by decide +kernel
  obtain ⟨hstamped, -, -, -, -, -, hsame⟩ := transactions_order hlegal rfl
  obtain ⟨n, hn⟩ : ∃ n, (Move.run .initial someAges).tree.node? "/a" = some n :=
    Option.isSome_iff_exists.mp (by decide +kernel)
  obtain ⟨k, hk⟩ : ∃ k, (Move.run .initial someAges).tree.node? "/b" = some k :=
    Option.isSome_iff_exists.mp (by decide +kernel)
  have hages : ((Move.run .initial someAges).tree.node? "/a").map (·.stat.created) =
      ((Move.run .initial someAges).tree.node? "/b").map (·.stat.created) := by decide +kernel
  have hcreated : n.stat.created = k.stat.created := by simpa [hn, hk] using hages
  refine ⟨⟨n, k, hn, hk, (hstamped "/a" n hn).2.1, hcreated⟩, by decide +kernel, ?_⟩
  exact ((hsame [] trivial).2 "/a" "/b" n k hn hk hcreated).resolve_left fun h =>
    absurd h.1 (by decide)

end Store

end Coordination
