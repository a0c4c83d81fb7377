import Coordination.Proofs.Store.Reach

/-!
# A batch that is sent again

What becomes of a tree to which the same batch is sent several times. A tree that refuses the batch
stays as it is and goes on refusing it; a tree that accepts it becomes another one, which may accept
it again. A batch that meets a fault has reached the tree if the fault strikes after it was applied,
and its sender cannot tell.

## Main definitions

* `Tree.send`, `Tree.accepts`, `Tree.sent`: one sending of a batch
* `Tree.sentTimes`, `Tree.acceptances`: several sendings
* `Fault.landings`: how often a batch that meets a fault reaches the tree

## Main results

* `Tree.one_lt_acceptances_iff`: when a batch is accepted more than once
* `Store.multi_of_fault`, `Store.multi_of_faultless`, `Store.multi_of_disconnected`: what a batch
  does to a store
-/

namespace Coordination

/-! ## Trees -/

namespace Tree

variable {t : Tree} {s : Session} {rs : List Request}

/-- What a tree makes of a batch that is sent to it. -/
def send (t : Tree) (s : Session) (rs : List Request) :
    Except (Nat × ErrorCode) (List Answer × Tree) :=
  t.applyAll s (t.transaction + 1) 0 rs

/-- Whether a tree accepts a batch. -/
def accepts (t : Tree) (s : Session) (rs : List Request) : Bool := (t.send s rs).isOk

/-- The tree after a batch has been sent to it. -/
def sent (t : Tree) (s : Session) (rs : List Request) : Tree :=
  match t.send s rs with
  | .error _ => t
  | .ok (_, t') => { t' with transaction := t.transaction + 1 }

/-- The tree after a batch has been sent to it so many times. -/
def sentTimes (s : Session) (rs : List Request) : Nat → Tree → Tree
  | 0, t => t
  | n + 1, t => sentTimes s rs n (t.sent s rs)

/-- How often a batch is accepted when it is sent so many times. -/
def acceptances (s : Session) (rs : List Request) : Nat → Tree → Nat
  | 0, _ => 0
  | n + 1, t => (t.accepts s rs).toNat + acceptances s rs n (t.sent s rs)

theorem accepts_eq_false_iff :
    t.accepts s rs = false ↔ ∃ e, t.send s rs = .error e := by
  rw [accepts]
  cases t.send s rs <;> simp [Except.isOk, Except.toBool]

theorem sent_of_refused (h : t.accepts s rs = false) : t.sent s rs = t := by
  obtain ⟨e, he⟩ := accepts_eq_false_iff.mp h
  rw [sent, he]

theorem sentTimes_of_refused (h : t.accepts s rs = false) (n : Nat) : sentTimes s rs n t = t := by
  induction n with
  | zero => rfl
  | succ n ih => rw [sentTimes, sent_of_refused h, ih]

theorem acceptances_of_refused (h : t.accepts s rs = false) (n : Nat) :
    acceptances s rs n t = 0 := by
  induction n with
  | zero => rfl
  | succ n ih => rw [acceptances, sent_of_refused h, ih, h, Bool.toNat_false]

theorem sentTimes_add (m n : Nat) (t : Tree) :
    sentTimes s rs (m + n) t = sentTimes s rs n (sentTimes s rs m t) := by
  induction m generalizing t with
  | zero => rw [Nat.zero_add, sentTimes]
  | succ m ih => rw [Nat.succ_add, sentTimes, sentTimes, ih]

theorem acceptances_add (m n : Nat) (t : Tree) :
    acceptances s rs (m + n) t =
      acceptances s rs m t + acceptances s rs n (sentTimes s rs m t) := by
  induction m generalizing t with
  | zero => rw [Nat.zero_add, acceptances, sentTimes, Nat.zero_add]
  | succ m ih => rw [Nat.succ_add, acceptances, acceptances, sentTimes, ih, Nat.add_assoc]

theorem acceptances_le (n : Nat) (t : Tree) : acceptances s rs n t ≤ n := by
  induction n generalizing t with
  | zero => exact Nat.le_refl 0
  | succ n ih =>
    rw [acceptances, Nat.add_comm]
    exact Nat.add_le_add (ih _) (Bool.toNat_le _)

/-- **A batch is accepted more than once** if it is sent more than once and the first two sendings
are accepted. -/
theorem one_lt_acceptances_iff {n : Nat} :
    1 < acceptances s rs n t ↔ 2 ≤ n ∧ t.accepts s rs ∧ (t.sent s rs).accepts s rs := by
  match n with
  | 0 => simp [acceptances]
  | 1 => cases h : t.accepts s rs <;> simp [acceptances, h]
  | n + 2 =>
    rw [acceptances]
    -- a refusal at the first or the second sending is repeated at all that follow
    cases h : t.accepts s rs with
    | false => simp [sent_of_refused h, acceptances_of_refused h]
    | true =>
      cases h' : (t.sent s rs).accepts s rs with
      | false => simp [acceptances_of_refused h']
      | true =>
        rw [acceptances, h', Bool.toNat_true]
        simp only [Nat.le_add_left, and_self, iff_true]
        omega

end Tree

/-- How often a batch that meets a fault reaches the tree. -/
def Fault.landings (f : Fault) : Nat :=
  match f.timing with
  | .beforeApply => 0
  | .afterApply => 1

/-! ## Stores -/

namespace Store

variable {st st' : Store} {s : Session} {rs : List Request}

/-- What of a store matters to a batch: sent `n` times, the batch leads from the one to the other.
Whether the session is connected does not change. -/
structure Lands (s : Session) (rs : List Request) (n : Nat) (st st' : Store) : Prop where
  tree : st'.tree = st.tree.sentTimes s rs n
  commits : st'.commits = st.commits + st.tree.acceptances s rs n
  connected : st'.isConnected s = st.isConnected s

theorem Lands.refl (s : Session) (rs : List Request) (st : Store) : Lands s rs 0 st st :=
  ⟨rfl, rfl, rfl⟩

theorem Lands.trans {m n : Nat} {st'' : Store} (h : Lands s rs m st st')
    (h' : Lands s rs n st' st'') : Lands s rs (m + n) st st'' where
  tree := by rw [h'.tree, h.tree, Tree.sentTimes_add]
  commits := by rw [h'.commits, h.commits, h.tree, Tree.acceptances_add, Nat.add_assoc]
  connected := h'.connected.trans h.connected

/-- A batch that is refused may be sent any number of times. -/
theorem Lands.of_refused {m : Nat} (h : Lands s rs m st st')
    (hrefused : st.tree.accepts s rs = false) (n : Nat) : Lands s rs n st st' where
  tree := by rw [h.tree, Tree.sentTimes_of_refused hrefused, Tree.sentTimes_of_refused hrefused]
  commits := by
    rw [h.commits, Tree.acceptances_of_refused hrefused, Tree.acceptances_of_refused hrefused]
  connected := h.connected

theorem lands_applyBatch (st : Store) (s : Session) (rs : List Request) :
    Lands s rs 1 st (st.applyBatch s rs).2 := by
  unfold applyBatch
  dsimp only
  cases h : st.tree.applyAll s (st.tree.transaction + 1) 0 rs with
  | error e =>
    have hrefused := Tree.accepts_eq_false_iff.mpr ⟨e, h⟩
    constructor
    · exact (Tree.sentTimes_of_refused hrefused 1).symm
    · rw [Tree.acceptances_of_refused hrefused 1]
      rfl
    · rfl
  | ok result =>
    constructor
    · simp only [Tree.sentTimes, Tree.sent, Tree.send, h]
    · simp only [Tree.acceptances, Tree.accepts, Tree.send, h]
      rfl
    · rfl

/-- A batch reaches the tree once, or not at all. -/
theorem exists_sentTimes_of_multi (st : Store) (s : Session) (rs : List Request) :
    ∃ n, (st.multi s rs).2.tree = st.tree.sentTimes s rs n := by
  refine tree_receive (P := fun t => ∃ n, t = st.tree.sentTimes s rs n) ⟨0, rfl⟩ ?_
  intro st' hst'
  refine ⟨1, ?_⟩
  rw [(lands_applyBatch st' s rs).tree, hst']

theorem faults_applyBatch (st : Store) (s : Session) (rs : List Request) :
    (st.applyBatch s rs).2.faults = st.faults := by
  unfold applyBatch
  dsimp only
  split <;> rfl

/-- A batch that meets a fault reaches the tree or does not, and its sender is told of the fault. -/
theorem multi_of_fault {f : Fault} {fs : List Fault} (hs : st.isConnected s)
    (hf : st.faults = f :: fs) (rs : List Request) :
    ∃ st', st.multi s rs = (.error (plainError f.code), st') ∧ st'.faults = fs ∧
      Lands s rs f.landings st st' := by
  rw [multi, receive_of_connected hs, hf]
  obtain ⟨code, _ | _⟩ := f
  · exact ⟨_, rfl, rfl, rfl, rfl, rfl⟩
  · have h := lands_applyBatch { st with requests := st.requests + 1, faults := fs } s rs
    exact ⟨_, rfl, faults_applyBatch _ s rs, h.tree, h.commits, h.connected⟩

/-- A batch that meets no fault reaches the tree, and its sender is told the truth. -/
theorem multi_of_faultless (hs : st.isConnected s) (hf : st.faults = []) (rs : List Request) :
    (st.multi s rs).1.isOk = st.tree.accepts s rs ∧ (st.multi s rs).2.faults = [] ∧
      Lands s rs 1 st (st.multi s rs).2 := by
  rw [multi, receive_of_connected hs, hf]
  have h := lands_applyBatch { st with requests := st.requests + 1, faults := [] } s rs
  refine ⟨?_, faults_applyBatch _ s rs, h.tree, h.commits, h.connected⟩
  simp only [applyBatch, Tree.accepts, Tree.send]
  cases st.tree.applyAll s (st.tree.transaction + 1) 0 rs <;> rfl

/-- A batch of a session that is not connected does not reach the tree. -/
theorem multi_of_disconnected (hs : st.isConnected s = false) (rs : List Request) :
    Lands s rs 0 st (st.multi s rs).2 := by
  have hin : st.letsIn s = false := by rw [letsIn, hs, Bool.false_and]
  rw [multi, snd_receive, hin]
  exact ⟨rfl, rfl, rfl⟩

/-- If the sender is told that the batch was aborted, the tree that is there now refuses it for the
same reason. -/
theorem send_of_multi_aborted {index : Nat} {code : ErrorCode} {answers : List Answer}
    (h : st.multi s rs = (.error (.aborted index code answers), st')) :
    st'.tree.send s rs = .error (index, code) := by
  -- of all the ways to fail, only the tree's own refusal is an abort
  unfold multi receive applyBatch plainError at h
  dsimp only at h
  repeat' split at h
  all_goals simp only [Prod.mk.injEq, Except.error.injEq, reduceCtorEq, false_and] at h
  rename_i hrefused
  obtain ⟨habort, rfl⟩ := h
  cases habort
  exact hrefused

/-! ## Single requests -/

/-- A request changes the tree and the count of mutations, and nothing else. -/
theorem applyOne_eq (st : Store) (s : Session) (r : Request) :
    ∃ tree mutations, (st.applyOne s r).2 = { st with tree, mutations } := by
  unfold applyOne
  dsimp only
  repeat' split
  all_goals exact ⟨_, _, rfl⟩

theorem faults_applyOne (st : Store) (s : Session) (r : Request) :
    (st.applyOne s r).2.faults = st.faults := by
  obtain ⟨tree, mutations, h⟩ := applyOne_eq st s r
  rw [h]

theorem isConnected_applyOne (st : Store) (s : Session) (r : Request) (s' : Session) :
    (st.applyOne s r).2.isConnected s' = st.isConnected s' := by
  obtain ⟨tree, mutations, h⟩ := applyOne_eq st s r
  rw [h]
  rfl

theorem commits_submit (st : Store) (s : Session) (r : Request) :
    (st.submit s r).2.commits = st.commits := by
  refine proj_receive (·.commits) (fun st => ?_) st s
  obtain ⟨tree, mutations, h⟩ := applyOne_eq st s r
  rw [h]

/-- Faults that have been met are gone, and no new ones come. -/
theorem mem_faults_of_submit {r : Request} {f : Fault} (h : f ∈ (st.submit s r).2.faults) :
    f ∈ st.faults := by
  rw [submit, proj_receive (·.faults) (fun st => faults_applyOne st s r)] at h
  simp only [admitted] at h
  split at h
  · exact List.mem_of_mem_tail h
  · exact h

/-- Only batches are aborted. -/
theorem submit_ne_aborted {r : Request} {index : Nat} {code : ErrorCode} {answers : List Answer} :
    (st.submit s r).1 ≠ .error (.aborted index code answers) := by
  intro h
  unfold submit receive applyOne plainError at h
  dsimp only at h
  repeat' split at h
  all_goals cases h

theorem exists?_ne_aborted {p : String} {index : Nat} {code : ErrorCode} {answers : List Answer} :
    st.exists? s p ≠ .error (.aborted index code answers) := by
  have hcheck : st.checkCall s p ≠ .error (.aborted index code answers) := by
    intro h
    unfold checkCall plainError at h
    split at h
    · cases h
    · split at h
      · rename_i hcheck
        unfold Path.check at hcheck
        split at hcheck
        all_goals cases hcheck
        cases h
      · split at h
        all_goals cases h
  intro h
  rw [exists?] at h
  cases hcall : st.checkCall s p with
  | error e =>
    rw [hcall] at h hcheck
    exact hcheck (by simpa [Except.map] using h)
  | ok => simp [hcall, Except.map] at h

/-- Whoever is connected may look at every node. -/
theorem exists?_of_isConnected {p : String} (hs : st.isConnected s) (hp : Path.isValid p) :
    st.exists? s p = .ok ((st.tree.node? p).map Node.stat) := by
  obtain ⟨hclosed, hexpired⟩ := isConnected_iff.mp hs
  simp [exists?, checkCall, hclosed, hexpired, Path.check, hp, Except.map]

end Store

end Coordination
