import Coordination.Store.Basic
import Coordination.Proofs.Store.WellFormed
import Coordination.Proofs.Text.ByteOrder

/-!
# The stores that can be reached

A store is reached from the one with the root alone by moves: sessions are opened, they ask for
requests and batches and replace access lists, they are closed or expire, faults are announced, idle
containers are reaped. Only sessions that have been opened make moves; how long they have been
opened, and what they claim to have proved, is left open.

## Main definitions

* `Store.letsIn`, `Store.admitted`: whether a call reaches the tree, and what else becomes of it
* `Store.Move`, `Move.next`: what can happen to a store, and what becomes of it
* `Store.Reachable`: the stores that moves lead to

## Main results

* `fst_receive`, `snd_receive`: what letting a call in comes to
* `submit_keeps`, `multi_keeps`, `setAcl_keeps`: what is kept by what is applied is kept by what is
  sent
* `Reachable.wellFormed`: the tree of a store that can be reached is well formed
* `Reachable.consistent`: what a tree says twice agrees in every store that can be reached, and
  sessions are told the children of a node in order
-/

namespace Coordination

-- The results of calls can be compared, so that runs on given stores can be decided.
instance decidableEqExcept {ε α : Type} [DecidableEq ε] [DecidableEq α] :
    DecidableEq (Except ε α)
  | .error e, .error e' => decidable_of_iff (e = e') (by simp)
  | .ok a, .ok a' => decidable_of_iff (a = a') (by simp)
  | .error _, .ok _ => isFalse (by simp)
  | .ok _, .error _ => isFalse (by simp)

namespace Store

variable {st : Store} {s : Session}

/-! ## Letting requests in -/

/-- Whether what a session asks for next reaches the tree. -/
def letsIn (st : Store) (s : Session) : Bool :=
  st.isConnected s && st.faults.head?.all (·.timing == .afterApply)

/-- The store when a session has called: the call is counted unless the session is closed, and takes
the next fault off the list unless the session is not connected. -/
def admitted (st : Store) (s : Session) : Store :=
  { st with
    requests := if st.isClosed s then st.requests else st.requests + 1
    faults := if st.isConnected s then st.faults.tail else st.faults }

/-- The fault that a call of a session meets. -/
def struck? (st : Store) (s : Session) : Option Fault :=
  if st.isConnected s then st.faults.head? else none

section Receive

variable {α : Type} {work : Store → Except StoreError α × Store}

theorem receive_of_closed (h : st.isClosed s) : st.receive s work = (.error .closed, st) := by
  rw [receive, if_pos h]

theorem receive_of_expired (h : st.isClosed s = false) (he : st.hasExpired s) :
    st.receive s work =
      (.error (plainError .sessionExpired), { st with requests := st.requests + 1 }) := by
  have he' : ({ st with requests := st.requests + 1 } : Store).hasExpired s = true := he
  simp [receive, h, he']

theorem isConnected_iff : st.isConnected s ↔ st.isClosed s = false ∧ st.hasExpired s = false := by
  simp [isConnected]

theorem receive_of_connected (h : st.isConnected s) :
    st.receive s work =
      match st.faults with
      | [] => work { st with requests := st.requests + 1 }
      | ⟨code, .beforeApply⟩ :: faults =>
        (.error (plainError code), { st with requests := st.requests + 1, faults })
      | ⟨code, .afterApply⟩ :: faults =>
        (.error (plainError code), (work { st with requests := st.requests + 1, faults }).2) := by
  obtain ⟨hc, he⟩ := isConnected_iff.mp h
  rw [hasExpired] at he
  rcases hfaults : st.faults with _ | ⟨⟨code, _ | _⟩, faults⟩ <;>
    simp [receive, hc, hasExpired, he, hfaults]

/-- **What is done for a call** is done to the store that has let it in, if it is let in. -/
theorem snd_receive (st : Store) (s : Session) (work : Store → Except StoreError α × Store) :
    (st.receive s work).2 =
      if st.letsIn s then (work (st.admitted s)).2 else st.admitted s := by
  by_cases hc : st.isClosed s = true
  · have hs : st.isConnected s = false := by simp [isConnected, hc]
    rw [receive_of_closed hc]
    simp [letsIn, admitted, hs, hc]
  · have hc' : st.isClosed s = false := by simpa using hc
    by_cases he : st.hasExpired s = true
    · have hs : st.isConnected s = false := by simp [isConnected, he]
      rw [receive_of_expired hc' he]
      simp [letsIn, admitted, hs, hc']
    · have hs : st.isConnected s := isConnected_iff.mpr ⟨hc', by simpa using he⟩
      rw [receive_of_connected hs]
      rcases hfaults : st.faults with _ | ⟨⟨code, _ | _⟩, faults⟩
      all_goals simp [letsIn, admitted, hs, hc', hfaults]

/-- **What a session is told of a call**: that it is not connected, the fault that the call meets,
or what has come of it. -/
theorem fst_receive (st : Store) (s : Session) (work : Store → Except StoreError α × Store) :
    (st.receive s work).1 =
      if st.isClosed s then .error .closed
      else if st.hasExpired s then .error (plainError .sessionExpired)
      else match st.struck? s with
        | some f => .error (plainError f.code)
        | none => (work (st.admitted s)).1 := by
  by_cases hc : st.isClosed s = true
  · rw [receive_of_closed hc, if_pos hc]
  · have hc' : st.isClosed s = false := by simpa using hc
    rw [if_neg hc]
    by_cases he : st.hasExpired s = true
    · rw [receive_of_expired hc' he, if_pos he]
    · have hs : st.isConnected s := isConnected_iff.mpr ⟨hc', by simpa using he⟩
      rw [receive_of_connected hs, if_neg he]
      rcases hfaults : st.faults with _ | ⟨⟨code, _ | _⟩, faults⟩
      all_goals simp [struck?, admitted, hs, hc', hfaults]

/-- What is not touched when something is done for a call is what the call leaves of it. -/
theorem proj_receive {β : Type} (f : Store → β) (hwork : ∀ st, f (work st).2 = f st) (st : Store)
    (s : Session) : f (st.receive s work).2 = f (st.admitted s) := by
  rw [snd_receive]
  split
  · exact hwork _
  · rfl

/-- What the work does to the tree is all that happens to the tree. -/
theorem tree_receive {P : Tree → Prop} (h : P st.tree)
    (hwork : ∀ st' : Store, st'.tree = st.tree → P (work st').2.tree) :
    P (st.receive s work).2.tree := by
  rw [snd_receive]
  split
  · exact hwork _ rfl
  · exact h

/-- The errors of a call that say nothing of its work: those of a session that is not connected, and
the faults to come. -/
inductive Disrupts (st : Store) : StoreError → Prop where
  | closed : Disrupts st .closed
  | expired : Disrupts st (plainError .sessionExpired)
  | fault (f : Fault) (hf : f ∈ st.faults) : Disrupts st (plainError f.code)

/-- A call is disrupted, or it says what came of its work. -/
theorem receive_cases (st : Store) (s : Session) (work : Store → Except StoreError α × Store) :
    (∃ e, st.Disrupts e ∧ (st.receive s work).1 = .error e) ∨
      ∃ st' : Store, st'.tree = st.tree ∧ st.receive s work = work st' := by
  by_cases hc : st.isClosed s
  · exact .inl ⟨.closed, .closed, by rw [receive_of_closed hc]⟩
  · by_cases he : st.hasExpired s
    · exact .inl ⟨_, .expired, by rw [receive_of_expired (by simpa using hc) he]⟩
    · have hs : st.isConnected s := isConnected_iff.mpr ⟨by simpa using hc, by simpa using he⟩
      rw [receive_of_connected hs]
      rcases hfaults : st.faults with _ | ⟨⟨code, _ | _⟩, faults⟩
      · exact .inr ⟨{ st with requests := st.requests + 1, faults := [] }, rfl, rfl⟩
      all_goals exact .inl ⟨_, .fault ⟨code, _⟩ (by rw [hfaults]; exact List.mem_cons_self), rfl⟩

end Receive

/-! ## Moves -/

/-- What can happen to a store. Reading changes nothing and is no move. -/
inductive Move where
  /-- A session is opened. -/
  | connect (identities : List Identity)
  /-- A session asks for one request. -/
  | submit (s : Session) (r : Request)
  /-- A session asks for a batch. -/
  | multi (s : Session) (rs : List Request)
  /-- A session replaces the access list of a node. -/
  | setAcl (s : Session) (p : String) (acl : Acl) (version : Int32)
  /-- Requests to come will be lost. -/
  | failNext (code : ErrorCode) (count : Nat)
  /-- Answers to requests to come will be lost. -/
  | failAfter (code : ErrorCode) (count : Nat)
  /-- A session is closed. -/
  | close (s : Session)
  /-- The session with a number expires. -/
  | expire (session : Int)
  /-- Idle containers are removed. -/
  | reap

namespace Move

/-- The store after a move. -/
def next (st : Store) : Move → Store
  | connect identities => (st.connect identities).2
  | submit s r => (st.submit s r).2
  | multi s rs => (st.multi s rs).2
  | setAcl s p acl version => (st.setAcl s p acl version).2
  | failNext code count => st.failNext code count
  | failAfter code count => st.failAfter code count
  | close s => st.close s
  | expire session => st.expire session
  | reap => st.reap.2

/-- Whether a store can see a move: sessions have been opened before they do anything. A number
that expires is that of a session, opened already or not. -/
def Allowed (st : Store) : Move → Prop
  | submit s _ | multi s _ | setAcl s .. | close s => 0 < s.id ∧ s.id < st.nextSession
  | expire session => 0 < session
  | connect _ | failNext .. | failAfter .. | reap => True

instance (st : Store) : (m : Move) → Decidable (m.Allowed st)
  | submit s _ | multi s _ | setAcl s .. | close s =>
    inferInstanceAs (Decidable (0 < s.id ∧ s.id < st.nextSession))
  | expire session => inferInstanceAs (Decidable (0 < session))
  | connect _ | failNext .. | failAfter .. | reap => inferInstanceAs (Decidable True)

/-- The store after some moves. -/
def run (st : Store) (ms : List Move) : Store := ms.foldl next st

/-- Whether each of some moves can be seen by the store that the moves before it lead to. -/
def Legal (st : Store) : List Move → Prop
  | [] => True
  | m :: ms => m.Allowed st ∧ Legal (m.next st) ms

instance decidableLegal : (st : Store) → (ms : List Move) → Decidable (Legal st ms)
  | _, [] => inferInstanceAs (Decidable True)
  | st, m :: ms =>
    have := decidableLegal (m.next st) ms
    inferInstanceAs (Decidable (m.Allowed st ∧ Legal (m.next st) ms))

theorem run_append (st : Store) (ms ms' : List Move) :
    run st (ms ++ ms') = run (run st ms) ms' := List.foldl_append

theorem legal_append {ms ms' : List Move} :
    Legal st (ms ++ ms') ↔ Legal st ms ∧ Legal (run st ms) ms' := by
  induction ms generalizing st with
  | nil => simp [Legal, run]
  | cons m ms ih =>
    rw [List.cons_append, Legal, ih, Legal, and_assoc]
    rfl

end Move

/-- **The stores that moves lead to.** -/
inductive Reachable : Store → Prop where
  /-- The store with the root alone. -/
  | initial : Reachable .initial
  /-- One more move. -/
  | move {st : Store} (h : Reachable st) (m : Move) (hm : m.Allowed st) : Reachable (m.next st)

/-! ## What requests keep -/

section Keeps

variable {P : Tree → Prop} {r : Request} {rs : List Request}

/-- What a request keeps that is applied, it keeps if it is asked for. The number of transactions
must not matter. -/
theorem applyOne_keeps (hcount : ∀ t z, P t → P { t with transaction := z })
    (hkeeps : ∀ t stamp a t', P t → t.Applied s stamp r a t' → P t') (h : P st.tree) :
    P (st.applyOne s r).2.tree := by
  unfold applyOne
  dsimp only
  split
  · exact h
  · rename_i a t happly
    split
    · exact hcount _ _ (hkeeps _ _ _ _ h (Tree.apply_eq_ok_iff.mp happly))
    · exact h

/-- What every request of a batch keeps the batch keeps. -/
theorem applyBatch_keeps (hcount : ∀ t z, P t → P { t with transaction := z })
    (hkeeps : ∀ r ∈ rs, ∀ t stamp a t', P t → t.Applied s stamp r a t' → P t') (h : P st.tree) :
    P (st.applyBatch s rs).2.tree := by
  unfold applyBatch
  dsimp only
  split
  · exact h
  · rename_i as t happly
    exact hcount _ _ (Tree.applyAll_keeps (fun r hr t a t' => hkeeps r hr t _ a t') h happly)

/-- **What a request keeps that is applied, it keeps if it is sent**, whatever becomes of it. -/
theorem submit_keeps (hcount : ∀ t z, P t → P { t with transaction := z })
    (hkeeps : ∀ t stamp a t', P t → t.Applied s stamp r a t' → P t') (h : P st.tree) :
    P (st.submit s r).2.tree :=
  tree_receive h fun _ hst' => applyOne_keeps hcount hkeeps (hst' ▸ h)

/-- **What every request of a batch keeps the batch keeps**, whatever becomes of it. -/
theorem multi_keeps (hcount : ∀ t z, P t → P { t with transaction := z })
    (hkeeps : ∀ r ∈ rs, ∀ t stamp a t', P t → t.Applied s stamp r a t' → P t') (h : P st.tree) :
    P (st.multi s rs).2.tree :=
  tree_receive h fun _ hst' => applyBatch_keeps hcount hkeeps (hst' ▸ h)

/-- **What is kept if an access list is granted is kept**, whatever becomes of the grant. -/
theorem setAcl_keeps {p : String} {acl : Acl} {version : Int32}
    (hcount : ∀ t z, P t → P { t with transaction := z })
    (hkeeps : acl ≠ [] → ∀ stat t, st.tree.setAcl s p acl version = .ok (stat, t) → P t)
    (h : P st.tree) : P (st.setAcl s p acl version).2.tree := by
  unfold setAcl
  -- every refusal leaves the tree alone; the last case is the one that is granted
  repeat' split
  all_goals first | exact h | skip
  rename_i hacl _ _ stat t ht
  exact hcount _ _ (hkeeps (by simpa using hacl) stat t ht)

end Keeps

/-! ## Well-formed trees -/

theorem wellFormed_setAcl {p : String} {acl : Acl} {version : Int32} (h : st.tree.WellFormed) :
    (st.setAcl s p acl version).2.tree.WellFormed :=
  setAcl_keeps (fun _ z ht => ht.transaction z) (fun hacl _ _ ht => h.setAcl hacl ht) h

/-- **A move keeps the tree well formed.** -/
theorem wellFormed_next {m : Move} (h : st.tree.WellFormed) (hm : m.Allowed st) :
    (m.next st).tree.WellFormed := by
  cases m with
  | connect identities => exact h
  | submit s r =>
    refine submit_keeps (fun _ z ht => ht.transaction z) ?_ h
    intro t stamp a t' ht happlied
    exact ht.applied (Int.ne_of_gt hm.1) happlied
  | multi s rs =>
    refine multi_keeps (fun _ z ht => ht.transaction z) ?_ h
    intro r hr t stamp a t' ht happlied
    exact ht.applied (Int.ne_of_gt hm.1) happlied
  | setAcl s p acl version => exact wellFormed_setAcl h
  | failNext code count => exact h
  | failAfter code count => exact h
  | close s =>
    -- a session that has been closed before owns nothing any more
    show (st.close s).tree.WellFormed
    unfold close
    split
    · exact h
    · exact h.removeOwned (Int.ne_of_gt hm.1)
  | expire session => exact h.removeOwned (Int.ne_of_gt hm)
  | reap => exact h.reap

theorem Reachable.wellFormed (h : st.Reachable) : st.tree.WellFormed := by
  induction h with
  | initial => exact .initial
  | move _ m hm ih => exact wellFormed_next ih hm

theorem Reachable.run {ms : List Move} (h : st.Reachable) (hms : Move.Legal st ms) :
    (Move.run st ms).Reachable := by
  induction ms generalizing st with
  | nil => exact h
  | cons m ms ih => exact ih (h.move m hms.1) hms.2

/-! ## Children -/

theorem getChildren_of_permits {p : String} {n : Node} (hs : st.isConnected s)
    (hvalid : Path.isValid p) (hn : st.tree.node? p = some n) (hpermits : n.permits s .read) :
    st.getChildren s p = .ok n.children.toList := by
  obtain ⟨hc, he⟩ := isConnected_iff.mp hs
  simp [getChildren, readable, checkCall, Path.check, hc, he, hvalid, hn, hpermits, Except.map]

/-- Names are listed in the order of their bytes. -/
theorem pairwise_bytes_toList (children : Std.ExtTreeSet String) :
    children.toList.Pairwise fun a b => Text.bytes a < Text.bytes b :=
  children.ordered_toList.imp fun h => Text.bytes_lt_bytes (compareOfLessAndEq_eq_lt.mp h)

/-- **What a tree says twice agrees in every store that can be reached**: the root is there to stay,
nodes stand under paths, parents and children are linked in both directions, nodes count right and
ephemeral ones have no children. So a session that may read a node is told the names of the nodes
below it, all of them and nothing else, in the order of their bytes. -/
theorem Reachable.consistent (h : st.Reachable) :
    (∃ n, st.tree.node? Path.root = some n ∧ n.mode = .persistent) ∧
    (∀ p n, st.tree.node? p = some n →
      Path.isValid p ∧
      (p ≠ Path.root → ∃ above parent, Path.parent? p = some above ∧
        st.tree.node? above = some parent ∧ Path.name p ∈ parent.children) ∧
      (∀ c ∈ n.children, (st.tree.node? (Path.join p c)).isSome) ∧
      n.stat.childCount = Int32.ofNat n.children.size ∧
      (n.data.size < Nat.pow 2 31 → n.stat.dataLength.toInt = n.data.size) ∧
      (n.stat.owner ≠ 0 ↔ n.mode.isEphemeral) ∧ n.acl ≠ [] ∧
      (n.children ≠ ∅ → n.hadChildren) ∧ (n.mode.isEphemeral → n.children = ∅)) ∧
    (∀ s p n, st.isConnected s → st.tree.node? p = some n → n.permits s .read →
      ∃ names, st.getChildren s p = .ok names ∧
        names.Pairwise (fun a b => Text.bytes a < Text.bytes b) ∧
        ∀ c, c ∈ names ↔
          ∃ q m, st.tree.node? q = some m ∧ Path.parent? q = some p ∧ Path.name q = c) := by
  have hwf := h.wellFormed
  refine ⟨hwf.root, fun p n hn => ?_, fun s p n hs hn hpermits => ?_⟩
  · have hself := (hwf.fits p n hn).self
    refine ⟨(hwf.fits p n hn).valid, hwf.name_mem_children hn, fun c => hwf.isSome_join hn,
      hself.childCount, fun hsize => ?_, hself.owner, hself.acl, hself.hadChildren,
      hself.childless⟩
    rw [hself.dataLength, Int32.toInt_ofNat_of_lt hsize]
  · refine ⟨n.children.toList,
      getChildren_of_permits hs (hwf.fits p n hn).valid hn hpermits, pairwise_bytes_toList _,
      fun c => ?_⟩
    rw [Std.ExtTreeSet.mem_toList, (hwf.fits p n hn).children c]
    simp only [Tree.HasChild, Option.isSome_iff_exists, exists_and_right]

/-- Two sessions build a container together, and the first one leaves. -/
def someMoves : List Move :=
  [.connect [], .connect [],
    .submit ⟨1, []⟩ (.createContainer "/a" ByteArray.empty .worldOpen),
    .submit ⟨1, []⟩ (.create "/a/é" ByteArray.empty .worldOpen .ephemeral),
    .multi ⟨2, []⟩
      [.create "/a/s" ByteArray.empty .worldOpen .persistentSequential,
        .create "/a/e" ByteArray.empty .worldOpen .ephemeral],
    .close ⟨1, []⟩]

theorem consistent_after_someMoves :
    (Move.run .initial someMoves).Reachable ∧
    (Move.run .initial someMoves).isConnected ⟨2, []⟩ ∧
    ∃ names, (Move.run .initial someMoves).getChildren ⟨2, []⟩ "/a" = .ok names ∧
      names.Pairwise (fun a b => Text.bytes a < Text.bytes b) ∧
      ∀ c, c ∈ names ↔ ∃ q m, (Move.run .initial someMoves).tree.node? q = some m ∧
        Path.parent? q = some "/a" ∧ Path.name q = c := by
  have hreach : (Move.run .initial someMoves).Reachable :=
    Reachable.initial.run (by decide +kernel)
  have hconnected : (Move.run .initial someMoves).isConnected ⟨2, []⟩ := by decide +kernel
  have hnode : ((Move.run .initial someMoves).tree.node? "/a").any
      (·.permits ⟨2, []⟩ .read) = true := by decide +kernel
  obtain ⟨n, hn, hpermits⟩ := (Option.any_eq_true _ _).mp hnode
  exact ⟨hreach, hconnected, hreach.consistent.2.2 _ _ n hconnected hn hpermits⟩

end Store

end Coordination
