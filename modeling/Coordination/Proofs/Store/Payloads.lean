import Coordination.Proofs.Store.Erasures
import Coordination.Proofs.Store.Faults
import Coordination.Proofs.Store.Footprints
import Coordination.Proofs.Store.Permissions

/-!
# Data are kept and not looked at

A store keeps the data that it is given. What it does and what it says depend on their length alone,
but for the bytes that it gives back to those who ask for them.

This is a statement on two runs, in which the same calls are made with other data of the same
lengths. Both are compared with the run in which all data are blank, every byte zero. Blanking the
data of a store and of the calls that are made changes nothing else on the way, call by call, so
both runs say what the blank run says.

What bytes a session is given back is then found in each of the runs alone: they are those that were
last written to the node, by whoever created it or replaced its data.

## Main definitions

* `Store.blanked`, `Store.Call.blanked`: a store and a call with blank data
* `Store.Call`, `Store.Told`: what can be asked of a store, reading included, and what is told
* `Store.transcript`: what is told in a run
* `Store.lastWritten`: the data that a run has last written to a node

## Main results

* `Store.told_blanked`, `Store.next_blanked`: what is said and done does not depend on bytes
* `Tree.Steps.data_eq`: a node has the data last written to it
* `Store.payloads_opaque`: what two runs say that differ in the bytes of their data
-/

namespace Coordination

/-! ## Blank data -/

/-- As many zeros as there are bytes. -/
def blank (data : ByteArray) : ByteArray := ⟨Array.replicate data.size 0⟩

theorem size_blank (data : ByteArray) : (blank data).size = data.size :=
  Array.size_replicate

/-- Blank data show the length and nothing else. -/
theorem blank_eq_iff {data data' : ByteArray} :
    blank data = blank data' ↔ data.size = data'.size := by
  refine ⟨fun h => ?_, fun h => by rw [blank, h, blank]⟩
  rw [← size_blank data, h, size_blank]

/-- The erasure of data; the numbers of transactions stay. -/
def Erasure.ofData : Erasure := { number := id, data := blank, size_data := size_blank }

/-- The request with blank data. -/
def Request.blanked (r : Request) : Request := r.erased .ofData

@[simp] theorem Request.path_blanked (r : Request) : r.blanked.path = r.path := path_erased r

@[simp] theorem Request.isMutation_blanked (r : Request) : r.blanked.isMutation = r.isMutation :=
  isMutation_erased r

/-- No answer holds data. -/
@[simp] theorem Answer.erased_ofData (a : Answer) : a.erased .ofData = a := by
  cases a with
  | created path stat => cases stat <;> rfl
  | _ => rfl

namespace Tree

/-- The tree with blank data. -/
def blanked (t : Tree) : Tree := t.erased .ofData

variable (t : Tree)

theorem apply_blanked (s : Session) (stamp : Int) (r : Request) :
    t.blanked.apply s stamp r.blanked = (t.apply s stamp r).map (Prod.map id blanked) := by
  refine (t.apply_erased (e := .ofData) s stamp r).trans (congrArg (Except.map · _) ?_)
  funext result
  rw [outcomeErased, Answer.erased_ofData]
  rfl

theorem applyAll_blanked (s : Session) (stamp : Int) (index : Nat) (rs : List Request) :
    t.blanked.applyAll s stamp index (rs.map Request.blanked) =
      (t.applyAll s stamp index rs).map (Prod.map id blanked) := by
  refine (t.applyAll_erased (e := .ofData) s stamp index rs).trans (congrArg (Except.map · _) ?_)
  funext result
  simp only [Answer.erased_ofData, List.map_id']
  rfl

theorem setAcl_blanked (s : Session) (p : String) (acl : Acl) (version : Int32) :
    t.blanked.setAcl s p acl version = (t.setAcl s p acl version).map (Prod.map id blanked) :=
  t.setAcl_erased s p acl version

theorem removeOwned_blanked (session : Int) :
    (t.removeOwned session).blanked = t.blanked.removeOwned session := t.removeOwned_erased session

theorem reap_blanked : t.blanked.reap = Prod.map id blanked t.reap := t.reap_erased

end Tree

namespace Store

/-- The store with blank data. -/
def blanked (st : Store) : Store := { st with tree := st.tree.blanked }

variable (st : Store)

theorem node?_tree_blanked (p : String) :
    st.blanked.tree.node? p = (st.tree.node? p).map (·.erased .ofData) :=
  st.tree.node?_erased p

/-! ### Requests -/

theorem applyOne_blanked (s : Session) (r : Request) :
    st.blanked.applyOne s r.blanked = Prod.map id blanked (st.applyOne s r) := by
  have htree : st.blanked.tree.apply s (st.tree.transaction + 1) r.blanked =
      (st.tree.apply s (st.tree.transaction + 1) r).map (Prod.map id Tree.blanked) :=
    st.tree.apply_blanked s _ r
  have hstamp : st.blanked.tree.transaction = st.tree.transaction := rfl
  rw [applyOne, applyOne, hstamp, htree, Request.isMutation_blanked, Request.path_blanked]
  cases st.tree.apply s (st.tree.transaction + 1) r with
  | error code => rfl
  | ok result =>
    dsimp only [Except.map, Prod.map]
    split <;> rfl

theorem applyBatch_blanked (s : Session) (rs : List Request) :
    st.blanked.applyBatch s (rs.map Request.blanked) =
      Prod.map id blanked (st.applyBatch s rs) := by
  have htree : st.blanked.tree.applyAll s (st.tree.transaction + 1) 0 (rs.map Request.blanked) =
      (st.tree.applyAll s (st.tree.transaction + 1) 0 rs).map (Prod.map id Tree.blanked) :=
    st.tree.applyAll_blanked s _ 0 rs
  have hstamp : st.blanked.tree.transaction = st.tree.transaction := rfl
  rw [applyBatch, applyBatch, hstamp, htree, List.length_map, List.countP_map]
  simp only [Function.comp_def, Request.isMutation_blanked]
  cases st.tree.applyAll s (st.tree.transaction + 1) 0 rs <;> rfl

/-- What is let in does not depend on bytes if what is done does not. -/
theorem receive_blanked {α : Type} {work work' : Store → Except StoreError α × Store} (s : Session)
    (hwork : ∀ st : Store, work' st.blanked = Prod.map id blanked (work st)) :
    st.blanked.receive s work' = Prod.map id blanked (st.receive s work) := by
  have hadmitted : st.blanked.admitted s = (st.admitted s).blanked := rfl
  refine Prod.ext ?_ ?_
  · rw [fst_receive, hadmitted, hwork]
    exact (fst_receive st s work).symm
  · show _ = (st.receive s work).2.blanked
    rw [snd_receive, snd_receive, hadmitted, hwork, apply_ite blanked]
    rfl

theorem submit_blanked (s : Session) (r : Request) :
    st.blanked.submit s r.blanked = Prod.map id blanked (st.submit s r) :=
  st.receive_blanked s fun st => st.applyOne_blanked s r

theorem multi_blanked (s : Session) (rs : List Request) :
    st.blanked.multi s (rs.map Request.blanked) = Prod.map id blanked (st.multi s rs) :=
  st.receive_blanked s fun st => st.applyBatch_blanked s rs

theorem setAcl_blanked (s : Session) (p : String) (acl : Acl) (version : Int32) :
    st.blanked.setAcl s p acl version = Prod.map id blanked (st.setAcl s p acl version) := by
  have hclosed : st.blanked.isClosed s = st.isClosed s := rfl
  have hexpired : st.blanked.hasExpired s = st.hasExpired s := rfl
  have htree : st.blanked.tree.setAcl s p acl version =
      (st.tree.setAcl s p acl version).map (Prod.map id Tree.blanked) :=
    st.tree.setAcl_blanked s p acl version
  rw [setAcl, setAcl, hclosed, hexpired, htree]
  -- both ask the same questions before they ask the tree
  cases st.tree.setAcl s p acl version
  all_goals
    dsimp only [Except.map, Prod.map]
    repeat' split
    all_goals rfl

theorem close_blanked (s : Session) : st.blanked.close s = (st.close s).blanked := by
  have hclosed : st.blanked.isClosed s = st.isClosed s := rfl
  rw [close, close, hclosed]
  split
  · rfl
  · rw [blanked, ← Tree.removeOwned_blanked]
    rfl

theorem expire_blanked (session : Int) :
    st.blanked.expire session = (st.expire session).blanked := by
  rw [expire, expire, blanked, ← Tree.removeOwned_blanked]
  rfl

theorem reap_blanked : st.blanked.reap = Prod.map id blanked st.reap := by
  rw [reap, reap, blanked, Tree.reap_blanked]
  rfl

/-! ### Moves -/

/-- The move with blank data. -/
def Move.blanked : Move → Move
  | submit s r => .submit s r.blanked
  | multi s rs => .multi s (rs.map Request.blanked)
  | m => m

/-- **What becomes of a store does not depend on bytes.** -/
theorem next_blanked (m : Move) : m.blanked.next st.blanked = (m.next st).blanked := by
  cases m with
  | submit s r => exact congrArg Prod.snd (st.submit_blanked s r)
  | multi s rs => exact congrArg Prod.snd (st.multi_blanked s rs)
  | setAcl s p acl version => exact congrArg Prod.snd (st.setAcl_blanked s p acl version)
  | close s => exact st.close_blanked s
  | expire session => exact st.expire_blanked session
  | reap => exact congrArg Prod.snd st.reap_blanked
  | connect | failNext | failAfter => rfl

/-- **What whoever makes a move is told does not depend on bytes.** -/
theorem reply_blanked (m : Move) : m.blanked.reply st.blanked = m.reply st := by
  cases m with
  | submit s r => exact congrArg (Reply.single ·.1) (st.submit_blanked s r)
  | multi s rs => exact congrArg (Reply.batch ·.1) (st.multi_blanked s rs)
  | setAcl s p acl version => exact congrArg (Reply.granted ·.1) (st.setAcl_blanked s p acl version)
  | reap => exact congrArg (Reply.reaped ·.1) st.reap_blanked
  | connect | failNext | failAfter | close | expire => rfl

/-! ## Calls -/

/-- **What can be asked of a store**: a move, or a look at what there is. -/
inductive Call where
  /-- A move. -/
  | move (m : Move)
  /-- Whether there is a node. -/
  | exists? (s : Session) (p : String)
  /-- The data of a node. -/
  | getData (s : Session) (p : String)
  /-- The children of a node. -/
  | getChildren (s : Session) (p : String)
  /-- Whether a session is neither closed nor expired. -/
  | isConnected (s : Session)
  /-- What the owner of the store sees of a node, the data apart. -/
  | inspect (p : String)
  /-- The counters of the store. -/
  | count

/-- **What whoever calls is told.** -/
inductive Told where
  /-- What has come of a move. -/
  | moved (reply : Reply)
  /-- The stat of a node, if there is one. -/
  | stat (result : Except StoreError (Option Stat))
  /-- The data of a node and its stat. -/
  | data (result : Except StoreError (ByteArray × Stat))
  /-- The names of children. -/
  | children (result : Except StoreError (List String))
  /-- Whether the session is connected. -/
  | connected (answer : Bool)
  /-- The stat of a node and how it was created, if there is one. -/
  | node (found : Option (Stat × CreateMode))
  /-- The nodes, the requests and batches that have come in, the requests and the batches that have
  been applied, and the faults to come. -/
  | counters (nodes requests mutations commits faults : Nat)

/-- What is told, the bytes left out. -/
def Told.blanked : Told → Told
  | data result => .data (result.map (Prod.map blank id))
  | told => told

namespace Call

/-- The call with blank data. -/
def blanked : Call → Call
  | move m => .move m.blanked
  | c => c

/-- What whoever calls is told. -/
def told (st : Store) : Call → Told
  | move m => .moved (m.reply st)
  | exists? s p => .stat (st.exists? s p)
  | getData s p => .data (st.getData s p)
  | getChildren s p => .children (st.getChildren s p)
  | isConnected s => .connected (st.isConnected s)
  | inspect p => .node ((st.tree.node? p).map fun n => (n.stat, n.mode))
  | count => .counters st.tree.size st.requests st.mutations st.commits st.faults.length

/-- The move that a call makes. -/
def move? : Call → Option Move
  | move m => some m
  | _ => none

/-- The store after a call. -/
def next (st : Store) : Call → Store
  | move m => m.next st
  | _ => st

/-- The moves of some calls. -/
def moves (cs : List Call) : List Move := cs.filterMap move?

end Call

/-- **What is told in a run**, call by call. -/
def transcript (st : Store) : List Call → List Told
  | [] => []
  | c :: cs => c.told st :: transcript (c.next st) cs

/-- The store after some calls. -/
def after (st : Store) (cs : List Call) : Store := Move.run st (Call.moves cs)

theorem after_cons (c : Call) (cs : List Call) : st.after (c :: cs) = (c.next st).after cs := by
  cases c <;> rfl

/-! ### Reading -/

theorem readable_blanked (s : Session) (p : String) :
    st.blanked.readable s p = (st.readable s p).map (·.erased .ofData) := by
  have hcheck : st.blanked.checkCall s p = st.checkCall s p := rfl
  rw [readable, readable, hcheck, node?_tree_blanked]
  cases st.checkCall s p with
  | error e => rfl
  | ok =>
    cases st.tree.node? p with
    | none => rfl
    | some n =>
      simp only [Option.map_some, Node.permits_erased]
      split <;> rfl

/-- The one answer that tells bytes tells the blank ones. -/
theorem getData_blanked (s : Session) (p : String) :
    st.blanked.getData s p = (st.getData s p).map (Prod.map blank id) := by
  rw [getData, getData, readable_blanked]
  cases st.readable s p <;> rfl

theorem getChildren_blanked (s : Session) (p : String) :
    st.blanked.getChildren s p = st.getChildren s p := by
  rw [getChildren, getChildren, readable_blanked]
  cases st.readable s p <;> rfl

theorem exists?_blanked (s : Session) (p : String) : st.blanked.exists? s p = st.exists? s p := by
  have hcheck : st.blanked.checkCall s p = st.checkCall s p := rfl
  rw [exists?, exists?, hcheck, node?_tree_blanked, Option.map_map]
  rfl

/-- **What is told does not depend on bytes**, but for bytes that are told. -/
theorem told_blanked (c : Call) : c.blanked.told st.blanked = (c.told st).blanked := by
  cases c with
  | move m => exact congrArg Told.moved (st.reply_blanked m)
  | exists? s p => exact congrArg Told.stat (st.exists?_blanked s p)
  | getData s p => exact congrArg Told.data (st.getData_blanked s p)
  | getChildren s p => exact congrArg Told.children (st.getChildren_blanked s p)
  | isConnected s => rfl
  | inspect p =>
    show Told.node _ = Told.node _
    rw [node?_tree_blanked, Option.map_map]
    rfl
  | count =>
    have hsize : st.blanked.tree.size = st.tree.size := st.tree.size_erased
    show Told.counters _ _ _ _ _ = _
    rw [hsize]
    rfl

theorem next_call_blanked (c : Call) : c.blanked.next st.blanked = (c.next st).blanked := by
  cases c with
  | move m => exact st.next_blanked m
  | _ => rfl

/-- **So it is in a run.** -/
theorem transcript_blanked (cs : List Call) :
    st.blanked.transcript (cs.map Call.blanked) = (st.transcript cs).map Told.blanked := by
  induction cs generalizing st with
  | nil => rfl
  | cons c cs ih =>
    rw [List.map_cons, transcript, told_blanked, next_call_blanked, ih, transcript, List.map_cons]

theorem after_blanked (cs : List Call) :
    st.blanked.after (cs.map Call.blanked) = (st.after cs).blanked := by
  induction cs generalizing st with
  | nil => rfl
  | cons c cs ih => rw [List.map_cons, after_cons, next_call_blanked, ih, after_cons]

end Store

/-! ## What was written -/

/-- The data that a change of a tree writes to a node, if it writes any. -/
def Stage.written? (p : String) (e : Stage) : Option ByteArray :=
  match e.applied with
  | some (r, a) => if r.target a = p then r.data? else none
  | none => none

namespace Tree

variable {t : Tree} {e : Stage} {es : List Stage} {p q : String} {n : Node} {data : ByteArray}

/-- A node that stays when another one goes keeps its data. -/
theorem exists_node_of_remove (hn : (t.remove q).node? p = some n) :
    ∃ m, t.node? p = some m ∧ m.data = n.data := by
  unfold remove at hn
  have herased (m : Node) (hm : ({ t with nodes := t.nodes.erase q } : Tree).node? p = some m) :
      t.node? p = some m := by
    rw [node?_erase] at hm
    split at hm
    · cases hm
    · exact hm
  cases habove : Path.parent? q with
  | none =>
    rw [habove] at hn
    exact ⟨n, herased n hn, rfl⟩
  | some above =>
    rw [habove] at hn
    dsimp only at hn
    rw [node?_update] at hn
    split at hn
    · obtain ⟨m, hm, rfl⟩ := Option.map_eq_some_iff.mp hn
      exact ⟨m, herased m hm, rfl⟩
    · exact ⟨n, herased n hn, rfl⟩

/-- **A request writes its data to the node that it touches**, and no other data change. -/
theorem Applied.data_eq {s : Session} {stamp : Int} {r : Request} {a : Answer} {t' : Tree}
    (h : t.Applied s stamp r a t') (hn : t'.node? p = some n) :
    (r.target a = p ∧ r.data? = some n.data) ∨
      (r.target a = p → r.data? = none) ∧ ∃ m, t.node? p = some m ∧ m.data = n.data := by
  cases h with
  | @created _ data acl mode above parent hmode hdata =>
    -- the node is the new one, its parent, which has a child more and the same data, or another
    rcases node?_attach_cases hn with ⟨rfl, rfl⟩ | ⟨hne, -, m, hm, rfl⟩ | ⟨hne, -, hm⟩
    · exact .inl ⟨rfl, hdata⟩
    · exact .inr ⟨fun h => absurd h.symm hne, m, hm, rfl⟩
    · exact .inr ⟨fun h => absurd h.symm hne, n, hm, rfl⟩
  | @deleted _ _ _ _ htype =>
    refine .inr ⟨fun _ => ?_, exists_node_of_remove hn⟩
    cases r <;> first | rfl | cases htype
  | dataSet =>
    rcases node?_put_cases hn with ⟨rfl, rfl⟩ | ⟨hne, hm⟩
    · exact .inl ⟨rfl, rfl⟩
    · exact .inr ⟨fun h => absurd h.symm hne, n, hm, rfl⟩
  | checked => exact .inr ⟨fun _ => rfl, n, hn, rfl⟩

/-- **A node has the data that the last change of the tree wrote to it**, or those that it had. -/
theorem Step.data_eq (h : t.Step e) (ht : ∀ m, t.node? p = some m → m.data = data)
    (hn : e.tree.node? p = some n) : n.data = (e.written? p).getD data := by
  have kept (hm : ∃ m, t.node? p = some m ∧ m.data = n.data) : n.data = data := by
    obtain ⟨m, hm, hdata⟩ := hm
    exact hdata.symm.trans (ht m hm)
  cases h with
  | @applied s stamp r a t' h =>
    show n.data = (if r.target a = p then r.data? else none).getD data
    rcases h.data_eq hn with ⟨htarget, hdata⟩ | ⟨hdata, hm⟩
    · rw [if_pos htarget, hdata, Option.getD_some]
    · split
      · next htarget => rw [hdata htarget, Option.getD_none, kept hm]
      · exact kept hm
  | removed q => exact kept (exists_node_of_remove hn)
  | @granted s q acl version stat t' h z =>
    obtain ⟨m, hm, -, -, -, rfl⟩ := setAcl_eq_ok_iff.mp h
    rcases node?_put_cases hn with ⟨rfl, rfl⟩ | ⟨-, hn⟩
    · exact kept ⟨m, hm, rfl⟩
    · exact kept ⟨n, hn, rfl⟩
  | counted z => exact kept ⟨n, hn, rfl⟩

/-- **A node has the data last written to it**, or those that it had at the start. -/
theorem Steps.data_eq (h : t.Steps es) (ht : ∀ m, t.node? p = some m → m.data = data)
    (hn : (t.final es).node? p = some n) :
    n.data = (es.filterMap (·.written? p)).getLastD data := by
  -- what the first change leaves is what the others find, so the data at the start vary
  induction es generalizing t data with
  | nil => exact ht n hn
  | cons e es ih =>
    rw [ih h.2 (fun m hm => h.1.data_eq ht hm) hn, List.filterMap_cons]
    cases e.written? p with
    | none => rfl
    | some d => exact (List.getLastD_cons ..).symm

end Tree

namespace Store

variable {cs cs' : List Call} {s : Session} {p : String} {n : Node} {i : Nat} {data : ByteArray}
  {z : Stat}

/-- **The data that a run has last written to a node**, by a create or by a replacement; those of a
node that nobody has written to are empty. -/
def lastWritten (cs : List Call) (p : String) : ByteArray :=
  ((history .initial (Call.moves cs)).filterMap (·.written? p)).getLastD ByteArray.empty

theorem data_eq_lastWritten (hn : (initial.after cs).tree.node? p = some n) :
    n.data = lastWritten cs p := by
  refine (steps_history .initial (Call.moves cs)).data_eq (fun m hm => ?_)
    ((final_history .initial _).symm ▸ hn)
  rw [show initial.tree = Tree.initial from rfl, Tree.node?_initial] at hm
  split at hm
  · cases hm
    rfl
  · cases hm

/-! ## Two runs -/

theorem getElem?_transcript (st : Store) (cs : List Call) (i : Nat) :
    (st.transcript cs)[i]? = cs[i]?.map (·.told (st.after (cs.take i))) := by
  induction cs generalizing st i with
  | nil => rfl
  | cons c cs ih =>
    cases i with
    | zero => rfl
    | succ i =>
      rw [transcript, List.getElem?_cons_succ, ih, List.getElem?_cons_succ, List.take_succ_cons,
        after_cons]

/-- Who is given bytes has asked for those of a node, may read it, and is given those last written
to it. -/
theorem exists_getData_of_told (h : (initial.transcript cs)[i]? = some (.data (.ok (data, z)))) :
    ∃ s p, cs[i]? = some (.getData s p) ∧ data = lastWritten (cs.take i) p ∧
      ∃ n, (initial.after (cs.take i)).tree.node? p = some n ∧ n.Grants s .read := by
  rw [getElem?_transcript] at h
  obtain ⟨c, hc, htold⟩ := Option.map_eq_some_iff.mp h
  cases c with
  | getData s p =>
    obtain ⟨n, hn, hgrants, heq⟩ := exists_node_of_readable (Told.data.inj htold)
    cases heq
    exact ⟨s, p, hc, data_eq_lastWritten hn, n, hn, hgrants⟩
  | _ => cases htold

/-- Blank data are told in place of data. -/
theorem Told.exists_of_blanked {told : Told} (h : told.blanked = .data (.ok (data, z))) :
    ∃ data', told = .data (.ok (data', z)) ∧ blank data' = data := by
  cases told with
  | data result =>
    cases result with
    | error e => cases h
    | ok result =>
      cases h
      exact ⟨result.1, rfl, rfl⟩
  | _ => cases h

/-- **Data are opaque to a store.** In two runs with the same calls, but for the bytes of the data
that are sent, which are as many, every call is told the same, but for the bytes that `getData`
gives out, and both runs lead to the same store, but for the bytes that it holds. What bytes are
given out is told to the same call in either run, of a session that may read the node, and is what
was last written to the node in that run; so it is the same if that is. -/
theorem payloads_opaque (h : cs.map Call.blanked = cs'.map Call.blanked) :
    (initial.transcript cs).map Told.blanked = (initial.transcript cs').map Told.blanked ∧
    (initial.after cs).blanked = (initial.after cs').blanked ∧
    ∀ i data z, (initial.transcript cs)[i]? = some (.data (.ok (data, z))) →
      ∃ s p data', cs[i]? = some (.getData s p) ∧ cs'[i]? = some (.getData s p) ∧
        (initial.transcript cs')[i]? = some (.data (.ok (data', z))) ∧ data'.size = data.size ∧
        data = lastWritten (cs.take i) p ∧ data' = lastWritten (cs'.take i) p ∧
        (∃ n, (initial.after (cs.take i)).tree.node? p = some n ∧ n.Grants s .read) ∧
        ∃ n, (initial.after (cs'.take i)).tree.node? p = some n ∧ n.Grants s .read := by
  have htranscript : (initial.transcript cs).map Told.blanked =
      (initial.transcript cs').map Told.blanked := by
    rw [← transcript_blanked, h, transcript_blanked]
  have hafter : (initial.after cs).blanked = (initial.after cs').blanked := by
    rw [← after_blanked, h, after_blanked]
  refine ⟨htranscript, hafter, fun i data z htold => ?_⟩
  -- the other run gives out data at the same place
  have hblank : ((initial.transcript cs').map Told.blanked)[i]? =
      some (.data (.ok (blank data, z))) := by
    rw [← htranscript, List.getElem?_map, htold]
    rfl
  rw [List.getElem?_map] at hblank
  obtain ⟨told, htold', hblanked⟩ := Option.map_eq_some_iff.mp hblank
  obtain ⟨data', rfl, hsize⟩ := Told.exists_of_blanked hblanked
  obtain ⟨s, p, hc, hdata, hgrants⟩ := exists_getData_of_told htold
  obtain ⟨s', p', hc', hdata', hgrants'⟩ := exists_getData_of_told htold'
  -- and it is the same call that asks for them
  have hsame : some (Call.getData s p) = some (Call.getData s' p') := by
    have hi : (cs.map Call.blanked)[i]? = (cs'.map Call.blanked)[i]? := by rw [h]
    rwa [List.getElem?_map, List.getElem?_map, hc, hc'] at hi
  cases hsame
  exact ⟨s, p, data', hc, hc', htold', blank_eq_iff.mp hsize, hdata, hdata', hgrants, hgrants'⟩

/-- Data are sent in a request whose answer is lost, and are read. -/
def someCalls (data : ByteArray) : List Call :=
  [.move (.connect []),
    .move (.submit ⟨1, []⟩ (.create "/a" ByteArray.empty .worldOpen .persistent)),
    .move (.failAfter .connectionLoss 1),
    .move (.submit ⟨1, []⟩ (.setData "/a" data anyVersion)),
    .getData ⟨1, []⟩ "/a"]

theorem payloads_opaque_of_someCalls :
    (someCalls ⟨#[1, 2]⟩).map Call.blanked = (someCalls ⟨#[3, 4]⟩).map Call.blanked ∧
    (initial.transcript (someCalls ⟨#[1, 2]⟩)).map Told.blanked =
      (initial.transcript (someCalls ⟨#[3, 4]⟩)).map Told.blanked ∧
    lastWritten ((someCalls ⟨#[1, 2]⟩).take 4) "/a" = ⟨#[1, 2]⟩ := by
  have h : (someCalls ⟨#[1, 2]⟩).map Call.blanked = (someCalls ⟨#[3, 4]⟩).map Call.blanked := rfl
  obtain ⟨htranscript, -, hdata⟩ := payloads_opaque h
  have hread : (initial.after ((someCalls ⟨#[1, 2]⟩).take 4)).getData ⟨1, []⟩ "/a" =
      .ok (⟨#[1, 2]⟩, ⟨1, 2, 1, 0, 0, 0, 2, 0⟩) := by decide +kernel
  have htold : (initial.transcript (someCalls ⟨#[1, 2]⟩))[4]? = some (.data (.ok (⟨#[1, 2]⟩, _))) :=
    (getElem?_transcript ..).trans (congrArg (some ∘ Told.data) hread)
  obtain ⟨s, p, data', hc, -, -, -, hwritten, -⟩ := hdata 4 _ _ htold
  cases hc
  exact ⟨h, htranscript, hwritten.symm⟩

end Store

end Coordination
