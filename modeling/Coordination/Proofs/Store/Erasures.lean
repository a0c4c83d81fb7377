import Coordination.Proofs.Store.Nodes

/-!
# What no request looks at

A tree keeps the bytes of its data and the numbers of its transactions, and gives both out, but it
accepts and refuses requests whatever they are: of data only the length counts, of transactions
nothing does. To make this precise an erasure puts other data of the same length, and other numbers,
in their places. Whatever is done to a tree, by requests, grants or removals, is done to the erased
tree in the same way.

## Main definitions

* `Erasure`: what other data and other numbers are put in place of the real ones
* `Tree.erased`, `Request.erased`, `Answer.erased`: what is left

## Main results

* `Tree.apply_erased`, `Tree.applyAll_erased`: erasing commutes with applying requests
* `Tree.setAcl_erased`, `Tree.removeOwned_erased`, `Tree.reap_erased`: and with the other changes
-/

namespace Coordination

/-- **What data and numbers of transactions are overwritten with.** Data keep their length. -/
structure Erasure where
  /-- What is put for the number of a transaction. -/
  number : Int → Int
  /-- What is put for data. -/
  data : ByteArray → ByteArray
  /-- No byte is added or taken away. -/
  size_data (d : ByteArray) : (data d).size = d.size

/-- The stat with the numbers of transactions overwritten. -/
def Stat.erased (e : Erasure) (z : Stat) : Stat :=
  { z with created := e.number z.created, modified := e.number z.modified }

/-- The node with its data, and the numbers of its transactions, overwritten. -/
def Node.erased (e : Erasure) (n : Node) : Node :=
  { n with data := e.data n.data, stat := n.stat.erased e }

/-- The answer with the numbers of transactions overwritten. -/
def Answer.erased (e : Erasure) : Answer → Answer
  | created path stat => .created path (stat.map (·.erased e))
  | deleted => .deleted
  | dataSet stat => .dataSet (stat.erased e)
  | checked => .checked
  | failed code => .failed code

/-- The request with its data overwritten. -/
def Request.erased (e : Erasure) : Request → Request
  | create p data acl mode => .create p (e.data data) acl mode
  | createContainer p data acl => .createContainer p (e.data data) acl
  | delete p version => .delete p version
  | deleteContainer p => .deleteContainer p
  | setData p data version => .setData p (e.data data) version
  | check p version => .check p version

variable {e : Erasure}

@[simp] theorem Request.path_erased (r : Request) : (r.erased e).path = r.path := by
  cases r <;> rfl

@[simp] theorem Request.isMutation_erased (r : Request) :
    (r.erased e).isMutation = r.isMutation := by
  cases r <;> rfl

namespace Node

-- Not by `rfl` alone, so that `simp` rewrites conditions together with their instances.
@[simp] theorem permits_erased (n : Node) (s : Session) (p : Permissions) :
    (n.erased e).permits s p = n.permits s p := by
  cases n
  rfl

@[simp] theorem mode_erased (n : Node) : (n.erased e).mode = n.mode := by
  cases n
  rfl

@[simp] theorem children_erased (n : Node) : (n.erased e).children = n.children := by
  cases n
  rfl

@[simp] theorem version_erased (n : Node) : (n.erased e).stat.version = n.stat.version := by
  cases n
  rfl

@[simp] theorem aclVersion_erased (n : Node) :
    (n.erased e).stat.aclVersion = n.stat.aclVersion := by
  cases n
  rfl

@[simp] theorem owner_erased (n : Node) : (n.erased e).stat.owner = n.stat.owner := by
  cases n
  rfl

@[simp] theorem isIdle_erased (n : Node) : (n.erased e).isIdle = n.isIdle := by
  cases n
  rfl

theorem gain_erased (n : Node) (c : String) : (n.gain c).erased e = (n.erased e).gain c := rfl

theorem lose_erased (n : Node) (c : String) : (n.lose c).erased e = (n.erased e).lose c := rfl

end Node

namespace Tree

/-- The tree with the data of its nodes, and the numbers of its transactions, overwritten. -/
def erased (e : Erasure) (t : Tree) : Tree :=
  { nodes := t.nodes.map fun _ n => n.erased e, transaction := e.number t.transaction }

variable (t : Tree) {s : Session} {p : String} {f : Node → Node}

/-! ## Nodes -/

@[simp] theorem node?_erased (p : String) :
    (t.erased e).node? p = (t.node? p).map (·.erased e) := by
  rw [node?, erased, Std.ExtTreeMap.getElem?_map]
  rfl

@[simp] theorem size_erased : (t.erased e).size = t.size := Std.ExtTreeMap.size_map

theorem put_erased (p : String) (n : Node) :
    (t.put p n).erased e = (t.erased e).put p (n.erased e) := by
  refine ext_node? (fun q => ?_) rfl
  rw [node?_erased, node?_put, node?_put, node?_erased]
  split <;> rfl

theorem update_erased (p : String) (hf : ∀ n, (f n).erased e = f (n.erased e)) :
    (t.update p f).erased e = (t.erased e).update p f := by
  refine ext_node? (fun q => ?_) rfl
  rw [node?_erased, node?_update, node?_update, node?_erased]
  split
  · rw [Option.map_map, Option.map_map]
    exact congrArg (Option.map · _) (funext hf)
  · rfl

theorem erase_erased (p : String) :
    ({ t with nodes := t.nodes.erase p } : Tree).erased e =
      { t.erased e with nodes := (t.erased e).nodes.erase p } := by
  refine ext_node? (fun q => ?_) rfl
  rw [node?_erased, node?_erase, node?_erase, node?_erased]
  split <;> rfl

theorem attach_erased (above p : String) (n : Node) :
    (t.attach above p n).erased e = (t.erased e).attach above p (n.erased e) := by
  rw [attach_eq_put, attach_eq_put, put_erased,
    update_erased t above fun n => n.gain_erased (Path.name p)]

theorem remove_erased (p : String) : (t.remove p).erased e = (t.erased e).remove p := by
  unfold remove
  cases Path.parent? p with
  | none => exact erase_erased t p
  | some above =>
    -- the parent is changed in a tree that the node has left already
    dsimp only
    rw [update_erased _ above fun n => n.lose_erased (Path.name p), erase_erased]

theorem removeAll_erased (ps : List String) :
    (t.removeAll ps).erased e = (t.erased e).removeAll ps := by
  induction ps generalizing t with
  | nil => rfl
  | cons p ps ih =>
    show ((t.remove p).removeAll ps).erased e = ((t.erased e).remove p).removeAll ps
    rw [ih, remove_erased]

theorem pathsWhere_erased {f : Node → Bool} (hf : ∀ n : Node, f (n.erased e) = f n) :
    (t.erased e).pathsWhere f = t.pathsWhere f := by
  -- the paths are listed in the order of the tree, so it is enough that the same nodes remain
  have hfilter : (t.erased e).nodes.filter (fun _ n => f n) =
      (t.nodes.filter fun _ n => f n).map fun _ n => n.erased e := by
    refine Std.ExtTreeMap.ext_getElem? fun q => ?_
    rw [erased, Std.ExtTreeMap.getElem?_filter', Std.ExtTreeMap.getElem?_map,
      Std.ExtTreeMap.getElem?_map, Std.ExtTreeMap.getElem?_filter', Option.filter_map]
    exact congrArg (fun g => (Option.filter g _).map _) (funext hf)
  rw [pathsWhere, hfilter, Std.ExtTreeMap.keys_map, pathsWhere]

/-! ## Removals -/

theorem removeOwned_erased (session : Int) :
    (t.removeOwned session).erased e = (t.erased e).removeOwned session := by
  rw [removeOwned, removeOwned, removeAll_erased, pathsWhere_erased t fun n => by simp]

theorem reapRounds_erased (rounds : Nat) :
    reapRounds rounds (t.erased e) =
      ((t.reapRounds rounds).1, (t.reapRounds rounds).2.erased e) := by
  induction rounds generalizing t with
  | zero => rfl
  | succ rounds ih =>
    rw [reapRounds, reapRounds, pathsWhere_erased t Node.isIdle_erased]
    cases t.pathsWhere (·.isIdle) with
    | nil => rfl
    | cons p ps =>
      -- the next round goes on from the tree without the containers of this one
      dsimp only
      rw [← removeAll_erased, ih]

theorem reap_erased : (t.erased e).reap = (t.reap.1, t.reap.2.erased e) := by
  rw [reap, size_erased, reapRounds_erased, reap]

/-! ## Requests -/

@[simp] theorem actualPath_erased (n : Node) (p : String) (mode : CreateMode) :
    actualPath (n.erased e) p mode = actualPath n p mode := by
  cases n
  rfl

theorem freshStat_erased (s : Session) (data : ByteArray) (mode : CreateMode) (stamp : Int) :
    (freshStat s data mode stamp).erased e =
      freshStat s (e.data data) mode (e.number stamp) := by
  rw [freshStat, freshStat, e.size_data]
  rfl

variable (e) in
/-- What has come of a request, erased. -/
def outcomeErased (result : Answer × Tree) : Answer × Tree :=
  (result.1.erased e, result.2.erased e)

theorem create_erased (s : Session) (stamp : Int) (p : String) (data : ByteArray) (acl : Acl)
    (mode : CreateMode) :
    (t.erased e).create s (e.number stamp) p (e.data data) acl mode =
      (t.create s stamp p data acl mode).map (outcomeErased e) := by
  unfold create
  cases Path.parent? p with
  | none => rfl
  | some above =>
    dsimp only
    rw [node?_erased]
    cases t.node? above with
    | none => rfl
    | some parent =>
      -- both trees put the same questions to the parent
      simp only [Option.map_some, Node.permits_erased, Node.mode_erased, actualPath_erased,
        node?_erased, Option.isSome_map]
      repeat' split
      all_goals try rfl
      rw [Except.map, outcomeErased, attach_erased, ← freshStat_erased]
      rfl

theorem delete_erased (s : Session) (p : String) (version : Int32) (asContainer : Bool) :
    (t.erased e).delete s p version asContainer =
      (t.delete s p version asContainer).map (outcomeErased e) := by
  unfold delete
  cases Path.parent? p with
  | none => rfl
  | some above =>
    dsimp only
    rw [node?_erased]
    cases t.node? above with
    | none => rfl
    | some parent =>
      simp only [Option.map_some, Node.permits_erased, node?_erased]
      split
      · rfl
      · cases t.node? p with
        | none => rfl
        | some node =>
          simp only [Option.map_some, Node.mode_erased, Node.version_erased, Node.children_erased]
          repeat' split
          all_goals try rfl
          rw [Except.map, outcomeErased, remove_erased]
          rfl

theorem setData_erased (s : Session) (stamp : Int) (p : String) (data : ByteArray)
    (version : Int32) :
    (t.erased e).setData s (e.number stamp) p (e.data data) version =
      (t.setData s stamp p data version).map (outcomeErased e) := by
  unfold setData
  rw [node?_erased]
  cases t.node? p with
  | none => rfl
  | some node =>
    -- of the data the tree writes down the length
    simp only [Option.map_some, Node.permits_erased, Node.version_erased, e.size_data]
    repeat' split
    all_goals try rfl
    show _ = Except.ok (Answer.dataSet (Stat.erased e _), (t.put p _).erased e)
    rw [put_erased]
    rfl

theorem check_erased (p : String) (version : Int32) :
    (t.erased e).check p version = (t.check p version).map (outcomeErased e) := by
  unfold check
  rw [node?_erased]
  cases t.node? p with
  | none => rfl
  | some node =>
    simp only [Option.map_some, Node.version_erased]
    split <;> rfl

/-- **A request does the same to a tree** whatever its data are, of the length that they have, and
whatever the numbers of the transactions are. -/
theorem apply_erased (s : Session) (stamp : Int) (r : Request) :
    (t.erased e).apply s (e.number stamp) (r.erased e) =
      (t.apply s stamp r).map (outcomeErased e) := by
  unfold apply
  rw [Request.path_erased]
  split
  · rfl
  · cases r with
    | create p data acl mode => exact t.create_erased s stamp p data acl mode
    | createContainer p data acl => exact t.create_erased s stamp p data acl .container
    | delete p version => exact t.delete_erased s p version false
    | deleteContainer p => exact t.delete_erased s p anyVersion true
    | setData p data version => exact t.setData_erased s stamp p data version
    | check p version => exact t.check_erased p version

/-- **So does a batch.** -/
theorem applyAll_erased (s : Session) (stamp : Int) (index : Nat) (rs : List Request) :
    (t.erased e).applyAll s (e.number stamp) index (rs.map (·.erased e)) =
      (t.applyAll s stamp index rs).map fun (as, t') => (as.map (·.erased e), t'.erased e) := by
  induction rs generalizing t index with
  | nil => rfl
  | cons r rs ih =>
    rw [List.map_cons, applyAll, applyAll, apply_erased]
    cases t.apply s stamp r with
    | error code => rfl
    | ok result =>
      obtain ⟨a, t'⟩ := result
      simp only [Except.map, outcomeErased]
      rw [ih]
      cases t'.applyAll s stamp (index + 1) rs <;> rfl

/-- **So does a change of an access list.** -/
theorem setAcl_erased (s : Session) (p : String) (acl : Acl) (version : Int32) :
    (t.erased e).setAcl s p acl version =
      (t.setAcl s p acl version).map fun (z, t') => (z.erased e, t'.erased e) := by
  unfold setAcl
  rw [node?_erased]
  cases t.node? p with
  | none => rfl
  | some node =>
    simp only [Option.map_some, Node.permits_erased, Node.aclVersion_erased]
    repeat' split
    all_goals try rfl
    show _ = Except.ok (Stat.erased e _, (t.put p _).erased e)
    rw [put_erased]
    rfl

end Tree

end Coordination
