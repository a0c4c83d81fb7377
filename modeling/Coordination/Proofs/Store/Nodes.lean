import Coordination.Store.Tree

/-!
# The tree as a map from paths to nodes

Every operation on a tree is known by what it does to the node at each path: `Tree.node?` is the
view, and each operation has one equation. What a request needs to be applied, and what comes of it,
is the relation `Tree.Applied`, one constructor for each kind of answer; later proofs take requests
apart through it and do not look into the operations again.

## Main definitions

* `Tree.put`: the tree with a node put in the place of another
* `Tree.Applied`: the requests that a tree accepts, with their answers and the trees they lead to

## Main results

* `node?_attach`, `node?_remove`, `node?_put`: the operations through the view
* `node?_attach_cases`, `node?_remove_cases`, `node?_put_cases`: where a node comes from that is
  there afterwards
* `apply_eq_ok_iff`: `Tree.apply` accepts what `Tree.Applied` says
* `applyAll_keeps`: what the requests of a batch keep
-/

namespace Coordination

namespace Tree

variable {t t' : Tree} {p q above : String} {n k : Node} {s : Session} {stamp : Int}

/-! ## The view -/

theorem ext_node? (hn : ∀ p, t.node? p = t'.node? p) (ht : t.transaction = t'.transaction) :
    t = t' := by
  obtain ⟨nodes, transaction⟩ := t
  obtain ⟨nodes', transaction'⟩ := t'
  obtain rfl : nodes = nodes' := Std.ExtTreeMap.ext_getElem? fun p => hn p
  obtain rfl : transaction = transaction' := ht
  rfl

/-- The tree with a node put in the place of another. -/
def put (t : Tree) (p : String) (n : Node) : Tree := { t with nodes := t.nodes.insert p n }

theorem node?_initial (p : String) :
    initial.node? p =
      if p = Path.root then some (.leaf ByteArray.empty .worldOpen .zero .persistent)
      else none := by
  rw [node?, initial, Std.ExtTreeMap.getElem?_insert]
  simp [@eq_comm _ p]

@[simp] theorem node?_transaction (t : Tree) (z : Int) (p : String) :
    ({ t with transaction := z } : Tree).node? p = t.node? p := rfl

theorem node?_put (t : Tree) (p q : String) (n : Node) :
    (t.put p n).node? q = if q = p then some n else t.node? q := by
  rw [node?, put, Std.ExtTreeMap.getElem?_insert]
  simp [node?, @eq_comm _ q]

/-- What is there after a node has been put somewhere is that node, or was there before. -/
theorem node?_put_cases (hk : (t.put p n).node? q = some k) :
    (q = p ∧ k = n) ∨ (q ≠ p ∧ t.node? q = some k) := by
  rw [node?_put] at hk
  split at hk
  · rename_i hq
    exact .inl ⟨hq, (Option.some.inj hk).symm⟩
  · rename_i hq
    exact .inr ⟨hq, hk⟩

theorem node?_erase (t : Tree) (p q : String) :
    ({ t with nodes := t.nodes.erase p } : Tree).node? q = if q = p then none else t.node? q := by
  rw [node?, Std.ExtTreeMap.getElem?_erase]
  simp [node?, @eq_comm _ q]

theorem node?_update (t : Tree) (p q : String) (f : Node → Node) :
    (t.update p f).node? q = if q = p then (t.node? q).map f else t.node? q := by
  rw [node?, update, Std.ExtTreeMap.getElem?_modify]
  by_cases h : q = p
  · subst h
    simp [node?]
  · simp [node?, h, Ne.symm h]

theorem attach_eq_put (t : Tree) (above p : String) (n : Node) :
    t.attach above p n = (t.update above (·.gain (Path.name p))).put p n := rfl

theorem node?_attach (t : Tree) (above p q : String) (n : Node) :
    (t.attach above p n).node? q =
      if q = p then some n
      else if q = above then (t.node? q).map (·.gain (Path.name p)) else t.node? q := by
  rw [attach_eq_put, node?_put, node?_update]

/-- What is there after a node has come is the node, its parent with one more child, or was there
before. -/
theorem node?_attach_cases (hk : (t.attach above p n).node? q = some k) :
    (q = p ∧ k = n) ∨
      (q ≠ p ∧ q = above ∧ ∃ m, t.node? q = some m ∧ k = m.gain (Path.name p)) ∨
      (q ≠ p ∧ q ≠ above ∧ t.node? q = some k) := by
  rw [attach_eq_put] at hk
  rcases node?_put_cases hk with ⟨hq, hk⟩ | ⟨hq, hk⟩
  · exact .inl ⟨hq, hk⟩
  · rw [node?_update] at hk
    split at hk
    · rename_i habove
      obtain ⟨m, hm, hgain⟩ := Option.map_eq_some_iff.mp hk
      exact .inr (.inl ⟨hq, habove, m, hm, hgain.symm⟩)
    · rename_i habove
      exact .inr (.inr ⟨hq, habove, hk⟩)

theorem node?_remove (h : Path.parent? p = some above) (hne : above ≠ p) (q : String) :
    (t.remove p).node? q =
      if q = p then none
      else if q = above then (t.node? q).map (·.lose (Path.name p)) else t.node? q := by
  -- the parent is changed in a tree that the node has left already
  simp only [remove, h, node?_update, node?_erase]
  by_cases hq : q = p
  · subst hq
    simp [Ne.symm hne]
  · simp [hq]

/-- What is there after a node has gone is its parent with one child less, or was there before. -/
theorem node?_remove_cases (h : Path.parent? p = some above) (hne : above ≠ p)
    (hk : (t.remove p).node? q = some k) :
    q ≠ p ∧ ((q = above ∧ ∃ m, t.node? q = some m ∧ k = m.lose (Path.name p)) ∨
      (q ≠ above ∧ t.node? q = some k)) := by
  rw [node?_remove h hne] at hk
  split at hk
  · cases hk
  · rename_i hq
    refine ⟨hq, ?_⟩
    split at hk
    · rename_i habove
      obtain ⟨m, hm, hlose⟩ := Option.map_eq_some_iff.mp hk
      exact .inl ⟨habove, m, hm, hlose.symm⟩
    · rename_i habove
      exact .inr ⟨habove, hk⟩

@[simp] theorem transaction_attach : (t.attach above p n).transaction = t.transaction := rfl

@[simp] theorem transaction_put : (t.put p n).transaction = t.transaction := rfl

@[simp] theorem transaction_remove (t : Tree) (p : String) :
    (t.remove p).transaction = t.transaction := by
  unfold remove
  split <;> rfl

/-! ## The number of nodes -/

theorem size_update (t : Tree) (p : String) (f : Node → Node) : (t.update p f).size = t.size :=
  Std.ExtTreeMap.size_modify

theorem size_put (hp : (t.node? p).isSome) : (t.put p n).size = t.size := by
  have hmem : p ∈ t.nodes := Std.ExtTreeMap.isSome_getElem?_iff_mem.mp hp
  show (t.nodes.insert p n).size = t.nodes.size
  rw [Std.ExtTreeMap.size_insert, if_pos (Std.ExtTreeMap.contains_iff_mem.mpr hmem)]

theorem size_put_of_fresh (hp : t.node? p = none) : (t.put p n).size = t.size + 1 := by
  have hmem : p ∉ t.nodes := fun h => by
    have hsome : (t.node? p).isSome := Std.ExtTreeMap.isSome_getElem?_iff_mem.mpr h
    rw [hp] at hsome
    cases hsome
  show (t.nodes.insert p n).size = t.nodes.size + 1
  rw [Std.ExtTreeMap.size_insert, if_neg (mt Std.ExtTreeMap.contains_iff_mem.mp hmem)]

theorem size_remove (hp : (t.node? p).isSome) : (t.remove p).size + 1 = t.size := by
  have hmem : p ∈ t.nodes := Std.ExtTreeMap.isSome_getElem?_iff_mem.mp hp
  have hpos : t.nodes.size ≠ 0 :=
    mt Std.ExtTreeMap.eq_empty_iff_size_eq_zero.mpr (Std.ExtTreeMap.ne_empty_of_mem hmem)
  have herase : (t.nodes.erase p).size + 1 = t.nodes.size := by
    rw [Std.ExtTreeMap.size_erase, if_pos (Std.ExtTreeMap.contains_iff_mem.mpr hmem)]
    omega
  unfold remove
  split
  · exact herase
  · exact (congrArg (· + 1) (size_update _ _ _)).trans herase

theorem isSome_node?_remove_of_ne (hq : (t.node? q).isSome) (hne : q ≠ p) :
    ((t.remove p).node? q).isSome := by
  unfold remove
  split
  · rw [node?_erase, if_neg hne]
    exact hq
  · rw [node?_update, node?_erase, if_neg hne]
    split <;> simpa using hq

/-! ## Paths of nodes with a property -/

theorem mem_pathsWhere {f : Node → Bool} :
    p ∈ t.pathsWhere f ↔ ∃ n, t.node? p = some n ∧ f n = true := by
  rw [pathsWhere, Std.ExtTreeMap.mem_keys, ← Std.ExtTreeMap.isSome_getElem?_iff_mem,
    Std.ExtTreeMap.getElem?_filter']
  cases hn : t.nodes[p]? <;> simp [node?, hn, Option.filter]

theorem nodup_pathsWhere (t : Tree) (f : Node → Bool) : (t.pathsWhere f).Nodup :=
  Std.ExtTreeMap.nodup_keys

/-! ## Requests -/

/-- Whether a version is one that a request names. -/
def Names (expected actual : Int32) : Prop := expected = anyVersion ∨ expected = actual

theorem checkVersion_eq_ok_iff {expected actual : Int32} :
    checkVersion expected actual = .ok () ↔ Names expected actual := by
  unfold checkVersion Names
  split <;> simp_all

/-- The stat of a node whose data transaction `stamp` replaces. -/
def writtenStat (stat : Stat) (data : ByteArray) (stamp : Int) : Stat :=
  { stat with
    version := stat.version + 1
    modified := stamp
    dataLength := Int32.ofNat data.size }

/-- **The requests that a tree accepts**, with the answer to each and the tree that it leads to. -/
inductive Applied (t : Tree) (s : Session) (stamp : Int) : Request → Answer → Tree → Prop where
  /-- A node is created below one that lasts and may be added to. -/
  | created {r : Request} {data : ByteArray} {acl : Acl} {mode : CreateMode} {above : String}
      {parent : Node} (hmode : r.mode? = some mode) (hdata : r.data? = some data)
      (hacl : r.acl? = some acl) (hvalid : Path.isValid r.path)
      (habove : Path.parent? r.path = some above) (hparent : t.node? above = some parent)
      (hpermits : parent.permits s .create) (hne : acl ≠ [])
      (hlasts : parent.mode.isEphemeral = false)
      (hfresh : t.node? (actualPath parent r.path mode) = none) :
      Applied t s stamp r
        (.created (actualPath parent r.path mode) (some (freshStat s data mode stamp)))
        (t.attach above (actualPath parent r.path mode)
          (.leaf data acl (freshStat s data mode stamp) mode))
  /-- A node without children is deleted: by permission and version, or as a container. -/
  | deleted {r : Request} {above : String} {parent node : Node} (htype : r.type = .delete)
      (hvalid : Path.isValid r.path) (habove : Path.parent? r.path = some above)
      (hparent : t.node? above = some parent) (hnode : t.node? r.path = some node)
      (hpermits : ∀ v, r.version? = some v → parent.permits s .delete)
      (hversion : ∀ v, r.version? = some v → Names v node.stat.version)
      (hcontainer : r.version? = none → node.mode.isContainer)
      (hchildless : node.children = ∅) : Applied t s stamp r .deleted (t.remove r.path)
  /-- The data of a node of the version named is replaced. -/
  | dataSet {p : String} {data : ByteArray} {v : Int32} {node : Node}
      (hvalid : Path.isValid p) (hnode : t.node? p = some node) (hpermits : node.permits s .write)
      (hversion : Names v node.stat.version) :
      Applied t s stamp (.setData p data v) (.dataSet (writtenStat node.stat data stamp))
        (t.put p { node with data, stat := writtenStat node.stat data stamp })
  /-- A node has the version named. -/
  | checked {p : String} {v : Int32} {node : Node} (hvalid : Path.isValid p)
      (hnode : t.node? p = some node) (hversion : Names v node.stat.version) :
      Applied t s stamp (.check p v) .checked t

theorem create_eq_ok_iff {data : ByteArray} {acl : Acl} {mode : CreateMode} {a : Answer} :
    t.create s stamp p data acl mode = .ok (a, t') ↔
      ∃ above parent, Path.parent? p = some above ∧ t.node? above = some parent ∧
        parent.permits s .create ∧ acl ≠ [] ∧ parent.mode.isEphemeral = false ∧
        t.node? (actualPath parent p mode) = none ∧
        a = .created (actualPath parent p mode) (some (freshStat s data mode stamp)) ∧
        t' = t.attach above (actualPath parent p mode)
          (.leaf data acl (freshStat s data mode stamp) mode) := by
  unfold create
  dsimp only
  constructor
  · intro h
    repeat' split at h
    all_goals simp_all
  · rintro ⟨above, parent, habove, hparent, hpermits, hne, hlasts, hfresh, rfl, rfl⟩
    simp [habove, hparent, hpermits, hne, hlasts, hfresh]

theorem delete_eq_ok_iff {version : Int32} {asContainer : Bool} {a : Answer} :
    t.delete s p version asContainer = .ok (a, t') ↔
      ∃ above parent node, Path.parent? p = some above ∧ t.node? above = some parent ∧
        t.node? p = some node ∧ (asContainer = false → parent.permits s .delete) ∧
        (asContainer = true → node.mode.isContainer) ∧ Names version node.stat.version ∧
        node.children = ∅ ∧ a = .deleted ∧ t' = t.remove p := by
  unfold delete
  constructor
  · intro h
    repeat' split at h
    all_goals simp_all [← checkVersion_eq_ok_iff]
  · rintro ⟨above, parent, node, habove, hparent, hnode, hpermits, hcontainer, hv, hch, rfl, rfl⟩
    rw [← checkVersion_eq_ok_iff] at hv
    cases asContainer <;> simp_all

theorem setData_eq_ok_iff {data : ByteArray} {version : Int32} {a : Answer} :
    t.setData s stamp p data version = .ok (a, t') ↔
      ∃ node, t.node? p = some node ∧ node.permits s .write ∧ Names version node.stat.version ∧
        a = .dataSet (writtenStat node.stat data stamp) ∧
        t' = t.put p { node with data, stat := writtenStat node.stat data stamp } := by
  unfold setData
  constructor
  · intro h
    repeat' split at h
    all_goals simp_all [← checkVersion_eq_ok_iff, writtenStat, put]
  · rintro ⟨node, hnode, hpermits, hv, rfl, rfl⟩
    rw [← checkVersion_eq_ok_iff] at hv
    simp [hnode, hpermits, hv, writtenStat, put]

theorem check_eq_ok_iff {version : Int32} {a : Answer} :
    t.check p version = .ok (a, t') ↔
      ∃ node, t.node? p = some node ∧ Names version node.stat.version ∧ a = .checked ∧ t' = t := by
  unfold check
  constructor
  · intro h
    repeat' split at h
    all_goals simp_all [← checkVersion_eq_ok_iff]
  · rintro ⟨node, hnode, hv, rfl, rfl⟩
    rw [← checkVersion_eq_ok_iff] at hv
    simp [hnode, hv]

/-- **A tree accepts the requests that `Tree.Applied` says, and answers them so.** -/
theorem apply_eq_ok_iff {r : Request} {a : Answer} :
    t.apply s stamp r = .ok (a, t') ↔ t.Applied s stamp r a t' := by
  unfold apply
  constructor
  · intro h
    split at h
    · simp at h
    · rename_i hvalid
      simp only [Bool.not_eq_true, Bool.not_eq_false'] at hvalid
      -- one case for each kind of request; the kinds of create and of delete share an answer
      cases r with
      | create p data acl mode =>
        obtain ⟨above, parent, habove, hparent, hpermits, hne, hlasts, hfresh, rfl, rfl⟩ :=
          create_eq_ok_iff.mp h
        exact .created rfl rfl rfl hvalid habove hparent hpermits hne hlasts hfresh
      | createContainer p data acl =>
        obtain ⟨above, parent, habove, hparent, hpermits, hne, hlasts, hfresh, rfl, rfl⟩ :=
          create_eq_ok_iff.mp h
        exact .created rfl rfl rfl hvalid habove hparent hpermits hne hlasts hfresh
      | delete p v =>
        obtain ⟨above, parent, node, habove, hparent, hnode, hpermits, -, hv, hch, rfl, rfl⟩ :=
          delete_eq_ok_iff.mp h
        refine .deleted rfl hvalid habove hparent hnode (fun _ _ => hpermits rfl) ?_ ?_ hch
        · rintro _ ⟨rfl⟩
          exact hv
        · rintro ⟨⟩
      | deleteContainer p =>
        obtain ⟨above, parent, node, habove, hparent, hnode, -, hcontainer, -, hch, rfl, rfl⟩ :=
          delete_eq_ok_iff.mp h
        exact .deleted rfl hvalid habove hparent hnode (by rintro _ ⟨⟩) (by rintro _ ⟨⟩)
          (fun _ => hcontainer rfl) hch
      | setData p data v =>
        obtain ⟨node, hnode, hpermits, hv, rfl, rfl⟩ := setData_eq_ok_iff.mp h
        exact .dataSet hvalid hnode hpermits hv
      | check p v =>
        obtain ⟨node, hnode, hv, rfl, rfl⟩ := check_eq_ok_iff.mp h
        exact .checked hvalid hnode hv
  · intro h
    cases h with
    | @created _ data acl mode above parent hmode hdata hacl hvalid habove hparent hpermits hne
        hlasts hfresh =>
      rw [if_neg (by simpa using hvalid)]
      -- only the two kinds of create have a mode
      cases r <;> simp only [Request.mode?, Request.data?, Request.acl?, Option.some.injEq,
        reduceCtorEq] at hmode hdata hacl
      all_goals
        subst hmode hdata hacl
        exact create_eq_ok_iff.mpr
          ⟨above, parent, habove, hparent, hpermits, hne, hlasts, hfresh, rfl, rfl⟩
    | @deleted _ above parent node htype hvalid habove hparent hnode hpermits hversion hcontainer
        hchildless =>
      rw [if_neg (by simpa using hvalid)]
      cases r <;> simp only [Request.type, reduceCtorEq] at htype
      · exact delete_eq_ok_iff.mpr ⟨above, parent, node, habove, hparent, hnode,
          fun _ => hpermits _ rfl, by simp, hversion _ rfl, hchildless, rfl, rfl⟩
      · exact delete_eq_ok_iff.mpr ⟨above, parent, node, habove, hparent, hnode,
          by simp, fun _ => hcontainer rfl, Or.inl rfl, hchildless, rfl, rfl⟩
    | dataSet hvalid hnode hpermits hversion =>
      rw [if_neg (by simpa [Request.path] using hvalid)]
      exact setData_eq_ok_iff.mpr ⟨_, hnode, hpermits, hversion, rfl, rfl⟩
    | checked hvalid hnode hversion =>
      rw [if_neg (by simpa [Request.path] using hvalid)]
      exact check_eq_ok_iff.mpr ⟨_, hnode, hversion, rfl, rfl⟩

/-- **What every request of a batch keeps that is applied, the batch keeps.** -/
theorem applyAll_keeps {P : Tree → Prop} {rs : List Request} {as : List Answer} {i : Nat}
    (hkeeps : ∀ r ∈ rs, ∀ t a t', P t → t.Applied s stamp r a t' → P t') (h : P t)
    (ha : t.applyAll s stamp i rs = .ok (as, t')) : P t' := by
  induction rs generalizing t i as with
  | nil =>
    obtain ⟨-, rfl⟩ : [] = as ∧ t = t' := by simpa [applyAll] using ha
    exact h
  | cons r rs ih =>
    unfold applyAll at ha
    repeat' split at ha
    all_goals simp only [reduceCtorEq, Except.ok.injEq, Prod.mk.injEq] at ha
    rename_i a t₁ happly _ as₁ t₂ hrest
    obtain ⟨-, rfl⟩ := ha
    have hfirst := hkeeps r List.mem_cons_self t a t₁ h (apply_eq_ok_iff.mp happly)
    exact ih (fun r' hr' => hkeeps r' (List.mem_cons_of_mem _ hr')) hfirst hrest

/-- What it takes to replace an access list. -/
theorem setAcl_eq_ok_iff {acl : Acl} {version : Int32} {stat : Stat} :
    t.setAcl s p acl version = .ok (stat, t') ↔
      ∃ node, t.node? p = some node ∧ node.permits s .admin ∧ Names version node.stat.aclVersion ∧
        stat = { node.stat with aclVersion := node.stat.aclVersion + 1 } ∧
        t' = t.put p { node with acl, stat } := by
  unfold setAcl
  constructor
  · intro h
    repeat' split at h
    all_goals simp only [reduceCtorEq, Except.ok.injEq, Prod.mk.injEq] at h
    rename_i node hnode hpermits _ hv
    obtain ⟨rfl, rfl⟩ := h
    exact ⟨node, hnode, by simpa using hpermits, checkVersion_eq_ok_iff.mp hv, rfl, rfl⟩
  · rintro ⟨node, hnode, hpermits, hv, rfl, rfl⟩
    rw [← checkVersion_eq_ok_iff] at hv
    simp [hnode, hpermits, hv, put]

end Tree

end Coordination
