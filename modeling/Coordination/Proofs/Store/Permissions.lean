import Coordination.Proofs.Store.Journal

/-!
# What a session may do to a tree

A session holds a permission on a node when one grant of the node's access list gives it that
permission, to everybody or to one of the session's identities. Every part of a node is guarded by a
permission: its data by the right to write, its access list by the right to administer, its children
by the rights to create and to delete. The rest of a node never changes. Only the deletion of a
childless container is open to everybody.

A batch is guarded request by request, each one on the tree that the requests before it have left
behind, so that a node that the batch creates is guarded by its access list from then on.

## Main definitions

* `Node.Grants`: the permissions that a session holds on a node
* `Tree.Guards`: a change of a tree that a session may make
* `Tree.Carries`: requests that are applied one after the other, each one guarded
* `Request.need?`: the permission that a request needs

## Main results

* `Tree.Applied.guards`, `Tree.guards_setAcl`: one request, and the change of an access list
* `Tree.carries_of_applyAll`: the requests of a batch
* `Store.permissions_guard`: what a session changes and what it reads is guarded
-/

namespace Coordination

/-! ## Nodes -/

namespace Node

variable {n : Node} {s : Session} {p : Permissions} {c : String}

/-- **The permissions that a session holds on a node**: one grant gives them, to everybody or to one
of the session's identities. -/
def Grants (n : Node) (s : Session) (p : Permissions) : Prop :=
  ∃ g ∈ n.acl, g.permissions.bits &&& p.bits = p.bits ∧
    (g.identity = ⟨"world", "anyone"⟩ ∨ g.identity ∈ s.identities)

theorem permits_iff : n.permits s p ↔ n.Grants s p := by
  simp [permits, Acl.permits, Grants, Permissions.contains, Identity.isAnyone, Identity.anyone]

/-- What a node holds, with the marks of having been written. -/
def content (n : Node) : ByteArray × Int32 × Int × Int32 :=
  (n.data, n.stat.version, n.stat.modified, n.stat.dataLength)

/-- Who may do what, with the mark of having been granted. -/
def access (n : Node) : Acl × Int32 := (n.acl, n.stat.aclVersion)

/-- The children, with the marks of having come and gone. -/
def offspring (n : Node) : Std.ExtTreeSet String × Bool × Int32 × Int32 :=
  (n.children, n.hadChildren, n.stat.childVersion, n.stat.childCount)

/-- Where a node comes from. -/
def origin (n : Node) : CreateMode × Int × Int := (n.mode, n.stat.created, n.stat.owner)

/-- **A change of a node that a session may make.** Whether a childless container below the node is
deleted is known from elsewhere. -/
structure Guards (n : Node) (s : Session) (deletesContainer : Prop) (n' : Node) : Prop where
  /-- The data are replaced by permission to write. -/
  content : n'.content ≠ n.content → n.Grants s .write
  /-- The access list is replaced by permission to administer. -/
  access : n'.access ≠ n.access → n.Grants s .admin
  /-- Children come and go by permission to create and to delete. -/
  offspring : n'.offspring ≠ n.offspring →
    n.Grants s .create ∨ n.Grants s .delete ∨ deletesContainer
  /-- Nothing else changes. -/
  origin : n'.origin = n.origin

namespace Guards

variable {deletesContainer : Prop}

theorem refl (n : Node) : n.Guards s deletesContainer n where
  content := fun hne => absurd rfl hne
  access := fun hne => absurd rfl hne
  offspring := fun hne => absurd rfl hne
  origin := rfl

theorem gain (h : n.Grants s .create) : n.Guards s deletesContainer (n.gain c) where
  content := fun hne => absurd rfl hne
  access := fun hne => absurd rfl hne
  offspring := fun _ => .inl h
  origin := rfl

theorem lose (h : n.Grants s .delete ∨ deletesContainer) :
    n.Guards s deletesContainer (n.lose c) where
  content := fun hne => absurd rfl hne
  access := fun hne => absurd rfl hne
  offspring := fun _ => .inr h
  origin := rfl

theorem written {data : ByteArray} {stamp : Int} (h : n.Grants s .write) :
    n.Guards s deletesContainer
      { n with data, stat := Tree.writtenStat n.stat data stamp } where
  content := fun _ => h
  access := fun hne => absurd rfl hne
  offspring := fun hne => absurd rfl hne
  origin := rfl

theorem granted {acl : Acl} {v : Int32} (h : n.Grants s .admin) :
    n.Guards s deletesContainer { n with acl, stat := { n.stat with aclVersion := v } } where
  content := fun hne => absurd rfl hne
  access := fun _ => h
  offspring := fun hne => absurd rfl hne
  origin := rfl

end Guards

end Node

/-! ## Trees -/

namespace Tree

variable {t t' : Tree} {s : Session} {stamp : Int} {r : Request} {a : Answer} {p q above : String}
  {n k parent : Node} {asked : Option Request}

/-- Whether a session holds a permission on the node above a path. -/
def GrantsAbove (t : Tree) (s : Session) (p : Permissions) (q : String) : Prop :=
  ∃ above parent, Path.parent? q = some above ∧ t.node? above = some parent ∧ parent.Grants s p

/-- **A change of a tree that a session may make**, by a request or by something else. -/
structure Guards (t : Tree) (s : Session) (asked : Option Request) (t' : Tree) : Prop where
  /-- Nodes come by permission of the node above. -/
  added : ∀ q, t.node? q = none → (t'.node? q).isSome → t.GrantsAbove s .create q
  /-- They go by permission of the node above, or as childless containers. -/
  removed : ∀ q n, t.node? q = some n → t'.node? q = none →
    t.GrantsAbove s .delete q ∨
      (asked = some (.deleteContainer q) ∧ n.mode = .container ∧ n.children = ∅)
  /-- They change by permission of their own. -/
  changed : ∀ q n n', t.node? q = some n → t'.node? q = some n' →
    n.Guards s (∃ p, asked = some (.deleteContainer p) ∧ Path.parent? p = some q) n'

/-- Nothing is needed to leave everything as it is. -/
theorem Guards.refl (t : Tree) : t.Guards s asked t where
  added := by
    intro q hq hq'
    rw [hq] at hq'
    cases hq'
  removed := by
    intro q n hn hq'
    rw [hn] at hq'
    cases hq'
  changed := by
    intro q n n' hn hn'
    obtain rfl : n = n' := Option.some.inj (hn.symm.trans hn')
    exact .refl n

/-- The number of the last transaction is not guarded. -/
theorem Guards.transaction (h : t.Guards s asked t') (z : Int) :
    t.Guards s asked { t' with transaction := z } :=
  ⟨h.added, h.removed, h.changed⟩

/-- A node is put in the place of another as the other one allows. -/
theorem Guards.put (hk : t.node? p = some k) (h : ∀ {d}, k.Guards s d n) :
    t.Guards s asked (t.put p n) := by
  have hsome : ∀ q, ((t.put p n).node? q).isSome ↔ (t.node? q).isSome := fun q =>
    isSome_node?_put (by rw [hk]; rfl)
  constructor
  · intro q hq hq'
    rw [hsome, hq] at hq'
    cases hq'
  · intro q l hl hq'
    have hstays := (hsome q).mpr (by rw [hl]; rfl)
    rw [hq'] at hstays
    cases hstays
  · intro q l l' hl hl'
    rcases node?_put_cases hl' with ⟨rfl, rfl⟩ | ⟨-, hl'⟩
    · obtain rfl : k = l := Option.some.inj (hk.symm.trans hl)
      exact h
    · obtain rfl : l = l' := Option.some.inj (hl.symm.trans hl')
      exact .refl l

/-- A node comes as the node above allows. -/
theorem Guards.attach (habove : Path.parent? p = some above) (hparent : t.node? above = some parent)
    (hfresh : t.node? p = none) (hgrants : parent.Grants s .create) :
    t.Guards s asked (t.attach above p n) := by
  constructor
  · intro q hq hq'
    rcases isSome_node?_attach.mp hq' with rfl | hsome
    · exact ⟨above, parent, habove, hparent, hgrants⟩
    · rw [hq] at hsome
      cases hsome
  · intro q l hl hq'
    have hstays : ((t.attach above p n).node? q).isSome :=
      isSome_node?_attach.mpr (.inr (by rw [hl]; rfl))
    rw [hq'] at hstays
    cases hstays
  · intro q l l' hl hl'
    rcases node?_attach_cases hl' with ⟨rfl, -⟩ | ⟨-, rfl, m, hm, rfl⟩ | ⟨-, -, hl'⟩
    · -- the new node was not there before
      rw [hfresh] at hl
      cases hl
    · obtain rfl : l = m := Option.some.inj (hl.symm.trans hm)
      obtain rfl : l = parent := Option.some.inj (hl.symm.trans hparent)
      exact .gain hgrants
    · obtain rfl : l = l' := Option.some.inj (hl.symm.trans hl')
      exact .refl l

/-- A node goes as the node above allows, or as a childless container. -/
theorem Guards.remove (hvalid : Path.isValid p) (habove : Path.parent? p = some above)
    (hparent : t.node? above = some parent) (hn : t.node? p = some n)
    (hgrants : parent.Grants s .delete ∨
      (asked = some (.deleteContainer p) ∧ n.mode = .container ∧ n.children = ∅)) :
    t.Guards s asked (t.remove p) := by
  have hself : above ≠ p := by
    rintro rfl
    exact Path.parent?_ne_self hvalid habove
  have hsome : ∀ q, ((t.remove p).node? q).isSome ↔ q ≠ p ∧ (t.node? q).isSome := fun q =>
    isSome_node?_remove habove hself
  constructor
  · intro q hq hq'
    rw [hsome, hq] at hq'
    cases hq'.2
  · intro q l hl hq'
    by_cases hqp : q = p
    · subst hqp
      obtain rfl : n = l := Option.some.inj (hn.symm.trans hl)
      rcases hgrants with hgrants | hcontainer
      · exact .inl ⟨above, parent, habove, hparent, hgrants⟩
      · exact .inr hcontainer
    · have hstays := (hsome q).mpr ⟨hqp, by rw [hl]; rfl⟩
      rw [hq'] at hstays
      cases hstays
  · intro q l l' hl hl'
    obtain ⟨-, ⟨rfl, m, hm, rfl⟩ | ⟨-, hl'⟩⟩ := node?_remove_cases habove hself hl'
    · obtain rfl : l = m := Option.some.inj (hl.symm.trans hm)
      obtain rfl : l = parent := Option.some.inj (hl.symm.trans hparent)
      refine .lose ?_
      rcases hgrants with hgrants | ⟨hasked, -, -⟩
      · exact .inl hgrants
      · exact .inr ⟨p, hasked, habove⟩
    · obtain rfl : l = l' := Option.some.inj (hl.symm.trans hl')
      exact .refl l

/-- **A request that is applied changes only what its session may change.** -/
theorem Applied.guards (h : t.Applied s stamp r a t') : t.Guards s (some r) t' := by
  cases h with
  | created hmode hdata hacl hvalid habove hparent hpermits hne hlasts hfresh =>
    exact .attach (valid_actualPath hvalid habove).2 hparent hfresh (Node.permits_iff.mp hpermits)
  | @deleted _ above parent node htype hvalid habove hparent hnode hpermits hversion hcontainer
      hchildless =>
    refine .remove hvalid habove hparent hnode ?_
    -- only the deletion of a container names no version, and asks for no permission
    cases r with
    | delete p v => exact .inl (Node.permits_iff.mp (hpermits v rfl))
    | deleteContainer p =>
      exact .inr ⟨rfl, by simpa [CreateMode.isContainer] using hcontainer rfl, hchildless⟩
    | create | createContainer | setData | check => cases htype
  | dataSet hvalid hnode hpermits hversion =>
    exact .put hnode (.written (Node.permits_iff.mp hpermits))
  | checked => exact .refl t

/-- **The change of an access list changes nothing else.** -/
theorem guards_setAcl {acl : Acl} {version : Int32} {stat : Stat}
    (h : t.setAcl s p acl version = .ok (stat, t')) : t.Guards s none t' := by
  obtain ⟨node, hnode, hpermits, -, rfl, rfl⟩ := setAcl_eq_ok_iff.mp h
  exact .put hnode (.granted (Node.permits_iff.mp hpermits))

/-- **Requests that a session has applied one after the other**, each one guarded on the tree as it
was then. -/
inductive Carries (s : Session) (stamp : Int) : Tree → List Request → Tree → Prop where
  | nil {t : Tree} : Carries s stamp t [] t
  | cons {t t₁ t' : Tree} {r : Request} {rs : List Request} {a : Answer}
      (happly : t.apply s stamp r = .ok (a, t₁)) (hguards : t.Guards s (some r) t₁)
      (hrest : Carries s stamp t₁ rs t') : Carries s stamp t (r :: rs) t'

/-- **Every request of a batch is guarded**, wherever it stands in the batch. -/
theorem carries_of_applyAll {rs : List Request} {as : List Answer} {i : Nat}
    (h : t.applyAll s stamp i rs = .ok (as, t')) : Carries s stamp t rs t' := by
  induction rs generalizing t i as with
  | nil =>
    obtain ⟨-, rfl⟩ : [] = as ∧ t = t' := by simpa [applyAll] using h
    exact .nil
  | cons r rs ih =>
    unfold applyAll at h
    repeat' split at h
    all_goals simp only [reduceCtorEq, Except.ok.injEq, Prod.mk.injEq] at h
    rename_i a t₁ happly _ as₁ t₂ hrest
    obtain ⟨-, rfl⟩ := h
    exact .cons happly (apply_eq_ok_iff.mp happly).guards (ih hrest)

end Tree

/-! ## Refusals -/

/-- The permission that a request needs, and the path of the node that it needs it on. -/
def Request.need? : Request → Option (Permissions × String)
  | create p .. | createContainer p .. => (Path.parent? p).map fun above => (.create, above)
  | delete p _ => (Path.parent? p).map fun above => (.delete, above)
  | setData p .. => some (.write, p)
  | deleteContainer _ | check .. => none

namespace Tree

variable {t : Tree} {s : Session} {stamp : Int} {r : Request} {p : String}

theorem checkVersion_ne_noAuth (expected actual : Int32) :
    checkVersion expected actual ≠ .error .noAuth := by
  unfold checkVersion
  split <;> simp

theorem exists_above_of_create {data : ByteArray} {acl : Acl} {mode : CreateMode}
    (h : t.create s stamp p data acl mode = .error .noAuth) :
    ∃ above parent, Path.parent? p = some above ∧ t.node? above = some parent ∧
      ¬ parent.Grants s .create := by
  unfold create at h
  dsimp only at h
  -- of all refusals one is for lack of a permission
  repeat' split at h
  all_goals cases h
  rename_i above habove _ parent hparent hpermits
  exact ⟨above, parent, habove, hparent, fun hgrants => by
    simp [Node.permits_iff.mpr hgrants] at hpermits⟩

theorem exists_above_of_delete {version : Int32} {asContainer : Bool}
    (h : t.delete s p version asContainer = .error .noAuth) :
    asContainer = false ∧ ∃ above parent, Path.parent? p = some above ∧
      t.node? above = some parent ∧ ¬ parent.Grants s .delete := by
  unfold delete at h
  repeat' split at h
  all_goals cases h
  · rename_i above habove _ parent hparent hpermits
    refine ⟨by simp_all, above, parent, habove, hparent, fun hgrants => ?_⟩
    simp [Node.permits_iff.mpr hgrants] at hpermits
  · rename_i hversion
    exact absurd hversion (checkVersion_ne_noAuth _ _)

theorem exists_node_of_setData {data : ByteArray} {version : Int32}
    (h : t.setData s stamp p data version = .error .noAuth) :
    ∃ n, t.node? p = some n ∧ ¬ n.Grants s .write := by
  unfold setData at h
  repeat' split at h
  all_goals cases h
  · rename_i n hn hpermits
    exact ⟨n, hn, fun hgrants => by simp [Node.permits_iff.mpr hgrants] at hpermits⟩
  · rename_i hversion
    exact absurd hversion (checkVersion_ne_noAuth _ _)

/-- **Nobody is refused for lack of a permission that is not lacking.** -/
theorem exists_need_of_noAuth (h : t.apply s stamp r = .error .noAuth) :
    ∃ perm q n, r.need? = some (perm, q) ∧ t.node? q = some n ∧ ¬ n.Grants s perm := by
  unfold apply at h
  split at h
  · cases h
  · cases r with
    | create p data acl mode =>
      obtain ⟨above, parent, habove, hparent, hlacks⟩ := exists_above_of_create h
      exact ⟨_, above, parent, by rw [Request.need?, habove]; rfl, hparent, hlacks⟩
    | createContainer p data acl =>
      obtain ⟨above, parent, habove, hparent, hlacks⟩ := exists_above_of_create h
      exact ⟨_, above, parent, by rw [Request.need?, habove]; rfl, hparent, hlacks⟩
    | delete p version =>
      obtain ⟨-, above, parent, habove, hparent, hlacks⟩ := exists_above_of_delete h
      exact ⟨_, above, parent, by rw [Request.need?, habove]; rfl, hparent, hlacks⟩
    | deleteContainer p => cases (exists_above_of_delete h).1
    | setData p data version =>
      obtain ⟨n, hn, hlacks⟩ := exists_node_of_setData h
      exact ⟨_, p, n, rfl, hn, hlacks⟩
    | check p version =>
      change t.check p version = .error .noAuth at h
      unfold check at h
      repeat' split at h
      all_goals cases h
      rename_i hversion
      exact absurd hversion (checkVersion_ne_noAuth _ _)

end Tree

/-! ## Stores -/

namespace Store

variable {st : Store} {s : Session}

/-- What a session asks for leaves the tree alone, or its requests are applied one by one. -/
theorem carries_submit (st : Store) (s : Session) (r : Request) :
    (st.submit s r).2.tree = st.tree ∨
      ∃ t z, Tree.Carries s (st.tree.transaction + 1) st.tree [r] t ∧
        (st.submit s r).2.tree = { t with transaction := z } := by
  refine tree_receive (P := fun t' => t' = st.tree ∨ ∃ t z,
    Tree.Carries s (st.tree.transaction + 1) st.tree [r] t ∧ t' = { t with transaction := z })
    (.inl rfl) fun st' hst' => ?_
  rw [← hst']
  cases happly : st'.tree.apply s (st'.tree.transaction + 1) r with
  | error code => exact .inl (by rw [applyOne_of_refused happly])
  | ok result =>
    obtain ⟨a, t⟩ := result
    obtain ⟨z, hz⟩ : ∃ z, (st'.applyOne s r).2.tree = { t with transaction := z } := by
      cases hr : r.isMutation with
      | true => exact ⟨st'.tree.transaction + 1, by rw [applyOne_of_applied hr happly]; rfl⟩
      | false =>
        rw [applyOne_of_checked hr happly, eq_of_apply_check hr happly]
        exact ⟨st'.tree.transaction, rfl⟩
    exact .inr ⟨t, z, .cons happly (Tree.apply_eq_ok_iff.mp happly).guards .nil, hz⟩

/-- So are those of a batch. -/
theorem carries_multi (st : Store) (s : Session) (rs : List Request) :
    (st.multi s rs).2.tree = st.tree ∨
      ∃ t z, Tree.Carries s (st.tree.transaction + 1) st.tree rs t ∧
        (st.multi s rs).2.tree = { t with transaction := z } := by
  refine tree_receive (P := fun t' => t' = st.tree ∨ ∃ t z,
    Tree.Carries s (st.tree.transaction + 1) st.tree rs t ∧ t' = { t with transaction := z })
    (.inl rfl) fun st' hst' => ?_
  rw [← hst', applyBatch]
  cases happly : st'.tree.applyAll s (st'.tree.transaction + 1) 0 rs with
  | error e => exact .inl rfl
  | ok result => exact .inr ⟨result.2, _, Tree.carries_of_applyAll happly, rfl⟩

/-- Who is told something of a node may read it. -/
theorem exists_node_of_readable {α : Type} {p : String} {f : Node → α} {a : α}
    (h : (st.readable s p).map f = .ok a) :
    ∃ n, st.tree.node? p = some n ∧ n.Grants s .read ∧ f n = a := by
  unfold readable at h
  -- of all outcomes one is no refusal
  repeat' split at h
  all_goals cases h
  rename_i n hn hpermits
  exact ⟨n, hn, Node.permits_iff.mp hpermits, rfl⟩

/-- **Whatever a session changes it has the permission to change**, in any store, whoever it is and
whatever it asks for. A request and a batch leave the tree alone, or their requests have been
applied one after the other, each of them guarded on the tree as it was then; the change of an
access list is guarded too, and leaves everything alone if it is refused. The data and the children
of a node are told only to those who may read it. And nobody is refused for lack of a permission
that is not lacking. -/
theorem permissions_guard (st : Store) (s : Session) :
    (∀ r, (st.submit s r).2.tree = st.tree ∨
      ∃ t z, Tree.Carries s (st.tree.transaction + 1) st.tree [r] t ∧
        (st.submit s r).2.tree = { t with transaction := z }) ∧
    (∀ rs, (st.multi s rs).2.tree = st.tree ∨
      ∃ t z, Tree.Carries s (st.tree.transaction + 1) st.tree rs t ∧
        (st.multi s rs).2.tree = { t with transaction := z }) ∧
    (∀ p acl version, st.tree.Guards s none (st.setAcl s p acl version).2.tree) ∧
    (∀ p data stat, st.getData s p = .ok (data, stat) →
      ∃ n, st.tree.node? p = some n ∧ n.Grants s .read ∧ n.data = data ∧ n.stat = stat) ∧
    (∀ p names, st.getChildren s p = .ok names →
      ∃ n, st.tree.node? p = some n ∧ n.Grants s .read ∧ n.children.toList = names) ∧
    (∀ (t : Tree) stamp r, t.apply s stamp r = .error .noAuth →
      ∃ perm q n, r.need? = some (perm, q) ∧ t.node? q = some n ∧ ¬ n.Grants s perm) := by
  refine ⟨carries_submit st s, carries_multi st s, fun p acl version => ?_, fun p data stat h => ?_,
    fun p names h => ?_, fun t stamp r => Tree.exists_need_of_noAuth⟩
  · rcases setAcl_cases st s p acl version with ⟨e, he⟩ | ⟨stat, t, -, ht, hst⟩
    · rw [he]
      exact .refl st.tree
    · rw [hst]
      exact (Tree.guards_setAcl ht).transaction _
  · obtain ⟨n, hnode, hgrants, heq⟩ := exists_node_of_readable h
    exact ⟨n, hnode, hgrants, congrArg Prod.fst heq, congrArg Prod.snd heq⟩
  · exact exists_node_of_readable h

/-- One session locks a node away, in one batch with a node below it; another one has proved
nothing. -/
def someLocks : List Move :=
  [.connect [⟨"digest", "bob"⟩], .connect [],
    .multi ⟨1, [⟨"digest", "bob"⟩]⟩
      [.create "/safe" ByteArray.empty [⟨.all, ⟨"digest", "bob"⟩⟩] .persistent,
        .create "/safe/note" ByteArray.empty .worldReadable .ephemeral]]

theorem permissions_guard_of_someLocks :
    (∃ n, (Move.run .initial someLocks).tree.node? "/safe" = some n ∧
      n.Grants ⟨1, [⟨"digest", "bob"⟩]⟩ .read) ∧
    (∃ perm q n, (Request.createContainer "/safe/c" ByteArray.empty .worldOpen).need? =
        some (perm, q) ∧
      (Move.run .initial someLocks).tree.node? q = some n ∧ ¬ n.Grants ⟨2, []⟩ perm) ∧
    ∃ t z, Tree.Carries ⟨1, [⟨"digest", "bob"⟩]⟩ 1 Tree.initial
        [.create "/safe" ByteArray.empty [⟨.all, ⟨"digest", "bob"⟩⟩] .persistent,
          .create "/safe/note" ByteArray.empty .worldReadable .ephemeral] t ∧
      (Move.run .initial someLocks).tree = { t with transaction := z } := by
  refine ⟨?_, ?_, ?_⟩
  · obtain ⟨-, -, -, -, hread, -⟩ :=
      permissions_guard (Move.run .initial someLocks) ⟨1, [⟨"digest", "bob"⟩]⟩
    obtain ⟨n, hn, hgrants, -⟩ := hread "/safe" ["note"] (by decide +kernel)
    exact ⟨n, hn, hgrants⟩
  · obtain ⟨-, -, -, -, -, hrefused⟩ := permissions_guard (Move.run .initial someLocks) ⟨2, []⟩
    exact hrefused (Move.run .initial someLocks).tree 0
      (.createContainer "/safe/c" ByteArray.empty .worldOpen) (by decide +kernel)
  · obtain ⟨-, hmulti, -⟩ := permissions_guard (Move.run .initial (someLocks.take 2))
      ⟨1, [⟨"digest", "bob"⟩]⟩
    refine (hmulti _).resolve_left ?_
    decide +kernel

end Store

end Coordination
