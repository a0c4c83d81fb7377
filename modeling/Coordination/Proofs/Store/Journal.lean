import Coordination.Proofs.Store.History

/-!
# The journal of a run

Whatever is done to the nodes of a store is one of four things: a node comes, a node goes, its data
are replaced, its access list is replaced. The journal of a run enters them one by one, under the
path of the node that they are done to. It is read off what the store accepts and off what it finds
to be removed, not off the counters of the nodes, so that the counters can be checked against it.

A batch that is aborted and a request that is lost enter nothing; a request whose answer is lost
enters what it has done.

## Main definitions

* `Entry`: what is done to a node
* `Tree.Edit`, `Tree.Edits`: a change of a tree by one entry, and by several
* `Store.Move.entries`, `Store.journal`: the entries of a move and of a run

## Main results

* `Tree.WellFormed.edits_of_applyAll`: the requests of a batch do what is entered for them
* `Store.exists_edits_next`: so does every move
* `Store.journal_keeps`: what each entry keeps every run keeps
-/

namespace Coordination

/-- **What is done to a node**, under the path of the node. -/
inductive Entry where
  /-- The node comes. -/
  | added (p : String)
  /-- The node goes. -/
  | removed (p : String)
  /-- The data of the node are replaced by a request that names a version. -/
  | written (p : String) (expected : Int32)
  /-- The access list of the node is replaced. -/
  | granted (p : String)
  deriving DecidableEq

namespace Entry

/-- What a request has done, by its answer. -/
def ofAnswered? : Request × Answer → Option Entry
  | (.create .., .created q _) | (.createContainer .., .created q _) => some (.added q)
  | (.delete p _, _) | (.deleteContainer p, _) => some (.removed p)
  | (.setData p _ version, _) => some (.written p version)
  | _ => none

/-- What the requests of a batch have done, by their answers. -/
def ofBatch (rs : List Request) (as : List Answer) : List Entry :=
  (rs.zip as).filterMap ofAnswered?

@[simp] theorem ofBatch_nil (as : List Answer) : ofBatch [] as = [] := rfl

theorem ofBatch_cons (r : Request) (rs : List Request) (a : Answer) (as : List Answer) :
    ofBatch (r :: rs) (a :: as) = (ofAnswered? (r, a)).toList ++ ofBatch rs as := by
  rw [ofBatch, ofBatch, List.zip_cons_cons, List.filterMap_cons]
  cases ofAnswered? (r, a) <;> rfl

end Entry

/-! ## Trees -/

namespace Tree

variable {t t' t'' : Tree} {s : Session} {stamp : Int} {e : Entry} {es fs : List Entry}
  {p q above : String} {n : Node}

/-- **What an entry does to a tree**, as part of transaction `stamp`. A parent lists a node as long
as the node is there. -/
inductive Edit (stamp : Int) (t : Tree) : Entry → Tree → Prop where
  /-- A node comes below another. -/
  | added {s : Session} {data : ByteArray} {acl : Acl} {mode : CreateMode} {above q : String}
      {parent : Node} (habove : Path.parent? q = some above) (hne : above ≠ q)
      (hparent : t.node? above = some parent) (hnew : Path.name q ∉ parent.children)
      (hfresh : t.node? q = none) :
      Edit stamp t (.added q)
        (t.attach above q (.leaf data acl (freshStat s data mode stamp) mode))
  /-- A node that is there goes. -/
  | removed {above q : String} {parent : Node} (habove : Path.parent? q = some above)
      (hne : above ≠ q) (hparent : t.node? above = some parent)
      (hlisted : Path.name q ∈ parent.children) (hthere : (t.node? q).isSome) :
      Edit stamp t (.removed q) (t.remove q)
  /-- Data are replaced. -/
  | written {q : String} {data : ByteArray} {v : Int32} {node : Node}
      (hnode : t.node? q = some node) (hversion : Names v node.stat.version) :
      Edit stamp t (.written q v)
        (t.put q { node with data, stat := writtenStat node.stat data stamp })
  /-- An access list is replaced. -/
  | granted {q : String} {acl : Acl} {node : Node} (hnode : t.node? q = some node) :
      Edit stamp t (.granted q)
        (t.put q
          { node with acl, stat := { node.stat with aclVersion := node.stat.aclVersion + 1 } })

/-- What several entries do to a tree, one after the other. -/
inductive Edits (stamp : Int) : Tree → List Entry → Tree → Prop where
  | nil {t : Tree} : Edits stamp t [] t
  | cons {t t' t'' : Tree} {e : Entry} {es : List Entry} (h : t.Edit stamp e t')
      (hs : Edits stamp t' es t'') : Edits stamp t (e :: es) t''

theorem Edit.edits (h : t.Edit stamp e t') : Edits stamp t [e] t' := .cons h .nil

theorem Edits.append (h : Edits stamp t es t') (h' : Edits stamp t' fs t'') :
    Edits stamp t (es ++ fs) t'' := by
  induction h with
  | nil => exact h'
  | cons he _ ih => exact .cons he (ih h')

/-- What holds of a journal and a tree, and is kept by each entry, is kept by all of them. -/
theorem Edits.keeps {P : List Entry → Tree → Prop}
    (hstep : ∀ es t e t', P es t → t.Edit stamp e t' → P (es ++ [e]) t') (h : P es t)
    (hs : Edits stamp t fs t') : P (es ++ fs) t' := by
  induction hs generalizing es with
  | nil => simpa using h
  | cons he _ ih => simpa using ih (hstep _ _ _ _ h he)

/-! ### Requests -/

/-- A name is new below a node if there is no node under the path. -/
theorem WellFormed.name_notMem_children (h : t.WellFormed) (hvalid : Path.isValid q)
    (habove : Path.parent? q = some above) (hparent : t.node? above = some n)
    (hfresh : t.node? q = none) : Path.name q ∉ n.children := by
  intro hmem
  obtain ⟨r, hr, hparent', hname⟩ := ((h.fits above n hparent).children _).mp hmem
  obtain ⟨m, hm⟩ := Option.isSome_iff_exists.mp hr
  have hrq := Path.eq_of_parent?_of_name (h.fits r m hm).valid hvalid hparent' habove hname
  rw [hrq, hfresh] at hm
  cases hm

/-- A node that may go is struck from its parent. -/
theorem WellFormed.edit_remove (h : t.WellFormed) (hp : t.Removable p) :
    t.Edit stamp (.removed p) (t.remove p) := by
  obtain ⟨hr, n, hn, -⟩ := hp
  obtain ⟨above, parent, habove, hparent, hlisted⟩ := h.name_mem_children hn hr
  refine .removed habove ?_ hparent hlisted (by rw [hn]; rfl)
  rintro rfl
  exact Path.parent?_ne_self (h.fits _ n hn).valid habove

/-- **A request that is applied does what is entered for it.** -/
theorem WellFormed.edits_of_applied {r : Request} {a : Answer} (h : t.WellFormed)
    (ha : t.Applied s stamp r a t') : Edits stamp t (Entry.ofAnswered? (r, a)).toList t' := by
  cases ha with
  | @created _ data acl mode above parent hmode hdata hacl hvalid habove hparent hpermits hne
      hlasts hfresh =>
    have hactual : Path.isValid (actualPath parent r.path mode) ∧
        Path.parent? (actualPath parent r.path mode) = some above :=
      valid_actualPath hvalid habove
    have hself : above ≠ actualPath parent r.path mode := by
      intro heq
      exact Path.parent?_ne_self hactual.1 (hactual.2.trans (congrArg some heq))
    have hnew := h.name_notMem_children hactual.1 hactual.2 hparent hfresh
    have hedit : t.Edit stamp (.added (actualPath parent r.path mode))
        (t.attach above (actualPath parent r.path mode)
          (.leaf data acl (freshStat s data mode stamp) mode)) :=
      .added hactual.2 hself hparent hnew hfresh
    -- only the two kinds of create have a mode
    cases r with
    | create | createContainer => exact hedit.edits
    | delete | deleteContainer | setData | check => cases hmode
  | @deleted _ above parent node htype hvalid habove hparent hnode hpermits hversion hcontainer
      hchildless =>
    have hedit : t.Edit stamp (.removed r.path) (t.remove r.path) :=
      h.edit_remove ⟨Path.ne_root_of_parent? habove, node, hnode, hchildless⟩
    cases r with
    | delete | deleteContainer => exact hedit.edits
    | create | createContainer | setData | check => cases htype
  | dataSet hvalid hnode hpermits hversion => exact (Edit.written hnode hversion).edits
  | checked => exact .nil

/-- **The requests of a batch do what is entered for them.** -/
theorem WellFormed.edits_of_applyAll {rs : List Request} {as : List Answer} {i : Nat}
    (h : t.WellFormed) (hs : s.id ≠ 0) (ha : t.applyAll s stamp i rs = .ok (as, t')) :
    Edits stamp t (Entry.ofBatch rs as) t' := by
  induction rs generalizing t i as with
  | nil =>
    obtain ⟨rfl, rfl⟩ : [] = as ∧ t = t' := by simpa [applyAll] using ha
    exact .nil
  | cons r rs ih =>
    unfold applyAll at ha
    repeat' split at ha
    all_goals simp only [reduceCtorEq, Except.ok.injEq, Prod.mk.injEq] at ha
    rename_i a t₁ happly _ as₁ t₂ hrest
    obtain ⟨rfl, rfl⟩ := ha
    have happlied := apply_eq_ok_iff.mp happly
    rw [Entry.ofBatch_cons]
    exact (h.edits_of_applied happlied).append (ih (h.applied hs happlied) hrest)

/-! ### Loops -/

/-- Nodes that may all go do so one after the other. -/
theorem WellFormed.edits_removeAll {ps : List String} (h : t.WellFormed) (hps : ps.Nodup)
    (hremovable : ∀ p ∈ ps, t.Removable p) :
    Edits stamp t (ps.map .removed) (t.removeAll ps) := by
  induction ps generalizing t with
  | nil => exact .nil
  | cons p ps ih =>
    obtain ⟨hp, hps⟩ := List.nodup_cons.mp hps
    have hfirst := hremovable p List.mem_cons_self
    obtain ⟨hr, m, hm, hch⟩ := id hfirst
    refine .cons (h.edit_remove hfirst) (ih (h.remove hm hr hch) hps fun q hq => ?_)
    exact h.removable_remove hfirst (hremovable q (List.mem_cons_of_mem _ hq)) fun heq =>
      hp (heq ▸ hq)

theorem WellFormed.edits_removeOwned {session : Int} (h : t.WellFormed) (hs : session ≠ 0) :
    Edits stamp t ((t.pathsWhere (·.stat.owner == session)).map .removed)
      (t.removeOwned session) := by
  refine h.edits_removeAll (nodup_pathsWhere _ _) fun p hp => ?_
  obtain ⟨n, hn, howner⟩ := mem_pathsWhere.mp hp
  exact h.removable_of_owner hs hn (by simpa using howner)

/-- The paths of the containers that go in so many rounds. -/
def reaped : Nat → Tree → List String
  | 0, _ => []
  | rounds + 1, t =>
    match t.pathsWhere (·.isIdle) with
    | [] => []
    | ps => ps ++ reaped rounds (t.removeAll ps)

theorem WellFormed.edits_reapRounds (rounds : Nat) (h : t.WellFormed) :
    Edits stamp t ((reaped rounds t).map .removed) (t.reapRounds rounds).2 := by
  induction rounds generalizing t with
  | zero => exact .nil
  | succ rounds ih =>
    have hremovable : ∀ p ∈ t.pathsWhere (·.isIdle), t.Removable p := fun p hp => by
      obtain ⟨n, hn, hidle⟩ := mem_pathsWhere.mp hp
      exact h.removable_of_isIdle hn hidle
    have hnodup := nodup_pathsWhere t (·.isIdle)
    rw [reaped, Tree.reapRounds]
    cases hps : t.pathsWhere (·.isIdle) with
    | nil => exact .nil
    | cons p ps =>
      rw [hps] at hremovable hnodup
      dsimp only
      rw [List.map_append]
      exact (h.edits_removeAll hnodup hremovable).append (ih (h.removeAll hnodup hremovable))

theorem WellFormed.edits_reap (h : t.WellFormed) :
    Edits stamp t ((reaped (t.size + 1) t).map .removed) t.reap.2 := h.edits_reapRounds _

end Tree

/-! ## Stores -/

namespace Store

variable {st : Store} {s : Session}

/-- What a session does that asks for some requests, if they reach the tree and are accepted. -/
def entered (st : Store) (s : Session) (rs : List Request) : List Entry :=
  if st.letsIn s then
    match st.tree.send s rs with
    | .error _ => []
    | .ok (as, _) => Entry.ofBatch rs as
  else []

/-- **What a move does to the nodes.** -/
def Move.entries (st : Store) : Move → List Entry
  | submit s r => st.entered s [r]
  | multi s rs => st.entered s rs
  | setAcl s p acl version => if (st.setAcl s p acl version).1.isOk then [.granted p] else []
  | close s =>
    if st.isClosed s then [] else (st.tree.pathsWhere (·.stat.owner == s.id)).map .removed
  | expire session => (st.tree.pathsWhere (·.stat.owner == session)).map .removed
  | reap => (Tree.reaped (st.tree.size + 1) st.tree).map .removed
  | connect _ | failNext .. | failAfter .. => []

/-- **The journal of a run.** -/
def journal (st : Store) : List Move → List Entry
  | [] => []
  | m :: ms => m.entries st ++ journal (m.next st) ms

theorem journal_append (st : Store) (ms ms' : List Move) :
    st.journal (ms ++ ms') = st.journal ms ++ (Move.run st ms).journal ms' := by
  induction ms generalizing st with
  | nil => rfl
  | cons m ms ih =>
    rw [List.cons_append, journal, ih, journal, List.append_assoc]
    rfl

/-- What a session asks for is accepted, or it enters nothing. -/
theorem entered_cases (st : Store) (s : Session) (rs : List Request) :
    (st.entered s rs = [] ∧ st.asked s rs = []) ∨
      ∃ as t, st.letsIn s = true ∧ st.tree.send s rs = .ok (as, t) ∧
        st.entered s rs = Entry.ofBatch rs as ∧ st.tree.final (st.asked s rs) = t := by
  cases hin : st.letsIn s with
  | false => exact .inl ⟨by rw [entered, hin]; rfl, asked_of_not_letsIn hin rs⟩
  | true =>
    cases hsend : st.tree.send s rs with
    | error e =>
      refine .inl ⟨by rw [entered, hin, hsend]; rfl, asked_of_refused ?_⟩
      exact Tree.accepts_eq_false_iff.mpr ⟨e, hsend⟩
    | ok result =>
      obtain ⟨as, t⟩ := result
      exact .inr ⟨as, t, rfl, rfl, by rw [entered, hin, hsend]; rfl,
        (asked_of_accepted hin hsend).2⟩

/-- What a session asks for does what is entered for it. -/
theorem edits_final_asked (h : st.tree.WellFormed) (hs : s.id ≠ 0) (rs : List Request) :
    Tree.Edits (st.tree.transaction + 1) st.tree (st.entered s rs)
      (st.tree.final (st.asked s rs)) := by
  rcases entered_cases st s rs with ⟨hentered, hasked⟩ | ⟨as, t, -, hsend, hentered, hfinal⟩
  · rw [hentered, hasked]
    exact .nil
  · rw [hentered, hfinal]
    exact h.edits_of_applyAll hs hsend

/-- The change of an access list is refused, or it is granted and counted as a transaction. -/
theorem setAcl_cases (st : Store) (s : Session) (p : String) (acl : Acl) (version : Int32) :
    (∃ e, st.setAcl s p acl version = (.error e, st)) ∨
      ∃ stat t, st.isConnected s ∧ st.tree.setAcl s p acl version = .ok (stat, t) ∧
        st.setAcl s p acl version =
          (.ok stat, { st with tree := { t with transaction := st.tree.transaction + 1 } }) := by
  unfold setAcl
  repeat' split
  all_goals first | exact .inl ⟨_, rfl⟩ | skip
  rename_i hclosed _ _ _ hexpired _ stat t ht
  exact .inr ⟨stat, t, isConnected_iff.mpr ⟨by simpa using hclosed, by simpa using hexpired⟩, ht,
    rfl⟩

/-- The change of an access list does what is entered for it. -/
theorem exists_edits_setAcl (st : Store) (s : Session) (p : String) (acl : Acl) (version : Int32) :
    ∃ t z, Tree.Edits (st.tree.transaction + 1) st.tree
        ((Move.setAcl s p acl version).entries st) t ∧
      (st.setAcl s p acl version).2.tree = { t with transaction := z } := by
  rw [Move.entries]
  rcases setAcl_cases st s p acl version with ⟨e, he⟩ | ⟨stat, t, -, ht, hst⟩
  · rw [he]
    exact ⟨st.tree, st.tree.transaction, .nil, rfl⟩
  · obtain ⟨node, hnode, -, -, rfl, rfl⟩ := Tree.setAcl_eq_ok_iff.mp ht
    rw [hst]
    exact ⟨_, _, (Tree.Edit.granted hnode).edits, rfl⟩

/-- **Every move does what is entered for it**, and counts transactions as it likes. -/
theorem exists_edits_next {m : Move} (h : st.tree.WellFormed) (hm : m.Allowed st) :
    ∃ t z, Tree.Edits (st.tree.transaction + 1) st.tree (m.entries st) t ∧
      (m.next st).tree = { t with transaction := z } := by
  cases m with
  | connect identities => exact ⟨st.tree, st.tree.transaction, .nil, rfl⟩
  | submit s r =>
    obtain ⟨z, hz⟩ := exists_tree_submit st s r
    exact ⟨_, z, edits_final_asked h (Int.ne_of_gt hm.1) [r], hz⟩
  | multi s rs =>
    obtain ⟨z, hz⟩ := exists_tree_multi st s rs
    exact ⟨_, z, edits_final_asked h (Int.ne_of_gt hm.1) rs, hz⟩
  | setAcl s p acl version => exact exists_edits_setAcl st s p acl version
  | failNext code count => exact ⟨st.tree, st.tree.transaction, .nil, rfl⟩
  | failAfter code count => exact ⟨st.tree, st.tree.transaction, .nil, rfl⟩
  | close s =>
    simp only [Move.next, close, Move.entries]
    split
    · exact ⟨st.tree, st.tree.transaction, .nil, rfl⟩
    · exact ⟨_, _, h.edits_removeOwned (Int.ne_of_gt hm.1), rfl⟩
  | expire session => exact ⟨_, _, h.edits_removeOwned (Int.ne_of_gt hm), rfl⟩
  | reap => exact ⟨_, _, h.edits_reap, rfl⟩

/-- **What holds of a journal and a tree, and is kept by each entry, is kept by every run**, if it
does not depend on how many transactions have been counted. -/
theorem journal_keeps {P : List Entry → Tree → Prop} {es : List Entry} {ms : List Move}
    (hcount : ∀ es t z, P es t → P es { t with transaction := z })
    (hstep : ∀ stamp es t e t', P es t → t.Edit stamp e t' → P (es ++ [e]) t')
    (hst : st.Reachable) (hms : Move.Legal st ms) (h : P es st.tree) :
    P (es ++ st.journal ms) (Move.run st ms).tree := by
  induction ms generalizing st es with
  | nil => exact (List.append_nil es).symm ▸ h
  | cons m ms ih =>
    obtain ⟨hm, hms⟩ := hms
    obtain ⟨t, z, hedits, hnext⟩ := exists_edits_next hst.wellFormed hm
    have hkept : P (es ++ m.entries st) (m.next st).tree := by
      rw [hnext]
      exact hcount _ _ z (hedits.keeps (hstep _) h)
    rw [journal, ← List.append_assoc]
    exact ih (hst.move m hm) hms hkept

end Store

end Coordination
