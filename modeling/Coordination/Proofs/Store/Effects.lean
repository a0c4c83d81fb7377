import Coordination.Proofs.Store.Footprints
import Coordination.Proofs.Store.Permissions
import Coordination.Proofs.Store.Versions

/-!
# What a request changes

A request that is refused changes nothing, and neither does one that is lost or comes from a session
that is not connected; all that is left of it is that it has been counted and has met a fault. A
request that is applied changes the node that it names, and if it makes this node come or go, also
the children of the node above. All other nodes of the tree are the same before and after, whatever
their paths have in common with the one named. The change of an access list is no request, and is
told in the same words.

Here a node is seen in its four parts, its content, its access list, its children and its origin,
and a change says of each part what becomes of it. Nothing is assumed of the store.

## Main definitions

* `Node.Recounts`, `Node.Rewrites`, `Node.Regrants`: one part of a node has changed
* `Tree.Gains`, `Tree.Drops`, `Tree.Changes`: one node has come, has gone, or is another
* `Request.Effect`: what a request does to the tree

## Main results

* `Tree.Applied.effect`: requests that are applied have their effect
* `Store.submit_of_unapplied`, `Store.submit_of_letsIn`: what a request does to the store
* `Store.requests_change_one_node`: both, and the change of an access list
-/

namespace Coordination

/-! ## Nodes -/

namespace Node

/-- Children have come or gone, and nothing else has happened to a node. -/
structure Recounts (n : Node) (children : Std.ExtTreeSet String) (hadChildren : Bool) (n' : Node) :
    Prop where
  content : n'.content = n.content
  access : n'.access = n.access
  /-- A node has other children, has counted one more change, and has counted its children. -/
  offspring : n'.offspring =
    (children, hadChildren, n.stat.childVersion + 1, Int32.ofNat children.size)
  origin : n'.origin = n.origin

/-- The data have been replaced in transaction `stamp`, and nothing else has happened to a node. -/
structure Rewrites (n : Node) (data : ByteArray) (stamp : Int) (n' : Node) : Prop where
  /-- A node has other data, has counted one more writer, and has measured its data. -/
  content : n'.content = (data, n.stat.version + 1, stamp, Int32.ofNat data.size)
  access : n'.access = n.access
  offspring : n'.offspring = n.offspring
  origin : n'.origin = n.origin

/-- The access list has been replaced, and nothing else has happened to a node. -/
structure Regrants (n : Node) (acl : Acl) (n' : Node) : Prop where
  content : n'.content = n.content
  /-- A node has another access list, and has counted one more grant. -/
  access : n'.access = (acl, n.stat.aclVersion + 1)
  offspring : n'.offspring = n.offspring
  origin : n'.origin = n.origin

end Node

/-! ## Trees -/

namespace Tree

variable {t t' : Tree} {p q above : String} {n n' parent : Node}

/-- **One node has come.** The node above has it among its children, and all other nodes are the
same. -/
structure Gains (t : Tree) (q : String) (n : Node) (t' : Tree) : Prop where
  fresh : t.node? q = none
  node : t'.node? q = some n
  parent : ∃ above parent parent', Path.parent? q = some above ∧ t.node? above = some parent ∧
    t'.node? above = some parent' ∧
    parent.Recounts (parent.children.insert (Path.name q)) true parent'
  others : ∀ q', q' ≠ q → Path.parent? q ≠ some q' → t'.node? q' = t.node? q'
  size : t'.size = t.size + 1

/-- **One node has gone.** The node above has it among its children no more, and all other nodes are
the same. -/
structure Drops (t : Tree) (q : String) (t' : Tree) : Prop where
  there : (t.node? q).isSome
  gone : t'.node? q = none
  parent : ∃ above parent parent', Path.parent? q = some above ∧ t.node? above = some parent ∧
    t'.node? above = some parent' ∧
    parent.Recounts (parent.children.erase (Path.name q)) parent.hadChildren parent'
  others : ∀ q', q' ≠ q → Path.parent? q ≠ some q' → t'.node? q' = t.node? q'
  size : t'.size + 1 = t.size

/-- **One node is another**, as `change` says, and all other nodes are the same. -/
structure Changes (t : Tree) (q : String) (change : Node → Node → Prop) (t' : Tree) : Prop where
  node : ∃ n n', t.node? q = some n ∧ t'.node? q = some n' ∧ change n n'
  others : ∀ q', q' ≠ q → t'.node? q' = t.node? q'
  size : t'.size = t.size

theorem gains_attach (habove : Path.parent? q = some above) (hne : above ≠ q)
    (hparent : t.node? above = some parent) (hfresh : t.node? q = none) :
    t.Gains q n (t.attach above q n) where
  fresh := hfresh
  node := by rw [node?_attach, if_pos rfl]
  parent := by
    refine ⟨above, parent, parent.gain (Path.name q), habove, hparent, ?_, rfl, rfl, rfl, rfl⟩
    rw [node?_attach, if_neg hne, if_pos rfl, hparent]
    rfl
  others q' hq' hother := by
    rw [node?_attach, if_neg hq', if_neg]
    rintro rfl
    exact hother habove
  size := by
    rw [attach_eq_put, size_put_of_fresh, size_update]
    rw [node?_update, if_neg (Ne.symm hne), hfresh]

theorem drops_remove (habove : Path.parent? q = some above) (hne : above ≠ q)
    (hparent : t.node? above = some parent) (hthere : (t.node? q).isSome) :
    t.Drops q (t.remove q) where
  there := hthere
  gone := by rw [node?_remove habove hne, if_pos rfl]
  parent := by
    refine ⟨above, parent, parent.lose (Path.name q), habove, hparent, ?_, rfl, rfl, rfl, rfl⟩
    rw [node?_remove habove hne, if_neg hne, if_pos rfl, hparent]
    rfl
  others q' hq' hother := by
    rw [node?_remove habove hne, if_neg hq', if_neg]
    rintro rfl
    exact hother habove
  size := size_remove hthere

theorem changes_put {change : Node → Node → Prop} (hn : t.node? q = some n) (h : change n n') :
    t.Changes q change (t.put q n') where
  node := ⟨n, n', hn, by rw [node?_put, if_pos rfl], h⟩
  others q' hq' := by rw [node?_put, if_neg hq']
  size := size_put (by rw [hn]; rfl)

/-- The number of the last transaction is no node's business. -/
theorem Gains.transaction (h : t.Gains q n t') (z : Int) :
    t.Gains q n { t' with transaction := z } :=
  ⟨h.fresh, h.node, h.parent, h.others, h.size⟩

theorem Drops.transaction (h : t.Drops q t') (z : Int) :
    t.Drops q { t' with transaction := z } :=
  ⟨h.there, h.gone, h.parent, h.others, h.size⟩

theorem Changes.transaction {change : Node → Node → Prop} (h : t.Changes q change t') (z : Int) :
    t.Changes q change { t' with transaction := z } :=
  ⟨h.node, h.others, h.size⟩

/-! ### Requests -/

/-- **The path that a node comes under** when it is asked for by path `p`: this one, or, if the mode
is sequential, this one and the counter of the node above, which is written in ten digits unless it
has run over. -/
structure Titles (t : Tree) (p : String) (mode : CreateMode) (q : String) : Prop where
  plain : mode.isSequential = false → q = p
  sequential : mode.isSequential → ∃ above parent, Path.parent? p = some above ∧
    t.node? above = some parent ∧ q = numbered p parent.stat.childVersion.toInt ∧
    (0 ≤ parent.stat.childVersion.toInt → ∃ digits : List Char, digits.length = 10 ∧
      (∀ c ∈ digits, c.isDigit) ∧ q = p ++ String.ofList digits)

/-- **A node has been created** as asked for, below the node that has been asked for. -/
def Creates (t : Tree) (s : Session) (stamp : Int) (p : String) (data : ByteArray) (acl : Acl)
    (mode : CreateMode) (a : Answer) (t' : Tree) : Prop :=
  ∃ q stat, t.Titles p mode q ∧ Path.parent? q = Path.parent? p ∧
    t.Gains q (.leaf data acl stat mode) t' ∧ a = .created q (some stat) ∧
    stat = freshStat s data mode stamp

/-- A counter that has not run over is written in ten digits. -/
theorem exists_digits_of_nonneg {v : Int32} (hv : 0 ≤ v.toInt) :
    ∃ digits : List Char, digits.length = 10 ∧ (∀ c ∈ digits, c.isDigit) ∧
      numbered p v.toInt = p ++ String.ofList digits := by
  have hmax := Int32.toInt_lt v
  have hpow : Nat.pow 10 10 = 10000000000 := rfl
  refine ⟨Text.Decimal.zeroFilledChars 10 v.toInt,
    Text.Decimal.length_zeroFilledChars (by decide) hv (by omega), fun c hc => ?_, rfl⟩
  rw [Text.Decimal.zeroFilledChars, if_neg (by omega)] at hc
  exact Text.Decimal.isDigit_of_mem_filled hc

theorem titles_actualPath {mode : CreateMode} (habove : Path.parent? p = some above)
    (hparent : t.node? above = some parent) : t.Titles p mode (actualPath parent p mode) where
  plain := actualPath_of_not_sequential
  sequential hmode := by
    have hactual : actualPath parent p mode = numbered p parent.stat.childVersion.toInt :=
      actualPath_of_sequential hmode
    refine ⟨above, parent, habove, hparent, hactual, fun hv => ?_⟩
    rw [hactual]
    exact exists_digits_of_nonneg hv

end Tree

/-- **What a request does to a tree** as part of transaction `stamp`, by its answer. The answer to a
create and to a replacement of data has the stat of the node as it is then. -/
def Request.Effect (s : Session) (stamp : Int) (t : Tree) : Request → Answer → Tree → Prop
  | .create p data acl mode, a, t' => t.Creates s stamp p data acl mode a t'
  | .createContainer p data acl, a, t' => t.Creates s stamp p data acl .container a t'
  | .delete p _, a, t' | .deleteContainer p, a, t' => a = .deleted ∧ t.Drops p t'
  | .setData p data _, a, t' =>
    t.Changes p (fun n n' => n.Rewrites data stamp n' ∧ a = .dataSet n'.stat) t'
  | .check .., a, t' => a = .checked ∧ t' = t

namespace Tree

variable {t t' : Tree} {s : Session} {stamp : Int} {r : Request} {a : Answer} {p : String}

/-- **Requests that are applied have their effect.** -/
theorem Applied.effect (h : t.Applied s stamp r a t') : r.Effect s stamp t a t' := by
  cases h with
  | @created _ data acl mode above parent hmode hdata hacl hvalid habove hparent hpermits hne
      hlasts hfresh =>
    have hactual : Path.isValid (actualPath parent r.path mode) ∧
        Path.parent? (actualPath parent r.path mode) = some above :=
      valid_actualPath hvalid habove
    have hself : above ≠ actualPath parent r.path mode := fun heq =>
      Path.parent?_ne_self hactual.1 (hactual.2.trans (congrArg some heq))
    have hcreates : t.Creates s stamp r.path data acl mode
        (.created (actualPath parent r.path mode) (some (freshStat s data mode stamp)))
        (t.attach above (actualPath parent r.path mode)
          (.leaf data acl (freshStat s data mode stamp) mode)) :=
      ⟨_, _, titles_actualPath habove hparent, hactual.2.trans habove.symm,
        gains_attach hactual.2 hself hparent hfresh, rfl, rfl⟩
    -- only the two kinds of create have a mode
    cases r with
    | create | createContainer =>
      cases hmode
      cases hdata
      cases hacl
      exact hcreates
    | delete | deleteContainer | setData | check => cases hmode
  | @deleted _ above parent node htype hvalid habove hparent hnode =>
    have hself : above ≠ r.path := by
      rintro rfl
      exact Path.parent?_ne_self hvalid habove
    have hdrops : t.Drops r.path (t.remove r.path) :=
      drops_remove habove hself hparent (by rw [hnode]; rfl)
    cases r with
    | delete | deleteContainer => exact ⟨rfl, hdrops⟩
    | create | createContainer | setData | check => cases htype
  | dataSet hvalid hnode hpermits hversion =>
    exact changes_put hnode ⟨⟨rfl, rfl, rfl, rfl⟩, rfl⟩
  | checked => exact ⟨rfl, rfl⟩

end Tree

/-- The number of the last transaction is no node's business, unless nothing happens at all. -/
theorem Request.Effect.transaction {t t' : Tree} {s : Session} {stamp : Int} {r : Request}
    {a : Answer} (h : r.Effect s stamp t a t') (hr : r.isMutation) (z : Int) :
    r.Effect s stamp t a { t' with transaction := z } := by
  cases r with
  | create | createContainer =>
    obtain ⟨q, stat, htitles, habove, hgains, ha, hstat⟩ := h
    exact ⟨q, stat, htitles, habove, hgains.transaction z, ha, hstat⟩
  | delete | deleteContainer => exact ⟨h.1, h.2.transaction z⟩
  | setData => exact Tree.Changes.transaction h z
  | check => cases hr

/-! ## Stores -/

namespace Store

variable {st : Store} {s : Session} {r : Request} {a : Answer} {t : Tree}

/-- **A request that is not let in, or is refused, changes nothing**, and has no answer. It has been
counted, and it may have met a fault. -/
theorem submit_of_unapplied
    (h : st.letsIn s = false ∨ ∃ code, st.tree.apply s (st.tree.transaction + 1) r = .error code) :
    (∃ e, (st.submit s r).1 = .error e) ∧ (st.submit s r).2 = st.admitted s := by
  constructor
  · cases hanswer : (st.submit s r).1 with
    | error e => exact ⟨e, rfl⟩
    | ok a =>
      obtain ⟨t, happly⟩ := exists_apply_of_submit hanswer
      obtain hout | ⟨code, hcode⟩ := h
      · exact absurd (letsIn_of_receive hanswer) (by simp [hout])
      · rw [happly] at hcode
        cases hcode
  · rw [submit, snd_receive]
    split
    · rename_i hin
      obtain hout | ⟨code, hcode⟩ := h
      · simp [hout] at hin
      · have hadmitted : (st.admitted s).tree.apply s ((st.admitted s).tree.transaction + 1) r =
            .error code := hcode
        rw [applyOne_of_refused hadmitted]
    · rfl

/-- **A request that is let in and applied has its effect**, and is a transaction of its own unless
it is a check. The session has the answer unless a fault has come between. -/
theorem submit_of_letsIn (hin : st.letsIn s)
    (happly : st.tree.apply s (st.tree.transaction + 1) r = .ok (a, t)) :
    ∃ t', (st.submit s r).2 =
        { st.admitted s with
          tree := t', mutations := st.mutations + if r.isMutation then 1 else 0 } ∧
      t'.transaction = st.tree.transaction + (if r.isMutation then 1 else 0) ∧
      r.Effect s (st.tree.transaction + 1) st.tree a t' ∧
      (st.struck? s = none → (st.submit s r).1 = .ok a) := by
  have hadmitted : (st.admitted s).tree.apply s ((st.admitted s).tree.transaction + 1) r =
      .ok (a, t) := happly
  have heffect : r.Effect s (st.tree.transaction + 1) st.tree a t :=
    (Tree.apply_eq_ok_iff.mp happly).effect
  have hanswer : st.struck? s = none →
      (st.submit s r).1 = ((st.admitted s).applyOne s r).1 := fun hstruck => by
    obtain ⟨hopen, hlive⟩ := isConnected_iff.mp (Bool.and_eq_true_iff.mp hin).1
    rw [submit, fst_receive, hopen, hlive, hstruck]
    rfl
  have hstore : (st.submit s r).2 = ((st.admitted s).applyOne s r).2 := by
    rw [submit, snd_receive, if_pos hin]
  -- the tree of a request that only checks is not put back, but it is the one there was
  cases hr : r.isMutation with
  | true =>
    have hone := applyOne_of_applied hr hadmitted
    rw [hone] at hanswer hstore
    exact ⟨_, hstore, rfl, heffect.transaction hr _, hanswer⟩
  | false =>
    obtain rfl : t = st.tree := eq_of_apply_check hr happly
    have hone := applyOne_of_checked hr hadmitted
    rw [hone] at hanswer hstore
    exact ⟨st.tree, hstore, (Int.add_zero _).symm, heffect, hanswer⟩

/-- **A single request changes only what it names, and nothing if it fails.** Take any store and any
session. If a request is not let in, or if the tree refuses it, there is no answer, and the store is
what it was, except that the request has been counted and may have met a fault. If it is let in and
applied, its effect is all that happens: a create adds the one node, a delete takes it away, a
replacement of data makes it another, and a check does nothing; and the answer, unless a fault has
come between, has the stat that is stored. The same holds of the change of an access list. The
counter that a sequential path ends in has not run over, so that it has ten digits, as long as fewer
than 2³¹ children of the node above have come and gone. -/
theorem requests_change_one_node (st : Store) (s : Session) :
    (∀ r, st.letsIn s = false ∨
        (∃ code, st.tree.apply s (st.tree.transaction + 1) r = .error code) →
      (∃ e, (st.submit s r).1 = .error e) ∧ (st.submit s r).2 = st.admitted s) ∧
    (∀ r a t, st.letsIn s → st.tree.apply s (st.tree.transaction + 1) r = .ok (a, t) →
      ∃ t', (st.submit s r).2 =
          { st.admitted s with
            tree := t', mutations := st.mutations + if r.isMutation then 1 else 0 } ∧
        t'.transaction = st.tree.transaction + (if r.isMutation then 1 else 0) ∧
        r.Effect s (st.tree.transaction + 1) st.tree a t' ∧
        (st.struck? s = none → (st.submit s r).1 = .ok a)) ∧
    (∀ p acl version e, (st.setAcl s p acl version).1 = .error e →
      (st.setAcl s p acl version).2 = st) ∧
    (∀ p acl version stat, (st.setAcl s p acl version).1 = .ok stat →
      ∃ t', (st.setAcl s p acl version).2 = { st with tree := t' } ∧
        t'.transaction = st.tree.transaction + 1 ∧
        st.tree.Changes p (fun n n' => n.Regrants acl n' ∧ n'.stat = stat) t') ∧
    (∀ ms p n, Move.Legal .initial ms → Move.run .initial ms = st → st.tree.node? p = some n →
      Entry.comings p (Entry.life p (initial.journal ms)) +
        Entry.goings p (Entry.life p (initial.journal ms)) < Nat.pow 2 31 →
      0 ≤ n.stat.childVersion.toInt) := by
  refine ⟨fun r h => submit_of_unapplied h, fun r a t hin happly => submit_of_letsIn hin happly,
    fun p acl version e he => ?_, fun p acl version stat hstat => ?_,
    fun ms p n hlegal hrun hn hlt => ?_⟩
  · obtain ⟨e', h⟩ | ⟨stat, t, -, -, h⟩ := setAcl_cases st s p acl version
    · rw [h]
    · rw [h] at he
      cases he
  · obtain ⟨e', h⟩ | ⟨stat', t, -, ht, h⟩ := setAcl_cases st s p acl version
    · rw [h] at hstat
      cases hstat
    · rw [h] at hstat ⊢
      obtain rfl : stat' = stat := by injection hstat
      obtain ⟨node, hnode, -, -, hstat', rfl⟩ := Tree.setAcl_eq_ok_iff.mp ht
      have hgrants : node.Regrants acl { node with acl, stat := stat' } := by
        subst hstat'
        exact ⟨rfl, rfl, rfl, rfl⟩
      exact ⟨_, rfl, rfl, (Tree.changes_put hnode ⟨hgrants, rfl⟩).transaction _⟩
  · subst hrun
    have htallied : Tree.Tallied ([] ++ initial.journal ms) (Move.run .initial ms).tree :=
      tallied_journal .initial hlegal .initial
    rw [((htallied.node p n hn).childVersion), List.nil_append, Int32.toInt_ofNat_of_lt hlt]
    exact Int.natCast_nonneg _

/-- Two nodes whose paths go on as the path of a third would, and one of them is gone. -/
def someNeighbours : List Move :=
  [.connect [],
    .submit ⟨1, []⟩ (.create "/n" ByteArray.empty .worldOpen .persistent),
    .submit ⟨1, []⟩ (.create "/n/ab" ByteArray.empty .worldOpen .persistent),
    .submit ⟨1, []⟩ (.create "/n/a0" ByteArray.empty .worldOpen .persistent),
    .submit ⟨1, []⟩ (.delete "/n/a0" 0)]

theorem requests_change_one_node_of_someNeighbours :
    let st := Move.run .initial someNeighbours
    let r : Request := .create "/n/a" ByteArray.empty .worldOpen .persistentSequential
    (∃ a t', (st.submit ⟨1, []⟩ r).1 = .ok a ∧ (st.submit ⟨1, []⟩ r).2.tree = t' ∧
      t'.transaction = 5 ∧ r.Effect ⟨1, []⟩ 5 st.tree a t' ∧
      (t'.node? "/n/a0000000003").isSome) ∧
    (st.submit ⟨1, []⟩ (.delete "/n" anyVersion)).2 = st.admitted ⟨1, []⟩ ∧
    ∃ n, st.tree.node? "/n" = some n ∧ 0 ≤ n.stat.childVersion.toInt := by
  intro st r
  obtain ⟨hunapplied, happlied, -, -, hcounters⟩ := requests_change_one_node st ⟨1, []⟩
  have hok : (st.tree.apply ⟨1, []⟩ (st.tree.transaction + 1) r).isOk := by decide +kernel
  obtain ⟨n, hn⟩ : ∃ n, st.tree.node? "/n" = some n :=
    Option.isSome_iff_exists.mp (by decide +kernel)
  refine ⟨?_, (hunapplied _ (.inr ⟨.notEmpty, by decide +kernel⟩)).2, n, hn,
    hcounters someNeighbours "/n" n (by decide +kernel) rfl hn (by decide +kernel)⟩
  cases happly : st.tree.apply ⟨1, []⟩ (st.tree.transaction + 1) r with
  | error code => rw [happly] at hok; cases hok
  | ok result =>
    obtain ⟨t', hstore, htransaction, heffect, hanswer⟩ :=
      happlied r result.1 result.2 (by decide +kernel) happly
    have htree : (st.submit ⟨1, []⟩ r).2.tree = t' := congrArg Store.tree hstore
    have hstamp : st.tree.transaction = 4 := by decide +kernel
    refine ⟨result.1, t', hanswer (by decide +kernel), htree, ?_, ?_, ?_⟩
    · rw [htransaction, hstamp]; rfl
    · rw [hstamp] at heffect; exact heffect
    · rw [← htree]; decide +kernel

end Store

end Coordination
