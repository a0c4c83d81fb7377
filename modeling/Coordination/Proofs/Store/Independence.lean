import Mathlib.Data.Set.Insert
import Mathlib.Data.Set.Lattice
import Mathlib.Order.CompletePartialOrder
import Coordination.Proofs.Store.Effects
import Coordination.Proofs.Store.Stamps

/-!
# Requests that have nothing to do with each other

The footprint of a request is where it looks and where it writes. A request that replaces data or
checks a version looks at one node; one that makes a node come or go looks at the parent and at a
child of it, and which child that is may depend on the parent's counter, so its footprint is the
parent and all paths below it. Two trees that agree on the footprint of a request give it the same
answer and agree on the footprint afterwards, and outside the footprint a request changes nothing.
So requests with disjoint footprints do not notice each other: each is answered as if the other one
had not been made, and the order in which they are made is not seen in the tree, but for the numbers
of the two transactions.

It makes no difference how the two paths lie to each other. A node may be the ancestor of another
one whose parent and siblings are not its own, and be deleted or rewritten independently.

## Main definitions

* `Path.family`, `Request.footprint`: where a request looks and writes
* `Tree.AgreeOn`: trees that are the same in some places
* `Tree.verdict`, `Tree.tried`: the answer to a request, and the tree that it leaves behind

## Main results

* `Tree.served_apply`: a request depends on its footprint only
* `Tree.node?_tried`: and changes its footprint only
* `Tree.tried_comm`: so independent requests can change places in a tree
* `Store.submit_comm`: and in a store
-/

namespace Coordination

/-! ## Footprints -/

/-- **The parent of a path together with all paths below it**; the root alone if there is no
parent. -/
def Path.family (p : String) : Set String :=
  match Path.parent? p with
  | none => {p}
  | some above => insert above {q | Path.isValid q ∧ Path.parent? q = some above}

/-- **Where a request looks and writes**: at one node if it replaces data or checks a version, and
else among the node's family. -/
def Request.footprint : Request → Set String
  | .create p .. | .createContainer p .. | .delete p _ | .deleteContainer p => Path.family p
  | .setData p .. | .check p _ => {p}

namespace Path

variable {p p' q above above' : String}

theorem mem_family_iff (h : parent? p = some above) :
    q ∈ family p ↔ q = above ∨ (isValid q ∧ parent? q = some above) := by
  rw [family, h]
  rfl

/-- Families are disjoint if their heads are not the same and neither is a child of the other. -/
theorem disjoint_family (h : parent? p = some above) (h' : parent? p' = some above')
    (hne : above ≠ above') (hbelow : parent? above ≠ some above')
    (hbelow' : parent? above' ≠ some above) : Disjoint (family p) (family p') := by
  refine Set.disjoint_left.mpr fun q hq hq' => ?_
  rcases (mem_family_iff h).mp hq with rfl | ⟨-, hparent⟩
  · rcases (mem_family_iff h').mp hq' with hsame | ⟨-, hparent'⟩
    · exact hne hsame
    · exact hbelow hparent'
  · rcases (mem_family_iff h').mp hq' with rfl | ⟨-, hparent'⟩
    · exact hbelow' hparent
    · exact hne (Option.some.inj (hparent.symm.trans hparent'))

end Path

namespace Tree

variable {t t' u u' : Tree} {s s' : Session} {stamp stamp' : Int} {r r' : Request} {a : Answer}
  {p q above : String} {F : Set String} {n : Node}

/-! ## Trees that agree in some places -/

/-- **Two trees have the same nodes in some places.** -/
def AgreeOn (F : Set String) (t u : Tree) : Prop := ∀ q ∈ F, t.node? q = u.node? q

theorem AgreeOn.symm (h : AgreeOn F t u) : AgreeOn F u t := fun q hq => (h q hq).symm

theorem AgreeOn.attach (h : AgreeOn F t u) (above p : String) (n : Node) :
    AgreeOn F (t.attach above p n) (u.attach above p n) := by
  intro q hq
  rw [node?_attach, node?_attach, h q hq]

theorem AgreeOn.remove (h : AgreeOn F t u) (habove : Path.parent? p = some above)
    (hne : above ≠ p) : AgreeOn F (t.remove p) (u.remove p) := by
  intro q hq
  rw [node?_remove habove hne, node?_remove habove hne, h q hq]

theorem AgreeOn.put (h : AgreeOn F t u) (p : String) (n : Node) :
    AgreeOn F (t.put p n) (u.put p n) := by
  intro q hq
  rw [node?_put, node?_put, h q hq]

/-! ## What a request depends on -/

/-- **Two trees serve a request alike**: both refuse it with one code, or both give it one answer
and agree in some places afterwards. -/
inductive ServedAlike (F : Set String) :
    Except ErrorCode (Answer × Tree) → Except ErrorCode (Answer × Tree) → Prop where
  | refused (code : ErrorCode) : ServedAlike F (.error code) (.error code)
  | applied (a : Answer) {t u : Tree} (h : AgreeOn F t u) : ServedAlike F (.ok (a, t)) (.ok (a, u))

theorem ServedAlike.answer {x y : Except ErrorCode (Answer × Tree)} (h : ServedAlike F x y) :
    x.map Prod.fst = y.map Prod.fst := by
  cases h <;> rfl

theorem served_create (h : AgreeOn (Path.family p) t u) (hp : Path.isValid p) (s : Session)
    (stamp : Int) (data : ByteArray) (acl : Acl) (mode : CreateMode) :
    ServedAlike (Path.family p) (t.create s stamp p data acl mode)
      (u.create s stamp p data acl mode) := by
  unfold create
  cases habove : Path.parent? p with
  | none => exact .refused _
  | some above =>
    have hparent := h above ((Path.mem_family_iff habove).mpr (.inl rfl))
    dsimp only
    rw [hparent]
    cases u.node? above with
    | none => exact .refused _
    | some parent =>
      -- whatever name the node gets, its path is below the same parent
      have hactual := h (actualPath parent p mode) ((Path.mem_family_iff habove).mpr
        (.inr (valid_actualPath hp habove)))
      dsimp only
      rw [hactual]
      repeat' split
      all_goals first | exact .refused _ | exact .applied _ (h.attach _ _ _)

theorem served_delete (h : AgreeOn (Path.family p) t u) (hp : Path.isValid p) (s : Session)
    (version : Int32) (asContainer : Bool) :
    ServedAlike (Path.family p) (t.delete s p version asContainer)
      (u.delete s p version asContainer) := by
  unfold delete
  cases habove : Path.parent? p with
  | none => exact .refused _
  | some above =>
    have hparent := h above ((Path.mem_family_iff habove).mpr (.inl rfl))
    have hself := h p ((Path.mem_family_iff habove).mpr (.inr ⟨hp, habove⟩))
    have hne : above ≠ p := fun heq => Path.parent?_ne_self hp (heq ▸ habove)
    dsimp only
    rw [hparent, hself]
    repeat' split
    all_goals first | exact .refused _ | exact .applied _ (h.remove habove hne)

theorem served_setData (h : AgreeOn {p} t u) (s : Session) (stamp : Int) (data : ByteArray)
    (version : Int32) :
    ServedAlike {p} (t.setData s stamp p data version) (u.setData s stamp p data version) := by
  unfold setData
  rw [h p rfl]
  repeat' split
  all_goals first | exact .refused _ | exact .applied _ (h.put p _)

theorem served_check (h : AgreeOn {p} t u) (version : Int32) :
    ServedAlike {p} (t.check p version) (u.check p version) := by
  unfold check
  rw [h p rfl]
  repeat' split
  all_goals first | exact .refused _ | exact .applied _ h

/-- **A request depends on its footprint only.** -/
theorem served_apply (h : AgreeOn r.footprint t u) (s : Session) (stamp : Int) :
    ServedAlike r.footprint (t.apply s stamp r) (u.apply s stamp r) := by
  unfold apply
  by_cases hvalid : Path.isValid r.path
  · rw [if_neg (by simpa using hvalid), if_neg (by simpa using hvalid)]
    cases r with
    | create p data acl mode => exact served_create h hvalid s stamp data acl mode
    | createContainer p data acl => exact served_create h hvalid s stamp data acl .container
    | delete p version => exact served_delete h hvalid s version false
    | deleteContainer p => exact served_delete h hvalid s anyVersion true
    | setData p data version => exact served_setData h s stamp data version
    | check p version => exact served_check h version
  · rw [if_pos (by simpa using hvalid), if_pos (by simpa using hvalid)]
    exact .refused _

/-! ## What a request changes -/

/-- What a tree says to a request. -/
def verdict (t : Tree) (s : Session) (stamp : Int) (r : Request) : Except ErrorCode Answer :=
  (t.apply s stamp r).map Prod.fst

/-- The tree after a request: another one if it is accepted. -/
def tried (t : Tree) (s : Session) (stamp : Int) (r : Request) : Tree :=
  match t.apply s stamp r with
  | .error _ => t
  | .ok (_, t') => t'

theorem verdict_congr (h : AgreeOn r.footprint t u) :
    t.verdict s stamp r = u.verdict s stamp r :=
  (served_apply h s stamp).answer

theorem tried_congr (h : AgreeOn r.footprint t u) :
    AgreeOn r.footprint (t.tried s stamp r) (u.tried s stamp r) := by
  have hserved := served_apply h s stamp
  rw [tried, tried]
  generalize t.apply s stamp r = x at hserved
  generalize u.apply s stamp r = y at hserved
  cases hserved with
  | refused => exact h
  | applied _ hafter => exact hafter

/-- The node that a request touches is in its footprint, and so is the parent if it is touched. -/
theorem Applied.node?_of_notMem (h : t.Applied s stamp r a t') (hq : q ∉ r.footprint) :
    t'.node? q = t.node? q := by
  cases h with
  | @created _ data acl mode above parent hmode hdata hacl hvalid habove =>
    have hfamily : r.footprint = Path.family r.path := by
      cases r with
      | create | createContainer => rfl
      | delete | deleteContainer | setData | check => cases hmode
    rw [hfamily, Path.mem_family_iff habove, not_or] at hq
    refine (node?_attach ..).trans ((if_neg ?_).trans (if_neg hq.1))
    rintro rfl
    exact hq.2 (valid_actualPath hvalid habove)
  | @deleted _ above parent node htype hvalid habove =>
    have hfamily : r.footprint = Path.family r.path := by
      cases r with
      | delete | deleteContainer => rfl
      | create | createContainer | setData | check => cases htype
    have hne : above ≠ r.path := fun heq => Path.parent?_ne_self hvalid (heq ▸ habove)
    rw [hfamily, Path.mem_family_iff habove, not_or] at hq
    refine (node?_remove habove hne q).trans ((if_neg ?_).trans (if_neg hq.1))
    rintro rfl
    exact hq.2 ⟨hvalid, habove⟩
  | dataSet => exact (node?_put ..).trans (if_neg hq)
  | checked => rfl

/-- **A request changes its footprint only.** -/
theorem node?_tried (t : Tree) (s : Session) (stamp : Int) (hq : q ∉ r.footprint) :
    (t.tried s stamp r).node? q = t.node? q := by
  rw [tried]
  cases happly : t.apply s stamp r with
  | error code => rfl
  | ok result => exact (apply_eq_ok_iff.mp happly).node?_of_notMem hq

theorem Applied.transaction_eq (h : t.Applied s stamp r a t') :
    t'.transaction = t.transaction := by
  cases h with
  | created | dataSet | checked => rfl
  | deleted => exact transaction_remove t r.path

theorem transaction_tried (t : Tree) (s : Session) (stamp : Int) (r : Request) :
    (t.tried s stamp r).transaction = t.transaction := by
  rw [tried]
  cases happly : t.apply s stamp r with
  | error code => rfl
  | ok result => exact (apply_eq_ok_iff.mp happly).transaction_eq

/-- What an independent request leaves of a footprint is all of it. -/
theorem agreeOn_tried (h : Disjoint r.footprint r'.footprint) (t : Tree) (s : Session)
    (stamp : Int) : AgreeOn r'.footprint (t.tried s stamp r) t := fun _ hq =>
  node?_tried t s stamp (Set.disjoint_right.mp h hq)

/-- **A request is answered as if an independent one had not been made before.** -/
theorem verdict_tried (h : Disjoint r.footprint r'.footprint) (t : Tree) :
    (t.tried s stamp r).verdict s' stamp' r' = t.verdict s' stamp' r' :=
  verdict_congr (agreeOn_tried h t s stamp)

/-- **Independent requests can change places.** -/
theorem tried_comm (h : Disjoint r.footprint r'.footprint) (t : Tree) :
    (t.tried s stamp r).tried s' stamp' r' = (t.tried s' stamp' r').tried s stamp r := by
  refine ext_node? (fun q => ?_) (by simp only [transaction_tried])
  by_cases hq : q ∈ r.footprint
  · -- the other request does not come here, whether it is made before or after
    have hq' : q ∉ r'.footprint := Set.disjoint_left.mp h hq
    calc ((t.tried s stamp r).tried s' stamp' r').node? q
        = (t.tried s stamp r).node? q := node?_tried _ s' stamp' hq'
      _ = ((t.tried s' stamp' r').tried s stamp r).node? q :=
          tried_congr (agreeOn_tried h.symm t s' stamp').symm q hq
  · calc ((t.tried s stamp r).tried s' stamp' r').node? q
        = ((t.tried s' stamp' r').node? q) := by
          by_cases hq' : q ∈ r'.footprint
          · exact tried_congr (agreeOn_tried h t s stamp) q hq'
          · rw [node?_tried _ s' stamp' hq', node?_tried _ s stamp hq, node?_tried _ s' stamp' hq']
      _ = ((t.tried s' stamp' r').tried s stamp r).node? q := (node?_tried _ s stamp hq).symm

/-! ## The numbers of transactions -/

theorem verdict_unstamped (t : Tree) (s : Session) (stamp : Int) (r : Request) :
    t.unstamped.verdict s 0 r = (t.verdict s stamp r).map Answer.unstamped := by
  rw [verdict, verdict, apply_unstamped t s stamp]
  cases t.apply s stamp r <;> rfl

theorem tried_unstamped (t : Tree) (s : Session) (stamp : Int) (r : Request) :
    t.unstamped.tried s 0 r = (t.tried s stamp r).unstamped := by
  rw [tried, tried, apply_unstamped t s stamp]
  cases t.apply s stamp r <;> rfl

end Tree

/-! ## Stores -/

/-- How many transactions a request is, by what the tree says to it. -/
def Request.transactions (r : Request) : Except ErrorCode Answer → Nat
  | .ok _ => if r.isMutation then 1 else 0
  | .error _ => 0

namespace Store

variable {st : Store} {s s' : Session} {r r' : Request}

/-- The store without the numbers of transactions. -/
def unstamped (st : Store) : Store := { st with tree := st.tree.unstamped }

/-- **What a request does to a store without faults**, the numbers of transactions left out: the
tree answers it, and it has been counted. -/
theorem submit_of_calm (hf : st.faults = []) (hs : st.isConnected s) (r : Request) :
    let verdict := st.tree.unstamped.verdict s 0 r
    (st.submit s r).1.map Answer.unstamped =
        verdict.mapError (StoreError.refused · (some r.path)) ∧
      (st.submit s r).2.unstamped =
        { st with
          tree := st.tree.unstamped.tried s 0 r
          requests := st.requests + 1
          mutations := st.mutations + r.transactions verdict } ∧
      (st.submit s r).2.tree.transaction = st.tree.transaction + r.transactions verdict := by
  intro verdict
  have hverdict : verdict = (st.tree.verdict s (st.tree.transaction + 1) r).map Answer.unstamped :=
    st.tree.verdict_unstamped s _ r
  rw [hverdict, st.tree.tried_unstamped s (st.tree.transaction + 1), Tree.verdict, Tree.tried,
    submit_of_faultless hs hf]
  cases happly : st.tree.apply s (st.tree.transaction + 1) r with
  | error code =>
    have hletIn : (st.letIn []).tree.apply s ((st.letIn []).tree.transaction + 1) r =
        .error code := happly
    rw [applyOne_of_refused hletIn]
    refine ⟨rfl, ?_, (Int.add_zero _).symm⟩
    rw [unstamped, letIn, ← hf]
    rfl
  | ok result =>
    obtain ⟨a, t⟩ := result
    have hletIn : (st.letIn []).tree.apply s ((st.letIn []).tree.transaction + 1) r =
        .ok (a, t) := happly
    cases hr : r.isMutation with
    | true =>
      rw [applyOne_of_applied hr hletIn]
      refine ⟨rfl, ?_, ?_⟩
      · rw [unstamped, advanced, letIn, ← hf]
        simp only [Except.map, Request.transactions, hr, if_true]
        rfl
      · simp only [Except.map, Request.transactions, hr, if_true]
        rfl
    | false =>
      obtain rfl : t = st.tree := eq_of_apply_check hr happly
      rw [applyOne_of_checked hr hletIn]
      refine ⟨rfl, ?_, ?_⟩
      · rw [unstamped, letIn, ← hf]
        simp only [Except.map, Request.transactions, hr]
        rfl
      · simp only [Except.map, Request.transactions, hr]
        exact (Int.add_zero _).symm

/-- Two independent requests to a store without faults: the second one is answered as if it were the
first, and both have been counted. -/
theorem submit_submit_of_calm (hf : st.faults = []) (hs : st.isConnected s)
    (hs' : st.isConnected s') (h : Disjoint r.footprint r'.footprint) :
    ((st.submit s r).2.submit s' r').1.map Answer.unstamped =
        (st.submit s' r').1.map Answer.unstamped ∧
      ((st.submit s r).2.submit s' r').2.unstamped =
        { st with
          tree := (st.tree.unstamped.tried s 0 r).tried s' 0 r'
          requests := st.requests + 2
          mutations := st.mutations + r.transactions (st.tree.unstamped.verdict s 0 r) +
            r'.transactions (st.tree.unstamped.verdict s' 0 r') } ∧
      ((st.submit s r).2.submit s' r').2.tree.transaction =
        st.tree.transaction + r.transactions (st.tree.unstamped.verdict s 0 r) +
          r'.transactions (st.tree.unstamped.verdict s' 0 r') := by
  obtain ⟨-, hstore, htransaction⟩ := submit_of_calm hf hs r
  obtain ⟨hanswer', -, -⟩ := submit_of_calm hf hs' r'
  generalize (st.submit s r).2 = st₁ at hstore htransaction ⊢
  -- all that is not told of the store after the first request are the numbers in its tree
  obtain ⟨tree, faults, expired, closed, nextSession, requests, mutations, commits⟩ := st₁
  simp only [unstamped, Store.mk.injEq] at hstore
  obtain ⟨htree, rfl, rfl, rfl, rfl, rfl, rfl, rfl⟩ := hstore
  obtain ⟨hanswer, hstore', htransaction'⟩ :=
    @submit_of_calm ⟨tree, _, _, _, _, _, _, _⟩ s' hf hs' r'
  rw [htree, Tree.verdict_tried h] at hanswer hstore' htransaction'
  refine ⟨hanswer.trans hanswer'.symm, hstore', htransaction'.trans ?_⟩
  rw [htransaction]

/-- **Independent requests commute.** Take any store without faults, two sessions that are connected
and two requests with disjoint footprints. Each request is answered the same, but for the numbers of
transactions, whether it is made first or second, and both orders lead to the same store: it has
counted the same, the number of its last transaction is the same, and so are all nodes but for the
numbers of the transactions that they carry. -/
theorem submit_comm (hf : st.faults = []) (hs : st.isConnected s) (hs' : st.isConnected s')
    (h : Disjoint r.footprint r'.footprint) :
    ((st.submit s' r').2.submit s r).1.map Answer.unstamped =
        (st.submit s r).1.map Answer.unstamped ∧
      ((st.submit s r).2.submit s' r').1.map Answer.unstamped =
        (st.submit s' r').1.map Answer.unstamped ∧
      ((st.submit s r).2.submit s' r').2.unstamped =
        ((st.submit s' r').2.submit s r).2.unstamped ∧
      ((st.submit s r).2.submit s' r').2.tree.transaction =
        ((st.submit s' r').2.submit s r).2.tree.transaction := by
  obtain ⟨hanswer', hstore, htransaction⟩ := submit_submit_of_calm hf hs hs' h
  obtain ⟨hanswer, hstore', htransaction'⟩ := submit_submit_of_calm hf hs' hs h.symm
  refine ⟨hanswer, hanswer', ?_, ?_⟩
  · rw [hstore, hstore', Tree.tried_comm h, Nat.add_right_comm]
  · rw [htransaction, htransaction', Int.add_right_comm]

/-- A branch of nodes, and two sessions that build on it. -/
def someBranch : List Move :=
  [.connect [], .connect [],
    .multi ⟨1, []⟩
      [.create "/a" ByteArray.empty .worldOpen .persistent,
        .create "/a/b" ByteArray.empty .worldOpen .persistent,
        .create "/a/b/c" ByteArray.empty .worldOpen .persistent,
        .create "/a/b/c/d" ByteArray.empty .worldOpen .persistent]]

/-- One session adds a numbered node near the root, the other one takes a leaf away that is below a
sibling of this node. -/
theorem submit_comm_of_someBranch :
    let st := Move.run .initial someBranch
    let r : Request := .create "/a/n" ByteArray.empty .worldOpen .ephemeralSequential
    let r' : Request := .delete "/a/b/c/d" 0
    Disjoint r.footprint r'.footprint ∧
    ((st.submit ⟨2, []⟩ r').2.submit ⟨1, []⟩ r).1.map Answer.unstamped =
      (st.submit ⟨1, []⟩ r).1.map Answer.unstamped ∧
    ((st.submit ⟨1, []⟩ r).2.submit ⟨2, []⟩ r').2.unstamped =
      ((st.submit ⟨2, []⟩ r').2.submit ⟨1, []⟩ r).2.unstamped ∧
    ((st.submit ⟨1, []⟩ r).2.submit ⟨2, []⟩ r').2.tree ≠
      ((st.submit ⟨2, []⟩ r').2.submit ⟨1, []⟩ r).2.tree := by
  intro st r r'
  have habove : Path.parent? "/a/n" = some "/a" := by decide +kernel
  have habove' : Path.parent? "/a/b/c/d" = some "/a/b/c" := by decide +kernel
  have h : Disjoint r.footprint r'.footprint :=
    Path.disjoint_family habove habove' (by decide) (by decide +kernel) (by decide +kernel)
  have hf : st.faults = [] := by decide +kernel
  have hs : st.isConnected ⟨1, []⟩ := by decide +kernel
  have hs' : st.isConnected ⟨2, []⟩ := by decide +kernel
  obtain ⟨hanswer, -, hstore, -⟩ := submit_comm hf hs hs' h
  -- what is left of the order is which of the two transactions has created the node
  exact ⟨h, hanswer, hstore, by decide +kernel⟩

end Store

end Coordination
