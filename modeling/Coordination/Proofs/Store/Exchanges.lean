import Coordination.Proofs.Store.Batches
import Coordination.Proofs.Store.Echoes
import Coordination.Proofs.Store.Resending

/-!
# Stores that echo each other

One request, or one batch, on two stores that serve the session and whose trees echo each other
through two namespaces: the stores answer alike, an error naming the same path of the two
namespaces, and their trees go on echoing each other.

## Main definitions

* `Store.Serves`: whether a session's requests reach the tree
* `Store.Echoes`, `StoreError.Echoes`: what agrees with what
* `Request.Abides`, `Store.Twins`: what can be asked for again and again, and of what stores

## Main results

* `Store.Echoes.submit`, `Store.Echoes.multi`, `Store.Echoes.exists?`: the calls of a link
* `Store.Twins.submit`, `Store.Twins.multi`: calls that can be repeated
-/

namespace Coordination

/-- Two errors of the store agree: they have the same code and the same path of the two
namespaces. -/
inductive StoreError.Echoes (n n' : Namespace) : StoreError → StoreError → Prop where
  | refused (code : ErrorCode) {p : String} (hp : Path.isValid p) :
      Echoes n n' (.refused code (some (n.fix p))) (.refused code (some (n'.fix p)))
  | aborted (index : Nat) (code : ErrorCode) (answers : List Answer) :
      Echoes n n' (.aborted index code answers) (.aborted index code answers)

@[simp] theorem Namespace.isMutation_fixRequest (n : Namespace) (r : Request) :
    (n.fixRequest r).isMutation = r.isMutation := by
  cases r <;> rfl

section Admits

variable {n : Namespace} {st : Store} {s : Session} {r : Request} {rs : List Request}

/-- A request of a namespace leaves the node above its root as it is to others. -/
theorem Namespace.Admits.submit (h : n.Admits st.tree) (hn : n.IsWellFormed)
    (hp : Path.isValid r.path) (hroot : r.path = Path.root → r.isSequential = false) :
    n.Admits (st.submit s (n.fixRequest r)).2.tree :=
  Store.submit_keeps (P := n.Admits) (fun _ _ ht => ht)
    (fun _ _ _ _ ht happlied => ht.applied hn hp happlied hroot) h

theorem Namespace.Admits.multi (h : n.Admits st.tree) (hn : n.IsWellFormed)
    (hrs : ∀ r ∈ rs, Path.isValid r.path ∧ (r.path = Path.root → r.isSequential = false)) :
    n.Admits (st.multi s (rs.map n.fixRequest)).2.tree := by
  refine Store.multi_keeps (P := n.Admits) (fun _ _ ht => ht) ?_ h
  intro r' hr' t stamp a t' ht happlied
  obtain ⟨r, hr, rfl⟩ := List.mem_map.mp hr'
  exact ht.applied hn (hrs r hr).1 happlied (hrs r hr).2

end Admits

/-- **Whether a request keeps to a namespace**: if it is about the root it asks for no numbered
sibling, and if one is lax about the root it neither creates nor removes it. -/
def Request.Abides (lax : Prop) (r : Request) : Prop :=
  r.path = Path.root → r.isSequential = false ∧ (r.type = .create ∨ r.type = .delete → ¬ lax)

namespace Store

variable {R : Int → Int → Prop} {lax : Prop} {n n' : Namespace} {st st' : Store} {s s' : Session}
  {r : Request} {rs : List Request}

/-! ## Serving a session -/

/-- **Whether what a session asks for reaches the tree, and is answered**: the session is connected,
and there are no faults to come. -/
structure Serves (st : Store) (s : Session) : Prop where
  faults : st.faults = []
  connected : st.isConnected s

theorem Serves.submit_eq (h : st.Serves s) (r : Request) :
    st.submit s r = ({ st with requests := st.requests + 1 } : Store).applyOne s r := by
  rw [submit, receive_of_connected h.connected, h.faults]

theorem Serves.multi_eq (h : st.Serves s) (rs : List Request) :
    st.multi s rs = ({ st with requests := st.requests + 1 } : Store).applyBatch s rs :=
  multi_of_connected h.faults h.connected rs

/-- What a tree accepts is applied, as a transaction of its own unless it is a check. -/
theorem Serves.submit_of_applied {a : Answer} {t : Tree} (h : st.Serves s)
    (happly : st.tree.apply s (st.tree.transaction + 1) r = .ok (a, t)) :
    (st.submit s r).1 = .ok a ∧ (∀ p, (st.submit s r).2.tree.node? p = t.node? p) ∧
      (r.isMutation →
        (st.submit s r).2.tree = { t with transaction := st.tree.transaction + 1 }) := by
  rw [h.submit_eq, applyOne]
  dsimp only
  rw [happly]
  by_cases hr : r.isMutation = true
  · simp only [hr, if_true]
    exact ⟨trivial, fun _ => rfl, fun _ => trivial⟩
  · have ht : t = st.tree := eq_of_apply_check (by simpa using hr) happly
    simp only [hr, ht]
    exact ⟨rfl, fun _ => rfl, fun hr' => by cases hr'⟩

/-- A request makes no faults and closes no session. -/
theorem Serves.submit (h : st.Serves s') (hs : st.Serves s) (r : Request) :
    (st.submit s r).2.Serves s' := by
  obtain ⟨tree, mutations, happly⟩ := applyOne_eq { st with requests := st.requests + 1 } s r
  rw [hs.submit_eq, happly]
  exact ⟨h.faults, h.connected⟩

theorem Serves.multi (h : st.Serves s') (hs : st.Serves s) (rs : List Request) :
    (st.multi s rs).2.Serves s' := by
  rw [hs.multi_eq, applyBatch]
  dsimp only
  split
  · exact ⟨h.faults, h.connected⟩
  · exact ⟨h.faults, h.connected⟩

/-! ## Echoes -/

/-- **Two stores echo each other**: both serve the session, and their trees echo each other. -/
structure Echoes (R : Int → Int → Prop) (lax : Prop) (n n' : Namespace) (s : Session)
    (st st' : Store) : Prop where
  serves : st.Serves s
  serves' : st'.Serves s
  tree : st.tree.Echoes R lax n n' st'.tree

namespace Echoes

/-- **One request** on two stores that echo each other. -/
theorem submit (h : st.Echoes R lax n n' s st') (hn : n.IsWellFormed) (hn' : n'.IsWellFormed)
    (hR : ∀ a b, R a b → R (a + 1) (b + 1)) (hr : Tree.Suits lax n n' st.tree st'.tree r) :
    Agree (StoreError.Echoes n n') (Answer.Echoes R n n') (st.submit s (n.fixRequest r)).1
        (st'.submit s (n'.fixRequest r)).1 ∧
      (st.submit s (n.fixRequest r)).2.Echoes R lax n n' s
        (st'.submit s (n'.fixRequest r)).2 := by
  -- both stores let the request in, so what they make of it is what their trees do
  have hserves := h.serves.submit h.serves (n.fixRequest r)
  have hserves' := h.serves'.submit h.serves' (n'.fixRequest r)
  have hstamp := hR _ _ h.tree.transaction
  have happly := h.tree.apply (s := s) hn hn' hr hstamp
  rw [h.serves.submit_eq, applyOne] at hserves ⊢
  rw [h.serves'.submit_eq, applyOne] at hserves' ⊢
  dsimp only at hserves hserves' ⊢
  generalize st.tree.apply s (st.tree.transaction + 1) (n.fixRequest r) = y at *
  generalize st'.tree.apply s (st'.tree.transaction + 1) (n'.fixRequest r) = y' at *
  cases happly with
  | error hcode =>
    subst hcode
    rw [Namespace.path_fixRequest, Namespace.path_fixRequest]
    exact ⟨.error (.refused _ hr.1), hserves, hserves', h.tree⟩
  | @ok x x' hyields =>
    obtain ⟨a, t⟩ := x
    obtain ⟨a', t'⟩ := x'
    dsimp only at hserves hserves' ⊢
    -- only what changes the tree is counted as a transaction
    by_cases hmutation : r.isMutation = true
    · simp only [Namespace.isMutation_fixRequest, hmutation, if_true] at hserves hserves' ⊢
      exact ⟨.ok hyields.1, hserves, hserves', hyields.2.counted hstamp⟩
    · simp only [Namespace.isMutation_fixRequest, hmutation] at hserves hserves' ⊢
      exact ⟨.ok hyields.1, hserves, hserves', h.tree⟩

/-- **One batch** on two stores that echo each other. -/
theorem multi (h : st.Echoes R lax n n' s st') (hn : n.IsWellFormed) (hn' : n'.IsWellFormed)
    (hR : ∀ a b, R a b → R (a + 1) (b + 1))
    (hrs : ∀ r ∈ rs, Tree.Suits lax n n' st.tree st'.tree r) :
    Agree (StoreError.Echoes n n') (List.Forall₂ (Answer.Echoes R n n'))
        (st.multi s (rs.map n.fixRequest)).1 (st'.multi s (rs.map n'.fixRequest)).1 ∧
      (st.multi s (rs.map n.fixRequest)).2.Echoes R lax n n' s
        (st'.multi s (rs.map n'.fixRequest)).2 := by
  have hserves := h.serves.multi h.serves (rs.map n.fixRequest)
  have hserves' := h.serves'.multi h.serves' (rs.map n'.fixRequest)
  have hstamp := hR _ _ h.tree.transaction
  have happly := h.tree.applyAll (s := s) hn hn' hrs hstamp 0
  rw [h.serves.multi_eq, applyBatch] at hserves ⊢
  rw [h.serves'.multi_eq, applyBatch] at hserves' ⊢
  dsimp only at hserves hserves' ⊢
  generalize st.tree.applyAll s (st.tree.transaction + 1) 0 (rs.map n.fixRequest) = y at *
  generalize st'.tree.applyAll s (st'.tree.transaction + 1) 0 (rs.map n'.fixRequest) = y' at *
  cases happly with
  | error hfailure =>
    subst hfailure
    rw [List.length_map, List.length_map]
    exact ⟨.error (.aborted ..), hserves, hserves', h.tree⟩
  | ok hyields => exact ⟨.ok hyields.1, hserves, hserves', hyields.2.counted hstamp⟩

/-- **A look at a node** on two stores that echo each other. -/
theorem exists? (h : st.Echoes R lax n n' s st') (hn : n.IsWellFormed) (hn' : n'.IsWellFormed)
    {p : String} (hp : Path.isValid p) :
    ∃ z z', st.exists? s (n.fix p) = .ok z ∧ st'.exists? s (n'.fix p) = .ok z' ∧
      Option.Rel (Stat.Echoes R) z z' := by
  refine ⟨_, _, exists?_of_isConnected h.serves.connected (hn.isValid_fix hp),
    exists?_of_isConnected h.serves'.connected (hn'.isValid_fix hp), ?_⟩
  exact rel_map (h.tree.node p hp) fun _ _ hx => hx.1.stat

end Echoes

/-! ## Twins -/

/-- **Two stores that go on echoing each other**: they echo each other, and their trees let the
roots of the two namespaces come and go, unless one is lax about the roots. -/
structure Twins (R : Int → Int → Prop) (lax : Prop) (n n' : Namespace) (s : Session)
    (st st' : Store) : Prop where
  echoes : st.Echoes R lax n n' s st'
  admits : ¬ lax → n.Admits st.tree ∧ n'.Admits st'.tree

namespace Twins

theorem suits (h : st.Twins R lax n n' s st') (hp : Path.isValid r.path) (hr : r.Abides lax) :
    Tree.Suits lax n n' st.tree st'.tree r := by
  refine ⟨hp, fun hroot => ⟨(hr hroot).1, fun htype => ?_⟩⟩
  have hlax : ¬ lax := (hr hroot).2 htype
  exact ⟨hlax, h.admits hlax⟩

/-- **One request** on two stores that go on echoing each other. -/
theorem submit (h : st.Twins R lax n n' s st') (hn : n.IsWellFormed) (hn' : n'.IsWellFormed)
    (hR : ∀ a b, R a b → R (a + 1) (b + 1)) (hp : Path.isValid r.path) (hr : r.Abides lax) :
    Agree (StoreError.Echoes n n') (Answer.Echoes R n n') (st.submit s (n.fixRequest r)).1
        (st'.submit s (n'.fixRequest r)).1 ∧
      (st.submit s (n.fixRequest r)).2.Twins R lax n n' s
        (st'.submit s (n'.fixRequest r)).2 := by
  obtain ⟨hagree, hechoes⟩ := h.echoes.submit hn hn' hR (h.suits hp hr)
  have hroot : r.path = Path.root → r.isSequential = false := fun heq => (hr heq).1
  refine ⟨hagree, hechoes, fun hlax => ?_⟩
  obtain ⟨hadmits, hadmits'⟩ := h.admits hlax
  exact ⟨hadmits.submit hn hp hroot, hadmits'.submit hn' hp hroot⟩

/-- **One batch** on two stores that go on echoing each other. -/
theorem multi (h : st.Twins R lax n n' s st') (hn : n.IsWellFormed) (hn' : n'.IsWellFormed)
    (hR : ∀ a b, R a b → R (a + 1) (b + 1))
    (hrs : ∀ r ∈ rs, Path.isValid r.path ∧ r.Abides lax) :
    Agree (StoreError.Echoes n n') (List.Forall₂ (Answer.Echoes R n n'))
        (st.multi s (rs.map n.fixRequest)).1 (st'.multi s (rs.map n'.fixRequest)).1 ∧
      (st.multi s (rs.map n.fixRequest)).2.Twins R lax n n' s
        (st'.multi s (rs.map n'.fixRequest)).2 := by
  obtain ⟨hagree, hechoes⟩ :=
    h.echoes.multi hn hn' hR fun r hr => h.suits (hrs r hr).1 (hrs r hr).2
  have hroot : ∀ r ∈ rs, Path.isValid r.path ∧ (r.path = Path.root → r.isSequential = false) :=
    fun r hr => ⟨(hrs r hr).1, fun heq => ((hrs r hr).2 heq).1⟩
  refine ⟨hagree, hechoes, fun hlax => ?_⟩
  obtain ⟨hadmits, hadmits'⟩ := h.admits hlax
  exact ⟨hadmits.multi hn hroot, hadmits'.multi hn' hroot⟩

end Twins

end Store

end Coordination
