import Mathlib.Data.List.Chain
import Mathlib.Data.List.Induction
import Coordination.Proofs.Client.Descents
import Coordination.Proofs.Client.Ensuring
import Coordination.Proofs.Store.Exchanges

/-!
# What ensuring a path builds

On the way down to a path an ensurer meets the nodes that are there, and passes them, also if it
would not be allowed to create them. From the first node that is missing on it creates one below the
other, until it is at the end or the store refuses. Nobody has to look whether a node is there that
it is about to create: the tree has no node whose parent is missing.

## What the store may refuse

A node that is missing is refused for want of a permission, or because the node above belongs to a
session. The first node that is missing is below one that was there before, and whose access list
somebody else may have made; all others are below nodes that the ensurer has created itself. For a
node that is there no permission is needed: the store looks at the permission first, but then the
ensurer looks for the node.

## Main definitions

* `Tree.Borne`: trees in which every node stands below one that lasts
* `Ensurer.Grown`: a tree with some nodes more on the way to a path
* `Ensurer.Call.Ends`: what a call comes to after its last attempt
* `Store.regranted`: a store with other access lists

## Main results

* `Ensurer.exists_grown_of_descend`: what the way down to a path leaves behind
* `Ensurer.ask_grows`: what ensuring a path does to a store
* `Ensurer.ask_tolerates`: a node that is there, whoever may create it
-/

namespace Coordination

variable {t t₁ t' : Tree} {s : Session} {stamp : Int} {p q above : String} {ps made : List String}
  {e : Ensurer} {a : Answer} {code : ErrorCode} {st : Store}

/-! ## Nodes below others -/

namespace Tree

/-- **Whether every node but the root stands below one that lasts.** -/
def Borne (t : Tree) : Prop :=
  ∀ p, (t.node? p).isSome → ∀ above, Path.parent? p = some above →
    ∃ m, t.node? above = some m ∧ m.mode.isEphemeral = false

theorem WellFormed.borne (h : t.WellFormed) : t.Borne := by
  intro p hp above habove
  obtain ⟨n, hn⟩ := Option.isSome_iff_exists.mp hp
  obtain ⟨above', habove', hsome⟩ := (h.fits p n hn).parent (Path.ne_root_of_parent? habove)
  obtain rfl : above = above' := by simpa [habove] using habove'
  obtain ⟨m, hm⟩ := Option.isSome_iff_exists.mp hsome
  refine ⟨m, hm, ?_⟩
  -- an ephemeral node has no children
  by_contra hephemeral
  have hchildless := (h.fits above m hm).self.childless (by simpa using hephemeral)
  exact h.ne_parent_of_childless hm hchildless hp habove

/-- What is below a node that is missing is missing. -/
theorem Borne.node?_eq_none (h : t.Borne) (habove : Path.parent? p = some above)
    (hmissing : t.node? above = none) : t.node? p = none := by
  by_contra hp
  obtain ⟨m, hm, -⟩ := h p (Option.isSome_iff_ne_none.mpr hp) above habove
  rw [hmissing] at hm
  cases hm

/-- So is all that is further down. -/
theorem Borne.node?_eq_none_of_mem (h : t.Borne)
    (hchain : (p :: ps).IsChain fun p q => Path.parent? q = some p) (hmissing : t.node? p = none)
    (hq : q ∈ p :: ps) : t.node? q = none := by
  induction ps generalizing p with
  | nil =>
    obtain rfl : q = p := by simpa using hq
    exact hmissing
  | cons p' ps ih =>
    obtain ⟨habove, hchain'⟩ := List.isChain_cons_cons.mp hchain
    rcases List.mem_cons.mp hq with rfl | hq'
    · exact hmissing
    · exact ih hchain' (h.node?_eq_none habove hmissing) hq'

/-- What leads to a node is there. -/
theorem Borne.isSome_of_precedes (h : t.Borne) (hpq : Path.Precedes p q)
    (hq : (t.node? q).isSome) : (t.node? p).isSome := by
  obtain ⟨ss, ts, hall, rfl, rfl⟩ := hpq
  induction ts using List.reverseRecOn with
  | nil => simpa using hq
  | append_singleton ts x ih =>
    rw [← List.append_assoc] at hall hq
    have hx : Path.isSegment x := hall x (by simp)
    obtain ⟨m, hm, -⟩ := h _ hq _ (Path.parent?_concat (ss ++ ts) hx)
    exact ih (fun y hy => hall y (List.mem_append_left [x] hy)) (by rw [hm]; rfl)

end Tree

namespace Ensurer

/-- A create by an ensurer puts its node below one that lasts. -/
theorem borne_of_apply_request (h : t.Borne)
    (happly : t.apply s stamp (e.request p) = .ok (a, t₁)) : t₁.Borne := by
  obtain ⟨hkeeps, -⟩ := keeps_of_apply_request happly
  obtain ⟨above, parent, -, habove, hparent, -, -, hlasts, -, -, rfl⟩ :=
    apply_request_eq_ok_iff.mp happly
  have hstays : ∀ {q m}, t.node? q = some m → m.mode.isEphemeral = false →
      ∃ m', (t.attach above p (.leaf ByteArray.empty e.acl
        (Tree.freshStat s ByteArray.empty e.mode stamp) e.mode)).node? q = some m' ∧
        m'.mode.isEphemeral = false := by
    intro q m hm hlasts
    obtain ⟨m', hm', -, hmode⟩ := hkeeps.exists_node hm
    exact ⟨m', hm', by rwa [hmode]⟩
  intro q hq above' habove'
  rcases Tree.isSome_node?_attach.mp hq with rfl | hold
  · obtain rfl : above = above' := by simpa [habove] using habove'
    exact hstays hparent hlasts
  · obtain ⟨m, hm, hm'⟩ := h q hold above' habove'
    exact hstays hm hm'

theorem borne_descend (h : st.tree.Borne) (e : Ensurer) (s : Session) (ps : List String) :
    (e.descend s ps st).2.tree.Borne := by
  induction ps, st using descend_induction e s with
  | nil st => exact h
  | created p ps st a t happly ih =>
    have hgrown : t.Borne := borne_of_apply_request h happly
    rw [descend_of_created happly]
    exact ih hgrown
  | excused p ps st code happly hexcuse ih =>
    rw [descend_of_excused happly hexcuse]
    exact ih h
  | refused p ps st code happly hexcuse =>
    rw [descend_of_refused happly hexcuse]
    exact h

/-! ## Nodes that are there -/

/-- **A node that is there is passed**, with or without a permission. -/
theorem exists_excused (h : t.Borne) (hacl : e.acl ≠ []) (hvalid : Path.isValid p)
    (hp : (t.node? p).isSome) (s : Session) (stamp : Int) :
    ∃ code, t.apply s stamp (e.request p) = .error code ∧ t.Excuses p code := by
  by_cases hrefused : ∃ above m, Path.parent? p = some above ∧ t.node? above = some m ∧
      m.permits s .create = false
  · obtain ⟨above, m, habove, hm, hpermits⟩ := hrefused
    exact ⟨.noAuth, apply_request_eq_noAuth_iff.mpr ⟨above, m, hvalid, habove, hm, hpermits⟩,
      .inr ⟨rfl, hp⟩⟩
  · refine ⟨.nodeExists, apply_request_eq_nodeExists_iff.mpr ⟨hvalid, ?_⟩, .inl rfl⟩
    intro above habove
    obtain ⟨m, hm, hlasts⟩ := h p hp above habove
    have hpermits : m.permits s .create := by
      by_contra hnot
      exact hrefused ⟨above, m, habove, hm, by simpa using hnot⟩
    exact ⟨m, hm, hpermits, hacl, hlasts, hp⟩

theorem descend_of_present (h : st.tree.Borne) (hacl : e.acl ≠ []) (hvalid : Path.isValid p)
    (hp : (st.tree.node? p).isSome) (s : Session) (ps : List String) :
    e.descend s (p :: ps) st = e.descend s ps st := by
  obtain ⟨code, happly, hexcuse⟩ := exists_excused h hacl hvalid hp s (st.tree.transaction + 1)
  exact descend_of_excused happly hexcuse ps

/-- **A node that is refused is not there.** -/
theorem node?_eq_none_of_not_excused (h : t.Borne) (hacl : e.acl ≠ []) (hvalid : Path.isValid p)
    (happly : t.apply s stamp (e.request p) = .error code) (hexcuse : ¬ t.Excuses p code) :
    t.node? p = none := by
  by_contra hp
  obtain ⟨code', happly', hexcuse'⟩ :=
    exists_excused h hacl hvalid (Option.isSome_iff_ne_none.mpr hp) s stamp
  obtain rfl : code' = code := by simpa [happly'] using happly
  exact hexcuse hexcuse'

end Ensurer

/-! ## Nodes that are missing -/

namespace Node

/-- A node with the child that comes next on a way, if any does. -/
def leading (n : Node) : Option String → Node
  | none => n
  | some p => n.gain (Path.name p)

end Node

namespace Ensurer

/-- The node that an ensurer creates in a transaction. -/
def leaf (e : Ensurer) (s : Session) (stamp : Int) : Node :=
  .leaf ByteArray.empty e.acl (Tree.freshStat s ByteArray.empty e.mode stamp) e.mode

/-- There is no excuse for a node that is missing. -/
theorem not_excuses_of_missing (habove : Path.parent? p = some above) (hp : t.node? p = none)
    (happly : t.apply s stamp (e.request p) = .error code) : ¬ t.Excuses p code := by
  rintro (rfl | ⟨-, hpresent⟩)
  · obtain ⟨parent, -, -, -, -, hpresent⟩ :=
      (apply_request_eq_nodeExists_iff.mp happly).2 above habove
    rw [hp] at hpresent
    cases hpresent
  · rw [hp] at hpresent
    cases hpresent

/-- What comes next is missing too when the node above it has only just come. -/
theorem node?_attach_of_missing (h : t.Borne) (hthere : (t.node? above).isSome)
    (hvalid : Path.isValid p) (hp : t.node? p = none) (hq : Path.parent? q = some p) (n : Node) :
    (t.attach above p n).node? q = none := by
  have hqmissing := h.node?_eq_none hq hp
  have hqp : q ≠ p := by
    rintro rfl
    exact Path.parent?_ne_self hvalid hq
  have hqabove : q ≠ above := by
    rintro rfl
    rw [hqmissing] at hthere
    cases hthere
  rw [Tree.node?_attach, if_neg hqp, if_neg hqabove, hqmissing]

/-- **Whether a tree is another one with some nodes more**, each below the one before it, on the way
down from a node that was there. -/
structure Grown (e : Ensurer) (s : Session) (above : String) (made : List String) (t t' : Tree) :
    Prop where
  /-- They were missing. -/
  missing : ∀ q ∈ made, t.node? q = none
  /-- Each is as the ensurer creates it, one transaction after the one above it, and leads to the
  next one. -/
  node : ∀ i (h : i < made.length),
    t'.node? made[i] = some ((e.leaf s (t.transaction + 1 + i)).leading made[i + 1]?)
  /-- The node from where they lead down has one more child, and is as it was if there are none. -/
  top : t'.node? above = (t.node? above).map (·.leading made[0]?)
  /-- All other nodes are as they were. -/
  rest : ∀ q, q ≠ above → q ∉ made → t'.node? q = t.node? q
  /-- There were no other transactions. -/
  transaction : t'.transaction = t.transaction + made.length

theorem Grown.nil (e : Ensurer) (s : Session) (above : String) (t : Tree) :
    e.Grown s above [] t t where
  missing := by simp
  node i h := by simp at h
  top := by simp [Node.leading]
  rest _ _ _ := rfl
  transaction := by simp

/-- One more node at the top. -/
theorem Grown.cons (hvalid : Path.isValid p) (habove : Path.parent? p = some above)
    (hthere : (t.node? above).isSome) (hmissing : t.node? p = none)
    (h : e.Grown s p made
      { t.attach above p (e.leaf s (t.transaction + 1)) with transaction := t.transaction + 1 }
      t') :
    e.Grown s above (p :: made) t t' := by
  have hattach (q : String) :
      ({ t.attach above p (e.leaf s (t.transaction + 1)) with
        transaction := t.transaction + 1 } : Tree).node? q =
      if q = p then some (e.leaf s (t.transaction + 1))
      else if q = above then (t.node? q).map (·.gain (Path.name p)) else t.node? q := by
    rw [Tree.node?_transaction, Tree.node?_attach]
  have hne : above ≠ p := by
    rintro rfl
    exact Path.parent?_ne_self hvalid habove
  obtain ⟨m, hm⟩ := Option.isSome_iff_exists.mp hthere
  have hmade : above ∉ made := by
    -- the others were missing after the first one had come, and this one was not
    intro hmem
    have hnone := h.missing above hmem
    rw [hattach, if_neg hne, if_pos rfl, hm] at hnone
    cases hnone
  refine ⟨?_, ?_, ?_, ?_, ?_⟩
  · intro q hq
    rcases List.mem_cons.mp hq with rfl | hq
    · exact hmissing
    · have hnone := h.missing q hq
      rw [hattach] at hnone
      split at hnone
      · cases hnone
      · split at hnone
        · simpa using hnone
        · exact hnone
  · intro i hi
    cases i with
    | zero =>
      have htop := h.top
      rw [hattach, if_pos rfl] at htop
      simpa using htop
    | succ i =>
      have hnode := h.node i (by simpa using hi)
      have hstamp (z : Int) : z + 1 + i = z + ((i + 1 : Nat) : Int) := by omega
      dsimp only at hnode
      rw [hstamp] at hnode
      exact hnode
  · rw [h.rest above hne hmade, hattach, if_neg hne, if_pos rfl]
    rfl
  · intro q hq hmem
    obtain ⟨hqp, hqmade⟩ := not_or.mp (fun hor => hmem (List.mem_cons.mpr hor))
    rw [h.rest q hqp hqmade, hattach, if_neg hqp, if_neg hq]
  · rw [h.transaction, List.length_cons]
    dsimp only
    omega

/-- **How the way down ends**: after its last node, or before a node that the tree refuses to
create. -/
def Stops (e : Ensurer) (s : Session) (t : Tree) (result : Except StoreError Unit) :
    List String → Prop
  | [] => result = .ok ()
  | q :: _ => ∃ code, result = .error (.refused code (some q)) ∧
      t.apply s (t.transaction + 1) (e.request q) = .error code ∧ ¬ t.Excuses q code

/-- What is left of the way is missing. -/
theorem Stops.node?_eq_none {result : Except StoreError Unit} (h : e.Stops s t result ps)
    (hborne : t.Borne) (hacl : e.acl ≠ []) (hvalid : ∀ q ∈ ps, Path.isValid q)
    (hchain : ps.IsChain fun p q => Path.parent? q = some p) (hq : q ∈ ps) :
    t.node? q = none := by
  cases ps with
  | nil => cases hq
  | cons q₀ ps =>
    obtain ⟨code, -, happly, hexcuse⟩ := h
    -- what follows on a node that has been refused is as far out of reach
    have hmissing : t.node? q₀ = none :=
      node?_eq_none_of_not_excused hborne hacl (hvalid q₀ List.mem_cons_self) happly hexcuse
    exact hborne.node?_eq_none_of_mem hchain hmissing hq

/-- **From the first node that is missing on**, nodes are created until the tree refuses one. -/
theorem exists_grown_of_missing (hborne : st.tree.Borne)
    (hthere : (st.tree.node? above).isSome)
    (hchain : (above :: ps).IsChain fun p q => Path.parent? q = some p)
    (hvalid : ∀ q ∈ ps, Path.isValid q) (hmissing : ∀ q ∈ ps.head?, st.tree.node? q = none)
    (s : Session) :
    ∃ made left, ps = made ++ left ∧ e.Grown s above made st.tree (e.descend s ps st).2.tree ∧
      (e.descend s ps st).2.mutations = st.mutations + made.length ∧
      e.Stops s (e.descend s ps st).2.tree (e.descend s ps st).1 left := by
  induction ps generalizing above st with
  | nil => exact ⟨[], [], rfl, .nil e s above st.tree, rfl, rfl⟩
  | cons p ps ih =>
    obtain ⟨habove, hchain'⟩ := List.isChain_cons_cons.mp hchain
    have hp : st.tree.node? p = none := hmissing p (by simp)
    have hpvalid : Path.isValid p := hvalid p List.mem_cons_self
    cases happly : st.tree.apply s (st.tree.transaction + 1) (e.request p) with
    | error code =>
      have hexcuse := not_excuses_of_missing habove hp happly
      rw [descend_of_refused happly hexcuse]
      exact ⟨[], p :: ps, rfl, .nil e s above st.tree, rfl, code, rfl, happly, hexcuse⟩
    | ok result =>
      obtain ⟨a, t⟩ := result
      obtain ⟨above', parent, -, habove', -, -, -, -, -, -, ht⟩ := apply_request_eq_ok_iff.mp happly
      obtain rfl : above = above' := by simpa [habove] using habove'
      have hborne' : t.Borne := borne_of_apply_request hborne happly
      obtain ⟨-, hpresent⟩ := keeps_of_apply_request happly
      -- the next node is below one that has only just come
      have hnext : ∀ q ∈ ps.head?, (st.advanced t).tree.node? q = none := by
        intro q hq
        obtain ⟨ps', rfl⟩ : ∃ ps', ps = q :: ps' := List.head?_eq_some_iff.mp hq
        have hparent := (List.isChain_cons_cons.mp hchain').1
        rw [ht]
        exact node?_attach_of_missing hborne hthere hpvalid hp hparent _
      obtain ⟨made, left, hps, hgrown, hmutations, hstops⟩ :=
        ih hborne' hpresent hchain' (fun q hq => hvalid q (List.mem_cons_of_mem p hq)) hnext
      rw [descend_of_created happly]
      refine ⟨p :: made, left, by rw [hps, List.cons_append], ?_, ?_, hstops⟩
      · rw [ht] at hgrown ⊢
        exact Grown.cons hpvalid habove hthere hp hgrown
      · rw [hmutations, List.length_cons]
        show st.mutations + 1 + made.length = _
        omega

/-- **What the way down to a path leaves behind**: the nodes that were there are passed, then some
of those that were missing are created. -/
theorem exists_grown_of_descend (hborne : st.tree.Borne) (hacl : e.acl ≠ [])
    (hthere : (st.tree.node? above).isSome)
    (hchain : (above :: ps).IsChain fun p q => Path.parent? q = some p)
    (hvalid : ∀ q ∈ ps, Path.isValid q) (s : Session) :
    ∃ there made left, ps = there ++ made ++ left ∧ (∀ q ∈ there, (st.tree.node? q).isSome) ∧
      (∀ q ∈ made ++ left, st.tree.node? q = none) ∧
      e.Grown s (there.getLast?.getD above) made st.tree (e.descend s ps st).2.tree ∧
      (e.descend s ps st).2.mutations = st.mutations + made.length ∧
      e.Stops s (e.descend s ps st).2.tree (e.descend s ps st).1 left := by
  induction ps generalizing above with
  | nil =>
    exact ⟨[], [], [], rfl, by simp, by simp, .nil e s above st.tree, rfl, rfl⟩
  | cons p ps ih =>
    cases hp : st.tree.node? p with
    | some n =>
      -- this node is passed, and the rest leads down from it
      have hpresent : (st.tree.node? p).isSome := by
        rw [hp]
        rfl
      obtain ⟨there, made, left, hps, hall, hrest⟩ :=
        ih hpresent (List.isChain_cons_cons.mp hchain).2
          fun q hq => hvalid q (List.mem_cons_of_mem p hq)
      rw [descend_of_present hborne hacl (hvalid p List.mem_cons_self) hpresent]
      refine ⟨p :: there, made, left, by rw [hps]; rfl, ?_, ?_⟩
      · intro q hq
        rcases List.mem_cons.mp hq with rfl | hq
        · exact hpresent
        · exact hall q hq
      · rw [List.getLast?_cons]
        exact hrest
    | none =>
      obtain ⟨made, left, hps, hrest⟩ :=
        exists_grown_of_missing hborne hthere hchain hvalid (by simpa using hp) s
      refine ⟨[], made, left, hps, by simp, ?_, hrest⟩
      intro q hq
      rw [← hps] at hq
      exact hborne.node?_eq_none_of_mem (List.isChain_cons_cons.mp hchain).2 hp hq

/-- Only the tree and the count of mutations change on the way. -/
theorem exists_descend_eq (e : Ensurer) (s : Session) (ps : List String) (st : Store) :
    ∃ tree mutations, (e.descend s ps st).2 = { st with tree, mutations } := by
  induction ps, st using descend_induction e s with
  | nil st => exact ⟨st.tree, st.mutations, rfl⟩
  | created p ps st a t happly ih =>
    rw [descend_of_created happly]
    exact ih
  | excused p ps st code happly hexcuse ih =>
    rw [descend_of_excused happly hexcuse]
    exact ih
  | refused p ps st code happly hexcuse =>
    rw [descend_of_refused happly hexcuse]
    exact ⟨st.tree, st.mutations, rfl⟩

/-! ## Calls -/

namespace Call

/-- How a call tells of the refusal that has stopped it. -/
def Tells (c : Config) (refusal : StoreError) (f : Failure) : Call → Prop
  | ensure _ => RetryLoop.EndsBy c.policy.rule refusal f
  | ensureOnce _ => f = .store refusal

/-- **What a call comes to** when its last attempt has come to something. -/
def Ends (c : Config) (k : Call) (result : Except Failure Unit) : Except StoreError Unit → Prop
  | .ok () => result = .ok ()
  | .error refusal => ∃ f, result = .error f ∧ k.Tells c refusal f

end Call

variable {k : Call} {c : Config}

/-- One attempt at a store that serves the session. -/
theorem createLineage_of_serves (hst : st.Serves s) (e : Ensurer) (ps : List String) :
    (createLineage (Store.link s) e ps st).1 = (e.descend s ps (st.calm 0)).1 ∧
      (createLineage (Store.link s) e ps st).2.calm 0 = (e.descend s ps (st.calm 0)).2 ∧
      (createLineage (Store.link s) e ps st).2.Serves s := by
  have hfares := fares_createLineage (Store.carries_link s) e ps st hst.connected (by
    rw [hst.faults]
    simp)
  generalize createLineage (Store.link s) e ps st = y at hfares ⊢
  obtain ⟨result, st'⟩ := y
  dsimp only at hfares ⊢
  cases hfares with
  | whole hview hpending =>
    refine ⟨rfl, hview, hpending.trans hst.faults, ?_⟩
    have hconnected := isConnected_descend e s ps (st.calm 0) s
    rw [← hview] at hconnected
    exact hconnected.trans hst.connected
  | struck hpending =>
    rw [hst.faults] at hpending
    cases hpending

/-- **All attempts of a call come to the same**, so it comes to what the first one comes to. -/
theorem work_of_serves (hst : st.Serves s) (e : Ensurer) (c : Config) (k : Call) :
    k.Ends c (e.work (Store.link s) c k st).1
        (e.descend s (Path.lineage (e.space.fix k.path)) (st.calm 0)).1 ∧
      (e.work (Store.link s) c k st).2.calm 0 =
        (e.descend s (Path.lineage (e.space.fix k.path)) (st.calm 0)).2 ∧
      (e.work (Store.link s) c k st).2.Serves s := by
  cases k with
  | ensure p =>
    -- what an attempt finds is what the one before has left, and it comes to the same
    have hattempt : ∀ (_ : Nat) (x : Store),
        (x.Serves s ∧ e.descend s (Path.lineage (e.space.fix p)) (x.calm 0) =
          e.descend s (Path.lineage (e.space.fix p)) (st.calm 0)) →
        ((attempt (Store.link s) e p x).2.Serves s ∧
          e.descend s (Path.lineage (e.space.fix p)) ((attempt (Store.link s) e p x).2.calm 0) =
            e.descend s (Path.lineage (e.space.fix p)) (st.calm 0)) := by
      rintro - x ⟨hx, hsame⟩
      obtain ⟨-, hcalm, hserves⟩ := createLineage_of_serves hx e (Path.lineage (e.space.fix p))
      refine ⟨hserves, ?_⟩
      rw [attempt, hcalm, descend_descend, hsame]
    obtain ⟨n, x, ⟨hx, hsame⟩, hends, hstate⟩ :=
      RetryLoop.exists_attempt_of_run c.policy.rule c.sleeper.surroundings
        (fun _ => attempt (Store.link s) e p) (c.retryBudget (Store.link s) st) .fresh
        hattempt ⟨hst, rfl⟩
    obtain ⟨hresult, hcalm, hserves⟩ := createLineage_of_serves hx e (Path.lineage (e.space.fix p))
    simp only [work, Config.withRetries, Call.path]
    rw [← hstate, ← hsame]
    refine ⟨?_, hcalm, hserves⟩
    rw [attempt, hresult] at hends
    generalize (e.descend s (Path.lineage (e.space.fix p)) (x.calm 0)).1 = tried at hends ⊢
    generalize (RetryLoop.run c.policy.rule c.sleeper.surroundings
      (fun _ => attempt (Store.link s) e p) (c.retryBudget (Store.link s) st) .fresh st).1 =
      result at hends ⊢
    cases hends with
    | ok => rfl
    | error h => exact ⟨_, rfl, h⟩
  | ensureOnce p =>
    obtain ⟨hresult, hcalm, hserves⟩ :=
      createLineage_of_serves hst e (Path.lineage (e.space.fix p))
    simp only [work, attempt, Call.path]
    rw [← hresult]
    generalize
      createLineage (Store.link s) e (Path.lineage (e.space.fix p)) st = y at hcalm hserves ⊢
    rcases y with ⟨refusal | ⟨⟩, st'⟩
    · exact ⟨⟨_, rfl, rfl⟩, hcalm, hserves⟩
    · exact ⟨rfl, hcalm, hserves⟩

/-- A call for a path that has not been ensured, at a store that serves the session, comes to what
the way down comes to on a plain line. -/
theorem exists_ask_eq (hst : st.Serves s) (hvalid : Path.isValid k.path)
    (hnew : e.isEnsured k.path = false) (c : Config) :
    ∃ result requests,
      let y := e.descend s (Path.lineage (e.space.fix k.path)) (st.calm 0)
      e.ask (Store.link s) c k st = (result, if result.isOk then e.remember k.path else e,
        { st with tree := y.2.tree, requests, mutations := y.2.mutations }) ∧
      k.Ends c result y.1 := by
  obtain ⟨hends, hcalm, hserves⟩ := work_of_serves hst e c k
  obtain ⟨tree, mutations, hdescend⟩ :=
    exists_descend_eq e s (Path.lineage (e.space.fix k.path)) (st.calm 0)
  refine ⟨(e.work (Store.link s) c k st).1, (e.work (Store.link s) c k st).2.requests, ?_, hends⟩
  rw [ask_of_not_isEnsured hvalid hnew]
  refine Prod.ext rfl (Prod.ext rfl ?_)
  rw [hdescend] at hcalm ⊢
  have hcalm' : (e.work (Store.link s) c k st).2.calm 0 =
      ({ st with tree, mutations } : Store).calm 0 := hcalm
  have heq := Store.eq_of_calm hcalm'
  rwa [hserves.faults.trans hst.faults.symm] at heq

/-- What a tree says to a create by an ensurer, a store that serves the session says. -/
theorem fst_submit_of_error (hst : st.Serves s)
    (happly : st.tree.apply s (st.tree.transaction + 1) (e.request p) = .error code) :
    (st.submit s (e.request p)).1 = .error (.refused code (some p)) := by
  have happly' : (st.letIn []).tree.apply s ((st.letIn []).tree.transaction + 1) (e.request p) =
      .error code := happly
  rw [Store.submit_of_faultless hst.connected hst.faults, applyOne_request_of_error happly']

/-- **What ensuring a path does to a store.** Take the nodes on the way to a path that has not been
ensured, from the top. Some of them are there. Those that come after these are missing, and some of
them are created, one after the other, open to whom the ensurer says and in the mode that it says;
each leads to the next, and the first one is one more child of the last node that was there. No
other node changes, and nothing else of the store does but that requests have come in. If this is
all of the way the call succeeds and the path is remembered. If not, the nodes that are left are
still missing, the store refuses to create the first of them, the call fails with what the store
says to that, and nothing is remembered. -/
theorem ask_grows (hst : st.Reachable) (hserves : st.Serves s) (hspace : e.space.IsWellFormed)
    (hacl : e.acl ≠ []) (hvalid : Path.isValid k.path) (hnew : e.isEnsured k.path = false)
    (c : Config) :
    ∃ there made left result e' st',
      e.ask (Store.link s) c k st = (result, e', st') ∧
      Path.lineage (e.space.fix k.path) = there ++ made ++ left ∧
      (∀ q ∈ there, (st.tree.node? q).isSome) ∧
      (∀ q ∈ left, st.tree.node? q = none ∧ st'.tree.node? q = none) ∧
      e.Grown s (there.getLast?.getD Path.root) made st.tree st'.tree ∧
      (∃ requests, st' =
        { st with tree := st'.tree, requests, mutations := st.mutations + made.length }) ∧
      match left with
      | [] => result = .ok () ∧ e' = e.remember k.path
      | q :: _ => e' = e ∧ ∃ refusal f, (st'.submit s (e.request q)).1 = .error refusal ∧
          result = .error f ∧ k.Tells c refusal f := by
  obtain ⟨root, hroot, -⟩ := hst.wellFormed.root
  have hfix : Path.isValid (e.space.fix k.path) := hspace.isValid_fix hvalid
  have hborne : (st.calm 0).tree.Borne := hst.wellFormed.borne
  have hthere : ((st.calm 0).tree.node? Path.root).isSome := by
    show (st.tree.node? Path.root).isSome
    rw [hroot]
    rfl
  have hchain := Path.isChain_lineage hfix
  obtain ⟨there, made, left, hlineage, hall, hmissing, hgrown, hmutations, hstops⟩ :=
    exists_grown_of_descend hborne hacl hthere hchain
      (fun q hq => Path.isValid_of_mem_lineage hfix hq) s
  have hborne' := borne_descend hborne e s (Path.lineage (e.space.fix k.path))
  obtain ⟨result, requests, hask, hends⟩ := exists_ask_eq hserves hvalid hnew c
  generalize e.descend s (Path.lineage (e.space.fix k.path)) (st.calm 0) = y at *
  obtain ⟨tried, st₁⟩ := y
  dsimp only at hgrown hmutations hstops hborne' hask hends
  refine ⟨there, made, left, result, _, _, hask, hlineage, hall, ?_, hgrown, ⟨requests, ?_⟩, ?_⟩
  · intro q hq
    refine ⟨hmissing q (List.mem_append_right made hq), ?_⟩
    have hleft : left.IsChain fun p q => Path.parent? q = some p := by
      rw [hlineage, ← List.cons_append] at hchain
      exact hchain.right_of_append
    refine hstops.node?_eq_none hborne' hacl (fun q hq => ?_) hleft hq
    exact Path.isValid_of_mem_lineage hfix (by rw [hlineage]; exact List.mem_append_right _ hq)
  · rw [hmutations]
    rfl
  · cases left with
    | nil =>
      obtain rfl : tried = .ok () := hstops
      obtain rfl : result = .ok () := hends
      exact ⟨rfl, rfl⟩
    | cons q left =>
      obtain ⟨code, rfl, happly, -⟩ := hstops
      obtain ⟨f, rfl, htells⟩ := hends
      exact ⟨rfl, _, f, fst_submit_of_error ⟨hserves.faults, hserves.connected⟩ happly, rfl, htells⟩

/-- A node with one below it, and both open to everybody. -/
def grounds : Store :=
  Store.Move.run .initial
    [.connect [], .submit ⟨1, []⟩ (.create "/svc" ByteArray.empty .worldOpen .persistent),
      .submit ⟨1, []⟩ (.create "/svc/a" ByteArray.empty .worldOpen .persistent)]

theorem reachable_grounds : grounds.Reachable :=
  Store.Reachable.initial.run (by decide +kernel)

theorem serves_grounds : grounds.Serves ⟨1, []⟩ := ⟨by decide +kernel, by decide +kernel⟩

/-- An ensurer for what is below that node. -/
def guest : Ensurer := ofConfig .trial ⟨some "/svc"⟩

theorem isWellFormed_guest : guest.space.IsWellFormed := by
  rintro root ⟨⟩
  decide +kernel

/-- Another one, which lets nobody create anything below its own nodes. -/
def frugal : Ensurer := { guest with acl := [⟨.read, .anyone⟩] }

/-- The first node that is missing is created, and stands in the way of the next one. -/
theorem ask_grows_of_frugal :
    ∃ there made left f st',
      frugal.ask (Store.link ⟨1, []⟩) .trial (.ensure "/a/b/c") grounds = (.error f, frugal, st') ∧
      ["/svc", "/svc/a", "/svc/a/b", "/svc/a/b/c"] = there ++ made ++ left ∧
      made ≠ [] ∧ (∀ q ∈ left, st'.tree.node? q = none) ∧
      frugal.Grown ⟨1, []⟩ (there.getLast?.getD Path.root) made grounds.tree st'.tree := by
  have hask : (frugal.ask (Store.link ⟨1, []⟩) .trial (.ensure "/a/b/c") grounds).1.isOk = false ∧
      (frugal.ask (Store.link ⟨1, []⟩) .trial (.ensure "/a/b/c") grounds).2.2.tree.transaction ≠
        grounds.tree.transaction := by
    decide +kernel
  obtain ⟨there, made, left, result, e', st', heq, hlineage, -, hleft, hgrown, -, hend⟩ :=
    ask_grows (e := frugal) (k := .ensure "/a/b/c") reachable_grounds serves_grounds
      isWellFormed_guest (by simp [frugal]) (by decide +kernel) (by decide +kernel) .trial
  rw [heq] at hask
  have hmade : made ≠ [] := by
    rintro rfl
    exact hask.2 (by simpa using hgrown.transaction)
  have hpath : ["/svc", "/svc/a", "/svc/a/b", "/svc/a/b/c"] = there ++ made ++ left := by
    rw [← hlineage]
    decide +kernel
  cases left with
  | nil =>
    obtain ⟨rfl, -⟩ := hend
    exact Bool.noConfusion hask.1
  | cons q left =>
    obtain ⟨rfl, -, f, -, rfl, -⟩ := hend
    exact ⟨there, made, q :: left, f, st', heq, hpath, hmade, fun q hq => (hleft q hq).2, hgrown⟩

end Ensurer

/-! ## Access lists -/

/-- The tree with other access lists. -/
def Tree.regranted (t : Tree) (acls : String → Acl) : Tree :=
  { t with nodes := t.nodes.map fun p n => { n with acl := acls p } }

/-- The store with other access lists. -/
def Store.regranted (st : Store) (acls : String → Acl) : Store :=
  { st with tree := st.tree.regranted acls }

theorem Tree.node?_regranted (t : Tree) (acls : String → Acl) (p : String) :
    (t.regranted acls).node? p = (t.node? p).map fun n => { n with acl := acls p } :=
  Std.ExtTreeMap.getElem?_map

theorem Tree.Borne.regranted (h : t.Borne) (acls : String → Acl) : (t.regranted acls).Borne := by
  intro p hp above habove
  rw [node?_regranted, Option.isSome_map] at hp
  obtain ⟨m, hm, hlasts⟩ := h p hp above habove
  refine ⟨{ m with acl := acls above }, ?_, hlasts⟩
  rw [node?_regranted, hm]
  rfl

namespace Ensurer

variable {k : Call} {c : Config}

/-- **A way that is all there is gone** with one request for each node, and nothing changes. -/
theorem createLineage_of_present (hst : st.Serves s) (hborne : st.tree.Borne) (hacl : e.acl ≠ [])
    (hall : ∀ q ∈ ps, Path.isValid q ∧ (st.tree.node? q).isSome) :
    createLineage (Store.link s) e ps st =
      (.ok (), { st with requests := st.requests + ps.length }) := by
  induction ps generalizing st with
  | nil => rfl
  | cons p ps ih =>
    obtain ⟨hvalid, hp⟩ := hall p List.mem_cons_self
    obtain ⟨code, happly, hexcuse⟩ := exists_excused hborne hacl hvalid hp s
      (st.tree.transaction + 1)
    have hst' : ({ st with requests := st.requests + 1 } : Store).Serves s :=
      ⟨hst.faults, hst.connected⟩
    have hsubmit : (Store.link s).submit st (e.request p) =
        (.error (.refused code (some p)), { st with requests := st.requests + 1 }) := by
      show st.submit s (e.request p) = _
      rw [hst.submit_eq]
      exact applyOne_request_of_error happly
    have htolerates : tolerates (Store.link s) { st with requests := st.requests + 1 } p
        (.refused code (some p)) = .ok () :=
      (tolerates_of_exists? fun _ => Store.exists?_of_isConnected hst'.connected hvalid).trans
        (if_pos hexcuse)
    rw [createLineage_of_tolerated hsubmit htolerates,
      ih hst' hborne fun q hq => hall q (List.mem_cons_of_mem p hq), List.length_cons]
    simp only [Nat.add_assoc, Nat.add_comm 1]

/-- A call whose first attempt succeeds makes no other. -/
theorem work_of_ok {σ : Type} {link : Link σ} {x x' : σ}
    (h : createLineage link e (Path.lineage (e.space.fix k.path)) x = (.ok (), x')) (c : Config) :
    e.work link c k x = (.ok (), x') := by
  cases k with
  | ensure p =>
    have hrun : RetryLoop.run c.policy.rule c.sleeper.surroundings (fun _ => attempt link e p)
        (c.retryBudget link x) .fresh x = (.ok (), .fresh, x') :=
      RetryLoop.run_of_ok h
    simp only [work, Config.withRetries, hrun]
  | ensureOnce p =>
    have hattempt : attempt link e p x = (.ok (), x') := h
    simp only [work, hattempt]

/-- **A path is ensured whose node is there**, with one request for each node on the way, and
nothing changes. -/
theorem ask_of_present (hst : st.Serves s) (hborne : st.tree.Borne) (hacl : e.acl ≠ [])
    (hvalid : Path.isValid k.path) (hfix : Path.isValid (e.space.fix k.path))
    (hnew : e.isEnsured k.path = false) (hthere : (st.tree.node? (e.space.fix k.path)).isSome)
    (c : Config) :
    let ps := Path.lineage (e.space.fix k.path)
    e.ask (Store.link s) c k st =
        (.ok (), e.remember k.path, { st with requests := st.requests + ps.length }) ∧
      e.ask (Store.link s).recorded c k (st, []) =
        (.ok (), e.remember k.path, { st with requests := st.requests + ps.length },
          ps.map e.request) := by
  intro ps
  have hall : ∀ q ∈ ps, Path.isValid q ∧ (st.tree.node? q).isSome := by
    intro q hq
    have hprecedes := (Path.precedes_iff_mem_lineage hfix).mpr (.inr hq)
    exact ⟨hprecedes.isValid_left, hborne.isSome_of_precedes hprecedes hthere⟩
  have hdone : createLineage (Store.link s) e ps st =
      (.ok (), { st with requests := st.requests + ps.length }) :=
    createLineage_of_present hst hborne hacl hall
  constructor
  · rw [ask_of_not_isEnsured hvalid hnew, work_of_ok hdone]
    rfl
  · obtain ⟨t, htries, hrecorded⟩ := exists_try_of_createLineage (Store.link s) e ps st []
    rw [hdone] at htries hrecorded
    obtain rfl : t = ps := by simpa using htries.complete rfl
    rw [ask_of_not_isEnsured hvalid hnew, work_of_ok hrecorded]
    rfl

/-- What a failure says is what the refusal said that it tells of. -/
theorem Call.Tells.code? {refusal : StoreError} {f : Failure} (h : k.Tells c refusal f) :
    f.code? = some refusal.code := by
  cases k with
  | ensure p => cases h <;> rfl
  | ensureOnce p =>
    obtain rfl : f = .store refusal := h
    rfl

/-- **Where a permission is wanting, so is the node**: whoever fails for it is told of a node on the
way that is not there. -/
theorem exists_missing_of_noAuth (hst : st.Serves s) (hvalid : Path.isValid k.path)
    (hnew : e.isEnsured k.path = false) {f : Failure}
    (hf : (e.ask (Store.link s) c k st).1 = .error f) (hcode : f.code? = some .noAuth) :
    ∃ q ∈ Path.lineage (e.space.fix k.path), k.Tells c (.refused .noAuth (some q)) f ∧
      st.tree.node? q = none := by
  obtain ⟨result, requests, hask, hends⟩ := exists_ask_eq hst hvalid hnew c
  rw [hask] at hf
  obtain rfl : result = .error f := hf
  have hkeeps := keeps_descend e s (Path.lineage (e.space.fix k.path)) (st.calm 0)
  rcases hy : e.descend s (Path.lineage (e.space.fix k.path)) (st.calm 0) with ⟨refusal | ⟨⟩, st₁⟩
  · rw [hy] at hends hkeeps
    obtain ⟨f', hf', htells⟩ := hends
    obtain rfl : f = f' := by simpa using hf'
    obtain ⟨q, code, hq, rfl, -, hexcuse⟩ := exists_refused_of_descend hy
    obtain rfl : code = .noAuth := by simpa [htells.code?, StoreError.code] using hcode
    refine ⟨q, hq, htells, ?_⟩
    -- a node that had been there would still be there, and would be an excuse
    by_contra hthere
    have hthere' : ((st.calm 0).tree.node? q).isSome := Option.isSome_iff_ne_none.mpr hthere
    exact hexcuse (.inr ⟨rfl, hkeeps.isSome hthere'⟩)
  · rw [hy] at hends
    cases hends

/-- **A node that is there is ensured, whoever may create it**: whatever the access lists of a store
are, a new ensurer that is asked for a node that is there succeeds, has asked for each node on the
way once, one for each segment of the node's path, and has changed nothing. And an ensurer that
fails for want of a permission tells of a node that is not there. -/
theorem ask_tolerates (hst : st.Reachable) (hserves : st.Serves s) (acls : String → Acl)
    {space : Namespace} (hspace : space.IsWellFormed) (hacl : c.acl ≠ [])
    (hvalid : Path.isValid k.path) :
    let held := st.regranted acls
    let e := ofConfig c space
    let ps := Path.lineage (space.fix k.path)
    ((held.tree.node? (space.fix k.path)).isSome →
      e.ask (Store.link s) c k held =
        (.ok (), e.remember k.path, { held with requests := held.requests + ps.length }) ∧
      e.ask (Store.link s).recorded c k (held, []) =
        (.ok (), e.remember k.path, { held with requests := held.requests + ps.length },
          ps.map e.request) ∧
      ∃ ss, (∀ x ∈ ss, Path.isSegment x) ∧ space.fix k.path = Path.ofSegments ss ∧
        ps.length = ss.length) ∧
    ∀ f, (e.ask (Store.link s) c k held).1 = .error f → f.code? = some .noAuth →
      ∃ q ∈ ps, k.Tells c (.refused .noAuth (some q)) f ∧ held.tree.node? q = none := by
  intro held e ps
  have hfix : Path.isValid (space.fix k.path) := hspace.isValid_fix hvalid
  have hheld : held.Serves s := ⟨hserves.faults, hserves.connected⟩
  have hnew : e.isEnsured k.path = false := by simp [e, ofConfig, isEnsured]
  refine ⟨fun hthere => ?_, fun f => exists_missing_of_noAuth hheld hvalid hnew⟩
  have hborne : held.tree.Borne := hst.wellFormed.borne.regranted acls
  obtain ⟨hask, hrecorded⟩ := ask_of_present hheld hborne hacl hvalid hfix hnew hthere c
  refine ⟨hask, hrecorded, ?_⟩
  obtain ⟨ss, hss, heq⟩ := Path.exists_segments hfix
  refine ⟨ss, hss, heq, ?_⟩
  show (Path.lineage (space.fix k.path)).length = ss.length
  rw [heq, Path.lineage_ofSegments hss, Path.length_lineageFrom]

/-- A store in which nobody may create anything any more. -/
def fenced : Store := grounds.regranted fun _ => [⟨.read, .anyone⟩]

/-- What is there can be ensured all the same. -/
theorem ask_tolerates_of_fenced :
    guest.ask (Store.link ⟨1, []⟩) .trial (.ensure "/a") fenced =
        (.ok (), guest.remember "/a", { fenced with requests := fenced.requests + 2 }) ∧
      ∃ f q, (guest.ask (Store.link ⟨1, []⟩) .trial (.ensureOnce "/b") fenced).1 = .error f ∧
        f = .store (.refused .noAuth (some q)) ∧ fenced.tree.node? q = none := by
  have hfailed :
      (guest.ask (Store.link ⟨1, []⟩) .trial (.ensureOnce "/b") fenced).1.mapError Failure.code? =
        .error (some .noAuth) := by
    decide +kernel
  obtain ⟨hthere, -⟩ := ask_tolerates reachable_grounds serves_grounds (fun _ => [⟨.read, .anyone⟩])
    isWellFormed_guest (c := .trial) (k := .ensure "/a") (by decide) (by decide +kernel)
  obtain ⟨-, hmissing⟩ := ask_tolerates reachable_grounds serves_grounds
    (fun _ => [⟨.read, .anyone⟩]) isWellFormed_guest (c := .trial) (k := .ensureOnce "/b")
    (by decide) (by decide +kernel)
  obtain ⟨hask, -⟩ := hthere (by decide +kernel)
  refine ⟨hask, ?_⟩
  cases hresult : (guest.ask (Store.link ⟨1, []⟩) .trial (.ensureOnce "/b") fenced).1 with
  | ok =>
    rw [hresult] at hfailed
    cases hfailed
  | error f =>
    rw [hresult] at hfailed
    obtain ⟨q, -, htells, hq⟩ := hmissing f hresult (by simpa [Except.mapError] using hfailed)
    exact ⟨f, q, rfl, htells, hq⟩

end Ensurer

end Coordination
