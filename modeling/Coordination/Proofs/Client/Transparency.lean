import Coordination.Proofs.Client.Alike

/-!
# A namespace is transparent

A client of a namespace over a fresh store sees what a client without one sees over another. The
root of the namespace has to behave as the root of the store does, but it has to be created first,
along with the nodes above it, one transaction each; so every transaction comes later by as many as
there are segments in the root. Apart from that, and from the paths in the store's own errors, no
call tells the two clients apart, and what lies below the root of the namespace is what lies below
the root of the other store, node for node.

## What it takes

No task creates or deletes the root: the root of a store is there for good, that of a namespace can
be deleted and created again. And the nodes on the way are open to everybody, as the root of a fresh
store is; with another access list the root of the namespace would refuse what the other one allows.

## Main definitions

* `Namespace.depth`: how many transactions a namespace takes
* `Namespace.retold`: what a client of a namespace is told, by what a client without one is told
* `Tree.Mirrors`: a tree below the root of a namespace
* `Tree.IsTrunk`: a tree that has only just been begun

## Main results

* `Client.exists_ensureRoot_of_fresh`: the first call over a fresh store
* `Client.performAfresh_of_space`: tasks of a client with a namespace, and of one without
-/

namespace Coordination

/-! ## Later transactions -/

/-- Whether the number of a transaction is later by so many. -/
def Later (d : Nat) (z z' : Int) : Prop := z' = z + d

theorem Later.succ {d : Nat} : ∀ z z', Later d z z' → Later d (z + 1) (z' + 1) := by
  unfold Later
  omega

/-- The stat of a node whose transactions come later by so many. -/
def Stat.later (d : Nat) (z : Stat) : Stat :=
  { z with created := z.created + d, modified := z.modified + d }

/-- A node whose transactions come later by so many. -/
def Node.later (d : Nat) (x : Node) : Node := { x with stat := x.stat.later d }

theorem Stat.Echoes.eq_later {d : Nat} {z z' : Stat} (h : z.Echoes (Later d) z') :
    z' = z.later d := by
  obtain ⟨hunstamped, hcreated, hmodified⟩ := h
  obtain ⟨created, modified, version, childVersion, aclVersion, owner, dataLength, childCount⟩ := z
  obtain ⟨created', modified', version', childVersion', aclVersion', owner', dataLength',
    childCount'⟩ := z'
  simp only [Stat.unstamped, Stat.mk.injEq, true_and] at hunstamped
  obtain ⟨rfl, rfl, rfl, rfl, rfl, rfl⟩ := hunstamped
  simp only [Later] at hcreated hmodified
  subst hcreated hmodified
  rfl

theorem Node.Echoes.eq_later {d : Nat} {x x' : Node} (h : x.Echoes (Later d) x') :
    x' = { x.later d with mode := x'.mode } := by
  obtain ⟨hdata, hacl, hstat, -, hchildren, hhad⟩ := h
  have hlater := hstat.eq_later
  obtain ⟨data, acl, stat, mode, children, hadChildren⟩ := x
  obtain ⟨data', acl', stat', mode', children', hadChildren'⟩ := x'
  dsimp only at hdata hacl hlater hchildren hhad
  subst hdata hacl hlater hchildren hhad
  rfl

/-! ## What is told -/

/-- An error about a path, as it is in a namespace. -/
def StoreError.moved (n : Namespace) : StoreError → StoreError
  | .refused code p => .refused code (p.map n.fix)
  | e => e

theorem StoreError.renders_moved (n : Namespace) : Renders .whole n (moved n) where
  echoes := by
    rintro e e' (⟨code, hp⟩ | ⟨index, code, answers⟩)
    · rfl
    · rfl
  code e := by cases e <;> rfl
  isRetryable e := by cases e <;> rfl
  aborted e index code answers := by cases e <;> simp [moved]

/-- The number of segments of the root of a namespace. -/
def Namespace.depth (n : Namespace) : Nat :=
  match n.root with
  | none => 0
  | some root => (Path.lineage root).length

/-- **What a client of a namespace is told**, by what a client without one is told: every
transaction comes later by the depth, and an error of the store names the path in the store. -/
def Namespace.retold (n : Namespace) : Except Failure Told → Except Failure Told
  | .ok x => .ok (x.mapStat (·.later n.depth))
  | .error f => .error (f.mapError (StoreError.moved n))

theorem Answer.mapStat_id (a : Answer) : a.mapStat id = a := by
  cases a <;> simp [mapStat]

theorem Outcome.mapStat_id (out : Outcome) : out.mapStat id = out := by
  simp [mapStat]

theorem Told.mapStat_id (x : Told) : x.mapStat id = x := by
  cases x with
  | answered a => exact congrArg Told.answered a.mapStat_id
  | reported outs =>
    refine congrArg Told.reported ?_
    exact (List.map_congr_left fun out _ => out.mapStat_id).trans (List.map_id outs)
  | ensured => rfl

theorem Namespace.eq_retold {n : Namespace} {x x' : Except Failure Told}
    (h : Agree (fun f f' => f' = f.mapError (StoreError.moved n)) (Told.Echoes (Later n.depth))
      x x') : x' = n.retold x := by
  cases h with
  | error hf => exact congrArg Except.error hf
  | ok ha =>
    have htold : Told.mapStat id _ = Told.mapStat (Stat.later n.depth) _ :=
      ha.mapStat_eq fun _ _ hz => hz.eq_later
    rw [Told.mapStat_id] at htold
    exact congrArg Except.ok htold

theorem Namespace.eq_map_retold {n : Namespace} {xs xs' : List (Except Failure Told)}
    (h : List.Forall₂ (Agree (fun f f' => f' = f.mapError (StoreError.moved n))
      (Told.Echoes (Later n.depth))) xs xs') : xs' = xs.map n.retold := by
  induction h with
  | nil => rfl
  | cons hx _ ih => rw [List.map_cons, Namespace.eq_retold hx, ih]

/-! ## Trees below a root -/

/-- **One tree mirrors another below the root of a namespace**: it has the same nodes there, whose
transactions come later by the depth. The root of the store is a node of its own kind, so that the
modes of the roots may differ. -/
structure Tree.Mirrors (n : Namespace) (t t' : Tree) : Prop where
  root : ∃ mode, t'.node? (n.fix Path.root) =
    (t.node? Path.root).map fun x => { x.later n.depth with mode }
  below : ∀ p, Path.isValid p → p ≠ Path.root →
    t'.node? (n.fix p) = (t.node? p).map (·.later n.depth)
  transaction : t'.transaction = t.transaction + n.depth

theorem Tree.Echoes.mirrors {n : Namespace} {t t' : Tree}
    (h : t.Echoes (Later n.depth) True .whole n t') : t.Mirrors n t' := by
  refine ⟨?_, fun p hp hr => ?_, h.transaction⟩
  · have hroot := h.node Path.root (by decide)
    rw [Namespace.fix_whole] at hroot
    generalize t.node? Path.root = o at hroot ⊢
    generalize t'.node? (n.fix Path.root) = o' at hroot ⊢
    cases hroot with
    | none => exact ⟨.persistent, rfl⟩
    | @some x x' hx => exact ⟨x'.mode, congrArg some hx.1.eq_later⟩
  · have hnode := h.node p hp
    rw [Namespace.fix_whole] at hnode
    generalize t.node? p = o at hnode ⊢
    generalize t'.node? (n.fix p) = o' at hnode ⊢
    cases hnode with
    | none => rfl
    | @some x x' hx =>
      have hmode : x'.mode = x.mode := hx.2.resolve_right fun hlax => hr hlax.2
      have heq := hx.1.eq_later
      rw [hmode] at heq
      exact congrArg some heq

/-! ## A fresh store -/

namespace Tree

/-- **A tree that has only just been begun**: there are the nodes on the way to a path, each created
in a transaction of its own, and the path is open to everybody. -/
structure IsTrunk (t : Tree) (ss : List (List Char)) : Prop where
  tip : ∃ mode, mode.isEphemeral = false ∧ t.node? (Path.ofSegments ss) = some
    (.leaf ByteArray.empty .worldOpen
      { Stat.zero with created := ss.length, modified := ss.length } mode)
  only : ∀ q, (t.node? q).isSome → Path.Precedes q (Path.ofSegments ss)
  transaction : t.transaction = ss.length

theorem isTrunk_initial : initial.IsTrunk [] := by
  refine ⟨⟨.persistent, rfl, ?_⟩, fun q hq => ?_, rfl⟩
  · rw [node?_initial]
    rfl
  · rw [node?_initial] at hq
    by_cases hroot : q = Path.root
    · rw [hroot]
      exact Path.root_precedes (by decide)
    · rw [if_neg hroot] at hq
      cases hq

variable {t : Tree} {ss : List (List Char)} {seg : List Char} {s : Session} {e : Ensurer}
  {n : Namespace}

/-- A create on the way makes the trunk longer by a node. -/
theorem IsTrunk.grow (h : t.IsTrunk ss) (hss : ∀ u ∈ ss ++ [seg], Path.isSegment u)
    (hacl : e.acl = .worldOpen) (s : Session) :
    ∃ a t', t.apply s (t.transaction + 1) (e.request (Path.ofSegments (ss ++ [seg]))) =
        .ok (a, t') ∧
      ({ t' with transaction := t.transaction + 1 } : Tree).IsTrunk (ss ++ [seg]) := by
  obtain ⟨⟨mode, hlasts, htip⟩, honly, htransaction⟩ := h
  -- the tip is open and lasts, and there is nothing below it yet: the create cannot be refused
  have hvalid : Path.isValid (Path.ofSegments (ss ++ [seg])) := Path.isValid_ofSegments hss
  have habove : Path.parent? (Path.ofSegments (ss ++ [seg])) = some (Path.ofSegments ss) :=
    Path.parent?_concat ss (hss seg (by simp))
  have hfresh : t.node? (Path.ofSegments (ss ++ [seg])) = none := by
    by_contra hthere
    have hprecedes := honly _ (Option.isSome_iff_ne_none.mpr hthere)
    exact Path.not_precedes_of_parent? hvalid habove hprecedes
  have hpath : actualPath (.leaf ByteArray.empty .worldOpen
      { Stat.zero with created := ss.length, modified := ss.length } mode)
      (e.request (Path.ofSegments (ss ++ [seg]))).path e.mode = Path.ofSegments (ss ++ [seg]) := by
    rw [actualPath_of_not_sequential e.isSequential_mode, Ensurer.path_request]
  have hpermits : (Node.leaf ByteArray.empty .worldOpen
      { Stat.zero with created := ss.length, modified := ss.length } mode).permits s .create :=
    Acl.permits_worldOpen _ (by decide)
  have happlied : t.Applied s (t.transaction + 1) (e.request (Path.ofSegments (ss ++ [seg]))) _ _ :=
    .created (e.mode?_request _) (e.data?_request _) (e.acl?_request _)
      (by rwa [Ensurer.path_request]) (by rwa [Ensurer.path_request]) htip hpermits
      (by simp [hacl, Acl.worldOpen]) hlasts (by rwa [hpath])
  rw [hpath] at happlied
  refine ⟨_, _, apply_eq_ok_iff.mpr happlied, ⟨e.mode, e.isEphemeral_mode, ?_⟩, fun q hq => ?_, ?_⟩
  · rw [node?_transaction, node?_attach, if_pos rfl, hacl, htransaction]
    simp [freshStat, e.isEphemeral_mode, Stat.zero]
  · rw [node?_transaction] at hq
    rcases isSome_node?_attach.mp hq with rfl | hold
    · exact Path.Precedes.refl hvalid
    · -- what was there before is on the way to the node above
      exact (honly q hold).trans (Path.precedes_of_parent? hvalid habove)
  · simp [htransaction]

/-- What has only just been begun at the root of a namespace is a tree with the root alone. -/
theorem IsTrunk.echoes (h : t.IsTrunk ss) (hn : n.IsWellFormed)
    (hroot : n.fix Path.root = Path.ofSegments ss) :
    initial.Echoes (Later ss.length) True .whole n t := by
  obtain ⟨⟨mode, hlasts, htip⟩, honly, htransaction⟩ := h
  refine ⟨fun p hp => ?_, by simp [Later, htransaction, initial]⟩
  rw [Namespace.fix_whole, node?_initial]
  by_cases hr : p = Path.root
  · rw [if_pos hr, hr, hroot, htip]
    refine .some ⟨⟨rfl, rfl, ⟨rfl, ?_, ?_⟩, hlasts, rfl, rfl⟩, .inr ⟨trivial, rfl⟩⟩
    · simp [Later, Node.leaf, Stat.zero]
    · simp [Later, Node.leaf, Stat.zero]
  · have hnone : t.node? (n.fix p) = none := by
      by_contra hthere
      have hup := honly _ (Option.isSome_iff_ne_none.mpr hthere)
      rw [← hroot] at hup
      have heq := hup.antisymm (hn.precedes_fix hp)
      exact hr ((hn.fix_inj hp (by decide)).mp heq)
    rw [if_neg hr, hnone]
    exact .none

end Tree

/-- **The creates on the way to a path make a trunk of that length.** -/
theorem Ensurer.createLineage_of_trunk {st : Store} {s : Session} {e : Ensurer}
    {ts ss : List (List Char)} (hst : st.Serves s) (h : st.tree.IsTrunk ts)
    (hsegments : ∀ u ∈ ts ++ ss, Path.isSegment u) (hacl : e.acl = .worldOpen) :
    ∃ st', createLineage (Store.link s) e (Path.lineageFrom (Path.chain ts) ss) st =
        (.ok (), st') ∧ st'.Serves s ∧ st'.tree.IsTrunk (ts ++ ss) := by
  -- the trunk grows by the first of the segments that are left
  induction ss generalizing ts st with
  | nil => exact ⟨st, rfl, hst, by rwa [List.append_nil]⟩
  | cons seg ss ih =>
    rw [List.append_cons] at hsegments
    have hfirst : ∀ u ∈ ts ++ [seg], Path.isSegment u :=
      fun u hu => hsegments u (List.mem_append_left ss hu)
    obtain ⟨a, t, happly, hgrown⟩ := h.grow hfirst hacl s
    obtain ⟨hresult, -, htree⟩ := hst.submit_of_applied happly
    rw [← htree (e.isMutation_request _)] at hgrown
    obtain ⟨st', hrest, hserves, htrunk⟩ := ih (hst.submit hst _) hgrown hsegments
    refine ⟨st', ?_, hserves, by rwa [List.append_cons]⟩
    rw [Path.lineageFrom_chain, createLineage]
    have hsubmit : (Store.link s).submit st (e.request (Path.ofSegments (ts ++ [seg]))) =
        (.ok a, (st.submit s (e.request (Path.ofSegments (ts ++ [seg])))).2) :=
      Prod.ext hresult rfl
    rw [hsubmit]
    exact hrest

/-! ## Two clients over fresh stores -/

namespace Client

variable {c c' : Client} {cfg : Config} {s : Session} {st st' : Store} {k : Task} {ks : List Task}

/-- **The first call over a fresh store** creates the root of the namespace and the nodes above it,
and thereby begins a tree that is, at the root, like that of a store that nobody has used. -/
theorem exists_ensureRoot_of_fresh (h : start cfg = .ok c) (hacl : cfg.acl = .worldOpen)
    (hst : st.Serves s) (htree : st.tree = .initial) :
    ∃ c₁ st₁, c.ensureRoot (Store.link s) st = (.ok (), c₁, st₁) ∧ c₁.IsRooted ∧ st₁.Serves s ∧
      Tree.initial.Echoes (Later c.space.depth) True .whole c.space st₁.tree := by
  obtain ⟨hconfig, hspace, hensurer, -, -⟩ := eq_of_start h
  have hn := Config.isWellFormed_of_validate hspace
  have htrunk : st.tree.IsTrunk [] := htree ▸ Tree.isTrunk_initial
  cases hroot : c.space.root with
  | none =>
    have hwhole : c.space = .whole := by
      rw [Namespace.whole, ← hroot]
    refine ⟨c, st, ?_, ?_, hst, ?_⟩
    · rw [ensureRoot, hroot]
    · intro root hroot'
      rw [hroot] at hroot'
      cases hroot'
    · rw [hwhole]
      exact htrunk.echoes (hwhole ▸ hn) rfl
  | some root =>
    have hvalid : Path.isValid root := hn root hroot
    obtain ⟨rs, hrs, rfl⟩ := Path.exists_segments hvalid
    have hopen : c.rootEnsurer.acl = .worldOpen := by rwa [hensurer]
    obtain ⟨st₁, hlineage, hserves, hgrown⟩ :=
      Ensurer.createLineage_of_trunk hst htrunk hrs hopen
    have hattempt : Ensurer.attempt (Store.link s) c.rootEnsurer (Path.ofSegments rs) st =
        (.ok (), st₁) := by
      have hlocal : c.rootEnsurer.space = .whole := by rw [hensurer, Ensurer.ofConfig]
      rw [Ensurer.attempt, hlocal, Namespace.fix_whole, Path.lineage_ofSegments hrs]
      exact hlineage
    have hnew : c.rootEnsurer.isEnsured (Path.ofSegments rs) = false := by
      rw [hensurer]
      exact Std.ExtTreeSet.contains_empty
    obtain ⟨hensured, hrooted⟩ := ensureRoot_of_attempt hroot hvalid hnew hattempt
    have hdepth : c.space.depth = rs.length := by
      rw [Namespace.depth, hroot]
      dsimp only
      rw [Path.lineage_ofSegments hrs, Path.length_lineageFrom]
    have htop : c.space.fix Path.root = Path.ofSegments rs := by
      rw [Namespace.fix, hroot]
      rfl
    rw [hdepth]
    exact ⟨_, st₁, hensured, hrooted, hserves, hgrown.echoes hn htop⟩

end Client

/-- **Whether a task runs operations none of which is to create or delete the root.** -/
def Task.AvoidsRoot (k : Task) : Prop :=
  (∀ p, k ≠ .ensurePath p) ∧ ∀ o ∈ k.operations, o.path = Path.root →
    o.request.type ≠ .create ∧ o.request.type ≠ .delete

theorem Task.AvoidsRoot.abides {k : Task} (h : k.AvoidsRoot) :
    ∀ o ∈ k.operations, o.request.Abides True := by
  intro o ho hroot
  obtain ⟨hcreate, hdelete⟩ := h.2 o ho hroot
  refine ⟨?_, fun htype => (htype.elim hcreate hdelete).elim⟩
  -- only creates have modes
  cases hr : o.request with
  | create | createContainer =>
    rw [hr] at hcreate
    exact absurd rfl hcreate
  | delete | deleteContainer | setData | check => rfl

namespace Client

variable {c c' : Client} {cfg : Config} {s : Session} {st st' : Store} {k : Task} {ks : List Task}

/-- Two clients with the same configuration, but that one has a namespace. -/
theorem alike_of_start {name : String} (h : start { cfg with space := none } = .ok c)
    (h' : start { cfg with space := some name } = .ok c') : c.Alike c' := by
  obtain ⟨hconfig, -, -, -, hopen⟩ := eq_of_start h
  obtain ⟨hconfig', -, -, -, hopen'⟩ := eq_of_start h'
  exact ⟨by rw [hconfig, hconfig'], by rw [hconfig, hconfig'], by rw [hconfig, hconfig'],
    by rw [hconfig, hconfig'], hopen'.trans hopen.symm⟩

/-- A client that has no namespace needs no root. -/
theorem isRooted_of_start (h : start { cfg with space := none } = .ok c) :
    c.space = .whole ∧ c.IsRooted := by
  obtain ⟨-, hspace, -⟩ := eq_of_start h
  have hwhole : c.space = .whole := by
    unfold Config.validate at hspace
    split at hspace
    · cases hspace
    · exact (Except.ok.inj hspace).symm
  refine ⟨hwhole, fun root hroot => ?_⟩
  rw [hwhole] at hroot
  cases hroot

/-- Tasks over the first session of a fresh store. -/
def performAfresh (c : Client) (identities : List Identity) (ks : List Task) :
    List (Except Failure Told) × Client × Store :=
  c.performAll (Store.link (Store.initial.connect identities).1) ks
    (Store.initial.connect identities).2

/-- The tasks of two clients over fresh stores, up to the first one that is not rejected and on. -/
theorem performAll_of_fresh {name : String} (hacl : cfg.acl = .worldOpen)
    (h : start { cfg with space := none } = .ok c)
    (h' : start { cfg with space := some name } = .ok c') (hst : st.Serves s)
    (htree : st.tree = .initial) (hks : ∀ k ∈ ks, k.AvoidsRoot) :
    (c'.performAll (Store.link s) ks st).1 =
        (c.performAll (Store.link s) ks st).1.map c'.space.retold ∧
      (((c.performAll (Store.link s) ks st).2.2 = st ∧
          (c'.performAll (Store.link s) ks st).2.2 = st) ∨
        (c.performAll (Store.link s) ks st).2.2.tree.Mirrors c'.space
          (c'.performAll (Store.link s) ks st).2.2.tree) := by
  have halike := alike_of_start h h'
  obtain ⟨hwhole, hrooted⟩ := isRooted_of_start h
  obtain ⟨c₁, st₁, hroot, hrooted₁, hserves, hechoes⟩ :=
    exists_ensureRoot_of_fresh h' hacl hst htree
  have hsettings := settings_of_ensureRoot hroot
  have hspace₁ : c₁.space = c'.space := congrArg (·.space) hsettings
  have halike₁ : c.Alike c₁ := halike.of_settings hsettings
  have htwins : st.Twins (Later c'.space.depth) True c.space c₁.space s st₁ := by
    rw [hwhole, hspace₁]
    exact ⟨⟨hst, hserves, htree ▸ hechoes⟩, fun hlax => absurd trivial hlax⟩
  have hφ : StoreError.Renders c.space c₁.space (StoreError.moved c'.space) := by
    rw [hwhole, hspace₁]
    exact StoreError.renders_moved c'.space
  -- tasks that are rejected are passed over until one reaches the stores
  induction ks with
  | nil => exact ⟨rfl, .inl ⟨rfl, rfl⟩⟩
  | cons k ks ih =>
    obtain ⟨hpath, -⟩ := hks k List.mem_cons_self
    rcases halike.perform_cases (Store.link s) hpath with ⟨f, hf, hrejected⟩ | hrun
    · -- the task is rejected, and the store is still fresh
      obtain ⟨hk, hk'⟩ := hrejected st
      obtain ⟨hresults, hfinal⟩ := ih fun k hk => hks k (List.mem_cons_of_mem _ hk)
      simp only [performAll, hk, hk', List.map_cons, hresults]
      refine ⟨?_, hfinal⟩
      rw [Namespace.retold, Failure.mapError_of_isRejection hf]
    · -- from here on both roots have been ensured
      have hfirst : c'.performAll (Store.link s) (k :: ks) st =
          c₁.performAll (Store.link s) (k :: ks) st₁ := by
        simp only [performAll, hrun st c₁ st₁ hroot hrooted₁]
      obtain ⟨hresults, hfinal⟩ := halike₁.performAll hφ hrooted hrooted₁ Later.succ htwins
        fun k hk => ⟨(hks k hk).1, (hks k hk).abides⟩
      rw [hfirst]
      refine ⟨?_, .inr ?_⟩
      · exact Namespace.eq_map_retold hresults
      · have htrees := hfinal.echoes.tree
        rw [hwhole, hspace₁] at htrees
        exact htrees.mirrors

/-- **A namespace is transparent**: over fresh stores, a client with a namespace and one without are
told the same of the same tasks, but that transactions come later by the depth of the namespace and
the store's errors name paths in the store; and unless no task has reached the stores, the one store
mirrors the other below the root of the namespace. -/
theorem performAfresh_of_space {name : String} (identities : List Identity)
    (hacl : cfg.acl = .worldOpen) (h : start { cfg with space := none } = .ok c)
    (h' : start { cfg with space := some name } = .ok c') (hks : ∀ k ∈ ks, k.AvoidsRoot) :
    (c'.performAfresh identities ks).1 =
        (c.performAfresh identities ks).1.map c'.space.retold ∧
      (((c.performAfresh identities ks).2.2 = (Store.initial.connect identities).2 ∧
          (c'.performAfresh identities ks).2.2 = (Store.initial.connect identities).2) ∨
        (c.performAfresh identities ks).2.2.tree.Mirrors c'.space
          (c'.performAfresh identities ks).2.2.tree) := by
  have hserves : (Store.initial.connect identities).2.Serves
      (Store.initial.connect identities).1 := by
    refine ⟨rfl, ?_⟩
    simp [Store.isConnected, Store.isClosed, Store.hasExpired, Store.connect, Store.initial]
  exact performAll_of_fresh hacl h h' hserves rfl hks

/-- A queue, of which the first transaction has no operations and the last one is refused. -/
def queueing : List Task :=
  [.submit [], .execute (.create "/jobs" ByteArray.empty .container none),
    .submit [.create "/jobs/j-" "x".toUTF8 .ephemeralSequential none,
      .plain (.setData "/" "y".toUTF8 0)],
    .submit [.plain (.check "/" 1), .plain (.delete "/jobs" 0)],
    .execute (.plain (.delete "/jobs/j-0000000001" anyVersion))]

/-- Two segments, and two transactions that come before those of the caller. -/
theorem performAfresh_queueing_of_space :
    ∃ c c', start { Config.trial with space := none } = .ok c ∧
      start { Config.trial with space := some "svc/a" } = .ok c' ∧
      (∀ k ∈ queueing, k.AvoidsRoot) ∧ c'.space.depth = 2 ∧
      (c'.performAfresh [] queueing).1 = (c.performAfresh [] queueing).1.map c'.space.retold ∧
      (c'.performAfresh [] queueing).1[1]? =
        some (.ok (.answered (.created "/jobs" (some ⟨3, 3, 0, 0, 0, 0, 0, 0⟩)))) ∧
      (c'.performAfresh [] queueing).1[4]? =
        some (.error (.store (.refused .noNode (some "/svc/a/jobs/j-0000000001")))) ∧
      (c.performAfresh [] queueing).2.2.tree.Mirrors c'.space
        (c'.performAfresh [] queueing).2.2.tree := by
  have hplain : (start { Config.trial with space := none }).map
      (fun c => (c.performAfresh [] queueing).2.2.requests) = .ok 4 := by decide +kernel
  have hspaced : (start { Config.trial with space := some "svc/a" }).map
      (fun c => (c.space.depth, (c.performAfresh [] queueing).1[1]?,
        (c.performAfresh [] queueing).1[4]?)) =
      .ok (2, some (.ok (.answered (.created "/jobs" (some ⟨3, 3, 0, 0, 0, 0, 0, 0⟩)))),
        some (.error (.store (.refused .noNode (some "/svc/a/jobs/j-0000000001"))))) := by
    decide +kernel
  have havoids : ∀ k ∈ queueing, k.AvoidsRoot := by
    simp [queueing, Task.AvoidsRoot, Task.operations, Operation.create, Operation.plain,
      Operation.path, Request.path, Request.type, CreateMode.isContainer, Path.root]
  cases h : start { Config.trial with space := none } with
  | error f =>
    rw [h] at hplain
    cases hplain
  | ok c =>
    cases h' : start { Config.trial with space := some "svc/a" } with
    | error f =>
      rw [h'] at hspaced
      cases hspaced
    | ok c' =>
      rw [h] at hplain
      rw [h'] at hspaced
      simp only [Except.map, Except.ok.injEq, Prod.mk.injEq] at hplain hspaced
      obtain ⟨htold, hstores⟩ := performAfresh_of_space [] rfl h h' havoids
      refine ⟨c, c', rfl, rfl, havoids, hspaced.1, htold, hspaced.2.1, hspaced.2.2, ?_⟩
      refine hstores.resolve_left fun hfresh => ?_
      rw [hfresh.1] at hplain
      cases hplain

end Client

end Coordination
