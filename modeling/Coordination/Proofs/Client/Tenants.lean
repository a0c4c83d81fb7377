import Coordination.Proofs.Client.Ways

/-!
# Tenants of one store

Two clients whose namespaces lie apart, neither root being on the way to the other, do not learn of
each other: what the one is told does not depend on what the other has done, but for the numbers of
transactions. They may meet only above their roots, where either may be the first to create a node,
and there both do nothing but create nodes that are open to everybody and last.

Two stores are compared: in the one both clients have worked, in the other the first one alone.
Whatever the second client does keeps them matching for the first one, and whatever the first one
does keeps them so on both sides, and is answered alike.

## What it takes

Neither root may be on the way to the other, or one client could remove what the other works below.
Both clients open the nodes they create on the way to everybody; an access list of its own would let
the first one there shut the other out. And no task asks for a numbered sibling of a root: its name
would count what comes and goes above the roots, where the clients meet.

## Main definitions

* `Client.Matched`: stores that match for a client
* `Client.takeTurns`: two clients of one store

## Main results

* `Client.perform_of_matched`: a task of the first client
* `Client.Matched.perform_right`: a task of the second one
* `Client.told_of_takeTurns`: what the first client is told
-/

namespace Coordination

/-! ## Tasks of the first client -/

namespace Client

variable {c c₁ c₂ : Client} {k : Task} {s s' : Session} {st st' : Store} {p : String}

/-- **Two stores match for a client**: below the root of its namespace they agree, the way to the
root is free in both, and has been gone if the client knows the root to be there. -/
structure Matched (c : Client) (s : Session) (st st' : Store) : Prop where
  ordinary : c.IsOrdinary
  proper : c.space.IsBelow Path.root
  stores : st.Matches c.space s st'
  admits : c.IsRooted → c.space.Admits st.tree ∧ c.space.Admits st'.tree

/-- A namespace has a root of its own if it does not reach the root of the store. -/
theorem exists_root_of_isBelow (hproper : c.space.IsBelow Path.root) :
    ∃ root, c.space.root = some root ∧ c.space.fix Path.root = root := by
  cases hroot : c.space.root with
  | none =>
    have hfix : c.space.fix Path.root = Path.root := by rw [Namespace.fix, hroot]
    exact absurd hfix.symm hproper.2
  | some root =>
    refine ⟨root, rfl, ?_⟩
    rw [Namespace.fix, hroot]
    rfl

/-- **The root is ensured at the first attempt**, the way to it being free. -/
theorem exists_ensureRoot_of_approached (hc : c.IsOrdinary) (hproper : c.space.IsBelow Path.root)
    (hnew : ¬ c.IsRooted) (hst : st.Serves s) (h : c.space.IsApproached st.tree) :
    ∃ root st₁, c.ensureRoot (Store.link s) st =
        (.ok (), { c with rootEnsurer := c.rootEnsurer.remember root }, st₁) ∧
      Ensurer.attempt (Store.link s) c.rootEnsurer root st = (.ok (), st₁) ∧
      c.space.root = some root ∧
      ({ c with rootEnsurer := c.rootEnsurer.remember root } : Client).IsRooted ∧
      c.space.Admits st₁.tree := by
  obtain ⟨root, hroot, htop⟩ := exists_root_of_isBelow hproper
  have hvalid : Path.isValid root := hc.space root hroot
  have hunknown : c.rootEnsurer.isEnsured root = false := by
    by_contra hknown
    refine hnew fun root' hroot' => ?_
    obtain rfl : root = root' := Option.some.inj (hroot.symm.trans hroot')
    exact ⟨hvalid, by simpa using hknown⟩
  obtain ⟨st₁, hdone, hall⟩ := Ensurer.exists_createLineage_of_approached hc.rootAcl hst hproper h
    (Path.isChain_lineage hvalid)
    (fun q hq => htop ▸ (Path.precedes_iff_mem_lineage hvalid).mpr (.inr hq)) h.start
  have hattempt : Ensurer.attempt (Store.link s) c.rootEnsurer root st = (.ok (), st₁) := by
    rw [Ensurer.attempt, hc.rootSpace, Namespace.fix_whole, hdone]
  obtain ⟨hensured, hrooted⟩ := ensureRoot_of_attempt hroot hvalid hunknown hattempt
  refine ⟨root, st₁, hensured, hattempt, hroot, hrooted, ?_⟩
  -- the node above the root is one of those on the way
  have hne : root ≠ Path.root := fun heq => hproper.2 (by rw [htop, heq])
  obtain ⟨above, habove⟩ := Path.exists_parent? hvalid hne
  have hway : above ∈ Path.root :: Path.lineage root := by
    have hup := Path.precedes_of_parent? hvalid habove
    exact List.mem_cons.mpr ((Path.precedes_iff_mem_lineage hvalid).mp hup)
  have happroached : c.space.IsApproached st₁.tree := by
    have hkept : c.space.IsApproached
        (Ensurer.attempt (Store.link s) c.rootEnsurer root st).2.tree :=
      Ensurer.createLineage_keeps (P := fun st : Store => c.space.IsApproached st.tree)
        (fun q _ _ hst => Ensurer.isApproached_submit hc.rootAcl hproper hst s q) h
    rwa [hattempt] at hkept
  rw [← htop] at habove
  exact happroached.admits hc.space habove (hall above hway)

/-- **Both sides ensure the root at the first attempt**, and match then. -/
theorem exists_ensureRoot_of_matched (h : c.Matched s st st') (hroot : ¬ c.IsRooted) :
    ∃ c₁ st₁ st₁', c.ensureRoot (Store.link s) st = (.ok (), c₁, st₁) ∧
      c.ensureRoot (Store.link s) st' = (.ok (), c₁, st₁') ∧ c₁.IsRooted ∧
      c₁.Matched s st₁ st₁' := by
  obtain ⟨hc, hproper, hstores, -⟩ := h
  obtain ⟨root, st₁, hensured, hattempt, hspace, hrooted, hadmits⟩ :=
    exists_ensureRoot_of_approached hc hproper hroot hstores.echoes.serves hstores.approached
  obtain ⟨root', st₁', hensured', hattempt', hspace', -, hadmits'⟩ :=
    exists_ensureRoot_of_approached hc hproper hroot hstores.echoes.serves' hstores.approached'
  obtain rfl : root = root' := Option.some.inj (hspace.symm.trans hspace')
  have hvalid : Path.isValid root := hc.space root hspace
  have hwhole : c.rootEnsurer.space.IsWellFormed := by
    rw [hc.rootSpace]
    intro root hroot
    cases hroot
  have htop : c.space.fix Path.root = root := by
    rw [Namespace.fix, hspace]
    rfl
  have hway : Path.Precedes (c.space.fix Path.root) (c.rootEnsurer.space.fix root) := by
    rw [hc.rootSpace, htop]
    exact .refl hvalid
  obtain ⟨-, hmatches⟩ :=
    Ensurer.attempt_of_matches hc.rootAcl hc.space hproper hvalid hway hwhole hstores
  rw [hattempt, hattempt'] at hmatches
  exact ⟨_, st₁, st₁', hensured, hensured', hrooted,
    hc.of_settings rfl, hproper, hmatches, fun _ => ⟨hadmits, hadmits'⟩⟩

/-- **The first client runs operations and transactions alike on both sides** once it knows its root
to be there. -/
theorem perform_of_rooted (h : c.Matched s st st') (hroot : c.IsRooted) (hk : k.StaysWithin)
    (hpath : ∀ p, k ≠ .ensurePath p) :
    Agree Eq (Told.Echoes fun _ _ => True) (c.perform (Store.link s) k st).1
        (c.perform (Store.link s) k st').1 ∧
      (c.perform (Store.link s) k st).2.1 = (c.perform (Store.link s) k st').2.1 ∧
      (c.perform (Store.link s) k st).2.1.Matched s (c.perform (Store.link s) k st).2.2
        (c.perform (Store.link s) k st').2.2 := by
  obtain ⟨hc, hproper, hstores, hadmits⟩ := h
  have htwins : st.Twins (fun _ _ => True) False c.space c.space s st' :=
    ⟨hstores.echoes, fun _ => hadmits hroot⟩
  have habides : ∀ o ∈ k.operations, o.request.Abides False :=
    fun o ho heq => ⟨Operation.isSequential_eq_false (hk o ho) heq, fun _ => not_false⟩
  have hout : ∀ p, c.space.IsBelow p → ¬ Path.Precedes (c.space.fix Path.root) p :=
    fun p hp => hp.not_precedes
  have hclears := clears_perform hc hk hproper hout hstores.approached s
  have hclears' := clears_perform hc hk hproper hout hstores.approached' s
  obtain ⟨hresult, ⟨sleeps, hclient, hclient'⟩, hfinal⟩ :=
    (Alike.refl c).perform (StoreError.renders_id c.space) hroot hroot (fun _ _ _ => trivial) htwins
      habides hpath
  refine ⟨hresult.mono (fun f f' hf => ?_) fun _ _ hx => hx, by rw [hclient, hclient'], ?_⟩
  · rw [hf, Failure.mapError_id]
  · rw [hclient]
    exact ⟨hc.of_settings rfl, hproper,
      ⟨hfinal.echoes, hclears.approached, hclears'.approached⟩, fun _ => hfinal.admits not_false⟩

/-- Ensuring a path says nothing of the root. -/
theorem rootEnsurer_ensurePath {σ : Type} (link : Link σ) (c : Client) (p : String) (s : σ) :
    (c.ensurePath link p s).2.1.rootEnsurer = c.rootEnsurer := by
  unfold ensurePath
  split <;> rfl

theorem ensurePath_of_matches (hc : c.IsOrdinary) (hproper : c.space.IsBelow Path.root)
    (h : st.Matches c.space s st') (p : String) :
    Agree Eq (fun _ _ => True) (c.ensurePath (Store.link s) p st).1
        (c.ensurePath (Store.link s) p st').1 ∧
      (c.ensurePath (Store.link s) p st).2.1 = (c.ensurePath (Store.link s) p st').2.1 ∧
      (c.ensurePath (Store.link s) p st).2.2.Matches c.space s
        (c.ensurePath (Store.link s) p st').2.2 := by
  unfold ensurePath
  cases hopen : c.checkOpen with
  | error f => exact ⟨.error rfl, rfl, h⟩
  | ok =>
    simp only [ensure, Ensurer.ensure, Ensurer.ensureBy, Path.check]
    by_cases hvalid : Path.isValid p = true
    swap
    · simp only [hvalid, Bool.false_eq_true, if_false]
      exact ⟨.error rfl, trivial, h⟩
    by_cases hensured : c.ensurer.isEnsured p = true
    · simp only [hvalid, hensured, if_true]
      exact ⟨.ok trivial, trivial, h⟩
    simp only [hvalid, hensured, if_true, Bool.false_eq_true, if_false]
    have hspace : c.ensurer.space.IsWellFormed := by
      rw [hc.pathSpace]
      exact hc.space
    have hway : Path.Precedes (c.space.fix Path.root) (c.ensurer.space.fix p) := by
      rw [hc.pathSpace]
      exact hc.space.precedes_fix hvalid
    have hrun := (Alike.refl c).withRetries (StoreError.renders_id c.space)
      (fun _ => Ensurer.attempt (Store.link s) c.ensurer p)
      (fun _ => Ensurer.attempt (Store.link s) c.ensurer p) h.echoes.serves h.echoes.serves'
      (fun _ _ _ hst =>
        Ensurer.attempt_of_matches hc.pathAcl hc.space hproper hvalid hway hspace hst) h
    generalize c.config.withRetries (Store.link s)
      (fun _ => Ensurer.attempt (Store.link s) c.ensurer p) st = y at hrun ⊢
    generalize c.config.withRetries (Store.link s)
      (fun _ => Ensurer.attempt (Store.link s) c.ensurer p) st' = y' at hrun ⊢
    obtain ⟨x, sleeps, st₁⟩ := y
    obtain ⟨x', sleeps', st₁'⟩ := y'
    obtain ⟨hagree, hsleeps, hmatches⟩ := hrun
    obtain rfl : sleeps = sleeps' := hsleeps
    dsimp only at hagree hmatches
    cases hagree with
    | @error f f' hf =>
      rw [Failure.mapError_id] at hf
      exact ⟨.error hf.symm, rfl, hmatches⟩
    | ok => exact ⟨.ok trivial, rfl, hmatches⟩

/-- **The first client ensures a path alike on both sides.** -/
theorem ensurePath_of_matched (h : c.Matched s st st') (p : String) :
    Agree Eq (Told.Echoes fun _ _ => True) (c.perform (Store.link s) (.ensurePath p) st).1
        (c.perform (Store.link s) (.ensurePath p) st').1 ∧
      (c.perform (Store.link s) (.ensurePath p) st).2.1 =
        (c.perform (Store.link s) (.ensurePath p) st').2.1 ∧
      (c.perform (Store.link s) (.ensurePath p) st).2.1.Matched s
        (c.perform (Store.link s) (.ensurePath p) st).2.2
        (c.perform (Store.link s) (.ensurePath p) st').2.2 := by
  obtain ⟨hc, hproper, hstores, hadmits⟩ := h
  have hk : (Task.ensurePath p).StaysWithin := by
    intro o ho
    cases ho
  have hout : ∀ p, c.space.IsBelow p → ¬ Path.Precedes (c.space.fix Path.root) p :=
    fun p hp => hp.not_precedes
  have hclears := clears_perform hc hk hproper hout hstores.approached s
  have hclears' := clears_perform hc hk hproper hout hstores.approached' s
  have hsettings := settings_perform (Store.link s) c (.ensurePath p) st
  have hspace : (c.perform (Store.link s) (.ensurePath p) st).2.1.space = c.space :=
    congrArg (·.space) hsettings
  have hroot : (c.perform (Store.link s) (.ensurePath p) st).2.1.rootEnsurer = c.rootEnsurer :=
    rootEnsurer_ensurePath ..
  obtain ⟨hresult, hclient, hmatches⟩ := ensurePath_of_matches hc hproper hstores p
  refine ⟨hresult.map fun _ _ _ => .ensured, hclient, hc.of_settings hsettings, ?_, ?_, ?_⟩
  · rwa [hspace]
  · rw [hspace]
    exact hmatches
  · intro hrooted
    rw [IsRooted, hspace, hroot] at hrooted
    rw [hspace]
    obtain ⟨hthere, hthere'⟩ := hadmits hrooted
    exact ⟨hclears.admits hc.space hthere, hclears'.admits hc.space hthere'⟩

/-- **A task of the first client** is done alike on both sides. -/
theorem perform_of_matched (h : c.Matched s st st') (hk : k.StaysWithin) :
    Agree Eq (Told.Echoes fun _ _ => True) (c.perform (Store.link s) k st).1
        (c.perform (Store.link s) k st').1 ∧
      (c.perform (Store.link s) k st).2.1 = (c.perform (Store.link s) k st').2.1 ∧
      (c.perform (Store.link s) k st).2.1.Matched s (c.perform (Store.link s) k st).2.2
        (c.perform (Store.link s) k st').2.2 := by
  by_cases hpath : ∃ p, k = .ensurePath p
  · obtain ⟨p, rfl⟩ := hpath
    exact ensurePath_of_matched h p
  have hpath : ∀ p, k ≠ .ensurePath p := fun p hp => hpath ⟨p, hp⟩
  by_cases hroot : c.IsRooted
  · exact perform_of_rooted h hroot hk hpath
  rcases (Alike.refl c).perform_cases (Store.link s) hpath with ⟨f, hf, hrejected⟩ | hrun
  · -- the task is rejected, and nothing is sent
    rw [(hrejected st).1, (hrejected st').1]
    exact ⟨.error rfl, rfl, h⟩
  · -- the root is ensured on both sides first
    obtain ⟨c₁, st₁, st₁', hensured, hensured', hrooted, hmatched⟩ :=
      exists_ensureRoot_of_matched h hroot
    rw [hrun _ _ _ hensured hrooted, hrun _ _ _ hensured' hrooted]
    exact perform_of_rooted hmatched hrooted hk hpath

/-! ## Taking turns -/

/-- A task of the second client leaves the stores matching for the first one. -/
theorem Matched.perform_right {c' : Client} (h : c.Matched s st st') (hc' : c'.IsOrdinary)
    (hk : k.StaysWithin) (hserves : st'.Serves s')
    (hapart : ¬ Path.Precedes (c.space.fix Path.root) (c'.space.fix Path.root))
    (hapart' : ¬ Path.Precedes (c'.space.fix Path.root) (c.space.fix Path.root)) :
    c.Matched s st (c'.perform (Store.link s') k st').2.2 := by
  obtain ⟨hc, hproper, hstores, hadmits⟩ := h
  have hout : ∀ p, c.space.IsBelow p → ¬ Path.Precedes (c'.space.fix Path.root) p :=
    fun p hp hup => hapart' (hup.trans hp.1)
  have hclears := clears_perform hc' hk hproper hout hstores.approached' s'
  refine ⟨hc, hproper,
    ⟨⟨hstores.echoes.serves, ?_, ?_⟩, hstores.approached, hclears.approached⟩, ?_⟩
  · exact serves_perform hserves hstores.echoes.serves' c' k
  · exact hstores.echoes.tree.of_same (fun _ _ => rfl) fun p hp =>
      node?_perform hc' hk hc.space hapart hapart' st' s' hp
  · intro hroot
    exact ⟨(hadmits hroot).1, hclears.admits hc.space (hadmits hroot).2⟩

/-- Two clients of one store do tasks in turn, `Sum.inl` being those of the first, and each is told
what comes of its own. -/
def takeTurns (s s' : Session) (c c' : Client) :
    List (Task ⊕ Task) → Store → List (Except Failure Told ⊕ Except Failure Told)
  | [], _ => []
  | .inl k :: ks, st =>
    let (x, c, st) := c.perform (Store.link s) k st
    .inl x :: takeTurns s s' c c' ks st
  | .inr k :: ks, st =>
    let (x, c', st) := c'.perform (Store.link s') k st
    .inr x :: takeTurns s s' c c' ks st

/-- **The first client is told alike** what comes of its tasks, whether the second one does tasks in
between or not. -/
theorem told_of_matched {c' : Client} {ks : List (Task ⊕ Task)} (h : c.Matched s st st')
    (hc' : c'.IsOrdinary) (hserves : st'.Serves s')
    (hks : ∀ k, .inl k ∈ ks ∨ .inr k ∈ ks → k.StaysWithin)
    (hapart : ¬ Path.Precedes (c.space.fix Path.root) (c'.space.fix Path.root))
    (hapart' : ¬ Path.Precedes (c'.space.fix Path.root) (c.space.fix Path.root)) :
    List.Forall₂ (Agree Eq (Told.Echoes fun _ _ => True))
      (c.performAll (Store.link s) (ks.filterMap Sum.getLeft?) st).1
      ((takeTurns s s' c c' ks st').filterMap Sum.getLeft?) := by
  -- the stores match for the first client after every turn, whoever takes it
  induction ks generalizing c c' st st' with
  | nil => exact .nil
  | cons turn ks ih =>
    have hrest : ∀ k, .inl k ∈ ks ∨ .inr k ∈ ks → k.StaysWithin :=
      fun k hk => hks k (hk.imp (List.mem_cons_of_mem _) (List.mem_cons_of_mem _))
    cases turn with
    | inl k =>
      have hk : k.StaysWithin := hks k (.inl List.mem_cons_self)
      obtain ⟨hresult, hclient, hnext⟩ := perform_of_matched h hk
      have hspace : (c.perform (Store.link s) k st).2.1.space = c.space :=
        congrArg (·.space) (settings_perform (Store.link s) c k st)
      have hserves' := serves_perform h.stores.echoes.serves' hserves c k
      rw [← hspace] at hapart hapart'
      have hmore := ih hnext hc' hserves' hrest hapart hapart'
      rw [hclient] at hmore
      simp only [List.filterMap_cons, Sum.getLeft?, performAll, takeTurns]
      rw [hclient]
      exact .cons hresult hmore
    | inr k =>
      have hk : k.StaysWithin := hks k (.inr List.mem_cons_self)
      have hsettings := settings_perform (Store.link s') c' k st'
      have hspace : (c'.perform (Store.link s') k st').2.1.space = c'.space :=
        congrArg (·.space) hsettings
      have hnext := h.perform_right hc' hk hserves hapart hapart'
      have hserves' := serves_perform hserves hserves c' k
      rw [← hspace] at hapart hapart'
      have hmore := ih hnext (hc'.of_settings hsettings) hserves' hrest hapart hapart'
      simpa only [List.filterMap_cons, Sum.getLeft?, takeTurns] using hmore

/-- A fresh store matches itself. -/
theorem matched_of_fresh (hc : c.IsOrdinary) (hproper : c.space.IsBelow Path.root)
    (hnew : ¬ c.IsRooted) (hst : st.Serves s) (htree : st.tree = .initial) : c.Matched s st st := by
  have hfooting : ∀ p, st.tree.footing? p =
      if p = Path.root then some (.worldOpen, .persistent) else none := by
    intro p
    rw [Tree.footing?, htree, Tree.node?_initial]
    split <;> rfl
  have happroached : c.space.IsApproached st.tree := by
    constructor
    · rw [hfooting, if_pos rfl]
      rfl
    · intro p _ acl mode hp
      rw [hfooting] at hp
      split at hp
      · obtain ⟨rfl, rfl⟩ := Prod.mk.inj (Option.some.inj hp)
        exact ⟨rfl, rfl⟩
      · cases hp
  have hechoes : st.tree.Echoes (fun _ _ => True) False c.space c.space st.tree := by
    refine ⟨fun p _ => ?_, trivial⟩
    cases st.tree.node? (c.space.fix p) with
    | none => exact .none
    | some x => exact .some ⟨⟨rfl, rfl, ⟨rfl, trivial, trivial⟩, rfl, rfl, rfl⟩, .inl rfl⟩
  exact ⟨hc, hproper, ⟨⟨hst, hst, hechoes⟩, happroached, happroached⟩,
    fun hroot => absurd hroot hnew⟩

/-- A namespace that lies apart from another one does not reach the root of the store. -/
theorem isBelow_root_of_apart {n n' : Namespace} (hn : n.IsWellFormed) (hn' : n'.IsWellFormed)
    (hapart : ¬ Path.Precedes (n.fix Path.root) (n'.fix Path.root)) : n.IsBelow Path.root := by
  refine ⟨Path.root_precedes (hn.isValid_fix (by decide)), fun heq => hapart ?_⟩
  rw [← heq]
  exact Path.root_precedes (hn'.isValid_fix (by decide))

/-- A client that has just been started knows of no root. -/
theorem not_isRooted_of_start {cfg : Config} (h : start cfg = .ok c)
    (hproper : c.space.IsBelow Path.root) : ¬ c.IsRooted := by
  obtain ⟨root, hroot, -⟩ := exists_root_of_isBelow hproper
  obtain ⟨-, -, hensurer, -⟩ := eq_of_start h
  intro hrooted
  have hensured := (hrooted root hroot).2
  rw [hensurer] at hensured
  simp [Ensurer.isEnsured, Ensurer.ofConfig] at hensured

/-- Without the numbers of transactions what is told alike is told the same. -/
theorem map_unstamped_eq_of_agree {xs xs' : List (Except Failure Told)}
    (h : List.Forall₂ (Agree Eq (Told.Echoes fun _ _ => True)) xs xs') :
    xs'.map (Except.map (Told.mapStat Stat.unstamped)) =
      xs.map (Except.map (Told.mapStat Stat.unstamped)) := by
  induction h with
  | nil => rfl
  | cons hx _ ih =>
    rw [List.map_cons, List.map_cons, ih]
    cases hx with
    | error hf => rw [hf]
    | ok hx =>
      have hunstamped := hx.mapStat_eq fun _ _ (hz : Stat.Echoes _ _ _) => hz.unstamped
      simp only [Except.map, hunstamped]

/-- **Tenants are isolated**: whatever two clients of a fresh store do in turn, their namespaces
lying apart, the first one is told what it would have been told without the other, but for the
numbers of transactions. -/
theorem told_of_takeTurns {cfg cfg' : Config} {c' : Client} {ks : List (Task ⊕ Task)}
    (h : start cfg = .ok c) (h' : start cfg' = .ok c') (hacl : cfg.acl = .worldOpen)
    (hacl' : cfg'.acl = .worldOpen)
    (hapart : ¬ Path.Precedes (c.space.fix Path.root) (c'.space.fix Path.root))
    (hapart' : ¬ Path.Precedes (c'.space.fix Path.root) (c.space.fix Path.root))
    (hst : st.Serves s) (hst' : st.Serves s') (htree : st.tree = .initial)
    (hks : ∀ k, .inl k ∈ ks ∨ .inr k ∈ ks → k.StaysWithin) :
    ((takeTurns s s' c c' ks st).filterMap Sum.getLeft?).map
        (Except.map (Told.mapStat Stat.unstamped)) =
      (c.performAll (Store.link s) (ks.filterMap Sum.getLeft?) st).1.map
        (Except.map (Told.mapStat Stat.unstamped)) := by
  have hc := isOrdinary_of_start h hacl
  have hc' := isOrdinary_of_start h' hacl'
  have hproper := isBelow_root_of_apart hc.space hc'.space hapart
  have hfresh := matched_of_fresh hc hproper (not_isRooted_of_start h hproper) hst htree
  exact map_unstamped_eq_of_agree (told_of_matched hfresh hc' hst' hks hapart hapart')

/-- Two sessions of a fresh store. -/
def shared : Store := Store.Move.run .initial [.connect [], .connect []]

/-- Two queues side by side. The second client is there first, and leaves with all that it has. -/
def sideBySide : List (Task ⊕ Task) :=
  [.inr (.ensurePath "/jobs"), .inl (.execute (.create "/jobs" "x".toUTF8 .persistent none)),
    .inr (.execute (.plain (.delete "/jobs" anyVersion))),
    .inl (.submit [.create "/jobs/j-" "y".toUTF8 .ephemeralSequential none]),
    .inr (.execute (.plain (.delete "/" anyVersion))),
    .inl (.execute (.plain (.delete "/none" anyVersion)))]

/-- The first client is told of later transactions, and of nothing else. -/
theorem told_of_sideBySide :
    ∃ c c', start { Config.trial with space := some "svc/a" } = .ok c ∧
      start { Config.trial with space := some "svc/b" } = .ok c' ∧
      (takeTurns ⟨1, []⟩ ⟨2, []⟩ c c' sideBySide shared)[1]? =
        some (.inl (.ok (.answered (.created "/jobs" (some ⟨5, 5, 0, 0, 0, 0, 1, 0⟩))))) ∧
      (c.performAll (Store.link ⟨1, []⟩) (sideBySide.filterMap Sum.getLeft?) shared).1[0]? =
        some (.ok (.answered (.created "/jobs" (some ⟨3, 3, 0, 0, 0, 0, 1, 0⟩)))) ∧
      ((takeTurns ⟨1, []⟩ ⟨2, []⟩ c c' sideBySide shared).filterMap Sum.getLeft?).map
          (Except.map (Told.mapStat Stat.unstamped)) =
        (c.performAll (Store.link ⟨1, []⟩) (sideBySide.filterMap Sum.getLeft?) shared).1.map
          (Except.map (Told.mapStat Stat.unstamped)) := by
  have hfirst : (start { Config.trial with space := some "svc/a" }).map
      (fun c => (c.space,
        (c.performAll (Store.link ⟨1, []⟩) (sideBySide.filterMap Sum.getLeft?) shared).1[0]?)) =
      .ok (⟨some "/svc/a"⟩,
        some (.ok (.answered (.created "/jobs" (some ⟨3, 3, 0, 0, 0, 0, 1, 0⟩))))) := by
    decide +kernel
  have hsecond : (start { Config.trial with space := some "svc/b" }).map (·.space) =
      .ok ⟨some "/svc/b"⟩ := by decide +kernel
  have hboth : (start { Config.trial with space := some "svc/a" }).bind (fun c =>
      (start { Config.trial with space := some "svc/b" }).map fun c' =>
        (takeTurns ⟨1, []⟩ ⟨2, []⟩ c c' sideBySide shared)[1]?) =
      .ok (some (.inl (.ok (.answered (.created "/jobs" (some ⟨5, 5, 0, 0, 0, 0, 1, 0⟩)))))) := by
    decide +kernel
  have hstays : ∀ k, .inl k ∈ sideBySide ∨ .inr k ∈ sideBySide → k.StaysWithin := by
    intro k hk
    simp only [sideBySide, List.mem_cons, Sum.inl.injEq, Sum.inr.injEq, reduceCtorEq,
      List.not_mem_nil, false_or, or_false] at hk
    rcases hk with (rfl | rfl | rfl) | rfl | rfl | rfl
    all_goals decide +kernel
  cases h : start { Config.trial with space := some "svc/a" } with
  | error f =>
    rw [h] at hfirst
    cases hfirst
  | ok c =>
    cases h' : start { Config.trial with space := some "svc/b" } with
    | error f =>
      rw [h'] at hsecond
      cases hsecond
    | ok c' =>
      rw [h] at hfirst hboth
      rw [h'] at hsecond hboth
      simp only [Except.map, Except.bind, Except.ok.injEq, Prod.mk.injEq] at hfirst hsecond hboth
      refine ⟨c, c', rfl, rfl, hboth, hfirst.2,
        told_of_takeTurns h h' rfl rfl ?_ ?_ ?_ ?_ ?_ hstays⟩
      · rw [hfirst.1, hsecond]
        decide +kernel
      · rw [hfirst.1, hsecond]
        decide +kernel
      · exact ⟨rfl, by decide +kernel⟩
      · exact ⟨rfl, by decide +kernel⟩
      · rfl

end Client

end Coordination
