import Coordination.Proofs.Store.Exchanges

/-!
# The way to a namespace

Above the root of a namespace lie nodes that the namespace does not reach, and that others may have
created. They decide whether the root can be created. The way is free if each of them, as soon as it
is there, is open to everybody and lasts; creates that open nodes keep it free, and so does whatever
happens elsewhere. Then the way can be gone node by node, each being there already or created, and
what the namespace reaches is not touched by it.

## Main definitions

* `Namespace.IsBelow`: the nodes above the root of a namespace
* `Request.IsOpening`: the creates of nodes that are open to everybody and last
* `Namespace.IsApproached`: the way to the root is free

## Main results

* `Namespace.Clears.applied`: what keeps the way free, and what is there
* `Tree.Applied.node?_eq_of_precedes`: what a request above or elsewhere does not touch
* `Store.Serves.submit_of_open`: one step on the way
-/

namespace Coordination

variable {n : Namespace} {t t' u u' : Tree} {s : Session} {stamp : Int} {r : Request} {a : Answer}
  {p q above z : String}

/-- **Whether the root of a namespace lies below a node.** -/
def Namespace.IsBelow (n : Namespace) (p : String) : Prop :=
  Path.Precedes p (n.fix Path.root) ∧ p ≠ n.fix Path.root

namespace Namespace.IsBelow

theorem not_precedes (h : n.IsBelow p) : ¬ Path.Precedes (n.fix Path.root) p :=
  fun h' => h.2 (h.1.antisymm h')

/-- The namespace lies below whatever is above a node on the way to its root. -/
theorem of_parent? (h : Path.Precedes p (n.fix Path.root)) (habove : Path.parent? p = some above) :
    n.IsBelow above := by
  have hup := Path.precedes_of_parent? h.isValid_left habove
  refine ⟨hup.trans h, ?_⟩
  rintro rfl
  exact Path.not_precedes_of_parent? h.isValid_left habove h

end Namespace.IsBelow

/-! ## Creates that open nodes -/

/-- **Whether a request creates a node of its very name that is open to everybody and lasts.** -/
structure Request.IsOpening (r : Request) : Prop where
  acl : r.acl? = some .worldOpen
  mode : ∃ mode, r.mode? = some mode ∧ mode.isEphemeral = false ∧ mode.isSequential = false

namespace Tree

/-- Whether a node, if it is there, is open to everybody and lasts. -/
def IsFree (t : Tree) (p : String) : Prop :=
  ∀ acl mode, t.footing? p = some (acl, mode) → acl = .worldOpen ∧ mode.isEphemeral = false

namespace Applied

theorem target_of_opening (h : t.Applied s stamp r a t') (hr : r.IsOpening) :
    r.target a = r.path := by
  obtain ⟨mode, hmode, -, hsequential⟩ := hr.mode
  rcases h.target_cases with htarget | ⟨hnumbered, -⟩
  · exact htarget
  · rw [Request.isSequential, hmode] at hnumbered
    simp [hsequential] at hnumbered

theorem footing?_of_opening (h : t.Applied s stamp r a t') (hr : r.IsOpening) :
    ∃ mode, t'.footing? (r.target a) = some (.worldOpen, mode) ∧ mode.isEphemeral = false := by
  obtain ⟨hacl, mode, hmode, hlasts, -⟩ := hr
  cases h with
  | created hmode' hdata hacl' =>
    rw [hmode] at hmode'
    rw [hacl] at hacl'
    obtain rfl := Option.some.inj hmode'
    obtain rfl := Option.some.inj hacl'
    refine ⟨mode, ?_, hlasts⟩
    rw [footing?, node?_attach, Request.target, if_pos rfl]
    rfl
  | deleted htype =>
    cases r with
    | create | createContainer => cases htype
    | delete | deleteContainer | setData | check => cases hmode
  | dataSet | checked => cases hmode

theorem isFree (h : t.Applied s stamp r a t') (hp : t.IsFree p)
    (hr : r.target a = p → r.IsOpening) : t'.IsFree p := by
  by_cases heq : p = r.target a
  · obtain ⟨mode', hfooting, hlasts⟩ := h.footing?_of_opening (hr heq.symm)
    intro acl mode hopen
    rw [heq, hfooting, Option.some.injEq, Prod.mk.injEq] at hopen
    obtain ⟨rfl, rfl⟩ := hopen
    exact ⟨rfl, hlasts⟩
  · rw [IsFree, h.footing?_eq heq]
    exact hp

theorem isSome_footing? (h : t.Applied s stamp r a t') (hp : (t.footing? p).isSome)
    (hr : r.target a = p → r.IsOpening) : (t'.footing? p).isSome := by
  by_cases heq : p = r.target a
  · obtain ⟨mode', hfooting, -⟩ := h.footing?_of_opening (hr heq.symm)
    rw [heq, hfooting]
    rfl
  · rwa [h.footing?_eq heq]

/-- **What is not on the way to a node is not touched by a request that is about a node there.** -/
theorem node?_eq_of_precedes (h : t.Applied s stamp r a t') (hz : Path.Precedes (r.target a) z)
    (hq : ¬ Path.Precedes q z) : t'.node? q = t.node? q := by
  refine h.node?_eq ?_ ?_
  · rintro rfl
    exact hq hz
  · intro habove
    rw [← h.parent?_target] at habove
    exact hq ((Path.precedes_of_parent? hz.isValid_left habove).trans hz)

end Applied

end Tree

/-! ## The way to a root -/

/-- **The way to the root of a namespace is free**: what is there of it is open to everybody and
lasts, and the root of the store is there. -/
structure Namespace.IsApproached (n : Namespace) (t : Tree) : Prop where
  start : (t.footing? Path.root).isSome
  free : ∀ p, n.IsBelow p → t.IsFree p

/-- **A tree leaves the way to a namespace free**, and what was there of it in another tree. -/
structure Namespace.Clears (n : Namespace) (t t' : Tree) : Prop where
  approached : n.IsApproached t'
  stays : ∀ p, n.IsBelow p → (t.footing? p).isSome → (t'.footing? p).isSome

theorem Namespace.IsApproached.clears (h : n.IsApproached t) : n.Clears t t := ⟨h, fun _ _ hp => hp⟩

theorem Namespace.IsApproached.admits (h : n.IsApproached t) (hn : n.IsWellFormed)
    (habove : Path.parent? (n.fix Path.root) = some above) (hthere : (t.footing? above).isSome) :
    n.Admits t := by
  obtain ⟨⟨acl, mode⟩, hfooting⟩ := Option.isSome_iff_exists.mp hthere
  have hbelow : n.IsBelow above :=
    .of_parent? (Path.Precedes.refl (hn.isValid_fix (by decide))) habove
  obtain ⟨rfl, hlasts⟩ := h.free above hbelow acl mode hfooting
  exact ⟨above, mode, habove, hfooting, hlasts⟩

theorem Namespace.Clears.counted (h : n.Clears t t') (transaction : Int) :
    n.Clears t { t' with transaction } :=
  ⟨⟨h.approached.start, h.approached.free⟩, h.stays⟩

/-- A request that touches nothing on the way, or opens what it touches there, keeps the way
free. -/
theorem Namespace.Clears.applied (h : n.Clears u t) (hproper : n.IsBelow Path.root)
    (happlied : t.Applied s stamp r a t') (hr : ∀ p, n.IsBelow p → r.target a = p → r.IsOpening) :
    n.Clears u t' where
  approached :=
    { start := happlied.isSome_footing? h.approached.start (hr _ hproper)
      free := fun p hp => happlied.isFree (h.approached.free p hp) (hr p hp) }
  stays := fun p hp hthere => happlied.isSome_footing? (h.stays p hp hthere) (hr p hp)

theorem Namespace.Clears.admits (h : n.Clears t t') (hn : n.IsWellFormed) (hadmits : n.Admits t) :
    n.Admits t' := by
  obtain ⟨above, mode, habove, hfooting, -⟩ := hadmits
  have hbelow : n.IsBelow above :=
    .of_parent? (Path.Precedes.refl (hn.isValid_fix (by decide))) habove
  exact h.approached.admits hn habove (h.stays above hbelow (by rw [hfooting]; rfl))

/-- What a namespace reaches decides what it has in common with another tree. -/
theorem Tree.Echoes.of_same (h : t.Echoes (fun _ _ => True) False n n t')
    (hu : ∀ p, Path.isValid p → u.node? (n.fix p) = t.node? (n.fix p))
    (hu' : ∀ p, Path.isValid p → u'.node? (n.fix p) = t'.node? (n.fix p)) :
    u.Echoes (fun _ _ => True) False n n u' := by
  refine ⟨fun p hp => ?_, trivial⟩
  rw [hu p hp, hu' p hp]
  exact h.node p hp

/-! ## One step on the way -/

/-- Below an open node that lasts, the only thing that can stand in the way of an open create is the
node itself. -/
theorem Tree.exists_of_create_open {parent : Node} {data : ByteArray} {mode : CreateMode}
    {code : ErrorCode} (habove : Path.parent? p = some above)
    (hparent : t.node? above = some parent) (hpermits : parent.permits s .create = true)
    (hlasts : parent.mode.isEphemeral = false) (hsequential : mode.isSequential = false)
    (h : t.create s stamp p data .worldOpen mode = .error code) :
    code = .nodeExists ∧ (t.node? p).isSome := by
  unfold create at h
  rw [habove] at h
  dsimp only at h
  rw [hparent] at h
  simp only [hpermits, hlasts, actualPath_of_not_sequential hsequential] at h
  by_cases hp : (t.node? p).isSome
  · simp only [hp] at h
    obtain rfl : ErrorCode.nodeExists = code := by simpa [Acl.worldOpen] using h
    exact ⟨rfl, hp⟩
  · simp [Acl.worldOpen, hp] at h

/-- **Below an open node that lasts, an opening request finds its node or creates it.** -/
theorem Store.Serves.submit_of_open {st : Store} (hst : st.Serves s) (hr : r.IsOpening)
    (hp : Path.isValid r.path) (habove : Path.parent? r.path = some above)
    (hthere : (st.tree.footing? above).isSome) (hfree : st.tree.IsFree above) :
    ((∃ a, (st.submit s r).1 = .ok a) ∨
        (st.submit s r).1 = .error (.refused .nodeExists (some r.path))) ∧
      ((st.submit s r).2.tree.footing? r.path).isSome := by
  obtain ⟨⟨acl, mode⟩, hfooting⟩ := Option.isSome_iff_exists.mp hthere
  obtain ⟨rfl, hlasts⟩ := hfree acl mode hfooting
  obtain ⟨parent, hparent, hoffer⟩ := Option.map_eq_some_iff.mp hfooting
  obtain ⟨hopen, rfl⟩ := Prod.mk.inj hoffer
  have hpermits : parent.permits s .create = true := by
    rw [Node.permits, hopen]
    exact Acl.permits_worldOpen _ (by decide)
  obtain ⟨mode', hmode', -, hsequential⟩ := hr.mode
  have hacl := hr.acl
  cases happly : st.tree.apply s (st.tree.transaction + 1) r with
  | ok x =>
    obtain ⟨a, t⟩ := x
    have happlied := Tree.apply_eq_ok_iff.mp happly
    obtain ⟨hresult, hnodes, -⟩ := hst.submit_of_applied happly
    obtain ⟨mode, hnew, -⟩ := happlied.footing?_of_opening hr
    rw [happlied.target_of_opening hr] at hnew
    refine ⟨.inl ⟨a, hresult⟩, ?_⟩
    rw [Tree.footing?, hnodes, ← Tree.footing?, hnew]
    rfl
  | error code =>
    have hexists : code = .nodeExists ∧ (st.tree.node? r.path).isSome := by
      cases r with
      | create q data acl mode =>
        obtain rfl := Option.some.inj hacl
        obtain rfl := Option.some.inj hmode'
        simp only [Tree.apply, hp, Bool.not_true, Bool.false_eq_true, if_false] at happly
        exact Tree.exists_of_create_open habove hparent hpermits hlasts hsequential happly
      | createContainer q data acl =>
        obtain rfl := Option.some.inj hacl
        simp only [Tree.apply, hp, Bool.not_true, Bool.false_eq_true, if_false] at happly
        exact Tree.exists_of_create_open habove hparent hpermits hlasts rfl happly
      | delete | deleteContainer | setData | check => cases hmode'
    obtain ⟨rfl, hpresent⟩ := hexists
    rw [Store.submit_of_refused hst.faults hst.connected happly]
    exact ⟨.inr rfl, Tree.isSome_footing?.mpr hpresent⟩

end Coordination
