import Coordination.Proofs.Retry.Parallel
import Coordination.Proofs.Store.Footprints
import Coordination.Proofs.Store.Stamps

/-!
# Trees that echo each other

Two trees, each looked at through a namespace. They echo each other if the nodes that the namespaces
reach agree path by path in everything but the numbers of transactions, which may be any that some
relation allows, and, if one is lax about it, the modes of the two roots. Trees that echo each other
answer the same requests alike and go on echoing each other: what lies outside the namespaces
decides nothing, except where a root itself is created or removed, for then the parents must let it
happen on both sides.

## Main definitions

* `Stat.Echoes`, `Node.Echoes`, `Tree.Echoes`, `Answer.Echoes`: what agrees with what
* `Namespace.Admits`: whether a tree lets the root of a namespace come and go

## Main results

* `Tree.Echoes.apply`: one request on two trees that echo each other
* `Tree.Echoes.applyAll`: a batch
-/

namespace Coordination

variable {R : Int → Int → Prop} {lax : Prop}

/-! ## Stats, nodes and answers -/

section Rel

variable {α α' β β' : Type} {r : α → α' → Prop} {o : Option α} {o' : Option α'}

theorem rel_map {r' : β → β' → Prop} {f : α → β} {f' : α' → β'} (h : Option.Rel r o o')
    (hf : ∀ a a', r a a' → r' (f a) (f' a')) : Option.Rel r' (o.map f) (o'.map f') := by
  cases h with
  | none => exact .none
  | some h => exact .some (hf _ _ h)

theorem rel_mono {r' : α → α' → Prop} (h : Option.Rel r o o') (hr : ∀ a a', r a a' → r' a a') :
    Option.Rel r' o o' := by
  cases h with
  | none => exact .none
  | some h => exact .some (hr _ _ h)

theorem isSome_of_rel (h : Option.Rel r o o') : o'.isSome = o.isSome := by
  cases h <;> rfl

end Rel

/-- Two stats agree but for the numbers of transactions, which are related. -/
structure Stat.Echoes (R : Int → Int → Prop) (z z' : Stat) : Prop where
  unstamped : z'.unstamped = z.unstamped
  created : R z.created z'.created
  modified : R z.modified z'.modified

/-- **Two nodes agree** but for the numbers of transactions and for the modes, of which it only
matters here whether they are ephemeral. -/
structure Node.Echoes (R : Int → Int → Prop) (x x' : Node) : Prop where
  data : x'.data = x.data
  acl : x'.acl = x.acl
  stat : x.stat.Echoes R x'.stat
  isEphemeral : x'.mode.isEphemeral = x.mode.isEphemeral
  children : x'.children = x.children
  hadChildren : x'.hadChildren = x.hadChildren

/-- **Two answers agree**: they name the same path of the two namespaces, and stats that agree. -/
inductive Answer.Echoes (R : Int → Int → Prop) (n n' : Namespace) : Answer → Answer → Prop where
  | created {p : String} (hp : Path.isValid p) {z z' : Option Stat}
      (hz : Option.Rel (Stat.Echoes R) z z') : Echoes R n n' (.created (n.fix p) z)
        (.created (n'.fix p) z')
  | deleted : Echoes R n n' .deleted .deleted
  | dataSet {z z' : Stat} (hz : z.Echoes R z') : Echoes R n n' (.dataSet z) (.dataSet z')
  | checked : Echoes R n n' .checked .checked
  | failed (code : ErrorCode) : Echoes R n n' (.failed code) (.failed code)

namespace Stat.Echoes

variable {z z' : Stat} {stamp stamp' : Int}

theorem version (h : z.Echoes R z') : z'.version = z.version := by
  show z'.unstamped.version = z.unstamped.version
  rw [h.unstamped]

theorem childVersion (h : z.Echoes R z') : z'.childVersion = z.childVersion := by
  show z'.unstamped.childVersion = z.unstamped.childVersion
  rw [h.unstamped]

theorem fresh (hR : R stamp stamp') (s : Session) (data : ByteArray) (mode : CreateMode) :
    (Tree.freshStat s data mode stamp).Echoes R (Tree.freshStat s data mode stamp') :=
  ⟨rfl, hR, hR⟩

theorem written (h : z.Echoes R z') (hR : R stamp stamp') (data : ByteArray) :
    (Tree.writtenStat z data stamp).Echoes R (Tree.writtenStat z' data stamp') := by
  obtain ⟨hunstamped, hcreated, -⟩ := h
  refine ⟨?_, hcreated, hR⟩
  simp only [Stat.unstamped, Stat.mk.injEq, true_and] at hunstamped
  obtain ⟨hversion, hchildVersion, haclVersion, howner, -, hchildCount⟩ := hunstamped
  simp only [Stat.unstamped, Tree.writtenStat, hversion, hchildVersion, haclVersion, howner,
    hchildCount]

end Stat.Echoes

namespace Node.Echoes

variable {x x' : Node} {stamp stamp' : Int}

theorem permits (h : x.Echoes R x') (s : Session) (p : Permissions) :
    x'.permits s p = x.permits s p := by
  rw [Node.permits, Node.permits, h.acl]

theorem withChildren (h : x.Echoes R x') (children : Std.ExtTreeSet String) :
    (x.withChildren children).Echoes R (x'.withChildren children) where
  data := h.data
  acl := h.acl
  stat := by
    obtain ⟨hunstamped, hcreated, hmodified⟩ := h.stat
    refine ⟨?_, hcreated, hmodified⟩
    simp only [Stat.unstamped, Stat.mk.injEq, true_and] at hunstamped
    obtain ⟨hversion, hchildVersion, haclVersion, howner, hdataLength, -⟩ := hunstamped
    simp only [Stat.unstamped, Node.withChildren, hversion, hchildVersion, haclVersion, howner,
      hdataLength]
  isEphemeral := h.isEphemeral
  children := rfl
  hadChildren := h.hadChildren

theorem gain (h : x.Echoes R x') (c : String) : (x.gain c).Echoes R (x'.gain c) := by
  have hwith := h.withChildren (x.children.insert c)
  rw [Node.gain, Node.gain, h.children]
  exact ⟨hwith.data, hwith.acl, hwith.stat, hwith.isEphemeral, rfl, rfl⟩

theorem lose (h : x.Echoes R x') (c : String) : (x.lose c).Echoes R (x'.lose c) := by
  rw [Node.lose, Node.lose, h.children]
  exact h.withChildren _

theorem leaf (hR : R stamp stamp') (s : Session) (data : ByteArray) (acl : Acl)
    (mode : CreateMode) :
    (Node.leaf data acl (Tree.freshStat s data mode stamp) mode).Echoes R
      (Node.leaf data acl (Tree.freshStat s data mode stamp') mode) :=
  ⟨rfl, rfl, .fresh hR s data mode, rfl, rfl, rfl⟩

theorem written (h : x.Echoes R x') (hR : R stamp stamp') (data : ByteArray) :
    ({ x with data, stat := Tree.writtenStat x.stat data stamp } : Node).Echoes R
      { x' with data, stat := Tree.writtenStat x'.stat data stamp' } :=
  ⟨rfl, h.acl, h.stat.written hR data, h.isEphemeral, h.children, h.hadChildren⟩

end Node.Echoes

/-! ## Places -/

namespace Namespace

variable {n n' : Namespace} {p q : String} {t t' : Tree} {s : Session} {stamp : Int} {r : Request}
  {a : Answer}

/-- Whether two places are the same one in two namespaces, or out of reach of both. -/
def Aligned (n n' : Namespace) (x x' : String) : Prop :=
  ∀ p, Path.isValid p → (n.fix p = x ↔ n'.fix p = x')

theorem IsWellFormed.aligned_fix (hn : n.IsWellFormed) (hn' : n'.IsWellFormed)
    (hp : Path.isValid p) : n.Aligned n' (n.fix p) (n'.fix p) := by
  intro q hq
  rw [hn.fix_inj hq hp, hn'.fix_inj hq hp]

/-- **Whether a tree lets the root of a namespace come and go**: the node above is there, open to
everybody, and lasts. -/
def Admits (n : Namespace) (t : Tree) : Prop :=
  ∃ above mode, Path.parent? (n.fix Path.root) = some above ∧
    t.footing? above = some (.worldOpen, mode) ∧ mode.isEphemeral = false

/-- A request of the namespace leaves the node above its root as it is to others. -/
theorem Admits.applied (h : n.Admits t) (hn : n.IsWellFormed) (hp : Path.isValid r.path)
    (happlied : t.Applied s stamp (n.fixRequest r) a t')
    (hroot : r.path = Path.root → r.isSequential = false) : n.Admits t' := by
  obtain ⟨above, mode, habove, hfooting, hmode⟩ := h
  refine ⟨above, mode, habove, ?_, hmode⟩
  rw [happlied.footing?_eq, hfooting]
  obtain ⟨q, hq, htarget⟩ := Tree.Applied.exists_fix_target hn hp happlied hroot
  rw [← htarget]
  exact (hn.fix_ne_of_parent? hq habove).symm

end Namespace

theorem Acl.permits_worldOpen (identities : List Identity) {p : Permissions}
    (hp : Permissions.all.contains p) : Acl.permits .worldOpen identities p := by
  simp [permits, worldOpen, hp, Identity.isAnyone]

/-! ## Trees -/

/-- **Two trees echo each other** through two namespaces: at every path they have nodes that agree,
or they both have none. The modes agree as well, except that one may be lax about the roots. -/
structure Tree.Echoes (R : Int → Int → Prop) (lax : Prop) (n n' : Namespace) (t t' : Tree) :
    Prop where
  node : ∀ p, Path.isValid p →
    Option.Rel (fun x x' => x.Echoes R x' ∧ (x'.mode = x.mode ∨ lax ∧ p = Path.root))
      (t.node? (n.fix p)) (t'.node? (n'.fix p))
  transaction : R t.transaction t'.transaction

/-- What two trees make of a request: answers that agree, and trees that echo each other. -/
def Tree.Yields (R : Int → Int → Prop) (lax : Prop) (n n' : Namespace) (x x' : Answer × Tree) :
    Prop :=
  x.1.Echoes R n n' x'.1 ∧ x.2.Echoes R lax n n' x'.2

namespace Tree

variable {n n' : Namespace} {t t' : Tree} {p : String} {s : Session} {stamp stamp' : Int}
  {r : Request}

namespace Echoes

theorem isSome_iff (h : t.Echoes R lax n n' t') (hp : Path.isValid p) :
    (t'.node? (n'.fix p)).isSome = (t.node? (n.fix p)).isSome :=
  isSome_of_rel (h.node p hp)

theorem counted (h : t.Echoes R lax n n' t') {z z' : Int} (hR : R z z') :
    ({ t with transaction := z } : Tree).Echoes R lax n n' { t' with transaction := z' } :=
  ⟨h.node, hR⟩

/-! ### The three edits -/

theorem attach {above above' q q' : String} {x x' : Node} (h : t.Echoes R lax n n' t')
    (hq : n.Aligned n' q q') (habove : n.Aligned n' above above')
    (hname : ∀ p, Path.isValid p → n.fix p = above → Path.name q' = Path.name q)
    (hx : x.Echoes R x') (hmode : x'.mode = x.mode) :
    (t.attach above q x).Echoes R lax n n' (t'.attach above' q' x') := by
  refine ⟨fun p hp => ?_, h.transaction⟩
  -- a place is the new node, the node above it or another one, in both trees alike
  rw [node?_attach, node?_attach]
  by_cases hpq : n.fix p = q
  · rw [if_pos hpq, if_pos ((hq p hp).mp hpq)]
    exact .some ⟨hx, .inl hmode⟩
  · rw [if_neg hpq, if_neg (mt (hq p hp).mpr hpq)]
    by_cases hpa : n.fix p = above
    · rw [if_pos hpa, if_pos ((habove p hp).mp hpa), hname p hp hpa]
      exact rel_map (h.node p hp) fun _ _ hnode => ⟨hnode.1.gain _, hnode.2⟩
    · rw [if_neg hpa, if_neg (mt (habove p hp).mpr hpa)]
      exact h.node p hp

theorem remove {above above' q q' : String} (h : t.Echoes R lax n n' t')
    (hq : n.Aligned n' q q') (habove : n.Aligned n' above above')
    (hname : ∀ p, Path.isValid p → n.fix p = above → Path.name q' = Path.name q)
    (hparent : Path.parent? q = some above) (hparent' : Path.parent? q' = some above')
    (hne : above ≠ q) (hne' : above' ≠ q') :
    (t.remove q).Echoes R lax n n' (t'.remove q') := by
  refine ⟨fun p hp => ?_, by simpa using h.transaction⟩
  rw [node?_remove hparent hne, node?_remove hparent' hne']
  by_cases hpq : n.fix p = q
  · rw [if_pos hpq, if_pos ((hq p hp).mp hpq)]
    exact .none
  · rw [if_neg hpq, if_neg (mt (hq p hp).mpr hpq)]
    by_cases hpa : n.fix p = above
    · rw [if_pos hpa, if_pos ((habove p hp).mp hpa), hname p hp hpa]
      exact rel_map (h.node p hp) fun _ _ hnode => ⟨hnode.1.lose _, hnode.2⟩
    · rw [if_neg hpa, if_neg (mt (habove p hp).mpr hpa)]
      exact h.node p hp

theorem put {q q' : String} {x x' : Node} (h : t.Echoes R lax n n' t') (hq : n.Aligned n' q q')
    (hx : x.Echoes R x')
    (hmode : ∀ p, Path.isValid p → n.fix p = q → x'.mode = x.mode ∨ lax ∧ p = Path.root) :
    (t.put q x).Echoes R lax n n' (t'.put q' x') := by
  refine ⟨fun p hp => ?_, h.transaction⟩
  rw [node?_put, node?_put]
  by_cases hpq : n.fix p = q
  · rw [if_pos hpq, if_pos ((hq p hp).mp hpq)]
    exact .some ⟨hx, hmode p hp hpq⟩
  · rw [if_neg hpq, if_neg (mt (hq p hp).mpr hpq)]
    exact h.node p hp

end Echoes

/-! ### Where nodes come and go -/

/-- **A place where a node may be created or removed on both sides alike**: what the two parents,
if they are there, offer to a session is the same. -/
structure Sites (n n' : Namespace) (t t' : Tree) (p above above' : String) : Prop where
  parent : Path.parent? (n.fix p) = some above
  parent' : Path.parent? (n'.fix p) = some above'
  aligned : n.Aligned n' above above'
  reached : ∀ q, Path.isValid q → n.fix q = above → p ≠ Path.root
  parents : Option.Rel
    (fun x x' => (∀ s permission, permission ∈ [Permissions.create, .delete] →
        x'.permits s permission = x.permits s permission) ∧
      x'.mode.isEphemeral = x.mode.isEphemeral ∧
      (p ≠ Path.root → x'.stat.childVersion = x.stat.childVersion))
    (t.node? above) (t'.node? above')

/-- Below the roots the parents agree. -/
theorem Echoes.sites (h : t.Echoes R lax n n' t') (hn : n.IsWellFormed) (hn' : n'.IsWellFormed)
    (hp : Path.isValid p) (hr : p ≠ Path.root) :
    ∃ above above', Sites n n' t t' p above above' := by
  obtain ⟨q, hq⟩ := Path.exists_parent? hp hr
  have hvalid : Path.isValid q := Path.isValid_of_parent? hp hq
  refine ⟨n.fix q, n'.fix q, hn.parent?_fix hp hq, hn'.parent?_fix hp hq,
    hn.aligned_fix hn' hvalid, fun _ _ _ => hr, rel_mono (h.node q hvalid) ?_⟩
  rintro x x' ⟨hx, -⟩
  exact ⟨fun s permission _ => hx.permits s permission, hx.isEphemeral,
    fun _ => hx.stat.childVersion⟩

/-- The roots themselves come and go if both trees let them. -/
theorem sites_root (hn : n.IsWellFormed) (hn' : n'.IsWellFormed) (h : n.Admits t)
    (h' : n'.Admits t') : ∃ above above', Sites n n' t t' Path.root above above' := by
  obtain ⟨above, mode, habove, hfooting, hmode⟩ := h
  obtain ⟨above', mode', habove', hfooting', hmode'⟩ := h'
  -- the nodes above the roots are reached through neither namespace
  have hout : ∀ q, Path.isValid q → n.fix q ≠ above := fun q hq => hn.fix_ne_of_parent? hq habove
  have hout' : ∀ q, Path.isValid q → n'.fix q ≠ above' := fun q hq =>
    hn'.fix_ne_of_parent? hq habove'
  refine ⟨above, above', habove, habove',
    fun q hq => iff_of_false (hout q hq) (hout' q hq), fun q hq heq => absurd heq (hout q hq), ?_⟩
  obtain ⟨x, hx, hx'⟩ := Option.map_eq_some_iff.mp hfooting
  obtain ⟨y, hy, hy'⟩ := Option.map_eq_some_iff.mp hfooting'
  obtain ⟨hacl, rfl⟩ := Prod.mk.inj hx'
  obtain ⟨hacl', rfl⟩ := Prod.mk.inj hy'
  rw [hx, hy]
  refine .some ⟨fun s permission hpermission => ?_, by rw [hmode, hmode'], fun hr => absurd rfl hr⟩
  rw [Node.permits, Node.permits, hacl, hacl']

/-! ### Requests -/

section ActualPath

variable {parent : Node} {mode : CreateMode}

theorem ne_root_of_sequential (hroot : p = Path.root → mode.isSequential = false)
    (h : mode.isSequential) : p ≠ Path.root := by
  intro heq
  rw [hroot heq] at h
  cases h

theorem actualPath_fix (hn : n.IsWellFormed) (hp : Path.isValid p)
    (hroot : p = Path.root → mode.isSequential = false) :
    actualPath parent (n.fix p) mode = n.fix (actualPath parent p mode) := by
  cases hsequential : mode.isSequential with
  | false => rw [actualPath_of_not_sequential hsequential, actualPath_of_not_sequential hsequential]
  | true =>
    rw [actualPath_of_sequential hsequential, actualPath_of_sequential hsequential,
      hn.fix_numbered hp (ne_root_of_sequential hroot hsequential)]

theorem isValid_actualPath (hp : Path.isValid p)
    (hroot : p = Path.root → mode.isSequential = false) :
    Path.isValid (actualPath parent p mode) := by
  cases hsequential : mode.isSequential with
  | false => rwa [actualPath_of_not_sequential hsequential]
  | true =>
    rw [actualPath_of_sequential hsequential]
    exact isValid_numbered hp (ne_root_of_sequential hroot hsequential) _

/-- The numbers that end the names are the same, if there are any. -/
theorem actualPath_congr {parent' : Node} (hroot : p = Path.root → mode.isSequential = false)
    (h : p ≠ Path.root → parent'.stat.childVersion = parent.stat.childVersion) :
    actualPath parent' p mode = actualPath parent p mode := by
  cases hsequential : mode.isSequential with
  | false => rw [actualPath_of_not_sequential hsequential, actualPath_of_not_sequential hsequential]
  | true =>
    rw [actualPath_of_sequential hsequential, actualPath_of_sequential hsequential,
      h (ne_root_of_sequential hroot hsequential)]

theorem actualPath_ne_root (hp : Path.isValid p) (hr : p ≠ Path.root) :
    actualPath parent p mode ≠ Path.root := by
  obtain ⟨above, habove⟩ := Path.exists_parent? hp hr
  exact Path.ne_root_of_parent? (valid_actualPath hp habove).2

end ActualPath

namespace Echoes

variable {above above' : String}

/-- **A node is created on both sides, or on neither.** -/
theorem create (h : t.Echoes R lax n n' t') (hn : n.IsWellFormed) (hn' : n'.IsWellFormed)
    (hsites : Sites n n' t t' p above above') (hp : Path.isValid p) (hR : R stamp stamp')
    {mode : CreateMode} (hroot : p = Path.root → mode.isSequential = false) (data : ByteArray)
    (acl : Acl) :
    Agree Eq (Yields R lax n n') (t.create s stamp (n.fix p) data acl mode)
      (t'.create s stamp' (n'.fix p) data acl mode) := by
  rw [Tree.create, Tree.create, hsites.parent, hsites.parent']
  dsimp only
  have hparents := hsites.parents
  generalize t.node? above = o at hparents
  generalize t'.node? above' = o' at hparents
  cases hparents with
  | none => exact .error rfl
  | @some parent parent' hoffer =>
    obtain ⟨hpermits, hephemeral, hcounter⟩ := hoffer
    dsimp only
    rw [hpermits s .create (by simp), hephemeral, actualPath_fix hn hp hroot,
      actualPath_fix hn' hp hroot]
    rw [actualPath_congr hroot hcounter]
    have hq : Path.isValid (actualPath parent p mode) := isValid_actualPath hp hroot
    have hname : ∀ q, Path.isValid q → n.fix q = above →
        Path.name (n'.fix (actualPath parent p mode)) =
          Path.name (n.fix (actualPath parent p mode)) := by
      intro q hvalid heq
      have hr : actualPath parent p mode ≠ Path.root :=
        actualPath_ne_root hp (hsites.reached q hvalid heq)
      rw [hn.name_fix hq hr, hn'.name_fix hq hr]
    -- both sides put the same questions
    refine .guard rfl fun _ => .guard rfl fun _ => .guard rfl fun _ => ?_
    rw [h.isSome_iff hq]
    refine .guard rfl fun _ => ?_
    exact .ok ⟨.created hq (.some (.fresh hR s data mode)),
      h.attach (hn.aligned_fix hn' hq) hsites.aligned hname (.leaf hR s data acl mode) rfl⟩

/-- **A node is deleted on both sides, or on neither.** -/
theorem delete (h : t.Echoes R lax n n' t') (hn : n.IsWellFormed) (hn' : n'.IsWellFormed)
    (hsites : Sites n n' t t' p above above') (hp : Path.isValid p)
    (hlax : p = Path.root → ¬ lax) (version : Int32) (asContainer : Bool) :
    Agree Eq (Yields R lax n n') (t.delete s (n.fix p) version asContainer)
      (t'.delete s (n'.fix p) version asContainer) := by
  rw [Tree.delete, Tree.delete, hsites.parent, hsites.parent']
  dsimp only
  have hparents := hsites.parents
  generalize t.node? above = o at hparents
  generalize t'.node? above' = o' at hparents
  cases hparents with
  | none => exact .error rfl
  | @some parent parent' hoffer =>
    dsimp only
    rw [hoffer.1 s .delete (by simp)]
    refine .guard rfl fun _ => ?_
    have hnodes := h.node p hp
    generalize t.node? (n.fix p) = o at hnodes
    generalize t'.node? (n'.fix p) = o' at hnodes
    cases hnodes with
    | none => exact .error rfl
    | @some x x' hx =>
      obtain ⟨hx, hmode⟩ := hx
      have hmode : x'.mode = x.mode := hmode.resolve_right fun hroot => hlax hroot.2 hroot.1
      dsimp only
      rw [hmode, hx.stat.version, hx.children]
      refine .guard rfl fun _ => ?_
      cases checkVersion version x.stat.version with
      | error code => exact .error rfl
      | ok =>
        refine .guard rfl fun _ => ?_
        have hself : above ≠ n.fix p := fun heq =>
          Path.parent?_ne_self (hn.isValid_fix hp) (heq ▸ hsites.parent)
        have hself' : above' ≠ n'.fix p := fun heq =>
          Path.parent?_ne_self (hn'.isValid_fix hp) (heq ▸ hsites.parent')
        refine .ok ⟨.deleted, h.remove (hn.aligned_fix hn' hp) hsites.aligned ?_ hsites.parent
          hsites.parent' hself hself'⟩
        intro q hq heq
        have hr := hsites.reached q hq heq
        rw [hn.name_fix hp hr, hn'.name_fix hp hr]

/-- **Data are replaced on both sides, or on neither.** -/
theorem setData (h : t.Echoes R lax n n' t') (hn : n.IsWellFormed) (hn' : n'.IsWellFormed)
    (hp : Path.isValid p) (hR : R stamp stamp') (data : ByteArray) (version : Int32) :
    Agree Eq (Yields R lax n n') (t.setData s stamp (n.fix p) data version)
      (t'.setData s stamp' (n'.fix p) data version) := by
  rw [Tree.setData, Tree.setData]
  have hnodes := h.node p hp
  generalize t.node? (n.fix p) = o at hnodes
  generalize t'.node? (n'.fix p) = o' at hnodes
  cases hnodes with
  | none => exact .error rfl
  | @some x x' hx =>
    obtain ⟨hx, hmode⟩ := hx
    dsimp only
    rw [hx.permits s .write, hx.stat.version]
    refine .guard rfl fun _ => ?_
    cases checkVersion version x.stat.version with
    | error code => exact .error rfl
    | ok =>
      have hstat := hx.stat.written hR data
      have hnode := hx.written hR data
      rw [writtenStat, writtenStat, hx.stat.version] at hstat hnode
      refine .ok ⟨.dataSet hstat, h.put (hn.aligned_fix hn' hp) hnode ?_⟩
      intro q hq heq
      rw [hn.fix_inj hq hp] at heq
      exact heq ▸ hmode

/-- **A version is the one named on both sides, or on neither.** -/
theorem check (h : t.Echoes R lax n n' t') (hp : Path.isValid p) (version : Int32) :
    Agree Eq (Yields R lax n n') (t.check (n.fix p) version) (t'.check (n'.fix p) version) := by
  rw [Tree.check, Tree.check]
  have hnodes := h.node p hp
  generalize t.node? (n.fix p) = o at hnodes
  generalize t'.node? (n'.fix p) = o' at hnodes
  cases hnodes with
  | none => exact .error rfl
  | @some x x' hx =>
    dsimp only
    rw [hx.1.stat.version]
    cases checkVersion version x.stat.version with
    | error code => exact .error rfl
    | ok => exact .ok ⟨.checked, h⟩

end Echoes

/-- **Whether a request may be asked for through two namespaces**: its path is well formed, and if
it is about the roots themselves it asks for no numbered sibling, and creates or removes them only
if the trees let it. -/
def Suits (lax : Prop) (n n' : Namespace) (t t' : Tree) (r : Request) : Prop :=
  Path.isValid r.path ∧
    (r.path = Path.root → r.isSequential = false ∧
      (r.type = .create ∨ r.type = .delete → ¬ lax ∧ n.Admits t ∧ n'.Admits t'))

namespace Echoes

theorem sites_of_suits (h : t.Echoes R lax n n' t') (hn : n.IsWellFormed) (hn' : n'.IsWellFormed)
    (hr : Suits lax n n' t t' r) (htype : r.type = .create ∨ r.type = .delete) :
    ∃ above above', Sites n n' t t' r.path above above' := by
  by_cases hroot : r.path = Path.root
  · obtain ⟨-, hadmits, hadmits'⟩ := (hr.2 hroot).2 htype
    rw [hroot]
    exact sites_root hn hn' hadmits hadmits'
  · exact h.sites hn hn' hr.1 hroot

/-- **Trees that echo each other answer a request alike and go on echoing each other.** -/
theorem apply (h : t.Echoes R lax n n' t') (hn : n.IsWellFormed) (hn' : n'.IsWellFormed)
    (hr : Suits lax n n' t t' r) (hR : R stamp stamp') :
    Agree Eq (Yields R lax n n') (t.apply s stamp (n.fixRequest r))
      (t'.apply s stamp' (n'.fixRequest r)) := by
  have hp := hr.1
  have hsites := h.sites_of_suits hn hn' hr
  unfold Tree.apply
  rw [Namespace.path_fixRequest, Namespace.path_fixRequest,
    if_neg (by simp [hn.isValid_fix hp]), if_neg (by simp [hn'.isValid_fix hp])]
  cases r with
  | create p data acl mode =>
    obtain ⟨above, above', hsites⟩ := hsites (.inl rfl)
    have hroot : p = Path.root → mode.isSequential = false := fun heq => (hr.2 heq).1
    exact h.create hn hn' hsites hp hR hroot data acl
  | createContainer p data acl =>
    obtain ⟨above, above', hsites⟩ := hsites (.inl rfl)
    exact h.create hn hn' hsites hp hR (fun _ => rfl) data acl
  | delete p version =>
    obtain ⟨above, above', hsites⟩ := hsites (.inr rfl)
    exact h.delete hn hn' hsites hp (fun heq => ((hr.2 heq).2 (.inr rfl)).1) version false
  | deleteContainer p =>
    obtain ⟨above, above', hsites⟩ := hsites (.inr rfl)
    exact h.delete hn hn' hsites hp (fun heq => ((hr.2 heq).2 (.inr rfl)).1) anyVersion true
  | setData p data version => exact h.setData hn hn' hp hR data version
  | check p version => exact h.check hp version

end Echoes

/-- A request that suits two trees suits them after another one. -/
theorem Suits.applied {r' : Request} {a a' : Answer} {u u' : Tree} (h : Suits lax n n' t t' r')
    (hn : n.IsWellFormed) (hn' : n'.IsWellFormed) (hr : Suits lax n n' t t' r)
    (happly : t.apply s stamp (n.fixRequest r) = .ok (a, u))
    (happly' : t'.apply s stamp' (n'.fixRequest r) = .ok (a', u')) : Suits lax n n' u u' r' := by
  refine ⟨h.1, fun hroot => ⟨(h.2 hroot).1, fun htype => ?_⟩⟩
  obtain ⟨hlax, hadmits, hadmits'⟩ := (h.2 hroot).2 htype
  have hplain : r.path = Path.root → r.isSequential = false := fun heq => (hr.2 heq).1
  exact ⟨hlax, hadmits.applied hn hr.1 (apply_eq_ok_iff.mp happly) hplain,
    hadmits'.applied hn' hr.1 (apply_eq_ok_iff.mp happly') hplain⟩

/-- **They answer a batch alike**, and go on echoing each other. -/
theorem Echoes.applyAll {rs : List Request} (h : t.Echoes R lax n n' t') (hn : n.IsWellFormed)
    (hn' : n'.IsWellFormed) (hrs : ∀ r ∈ rs, Suits lax n n' t t' r) (hR : R stamp stamp')
    (i : Nat) :
    Agree Eq (fun x x' => List.Forall₂ (Answer.Echoes R n n') x.1 x'.1 ∧
        x.2.Echoes R lax n n' x'.2)
      (t.applyAll s stamp i (rs.map n.fixRequest))
      (t'.applyAll s stamp' i (rs.map n'.fixRequest)) := by
  -- what suits the trees before a request suits them after it, so the rest can be asked for
  induction rs generalizing t t' i with
  | nil => exact .ok ⟨.nil, h⟩
  | cons r rs ih =>
    rw [List.map_cons, List.map_cons, Tree.applyAll, Tree.applyAll]
    have hr := hrs r List.mem_cons_self
    have hone := h.apply (s := s) hn hn' hr hR
    cases happly : t.apply s stamp (n.fixRequest r) with
    | error code =>
      rw [happly] at hone
      generalize t'.apply s stamp' (n'.fixRequest r) = y at hone
      cases hone with
      | error heq => exact .error (congrArg (i, ·) heq)
    | ok x =>
      obtain ⟨a, u⟩ := x
      rw [happly] at hone
      cases happly' : t'.apply s stamp' (n'.fixRequest r) with
      | error code =>
        rw [happly'] at hone
        cases hone
      | ok x' =>
        obtain ⟨a', u'⟩ := x'
        rw [happly'] at hone
        cases hone with
        | ok hyields =>
          have hrest := ih hyields.2
            (fun r' hr' => (hrs r' (List.mem_cons_of_mem _ hr')).applied hn hn' hr happly happly')
            (i + 1)
          dsimp only
          generalize u.applyAll s stamp (i + 1) (rs.map n.fixRequest) = y at hrest
          generalize u'.applyAll s stamp' (i + 1) (rs.map n'.fixRequest) = y' at hrest
          cases hrest with
          | error heq => exact .error heq
          | ok hrest => exact .ok ⟨.cons hyields.1 hrest.1, hrest.2⟩

end Tree

end Coordination
