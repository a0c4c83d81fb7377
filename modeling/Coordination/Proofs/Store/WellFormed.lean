import Coordination.Proofs.Path.Segments
import Coordination.Proofs.Store.Nodes
import Coordination.Proofs.Text.Decimal

/-!
# Well-formed trees

A tree says everything twice: its nodes stand under their paths, and every node lists the names of
its children and counts them. A tree is well formed when the two agree. Three edits are all that
ever happens to a tree: a node is attached, a node without children is removed, a node is put in the
place of another that had the same children; each keeps the tree well formed, and so do the loops
that remove a session's nodes and the idle containers.

## Main definitions

* `Node.WellFormed`, `Tree.WellFormed`: what agrees with what

## Main results

* `WellFormed.attach`, `WellFormed.remove`, `WellFormed.put`: the three edits
* `WellFormed.applied`, `WellFormed.removeOwned`, `WellFormed.reap`: the operations
* `WellFormed.name_mem_children`, `WellFormed.isSome_join`: the links in both directions
-/

namespace Coordination

/-! ## Nodes -/

/-- What a node says about itself agrees. Counts are 32-bit words, as clients see them. -/
structure Node.WellFormed (n : Node) : Prop where
  /-- The children are counted. -/
  childCount : n.stat.childCount = Int32.ofNat n.children.size
  /-- The data are measured. -/
  dataLength : n.stat.dataLength = Int32.ofNat n.data.size
  /-- The ephemeral nodes are those that a session owns. -/
  owner : n.stat.owner ≠ 0 ↔ n.mode.isEphemeral
  /-- Somebody is granted something. -/
  acl : n.acl ≠ []
  /-- Who has children has had children. -/
  hadChildren : n.children ≠ ∅ → n.hadChildren
  /-- Ephemeral nodes have no children. -/
  childless : n.mode.isEphemeral → n.children = ∅

namespace Node

variable {n : Node} {c : String}

@[simp] theorem children_gain : (n.gain c).children = n.children.insert c := rfl

@[simp] theorem children_lose : (n.lose c).children = n.children.erase c := rfl

@[simp] theorem mode_gain : (n.gain c).mode = n.mode := rfl

@[simp] theorem mode_lose : (n.lose c).mode = n.mode := rfl

theorem WellFormed.gain (h : n.WellFormed) (hmode : n.mode.isEphemeral = false) :
    (n.gain c).WellFormed where
  childCount := rfl
  dataLength := h.dataLength
  owner := h.owner
  acl := h.acl
  hadChildren := fun _ => rfl
  childless := by simp [hmode]

theorem WellFormed.lose (h : n.WellFormed) : (n.lose c).WellFormed where
  childCount := rfl
  dataLength := h.dataLength
  owner := h.owner
  acl := h.acl
  hadChildren := fun hne => h.hadChildren fun hempty => hne (by simp [hempty])
  childless := fun hmode => by simp [h.childless hmode]

theorem WellFormed.leaf {s : Session} {data : ByteArray} {acl : Acl} {mode : CreateMode}
    {stamp : Int} (hacl : acl ≠ []) (hs : s.id ≠ 0) :
    (Node.leaf data acl (Tree.freshStat s data mode stamp) mode).WellFormed where
  childCount := rfl
  dataLength := rfl
  owner := by cases mode <;> simp [Node.leaf, Tree.freshStat, CreateMode.isEphemeral, hs]
  acl := hacl
  hadChildren := by simp [Node.leaf]
  childless := fun _ => rfl

theorem WellFormed.written {data : ByteArray} {stamp : Int} (h : n.WellFormed) :
    ({ n with data, stat := Tree.writtenStat n.stat data stamp } : Node).WellFormed :=
  { h with dataLength := rfl }

theorem WellFormed.granted {acl : Acl} {v : Int32} (h : n.WellFormed) (hacl : acl ≠ []) :
    ({ n with acl, stat := { n.stat with aclVersion := v } } : Node).WellFormed :=
  { h with acl := hacl }

theorem isIdle_iff : n.isIdle ↔ n.mode = .container ∧ n.hadChildren ∧ n.children = ∅ := by
  simp [isIdle, CreateMode.isContainer, and_assoc]

end Node

/-! ## Trees -/

namespace Tree

variable {t t' : Tree} {p q above : String} {n m : Node} {s : Session} {stamp : Int}

/-- Whether there is a node of a name below a path. -/
def HasChild (t : Tree) (p c : String) : Prop :=
  ∃ q, (t.node? q).isSome ∧ Path.parent? q = some p ∧ Path.name q = c

/-- **What a tree says about the node at a path agrees with what the node says.** -/
structure Fits (t : Tree) (p : String) (n : Node) : Prop where
  /-- The node stands under a path. -/
  valid : Path.isValid p
  /-- It stands below another node, unless it is the root. -/
  parent : p ≠ Path.root → ∃ above, Path.parent? p = some above ∧ (t.node? above).isSome
  /-- It lists the names of the nodes below it. -/
  children : ∀ c, c ∈ n.children ↔ t.HasChild p c
  /-- It agrees with itself. -/
  self : n.WellFormed

/-- A node keeps its parent when no node goes. -/
theorem Fits.parent_of (h : t.Fits p n) (hstays : ∀ q, (t.node? q).isSome → (t'.node? q).isSome)
    (hr : p ≠ Path.root) : ∃ above, Path.parent? p = some above ∧ (t'.node? above).isSome := by
  obtain ⟨above, habove, hsome⟩ := h.parent hr
  exact ⟨above, habove, hstays above hsome⟩

/-- **What a tree says twice agrees.** -/
structure WellFormed (t : Tree) : Prop where
  /-- The root is there to stay. -/
  root : ∃ n, t.node? Path.root = some n ∧ n.mode = .persistent
  /-- Every node fits. -/
  fits : ∀ p n, t.node? p = some n → t.Fits p n

theorem WellFormed.initial : WellFormed .initial := by
  refine ⟨⟨_, node?_initial _, rfl⟩, fun p n h => ?_⟩
  rw [node?_initial] at h
  split at h
  · rename_i hp
    obtain rfl := Option.some.inj h
    refine ⟨hp ▸ by decide, fun hr => absurd hp hr, fun c => ⟨fun hc => ?_, ?_⟩, ?_⟩
    · simp [Node.leaf] at hc
    · rintro ⟨q, hq, hparent, -⟩
      -- the only node there is has no parent
      rw [node?_initial] at hq
      split at hq
      · rename_i hroot
        rw [hroot, Path.parent?_root] at hparent
        cases hparent
      · cases hq
    · exact ⟨rfl, rfl, by decide, by simp [Node.leaf, Acl.worldOpen], by simp [Node.leaf],
        fun _ => rfl⟩
  · cases h

/-- The number of the last transaction is nobody's business. -/
theorem WellFormed.transaction (h : t.WellFormed) (z : Int) :
    ({ t with transaction := z } : Tree).WellFormed :=
  ⟨h.root, fun p n hn => ⟨(h.fits p n hn).valid, (h.fits p n hn).parent, (h.fits p n hn).children,
    (h.fits p n hn).self⟩⟩

/-- Nobody has a child who is not there. -/
theorem WellFormed.isSome_of_hasChild {c : String} (h : t.WellFormed) (hc : t.HasChild p c) :
    (t.node? p).isSome := by
  obtain ⟨q, hq, hparent, -⟩ := hc
  obtain ⟨m, hm⟩ := Option.isSome_iff_exists.mp hq
  obtain ⟨above, habove, hsome⟩ := (h.fits q m hm).parent (Path.ne_root_of_parent? hparent)
  rw [hparent, Option.some.injEq] at habove
  exact habove ▸ hsome

/-! ## The three edits -/

theorem isSome_node?_attach :
    ((t.attach above p n).node? q).isSome ↔ q = p ∨ (t.node? q).isSome := by
  rw [node?_attach]
  repeat' split
  all_goals simp_all

theorem isSome_node?_remove (h : Path.parent? p = some above) (hne : above ≠ p) :
    ((t.remove p).node? q).isSome ↔ q ≠ p ∧ (t.node? q).isSome := by
  rw [node?_remove h hne]
  repeat' split
  all_goals simp_all

theorem isSome_node?_put (hp : (t.node? p).isSome) :
    ((t.put p n).node? q).isSome ↔ (t.node? q).isSome := by
  rw [node?_put]
  split <;> simp_all

theorem hasChild_attach {c : String} (habove : Path.parent? p = some above) :
    (t.attach above p n).HasChild q c ↔ (q = above ∧ c = Path.name p) ∨ t.HasChild q c := by
  simp only [HasChild, isSome_node?_attach, or_and_right, exists_or, exists_eq_left, habove,
    Option.some.injEq, @eq_comm _ above, @eq_comm _ (Path.name p)]

/-- A name is no longer below the parent of a node that has been removed; all others stay. -/
theorem WellFormed.hasChild_remove {c : String} (h : t.WellFormed) (hvalid : Path.isValid p)
    (habove : Path.parent? p = some above) :
    (t.remove p).HasChild q c ↔ ¬(q = above ∧ c = Path.name p) ∧ t.HasChild q c := by
  have hne : above ≠ p := fun he => Path.parent?_ne_self hvalid (he ▸ habove)
  simp only [HasChild, isSome_node?_remove habove hne]
  constructor
  · rintro ⟨r, ⟨hrp, hr⟩, hparent, hname⟩
    refine ⟨?_, r, hr, hparent, hname⟩
    rintro ⟨rfl, rfl⟩
    obtain ⟨k, hk⟩ := Option.isSome_iff_exists.mp hr
    exact hrp (Path.eq_of_parent?_of_name (h.fits r k hk).valid hvalid hparent habove hname)
  · rintro ⟨hnot, r, hr, hparent, hname⟩
    refine ⟨r, ⟨?_, hr⟩, hparent, hname⟩
    rintro rfl
    rw [habove, Option.some.injEq] at hparent
    exact hnot ⟨hparent.symm, hname.symm⟩

theorem WellFormed.put (h : t.WellFormed) (hm : t.node? p = some m) (hn : n.WellFormed)
    (hchildren : n.children = m.children) (hmode : n.mode = m.mode) : (t.put p n).WellFormed := by
  have hsome : ∀ q, ((t.put p n).node? q).isSome ↔ (t.node? q).isSome := fun q =>
    isSome_node?_put (by rw [hm]; rfl)
  have hchild : ∀ q c, (t.put p n).HasChild q c ↔ t.HasChild q c := by simp [HasChild, hsome]
  refine ⟨?_, fun q k hk => ?_⟩
  · obtain ⟨r, hr, hpersistent⟩ := h.root
    by_cases hroot : Path.root = p
    · obtain rfl : r = m := by simpa [← hroot, hr] using hm
      exact ⟨n, by rw [node?_put, if_pos hroot], hmode.trans hpersistent⟩
    · exact ⟨r, by rw [node?_put, if_neg hroot, hr], hpersistent⟩
  · rcases node?_put_cases hk with ⟨rfl, rfl⟩ | ⟨-, hk⟩
    · have hfits := h.fits q m hm
      refine ⟨hfits.valid, hfits.parent_of fun q => (hsome q).mpr, fun c => ?_, hn⟩
      rw [hchildren, hfits.children c, hchild]
    · have hfits := h.fits q k hk
      refine ⟨hfits.valid, hfits.parent_of fun q => (hsome q).mpr, fun c => ?_, hfits.self⟩
      rw [hfits.children c, hchild]

theorem WellFormed.attach (h : t.WellFormed) (hvalid : Path.isValid p)
    (habove : Path.parent? p = some above) (hm : t.node? above = some m)
    (hlasts : m.mode.isEphemeral = false) (hfresh : t.node? p = none) (hn : n.WellFormed)
    (hchildless : n.children = ∅) : (t.attach above p n).WellFormed := by
  have hne : above ≠ p := by
    rintro rfl
    simp [hm] at hfresh
  have hstays : ∀ q, (t.node? q).isSome → ((t.attach above p n).node? q).isSome := fun q hq =>
    isSome_node?_attach.mpr (Or.inr hq)
  refine ⟨?_, fun q k hk => ?_⟩
  · obtain ⟨r, hr, hpersistent⟩ := h.root
    have hrp : Path.root ≠ p := fun he => Path.ne_root_of_parent? habove he.symm
    by_cases hroot : Path.root = above
    · refine ⟨r.gain (Path.name p), ?_, hpersistent⟩
      rw [node?_attach, if_neg hrp, if_pos hroot, hr]
      rfl
    · exact ⟨r, by rw [node?_attach, if_neg hrp, if_neg hroot, hr], hpersistent⟩
  · rcases node?_attach_cases hk with ⟨rfl, rfl⟩ | ⟨-, rfl, m', hm', rfl⟩ | ⟨-, hq, hk⟩
    · -- the new node: nobody is below it yet
      refine ⟨hvalid, fun _ => ⟨above, habove, hstays above (by rw [hm]; rfl)⟩, fun c => ?_, hn⟩
      rw [hchildless, hasChild_attach habove]
      constructor
      · intro hc
        simp at hc
      · rintro (⟨hq, -⟩ | hc)
        · exact absurd hq.symm hne
        · have := h.isSome_of_hasChild hc
          simp [hfresh] at this
    · -- the parent of the new node
      obtain rfl : m = m' := Option.some.inj (hm.symm.trans hm')
      have hfits := h.fits q m hm
      refine ⟨hfits.valid, hfits.parent_of hstays, fun c => ?_, hfits.self.gain hlasts⟩
      rw [Node.children_gain, Std.ExtTreeSet.mem_insert, hfits.children c,
        hasChild_attach habove]
      simp [@eq_comm _ c]
    · -- everybody else
      have hfits := h.fits q k hk
      refine ⟨hfits.valid, hfits.parent_of hstays, fun c => ?_, hfits.self⟩
      rw [hfits.children c, hasChild_attach habove]
      simp [hq]

/-- A node without children is nobody's parent. -/
theorem WellFormed.ne_parent_of_childless (h : t.WellFormed) (hm : t.node? p = some m)
    (hchildless : m.children = ∅) (hq : (t.node? q).isSome) : Path.parent? q ≠ some p := by
  intro hparent
  have hmem := ((h.fits p m hm).children (Path.name q)).mpr ⟨q, hq, hparent, rfl⟩
  simp [hchildless] at hmem

theorem WellFormed.remove (h : t.WellFormed) (hm : t.node? p = some m) (hr : p ≠ Path.root)
    (hchildless : m.children = ∅) : (t.remove p).WellFormed := by
  have hvalid := (h.fits p m hm).valid
  obtain ⟨above, habove, -⟩ := (h.fits p m hm).parent hr
  have hne : above ≠ p := fun he => Path.parent?_ne_self hvalid (he ▸ habove)
  have hsome : ∀ q, ((t.remove p).node? q).isSome ↔ q ≠ p ∧ (t.node? q).isSome :=
    fun q => isSome_node?_remove habove hne
  -- parents stay: what goes is nobody's parent
  have hparents : ∀ q k, t.node? q = some k → q ≠ Path.root →
      ∃ above, Path.parent? q = some above ∧ ((t.remove p).node? above).isSome := by
    intro q k hk hq
    obtain ⟨above', habove', hsome'⟩ := (h.fits q k hk).parent hq
    refine ⟨above', habove', (hsome above').mpr ⟨?_, hsome'⟩⟩
    rintro rfl
    exact h.ne_parent_of_childless hm hchildless (by rw [hk]; rfl) habove'
  refine ⟨?_, fun q k hk => ?_⟩
  · obtain ⟨r, hr', hpersistent⟩ := h.root
    by_cases hroot : Path.root = above
    · refine ⟨r.lose (Path.name p), ?_, hpersistent⟩
      rw [node?_remove habove hne, if_neg (Ne.symm hr), if_pos hroot, hr']
      rfl
    · exact ⟨r, by rw [node?_remove habove hne, if_neg (Ne.symm hr), if_neg hroot, hr'],
        hpersistent⟩
  · obtain ⟨-, ⟨rfl, l, hl, rfl⟩ | ⟨hq, hk⟩⟩ := node?_remove_cases habove hne hk
    · -- the parent of the node that goes
      have hfits := h.fits q l hl
      refine ⟨hfits.valid, hparents q l hl, fun c => ?_, hfits.self.lose⟩
      rw [Node.children_lose, Std.ExtTreeSet.mem_erase, hfits.children c,
        h.hasChild_remove hvalid habove]
      simp [@eq_comm _ c]
    · -- everybody else
      have hfits := h.fits q k hk
      refine ⟨hfits.valid, hparents q k hk, fun c => ?_, hfits.self⟩
      rw [hfits.children c, h.hasChild_remove hvalid habove]
      simp [hq]

/-! ## Requests -/

theorem ne_of_mem_zeroFilledChars {width : Nat} {i : Int} {c : Char}
    (h : c ∈ Text.Decimal.zeroFilledChars width i) : c ≠ '/' ∧ c ≠ '\x00' ∧ c ≠ '.' := by
  rcases Text.Decimal.mem_zeroFilledChars h with rfl | hdigit
  · decide
  · refine ⟨?_, ?_, ?_⟩ <;> rintro rfl <;> simp [Char.isDigit] at hdigit

/-- A node is created at a path, below the node that the request names the parent of. -/
theorem valid_actualPath {mode : CreateMode} (hp : Path.isValid p)
    (habove : Path.parent? p = some above) :
    Path.isValid (actualPath n p mode) ∧ Path.parent? (actualPath n p mode) = some above := by
  unfold actualPath
  split
  · have hr := Path.ne_root_of_parent? habove
    have hne := Text.Decimal.zeroFilledChars_ne_nil 10 n.stat.childVersion.toInt
    rw [Text.Decimal.zeroFilled_eq]
    refine ⟨Path.isValid_append hp hr hne fun _ => ne_of_mem_zeroFilledChars, ?_⟩
    rw [Path.parent?_append hp hr hne fun _ => ne_of_mem_zeroFilledChars, habove]
  · exact ⟨hp, habove⟩

/-- **A request that is applied keeps the tree well formed.** -/
theorem WellFormed.applied {r : Request} {a : Answer} (h : t.WellFormed) (hs : s.id ≠ 0)
    (ha : t.Applied s stamp r a t') : t'.WellFormed := by
  cases ha with
  | created hmode hdata hacl hvalid habove hparent hpermits hne hlasts hfresh =>
    obtain ⟨hvalid', habove'⟩ := valid_actualPath hvalid habove
    exact h.attach hvalid' habove' hparent hlasts hfresh (.leaf hne hs) rfl
  | deleted htype hvalid habove hparent hnode hpermits hversion hcontainer hchildless =>
    exact h.remove hnode (Path.ne_root_of_parent? habove) hchildless
  | @dataSet p data v node hvalid hnode hpermits hversion =>
    exact h.put hnode (h.fits p node hnode).self.written rfl rfl
  | checked hvalid hnode hversion => exact h

theorem WellFormed.setAcl {acl : Acl} {v : Int32} {stat : Stat} (h : t.WellFormed)
    (hacl : acl ≠ []) (ha : t.setAcl s p acl v = .ok (stat, t')) : t'.WellFormed := by
  obtain ⟨node, hnode, -, -, rfl, rfl⟩ := setAcl_eq_ok_iff.mp ha
  exact h.put hnode ((h.fits p node hnode).self.granted hacl) rfl rfl

/-! ## Loops -/

/-- Whether a node may go: it is there, it is not the root, and it has no children. -/
def Removable (t : Tree) (p : String) : Prop :=
  p ≠ Path.root ∧ ∃ n, t.node? p = some n ∧ n.children = ∅

/-- The nodes that may go do not stand in each other's way. -/
theorem WellFormed.removable_remove (h : t.WellFormed) (hp : t.Removable p) (hq : t.Removable q)
    (hne : q ≠ p) : (t.remove p).Removable q := by
  obtain ⟨hr, m, hm, hmch⟩ := hp
  obtain ⟨hr', k, hk, hkch⟩ := hq
  obtain ⟨above, habove, -⟩ := (h.fits p m hm).parent hr
  have hself : above ≠ p := fun he => Path.parent?_ne_self (h.fits p m hm).valid (he ▸ habove)
  have hqa : q ≠ above := by
    rintro rfl
    exact h.ne_parent_of_childless hk hkch (by rw [hm]; rfl) habove
  exact ⟨hr', k, by rw [node?_remove habove hself, if_neg hne, if_neg hqa, hk], hkch⟩

theorem WellFormed.removeAll {ps : List String} (h : t.WellFormed) (hps : ps.Nodup)
    (hremovable : ∀ p ∈ ps, t.Removable p) : (t.removeAll ps).WellFormed := by
  induction ps generalizing t with
  | nil => exact h
  | cons p ps ih =>
    obtain ⟨hp, hps⟩ := List.nodup_cons.mp hps
    obtain ⟨hr, m, hm, hch⟩ := hremovable p (by simp)
    -- the rest may still go when the first one has gone
    refine ih (h.remove hm hr hch) hps fun q hq => ?_
    exact h.removable_remove ⟨hr, m, hm, hch⟩ (hremovable q (by simp [hq])) fun he => hp (he ▸ hq)

/-- The nodes of a session are ephemeral. -/
theorem WellFormed.removable_of_owner {session : Int} (h : t.WellFormed) (hs : session ≠ 0)
    (hn : t.node? p = some n) (howner : n.stat.owner = session) : t.Removable p := by
  have hmode : n.mode.isEphemeral := (h.fits p n hn).self.owner.mp (howner ▸ hs)
  refine ⟨?_, n, hn, (h.fits p n hn).self.childless hmode⟩
  rintro rfl
  obtain ⟨r, hr, hpersistent⟩ := h.root
  obtain rfl : r = n := by simpa [hr] using hn
  simp [hpersistent, CreateMode.isEphemeral] at hmode

/-- The idle containers may go. -/
theorem WellFormed.removable_of_isIdle (h : t.WellFormed) (hn : t.node? p = some n)
    (hidle : n.isIdle) : t.Removable p := by
  obtain ⟨hmode, -, hch⟩ := Node.isIdle_iff.mp hidle
  refine ⟨?_, n, hn, hch⟩
  rintro rfl
  obtain ⟨r, hr, hpersistent⟩ := h.root
  obtain rfl : r = n := by simpa [hr] using hn
  simp [hpersistent] at hmode

theorem WellFormed.removeOwned {session : Int} (h : t.WellFormed) (hs : session ≠ 0) :
    (t.removeOwned session).WellFormed := by
  refine h.removeAll (nodup_pathsWhere _ _) fun p hp => ?_
  obtain ⟨n, hn, howner⟩ := mem_pathsWhere.mp hp
  exact h.removable_of_owner hs hn (by simpa using howner)

theorem WellFormed.reapRounds (rounds : Nat) (h : t.WellFormed) :
    (t.reapRounds rounds).2.WellFormed := by
  induction rounds generalizing t with
  | zero => exact h
  | succ rounds ih =>
    unfold Tree.reapRounds
    split
    · exact h
    · refine ih (h.removeAll (nodup_pathsWhere _ _) fun p hp => ?_)
      obtain ⟨n, hn, hidle⟩ := mem_pathsWhere.mp hp
      exact h.removable_of_isIdle hn hidle

theorem WellFormed.reap (h : t.WellFormed) : t.reap.2.WellFormed := h.reapRounds _

/-! ## Links -/

/-- Every node but the root is listed by its parent. -/
theorem WellFormed.name_mem_children (h : t.WellFormed) (hn : t.node? p = some n)
    (hr : p ≠ Path.root) :
    ∃ above parent, Path.parent? p = some above ∧ t.node? above = some parent ∧
      Path.name p ∈ parent.children := by
  obtain ⟨above, habove, hsome⟩ := (h.fits p n hn).parent hr
  obtain ⟨parent, hparent⟩ := Option.isSome_iff_exists.mp hsome
  exact ⟨above, parent, habove, hparent,
    ((h.fits above parent hparent).children _).mpr ⟨p, by rw [hn]; rfl, habove, rfl⟩⟩

/-- Every name that a node lists is that of a node, under the path glued together. -/
theorem WellFormed.isSome_join {c : String} (h : t.WellFormed) (hn : t.node? p = some n)
    (hc : c ∈ n.children) : (t.node? (Path.join p c)).isSome := by
  obtain ⟨q, hq, hparent, rfl⟩ := ((h.fits p n hn).children c).mp hc
  obtain ⟨m, hm⟩ := Option.isSome_iff_exists.mp hq
  rwa [Path.join_name (h.fits q m hm).valid hparent]

end Tree

end Coordination
