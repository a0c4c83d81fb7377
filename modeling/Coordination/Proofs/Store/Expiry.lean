import Mathlib.Data.List.Nodup
import Coordination.Proofs.Store.Chronology

/-!
# What goes with a session

When a session expires the nodes that it owns go, one after the other, and each is struck from its
parent. These are the ephemeral nodes of the session, all of them and no others, because only
ephemeral nodes are owned; and since nothing lies below an ephemeral node, they may go in any order.
Any number may be said to expire, whether or not a session has it.

## A number that nobody has

Nodes that no session owns carry the number 0 in the place of an owner, which is no session's
number. If that number expires it is they that go, the root among them, and the ephemeral nodes of
all sessions stay behind without their parents. Nothing can be created in such a tree any more: what
is there is ephemeral, and what is not there has no parent. So a store that can be attained has a
well-formed tree or one that is barren in this way, and what an expiry does can be told in both.

## Main definitions

* `Node.belongsTo`, `Node.bereft`: which nodes go with a session, and what is left of their parents
* `Tree.Loses`: the nodes of a session have gone, and nothing else has happened
* `Tree.Barren`: a tree without a root
* `Store.Attained`: the stores that moves lead to, whatever numbers expire

## Main results

* `Tree.Orderly.node?_removeAll`: what is left after some nodes have gone, in any order
* `Store.Attained.sound`: the trees of the stores that can be attained
* `Store.loses_expire_iff`: what an expiry does
-/

namespace Coordination

/-! ## Nodes -/

namespace Node

variable {n : Node} {cs cs' : List String} {session : Int}

/-- Whether a node is to go with a session. -/
def belongsTo (n : Node) (session : Int) : Bool := n.mode.isEphemeral && n.stat.owner == session

/-- **What is left of a node when some of its children have gone**: all but these children, and its
counters say so. -/
def bereft (n : Node) (cs : List String) : Node :=
  { n with
    children := cs.foldl (·.erase ·) n.children
    stat :=
      { n.stat with
        childVersion := n.stat.childVersion + Int32.ofNat cs.length
        childCount := n.stat.childCount - Int32.ofNat cs.length } }

theorem mem_foldl_erase {children : Std.ExtTreeSet String} {c : String} :
    c ∈ cs.foldl (·.erase ·) children ↔ c ∈ children ∧ c ∉ cs := by
  induction cs generalizing children with
  | nil => simp
  | cons c' cs ih =>
    rw [List.foldl_cons, ih, Std.ExtTreeSet.mem_erase, List.mem_cons]
    simp only [ne_eq, Std.LawfulEqCmp.compare_eq_iff_eq, not_or, @eq_comm _ c']
    tauto

@[simp] theorem bereft_nil (n : Node) : n.bereft [] = n := by
  simp [bereft]

/-- In which order the children go does not matter. -/
theorem bereft_perm (h : cs.Perm cs') : n.bereft cs = n.bereft cs' := by
  have hchildren : cs.foldl (·.erase ·) n.children = cs'.foldl (·.erase ·) n.children :=
    Std.ExtTreeSet.ext_mem fun c => by rw [mem_foldl_erase, mem_foldl_erase, h.mem_iff]
  rw [bereft, bereft, hchildren, h.length_eq]

/-- **Children that go one by one are counted one by one.** -/
theorem foldl_lose (h : n.stat.childCount = Int32.ofNat n.children.size) (hcs : cs.Nodup)
    (hmem : ∀ c ∈ cs, c ∈ n.children) : cs.foldl lose n = n.bereft cs := by
  induction cs generalizing n with
  | nil => rw [List.foldl_nil, bereft_nil]
  | cons c cs ih =>
    obtain ⟨hc, hcs⟩ := List.nodup_cons.mp hcs
    have hthere : c ∈ n.children := hmem c List.mem_cons_self
    have hrest : ∀ c' ∈ cs, c' ∈ (n.lose c).children := by
      intro c' hc'
      rw [children_lose, Std.ExtTreeSet.mem_erase]
      refine ⟨?_, hmem c' (List.mem_cons_of_mem _ hc')⟩
      rw [ne_eq, Std.LawfulEqCmp.compare_eq_iff_eq]
      rintro rfl
      exact hc hc'
    have hsize : 1 ≤ n.children.size :=
      Nat.pos_of_ne_zero (mt Std.ExtTreeSet.eq_empty_iff_size_eq_zero.mpr
        (Std.ExtTreeSet.ne_empty_of_mem hthere))
    have hcount : (n.lose c).stat.childCount = n.stat.childCount - 1 := by
      show Int32.ofNat (n.children.erase c).size = _
      rw [Std.ExtTreeSet.size_erase, if_pos (Std.ExtTreeSet.contains_iff_mem.mpr hthere), h,
        Int32.ofNat_sub _ _ hsize]
      rfl
    rw [List.foldl_cons, ih rfl hcs hrest]
    have hversion : n.stat.childVersion + 1 + Int32.ofNat cs.length =
        n.stat.childVersion + Int32.ofNat (cs.length + 1) := by
      rw [Int32.ofNat_add, show Int32.ofNat 1 = 1 from rfl]
      grind
    have hleft : n.stat.childCount - 1 - Int32.ofNat cs.length =
        n.stat.childCount - Int32.ofNat (cs.length + 1) := by
      rw [Int32.ofNat_add, show Int32.ofNat 1 = 1 from rfl]
      grind
    rw [bereft, bereft, hcount, hleft, List.length_cons, ← hversion]
    rfl

end Node

/-! ## Trees -/

namespace Tree

variable {t t' : Tree} {p q above : String} {n m parent : Node} {ps qs : List String}
  {session : Int}

theorem node?_remove_of_isValid (hp : Path.isValid p) (q : String) :
    (t.remove p).node? q =
      if q = p then none
      else if Path.parent? p = some q then (t.node? q).map (·.lose (Path.name p))
      else t.node? q := by
  cases habove : Path.parent? p with
  | none =>
    have hremove : t.remove p = { t with nodes := t.nodes.erase p } := by
      rw [remove, habove]
    rw [hremove, node?_erase]
    simp
  | some above =>
    have hne : above ≠ p := fun he => Path.parent?_ne_self hp (he ▸ habove)
    rw [node?_remove habove hne]
    simp [@eq_comm _ q above]

theorem node?_foldl_remove (hps : ∀ p ∈ ps, Path.isValid p) (q : String) :
    (t.removeAll ps).node? q =
      if q ∈ ps then none
      else (t.node? q).map
        (((ps.filter fun p => Path.parent? p = some q).map Path.name).foldl Node.lose ·) := by
  induction ps generalizing t with
  | nil => simp [removeAll]
  | cons p ps ih =>
    have hstep : t.removeAll (p :: ps) = (t.remove p).removeAll ps := rfl
    rw [hstep, ih fun p' hp' => hps p' (List.mem_cons_of_mem _ hp'),
      node?_remove_of_isValid (hps p List.mem_cons_self)]
    by_cases hq : q = p
    · simp [hq]
    · by_cases habove : Path.parent? p = some q
      · simp [hq, habove, Function.comp_def]
      · simp [hq, habove]

/-- Children of one node are told by their names. -/
theorem nodup_map_name (hps : ps.Nodup) (hvalid : ∀ p ∈ ps, Path.isValid p) (q : String) :
    ((ps.filter fun p => Path.parent? p = some q).map Path.name).Nodup := by
  refine (hps.filter _).map_on fun p hp p' hp' hname => ?_
  simp only [List.mem_filter, decide_eq_true_eq] at hp hp'
  exact Path.eq_of_parent?_of_name (hvalid p hp.1) (hvalid p' hp'.1) hp.2 hp'.2 hname

/-- **Whether a tree is in order as far as removals go**: nodes stand under paths and agree with
themselves, and a node whose parent is there is listed by it. -/
structure Orderly (t : Tree) : Prop where
  valid : ∀ p n, t.node? p = some n → Path.isValid p
  self : ∀ p n, t.node? p = some n → n.WellFormed
  listed : ∀ p n above parent, t.node? p = some n → Path.parent? p = some above →
    t.node? above = some parent → Path.name p ∈ parent.children

theorem WellFormed.orderly (h : t.WellFormed) : t.Orderly where
  valid p n hn := (h.fits p n hn).valid
  self p n hn := (h.fits p n hn).self
  listed p n above parent hn habove hparent :=
    ((h.fits above parent hparent).children _).mpr ⟨p, by rw [hn]; rfl, habove, rfl⟩

namespace Orderly

/-- Nothing lies below a node without children. -/
theorem node?_eq_none_of_parent? (h : t.Orderly) (hn : t.node? p = some n)
    (hchildless : n.children = ∅) (habove : Path.parent? q = some p) : t.node? q = none := by
  cases hm : t.node? q with
  | none => rfl
  | some m =>
    have hlisted := h.listed q m p n hm habove hn
    simp [hchildless] at hlisted

/-- Nodes that are there stand under paths. -/
theorem isValid_of_mem (h : t.Orderly) (hthere : ∀ p ∈ ps, (t.node? p).isSome) :
    ∀ p ∈ ps, Path.isValid p := by
  intro p hp
  obtain ⟨n, hn⟩ := Option.isSome_iff_exists.mp (hthere p hp)
  exact h.valid p n hn

/-- **What is left after some nodes have gone.** -/
theorem node?_removeAll (h : t.Orderly) (hps : ps.Nodup) (hthere : ∀ p ∈ ps, (t.node? p).isSome)
    (q : String) :
    (t.removeAll ps).node? q =
      if q ∈ ps then none
      else (t.node? q).map
        (·.bereft ((ps.filter fun p => Path.parent? p = some q).map Path.name)) := by
  have hvalid := h.isValid_of_mem hthere
  rw [node?_foldl_remove hvalid]
  split
  · rfl
  · cases hq : t.node? q with
    | none => rfl
    | some n =>
      rw [Option.map_some, Option.map_some, Node.foldl_lose (h.self q n hq).childCount]
      · exact nodup_map_name hps hvalid q
      · intro c hc
        obtain ⟨p, hp, rfl⟩ := List.mem_map.mp hc
        simp only [List.mem_filter, decide_eq_true_eq] at hp
        obtain ⟨m, hm⟩ := Option.isSome_iff_exists.mp (hthere p hp.1)
        exact h.listed p m q n hm hp.2 hq

/-- What has no children and does not go itself stays as it is. -/
theorem node?_removeAll_of_childless (h : t.Orderly) (hps : ps.Nodup)
    (hthere : ∀ p ∈ ps, (t.node? p).isSome) (hn : t.node? q = some n) (hchildless : n.children = ∅)
    (hq : q ∉ ps) : (t.removeAll ps).node? q = some n := by
  have hnobody : ps.filter (fun p => Path.parent? p = some q) = [] := by
    refine List.filter_eq_nil_iff.mpr fun p hp habove => ?_
    have hnone := h.node?_eq_none_of_parent? hn hchildless (by simpa using habove)
    have hsome := hthere p hp
    rw [hnone] at hsome
    cases hsome
  rw [h.node?_removeAll hps hthere, if_neg hq, hn, hnobody, List.map_nil, Option.map_some,
    Node.bereft_nil]

/-- **In which order nodes go does not matter.** -/
theorem removeAll_perm (h : t.Orderly) (hps : ps.Nodup) (hthere : ∀ p ∈ ps, (t.node? p).isSome)
    (hperm : ps.Perm qs) : t.removeAll ps = t.removeAll qs := by
  refine ext_node? (fun q => ?_) ?_
  · rw [h.node?_removeAll hps hthere, h.node?_removeAll (hperm.nodup hps) fun p hp =>
      hthere p (hperm.mem_iff.mpr hp)]
    simp only [hperm.mem_iff, Node.bereft_perm ((hperm.filter _).map Path.name)]
  · rw [transaction_removeAll, transaction_removeAll]

end Orderly

/-! ### The nodes of a session -/

/-- The names of the children of a node that go with a session. -/
def leaving (t : Tree) (session : Int) (p : String) : List String :=
  ((t.pathsWhere (·.belongsTo session)).filter fun q => Path.parent? q = some p).map Path.name

/-- **The nodes of a session have gone, and nothing else has happened.** -/
structure Loses (session : Int) (t t' : Tree) : Prop where
  /-- What belongs to the session is gone. -/
  gone : ∀ p n, t.node? p = some n → n.belongsTo session → t'.node? p = none
  /-- All other nodes stay, and have lost the children that are gone. -/
  stays : ∀ p n, t.node? p = some n → n.belongsTo session = false →
    t'.node? p = some (n.bereft (t.leaving session p))
  /-- No nodes come. -/
  absent : ∀ p, t.node? p = none → t'.node? p = none
  /-- It has been no transaction. -/
  transaction : t'.transaction = t.transaction

/-- The nodes that carry the number of a session in the place of an owner. -/
theorem mem_owned :
    p ∈ t.pathsWhere (·.stat.owner == session) ↔
      ∃ n, t.node? p = some n ∧ n.stat.owner = session := by
  rw [mem_pathsWhere]
  simp

theorem isSome_of_mem_owned (hp : p ∈ t.pathsWhere (·.stat.owner == session)) :
    (t.node? p).isSome := by
  obtain ⟨n, hn, -⟩ := mem_owned.mp hp
  rw [hn]
  rfl

theorem belongsTo_iff : n.belongsTo session ↔ n.mode.isEphemeral ∧ n.stat.owner = session := by
  simp [Node.belongsTo]

namespace Orderly

/-- **What carries a number goes, and nothing else happens**, if it is ephemeral. -/
theorem loses_removeOwned (h : t.Orderly)
    (howned : ∀ p n, t.node? p = some n → n.stat.owner = session → n.mode.isEphemeral) :
    t.Loses session (t.removeOwned session) := by
  have hnodes := h.node?_removeAll (nodup_pathsWhere t (·.stat.owner == session))
    fun p => isSome_of_mem_owned
  have hmem : ∀ p n, t.node? p = some n →
      (p ∈ t.pathsWhere (·.stat.owner == session) ↔ n.belongsTo session) := by
    intro p n hn
    rw [mem_owned, hn, belongsTo_iff]
    simpa using fun howner => howned p n hn howner
  have hperm : (t.pathsWhere (·.stat.owner == session)).Perm
      (t.pathsWhere (·.belongsTo session)) := by
    refine (List.perm_ext_iff_of_nodup (nodup_pathsWhere _ _) (nodup_pathsWhere _ _)).mpr ?_
    intro p
    rw [mem_pathsWhere (f := (·.belongsTo session))]
    constructor
    · intro hp
      obtain ⟨n, hn, -⟩ := mem_owned.mp hp
      exact ⟨n, hn, (hmem p n hn).mp hp⟩
    · rintro ⟨n, hn, hbelongs⟩
      exact (hmem p n hn).mpr hbelongs
  refine ⟨fun p n hn hbelongs => ?_, fun p n hn hbelongs => ?_, fun p hp => ?_,
    transaction_removeOwned t session⟩
  · rw [removeOwned, hnodes, if_pos ((hmem p n hn).mpr hbelongs)]
  · have hnot : p ∉ t.pathsWhere (·.stat.owner == session) := by
      rw [hmem p n hn, hbelongs]
      exact Bool.false_ne_true
    rw [removeOwned, hnodes, if_neg hnot, hn, Option.map_some, leaving,
      Node.bereft_perm ((hperm.filter _).map Path.name)]
  · rw [removeOwned, hnodes, hp]
    exact ite_self none

/-- What is left once a number has expired does not carry it. -/
theorem removeOwned_removeOwned (h : t.Orderly) (session : Int) :
    (t.removeOwned session).removeOwned session = t.removeOwned session := by
  have hnobody : (t.removeOwned session).pathsWhere (·.stat.owner == session) = [] := by
    refine List.eq_nil_iff_forall_not_mem.mpr fun p hp => ?_
    obtain ⟨n, hn, howner⟩ := mem_owned.mp hp
    rw [removeOwned, h.node?_removeAll (nodup_pathsWhere _ _) fun p => isSome_of_mem_owned] at hn
    split at hn
    · cases hn
    · rename_i hnot
      obtain ⟨m, hm, rfl⟩ := Option.map_eq_some_iff.mp hn
      exact hnot (mem_owned.mpr ⟨m, hm, howner⟩)
  rw [removeOwned, hnobody]
  rfl

/-- **Ephemeral nodes of others stay as they are.** -/
theorem node?_removeOwned_of_ephemeral (h : t.Orderly) (hn : t.node? p = some n)
    (hmode : n.mode.isEphemeral) (howner : n.stat.owner ≠ session) :
    (t.removeOwned session).node? p = some n := by
  refine h.node?_removeAll_of_childless (nodup_pathsWhere _ _) (fun p => isSome_of_mem_owned) hn
    ((h.self p n hn).childless hmode) fun hp => ?_
  obtain ⟨m, hm, howner'⟩ := mem_owned.mp hp
  rw [hn] at hm
  obtain rfl := Option.some.inj hm
  exact howner howner'

/-- **What nobody owns goes with the number 0**, and the ephemeral nodes are left. -/
theorem node?_removeOwned_zero (h : t.Orderly) :
    (t.removeOwned 0).node? p = some n ↔ t.node? p = some n ∧ n.mode.isEphemeral := by
  constructor
  · intro hn
    have hleft := hn
    rw [removeOwned, h.node?_removeAll (nodup_pathsWhere _ _) fun p => isSome_of_mem_owned] at hleft
    split at hleft
    · cases hleft
    · rename_i hnot
      obtain ⟨m, hm, -⟩ := Option.map_eq_some_iff.mp hleft
      have howner : m.stat.owner ≠ 0 := fun howner => hnot (mem_owned.mpr ⟨m, hm, howner⟩)
      have hmode := (h.self p m hm).owner.mp howner
      rw [h.node?_removeOwned_of_ephemeral hm hmode howner] at hn
      obtain rfl := Option.some.inj hn
      exact ⟨hm, hmode⟩
  · rintro ⟨hn, hmode⟩
    exact h.node?_removeOwned_of_ephemeral hn hmode ((h.self p n hn).owner.mpr hmode)

end Orderly

/-! ### Barren trees -/

/-- **A tree without a root**, in which every node is ephemeral and has no parent. -/
structure Barren (t : Tree) : Prop where
  root : t.node? Path.root = none
  valid : ∀ p n, t.node? p = some n → Path.isValid p
  self : ∀ p n, t.node? p = some n → n.WellFormed
  ephemeral : ∀ p n, t.node? p = some n → n.mode.isEphemeral
  orphan : ∀ p n above, t.node? p = some n → Path.parent? p = some above → t.node? above = none

/-- **A well-formed tree is barren when the nodes have gone that nobody owns.** -/
theorem WellFormed.barren (h : t.WellFormed) : (t.removeOwned 0).Barren := by
  have hleft {p : String} {n : Node} := h.orderly.node?_removeOwned_zero (p := p) (n := n)
  refine ⟨?_, fun p n hn => (h.fits p n (hleft.mp hn).1).valid,
    fun p n hn => (h.fits p n (hleft.mp hn).1).self, fun p n hn => (hleft.mp hn).2, ?_⟩
  · obtain ⟨r, hr, hpersistent⟩ := h.root
    refine Option.eq_none_iff_forall_ne_some.mpr fun n hn => ?_
    obtain ⟨hn, hmode⟩ := hleft.mp hn
    rw [hr] at hn
    obtain rfl := Option.some.inj hn
    rw [hpersistent] at hmode
    cases hmode
  · intro p n above hn habove
    refine Option.eq_none_iff_forall_ne_some.mpr fun m hm => ?_
    -- an ephemeral node is nobody's parent
    obtain ⟨hm, hmode⟩ := hleft.mp hm
    have hchildless := (h.fits above m hm).self.childless hmode
    have hnone := h.orderly.node?_eq_none_of_parent? hm hchildless habove
    rw [(hleft.mp hn).1] at hnone
    cases hnone

namespace Barren

theorem orderly (h : t.Barren) : t.Orderly where
  valid := h.valid
  self := h.self
  listed p n above parent hn habove hparent := by
    rw [h.orphan p n above hn habove] at hparent
    cases hparent

theorem transaction (h : t.Barren) (z : Int) : ({ t with transaction := z } : Tree).Barren :=
  ⟨h.root, h.valid, h.self, h.ephemeral, h.orphan⟩

/-- A barren tree may lose nodes. -/
theorem of_le (h : t.Barren) (hle : ∀ p n, t'.node? p = some n → t.node? p = some n) :
    t'.Barren := by
  have hnone : ∀ p, t.node? p = none → t'.node? p = none := by
    intro p hp
    refine Option.eq_none_iff_forall_ne_some.mpr fun n hn => ?_
    rw [hle p n hn] at hp
    cases hp
  exact ⟨hnone _ h.root, fun p n hn => h.valid p n (hle p n hn),
    fun p n hn => h.self p n (hle p n hn), fun p n hn => h.ephemeral p n (hle p n hn),
    fun p n above hn habove => hnone _ (h.orphan p n above (hle p n hn) habove)⟩

theorem put (h : t.Barren) (hm : t.node? p = some m) (hn : n.WellFormed) (hmode : n.mode = m.mode) :
    (t.put p n).Barren := by
  have hnone : ∀ q, t.node? q = none → (t.put p n).node? q = none := by
    intro q hq
    have hne : q ≠ p := by
      rintro rfl
      rw [hm] at hq
      cases hq
    rw [node?_put, if_neg hne, hq]
  refine ⟨hnone _ h.root, fun q k hk => ?_, fun q k hk => ?_, fun q k hk => ?_,
    fun q k above hk habove => ?_⟩
  all_goals rcases node?_put_cases hk with ⟨rfl, rfl⟩ | ⟨-, hk⟩
  · exact h.valid q m hm
  · exact h.valid q k hk
  · exact hn
  · exact h.self q k hk
  · rw [hmode]
    exact h.ephemeral q m hm
  · exact h.ephemeral q k hk
  · exact hnone _ (h.orphan q m above hm habove)
  · exact hnone _ (h.orphan q k above hk habove)

/-- **Nothing comes and nothing goes by request**: what is there has no parent, and is none. -/
theorem applied {s : Session} {stamp : Int} {r : Request} {a : Answer} (h : t.Barren)
    (happlied : t.Applied s stamp r a t') : t'.Barren := by
  cases happlied with
  | created hmode hdata hacl hvalid habove hparent hpermits hne hlasts hfresh =>
    rw [h.ephemeral _ _ hparent] at hlasts
    cases hlasts
  | deleted htype hvalid habove hparent hnode =>
    rw [h.orphan _ _ _ hnode habove] at hparent
    cases hparent
  | @dataSet p data v node hvalid hnode => exact h.put hnode (h.self p node hnode).written rfl
  | checked => exact h

theorem setAcl {s : Session} {acl : Acl} {v : Int32} {stat : Stat} (h : t.Barren)
    (hacl : acl ≠ []) (ha : t.setAcl s p acl v = .ok (stat, t')) : t'.Barren := by
  obtain ⟨node, hnode, -, -, rfl, rfl⟩ := setAcl_eq_ok_iff.mp ha
  exact h.put hnode ((h.self p node hnode).granted hacl) rfl

theorem removeOwned (h : t.Barren) (session : Int) : (t.removeOwned session).Barren := by
  refine h.of_le fun p n hn => ?_
  have hleft := hn
  rw [Tree.removeOwned, h.orderly.node?_removeAll (nodup_pathsWhere _ _)
    fun p => isSome_of_mem_owned] at hleft
  split at hleft
  · cases hleft
  · rename_i hnot
    obtain ⟨m, hm, -⟩ := Option.map_eq_some_iff.mp hleft
    have howner : m.stat.owner ≠ session := fun howner => hnot (mem_owned.mpr ⟨m, hm, howner⟩)
    rw [h.orderly.node?_removeOwned_of_ephemeral hm (h.ephemeral p m hm) howner] at hn
    rwa [← Option.some.inj hn]

/-- There are no containers to be reaped. -/
theorem pathsWhere_isIdle (h : t.Barren) : t.pathsWhere (·.isIdle) = [] := by
  refine List.eq_nil_iff_forall_not_mem.mpr fun p hp => ?_
  obtain ⟨n, hn, hidle⟩ := mem_pathsWhere.mp hp
  have hmode := h.ephemeral p n hn
  rw [(Node.isIdle_iff.mp hidle).1] at hmode
  cases hmode

theorem reap (h : t.Barren) : t.reap.2 = t := by
  rw [Tree.reap, reapRounds, h.pathsWhere_isIdle]

end Barren

/-- Whether a tree is as moves leave it: well formed, or barren. -/
def Sound (t : Tree) : Prop := t.WellFormed ∨ t.Barren

theorem Sound.orderly (h : t.Sound) : t.Orderly := by
  rcases h with hwf | hbarren
  · exact hwf.orderly
  · exact hbarren.orderly

end Tree

/-! ## Stores -/

namespace Store

variable {st : Store} {m : Move}

/-- Whether a move can be made of a store. Sessions have been opened before they do anything; any
number may be said to expire, also one that no session has or will have. -/
def Move.Possible (st : Store) (m : Move) : Prop := m.Allowed st ∨ ∃ session, m = .expire session

/-- **The stores that moves lead to**, whatever numbers expire. -/
inductive Attained : Store → Prop where
  /-- The store with the root alone. -/
  | initial : Attained .initial
  /-- One more move. -/
  | move {st : Store} (h : Attained st) (m : Move) (hm : m.Possible st) : Attained (m.next st)

/-- A barren tree stays barren, whatever happens to its store. -/
theorem barren_next (h : st.tree.Barren) (m : Move) : (m.next st).tree.Barren := by
  cases m with
  | connect | failNext | failAfter => exact h
  | submit s r =>
    exact submit_keeps (P := Tree.Barren) (fun _ z ht => ht.transaction z)
      (fun _ _ _ _ ht happlied => ht.applied happlied) h
  | multi s rs =>
    exact multi_keeps (P := Tree.Barren) (fun _ z ht => ht.transaction z)
      (fun _ _ _ _ _ _ ht happlied => ht.applied happlied) h
  | setAcl s p acl version =>
    exact setAcl_keeps (P := Tree.Barren) (fun _ z ht => ht.transaction z)
      (fun hacl _ _ ht => h.setAcl hacl ht) h
  | close s =>
    rw [Move.next, close]
    split
    · exact h
    · exact h.removeOwned s.id
  | expire session => exact h.removeOwned session
  | reap =>
    show st.tree.reap.2.Barren
    rw [h.reap]
    exact h

/-- **The tree of a store that can be attained is well formed or barren.** -/
theorem Attained.sound (h : st.Attained) : st.tree.Sound := by
  induction h with
  | initial => exact .inl .initial
  | @move st _ m hm ih =>
    rcases ih with hwf | hbarren
    · rcases hm with hm | ⟨session, rfl⟩
      · exact .inl (wellFormed_next hwf hm)
      · by_cases hs : session = 0
        · subst hs
          exact .inr hwf.barren
        · exact .inl (hwf.removeOwned hs)
    · exact .inr (barren_next hbarren m)

theorem Reachable.attained (h : st.Reachable) : st.Attained := by
  induction h with
  | initial => exact .initial
  | move _ m hm ih => exact ih.move m (.inl hm)

theorem expire_expire (h : st.tree.Orderly) (session : Int) :
    (st.expire session).expire session = st.expire session := by
  have hexpired : (st.expired.insert session).insert session = st.expired.insert session := by
    refine Std.ExtTreeSet.ext_mem fun i => ?_
    simp only [Std.ExtTreeSet.mem_insert]
    tauto
  simp only [expire, hexpired, h.removeOwned_removeOwned]

/-- **What an expiry does.** The nodes of the session go and nothing else happens, unless the number
that expires is the one that stands for nobody and the tree has a root. In that case all nodes go
that do not belong to a session, and the ephemeral ones are left. In any case it does not matter in
which order the nodes go, the store changes in no other way but that the number has expired, and a
second expiry of the number does nothing. -/
theorem loses_expire_iff (h : st.Attained) (session : Int) :
    (Tree.Loses session st.tree (st.expire session).tree ↔
      (session = 0 → st.tree.node? Path.root = none)) ∧
    (∀ p n, (st.expire 0).tree.node? p = some n ↔
      st.tree.node? p = some n ∧ n.mode.isEphemeral) ∧
    (∀ ps, (st.tree.pathsWhere (·.stat.owner == session)).Perm ps →
      (st.expire session).tree = st.tree.removeAll ps) ∧
    (∃ tree, st.expire session = { st with expired := st.expired.insert session, tree }) ∧
    (st.expire session).expire session = st.expire session := by
  have horderly := h.sound.orderly
  refine ⟨⟨?_, fun hroot => ?_⟩, fun p n => horderly.node?_removeOwned_zero, fun ps hps => ?_,
    ⟨_, rfl⟩, expire_expire horderly session⟩
  · rintro hloses rfl
    -- a root would stay, being nobody's
    rcases h.sound with hwf | hbarren
    · obtain ⟨r, hr, hpersistent⟩ := hwf.root
      have hstays := hloses.stays Path.root r hr (by simp [Node.belongsTo, hpersistent,
        CreateMode.isEphemeral])
      have hgone : (st.expire 0).tree.node? Path.root = none := hwf.barren.root
      rw [hstays] at hgone
      cases hgone
    · exact hbarren.root
  · refine horderly.loses_removeOwned fun p n hn howner => ?_
    by_cases hs : session = 0
    · rcases h.sound with hwf | hbarren
      · obtain ⟨r, hr, -⟩ := hwf.root
        rw [hroot hs] at hr
        cases hr
      · exact hbarren.ephemeral p n hn
    · exact (horderly.self p n hn).owner.mp (howner ▸ hs)
  · exact horderly.removeAll_perm (Tree.nodup_pathsWhere _ _)
      (fun p => Tree.isSome_of_mem_owned) hps

/-- Two sessions, each with ephemeral nodes below a node that lasts. -/
def household : Store :=
  Move.run .initial
    [.connect [], .connect [],
      .submit ⟨1, []⟩ (.create "/a" "x".toUTF8 .worldOpen .persistent),
      .submit ⟨1, []⟩ (.create "/a/mine" ByteArray.empty .worldOpen .ephemeral),
      .submit ⟨2, []⟩ (.create "/a/yours" ByteArray.empty .worldOpen .ephemeral),
      .submit ⟨1, []⟩ (.create "/a/mine-" ByteArray.empty .worldOpen .ephemeralSequential)]

theorem reachable_household : household.Reachable := Reachable.initial.run (by decide +kernel)

theorem loses_expire_of_household :
    household.Attained ∧ household.tree.leaving 1 "/a" = ["mine", "mine-0000000002"] ∧
      Tree.Loses 1 household.tree (household.expire 1).tree ∧
      (household.expire 1).expire 1 = household.expire 1 := by
  have hattained := reachable_household.attained
  obtain ⟨hloses, -, -, -, htwice⟩ := loses_expire_iff hattained 1
  exact ⟨hattained, by decide +kernel, hloses.mpr (by decide), htwice⟩

/-- If the number expires that stands for nobody, the nodes that last are gone, and so is the
root. -/
theorem lasting_gone_of_household :
    household.Reachable ∧ ¬ Tree.Loses 0 household.tree (household.expire 0).tree ∧
      (household.expire 0).tree.node? Path.root = none ∧
      (household.expire 0).tree.node? "/a" = none ∧
      ((household.expire 0).tree.node? "/a/yours").isSome := by
  have hthere : (household.tree.node? "/a").any (fun n => !n.belongsTo 0) := by decide +kernel
  have hgone : (household.expire 0).tree.node? "/a" = none := by decide +kernel
  refine ⟨reachable_household, fun hloses => ?_, by decide +kernel, hgone, by decide +kernel⟩
  obtain ⟨n, hn, hbelongs⟩ := (Option.any_eq_true _ _).mp hthere
  rw [hloses.stays "/a" n hn (by simpa using hbelongs)] at hgone
  cases hgone

end Store

end Coordination
