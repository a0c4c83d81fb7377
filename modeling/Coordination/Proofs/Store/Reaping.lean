import Mathlib.Data.Finset.Card
import Mathlib.Order.Bounds.Basic
import Coordination.Proofs.Store.Expiry
import Coordination.Proofs.Store.Versions

/-!
# What reaping removes

A container is idle when it has had children and has none left. Reaping removes all idle containers,
which may leave others idle, and goes on in rounds until a round finds none. What it removes in the
end does not depend on the order in which the containers of a round go, and can be said without
rounds: it is the least set of paths that drains the tree, where a set drains a tree if it contains
every container that has had children and has none left outside the set. One inclusion is an
induction over the rounds, because each round removes only what belongs to every draining set. The
other one holds because no container is idle when the rounds are over.

## Main definitions

* `Tree.Drains`: the sets of paths that contain whatever they leave without children
* `Tree.Rounds`: rounds of removals, the containers of each round going in any order
* `Tree.Sheds`: some nodes have gone, and nothing else has happened
* `Tree.Remembers`: nodes know whether they have had children

## Main results

* `Tree.Rounds.eq_removeAll`: rounds of removals come to one removal
* `Tree.Rounds.isLeast`: what rounds remove that are over is the least draining set
* `Tree.Sound.exists_rounds`: reaping makes such rounds, and comes to an end
* `Store.remembers_journal`: a node has had children if some have come since it has come itself
* `Store.reap_removes_least`: what reaping does
-/

namespace Coordination

namespace Node

variable {n : Node} {c : String} {cs : List String}

@[simp] theorem mode_bereft : (n.bereft cs).mode = n.mode := rfl

@[simp] theorem hadChildren_bereft : (n.bereft cs).hadChildren = n.hadChildren := rfl

@[simp] theorem mem_children_bereft :
    c ∈ (n.bereft cs).children ↔ c ∈ n.children ∧ c ∉ cs := mem_foldl_erase

end Node

/-! ## Trees -/

namespace Tree

variable {t t' t'' : Tree} {p q : String} {n : Node} {ps : List String}
  {rounds rounds' : List (List String)} {S : Set String}

/-! ### Sound trees -/

namespace Sound

/-- Whom a node lists is there, below the node. -/
theorem hasChild {c : String} (h : t.Sound) (hn : t.node? p = some n) (hc : c ∈ n.children) :
    t.HasChild p c := by
  rcases h with hwf | hbarren
  · exact ((hwf.fits p n hn).children c).mp hc
  · rw [(hbarren.self p n hn).childless (hbarren.ephemeral p n hn)] at hc
    simp at hc

/-- A tree stays sound when its idle containers go. -/
theorem removeAll (h : t.Sound) (hps : ps.Perm (t.pathsWhere (·.isIdle))) :
    (t.removeAll ps).Sound := by
  rcases h with hwf | hbarren
  · refine .inl (hwf.removeAll (hps.nodup_iff.mpr (nodup_pathsWhere _ _)) fun p hp => ?_)
    obtain ⟨n, hn, hidle⟩ := mem_pathsWhere.mp (hps.mem_iff.mp hp)
    exact hwf.removable_of_isIdle hn hidle
  · rw [hbarren.pathsWhere_isIdle, List.perm_nil] at hps
    rw [hps]
    exact .inr hbarren

/-- The children that a node loses when some nodes go are those of its children that do. -/
theorem mem_map_name_iff {c : String} (h : t.Sound) (hthere : ∀ p ∈ ps, (t.node? p).isSome)
    (hn : t.node? q = some n) :
    c ∈ (ps.filter fun p => Path.parent? p = some q).map Path.name ↔
      c ∈ n.children ∧ Path.join q c ∈ ps := by
  have hvalid := h.orderly.isValid_of_mem hthere
  simp only [List.mem_map, List.mem_filter, decide_eq_true_eq]
  constructor
  · rintro ⟨p, ⟨hp, habove⟩, rfl⟩
    obtain ⟨m, hm⟩ := Option.isSome_iff_exists.mp (hthere p hp)
    refine ⟨h.orderly.listed p m q n hm habove hn, ?_⟩
    rwa [Path.join_name (hvalid p hp) habove]
  · rintro ⟨hc, hp⟩
    obtain ⟨p, hsome, habove, rfl⟩ := h.hasChild hn hc
    obtain ⟨m, hm⟩ := Option.isSome_iff_exists.mp hsome
    rw [Path.join_name (h.orderly.valid p m hm) habove] at hp
    exact ⟨p, ⟨hp, habove⟩, rfl⟩

end Sound

/-! ### Removals -/

theorem size_removeAll (hps : ps.Nodup) (hthere : ∀ p ∈ ps, (t.node? p).isSome) :
    (t.removeAll ps).size + ps.length = t.size := by
  induction ps generalizing t with
  | nil => rfl
  | cons p ps ih =>
    obtain ⟨hp, hps⟩ := List.nodup_cons.mp hps
    have hrest : ∀ q ∈ ps, ((t.remove p).node? q).isSome := fun q hq =>
      isSome_node?_remove_of_ne (hthere q (List.mem_cons_of_mem _ hq)) fun heq => hp (heq ▸ hq)
    have hsize : ((t.remove p).removeAll ps).size + ps.length = (t.remove p).size := ih hps hrest
    rw [List.length_cons, ← size_remove (hthere p List.mem_cons_self), ← hsize]
    rfl

theorem removeAll_append (t : Tree) (ps qs : List String) :
    t.removeAll (ps ++ qs) = (t.removeAll ps).removeAll qs := List.foldl_append

/-- What is there when some nodes have gone is none of them, and was there before. -/
theorem Orderly.isSome_node?_removeAll (h : t.Orderly) (hps : ps.Nodup)
    (hthere : ∀ p ∈ ps, (t.node? p).isSome) :
    ((t.removeAll ps).node? q).isSome ↔ q ∉ ps ∧ (t.node? q).isSome := by
  rw [h.node?_removeAll hps hthere]
  split <;> simp_all

/-- **Some nodes have gone, and nothing else has happened.** -/
structure Sheds (R : Finset String) (t t' : Tree) : Prop where
  /-- The nodes were there and are gone. -/
  gone : ∀ p ∈ R, (t.node? p).isSome ∧ t'.node? p = none
  /-- All other nodes stay, and have lost those of their children that are gone. -/
  stays : ∀ p n, p ∉ R → t.node? p = some n → ∃ cs : List String, cs.Nodup ∧
    (∀ c, c ∈ cs ↔ c ∈ n.children ∧ Path.join p c ∈ R) ∧ t'.node? p = some (n.bereft cs)
  /-- No nodes come. -/
  absent : ∀ p, t.node? p = none → t'.node? p = none
  /-- There are so many nodes less. -/
  size : t'.size + R.card = t.size
  /-- It has been no transaction. -/
  transaction : t'.transaction = t.transaction

theorem Sound.sheds_removeAll (h : t.Sound) (hps : ps.Nodup)
    (hthere : ∀ p ∈ ps, (t.node? p).isSome) : t.Sheds ps.toFinset (t.removeAll ps) := by
  have hnodes := h.orderly.node?_removeAll hps hthere
  refine ⟨fun p hp => ?_, fun p n hp hn => ?_, fun p hp => ?_, ?_, transaction_removeAll t ps⟩
  · rw [List.mem_toFinset] at hp
    exact ⟨hthere p hp, by rw [hnodes, if_pos hp]⟩
  · rw [List.mem_toFinset] at hp
    refine ⟨_, nodup_map_name hps (h.orderly.isValid_of_mem hthere) p, fun c => ?_, ?_⟩
    · rw [h.mem_map_name_iff hthere hn, List.mem_toFinset]
    · rw [hnodes, if_neg hp, hn]
      rfl
  · rw [hnodes, hp]
    exact ite_self none
  · rw [List.toFinset_card_of_nodup hps]
    exact size_removeAll hps hthere

/-! ### Draining -/

/-- **The sets of paths that drain a tree**: they contain every container that has had children and
has none left outside the set. -/
def Drains (S : Set String) (t : Tree) : Prop :=
  ∀ p n, t.node? p = some n → n.mode = .container → n.hadChildren →
    (∀ c ∈ n.children, Path.join p c ∈ S) → p ∈ S

/-- Idle containers belong to every set that drains the tree. -/
theorem Drains.mem_of_isIdle (hS : t.Drains S) (hn : t.node? p = some n) (hidle : n.isIdle) :
    p ∈ S := by
  obtain ⟨hmode, hhad, hchildless⟩ := Node.isIdle_iff.mp hidle
  refine hS p n hn hmode hhad fun c hc => ?_
  rw [hchildless] at hc
  simp at hc

/-- A set drains a tree also when some of it has gone. -/
theorem Drains.removeAll (hS : t.Drains S) (h : t.Sound) (hps : ps.Nodup)
    (hthere : ∀ p ∈ ps, (t.node? p).isSome) (hsub : ∀ p ∈ ps, p ∈ S) :
    (t.removeAll ps).Drains S := by
  intro p k hk hmode hhad hchildren
  rw [h.orderly.node?_removeAll hps hthere] at hk
  split at hk
  · cases hk
  · obtain ⟨n, hn, rfl⟩ := Option.map_eq_some_iff.mp hk
    refine hS p n hn hmode hhad fun c hc => ?_
    by_cases hgone : Path.join p c ∈ ps
    · exact hsub _ hgone
    · refine hchildren c (Node.mem_children_bereft.mpr ⟨hc, fun hlost => hgone ?_⟩)
      exact ((h.mem_map_name_iff hthere hn).mp hlost).2

/-! ### Rounds -/

/-- **Rounds of removals.** There are idle containers in each of them, and they go one after the
other, in any order. -/
inductive Rounds : Tree → List (List String) → Tree → Prop where
  | nil {t : Tree} : Rounds t [] t
  | cons {t t' : Tree} {ps : List String} {rounds : List (List String)}
      (hps : ps.Perm (t.pathsWhere (·.isIdle))) (hne : ps ≠ [])
      (hrest : Rounds (t.removeAll ps) rounds t') : Rounds t (ps :: rounds) t'

namespace Rounds

/-- **Rounds of removals come to one removal.** -/
theorem eq_removeAll (hr : t.Rounds rounds t') : t' = t.removeAll rounds.flatten := by
  induction hr with
  | nil => rfl
  | cons _ _ _ ih => rw [List.flatten_cons, removeAll_append, ← ih]

theorem length_le (hr : t.Rounds rounds t') : rounds.length ≤ rounds.flatten.length := by
  induction hr with
  | nil => exact Nat.le_refl _
  | cons _ hne _ ih =>
    have hpos := List.length_pos_iff.mpr hne
    rw [List.length_cons, List.flatten_cons, List.length_append]
    omega

theorem isSome_of_perm (hps : ps.Perm (t.pathsWhere (·.isIdle))) :
    ∀ p ∈ ps, (t.node? p).isSome := by
  intro p hp
  obtain ⟨n, hn, -⟩ := mem_pathsWhere.mp (hps.mem_iff.mp hp)
  rw [hn]
  rfl

/-- What goes was there, and goes once. -/
theorem nodup_flatten (hr : t.Rounds rounds t') (h : t.Sound) :
    rounds.flatten.Nodup ∧ ∀ p ∈ rounds.flatten, (t.node? p).isSome := by
  induction hr with
  | nil => simp
  | @cons t t' ps rounds hps hne hrest ih =>
    obtain ⟨hnodup, hthere⟩ := ih (h.removeAll hps)
    have hps' := hps.nodup_iff.mpr (nodup_pathsWhere _ _)
    have hleft := fun q hq =>
      (h.orderly.isSome_node?_removeAll hps' (isSome_of_perm hps)).mp (hthere q hq)
    rw [List.flatten_cons]
    refine ⟨hps'.append hnodup fun p hp hp' => (hleft p hp').1 hp, fun p hp => ?_⟩
    rcases List.mem_append.mp hp with hp | hp
    · exact isSome_of_perm hps p hp
    · exact (hleft p hp).2

/-- **What goes belongs to every set that drains the tree.** -/
theorem mem_of_drains (hr : t.Rounds rounds t') (h : t.Sound) (hS : t.Drains S) :
    ∀ p ∈ rounds.flatten, p ∈ S := by
  induction hr with
  | nil => simp
  | @cons t t' ps rounds hps hne hrest ih =>
    have hidle : ∀ p ∈ ps, p ∈ S := by
      intro p hp
      obtain ⟨n, hn, hidle⟩ := mem_pathsWhere.mp (hps.mem_iff.mp hp)
      exact hS.mem_of_isIdle hn hidle
    have hrest := ih (h.removeAll hps) (hS.removeAll h
      (hps.nodup_iff.mpr (nodup_pathsWhere _ _)) (isSome_of_perm hps) hidle)
    intro p hp
    rw [List.flatten_cons] at hp
    exact (List.mem_append.mp hp).elim (hidle p) (hrest p)

/-- **What has gone when the rounds are over drains the tree**, else some container were idle. -/
theorem drains (hr : t.Rounds rounds t') (h : t.Sound)
    (hover : t'.pathsWhere (·.isIdle) = []) : t.Drains {p | p ∈ rounds.flatten} := by
  intro p n hn hmode hhad hchildren
  obtain ⟨hnodup, hthere⟩ := hr.nodup_flatten h
  by_contra hnot
  have hstays : p ∉ rounds.flatten := hnot
  have hleft : t'.node? p = some (n.bereft
      ((rounds.flatten.filter fun q => Path.parent? q = some p).map Path.name)) := by
    rw [hr.eq_removeAll, h.orderly.node?_removeAll hnodup hthere, if_neg hstays, hn]
    rfl
  have hchildless : (n.bereft
      ((rounds.flatten.filter fun q => Path.parent? q = some p).map Path.name)).children = ∅ := by
    refine Std.ExtTreeSet.eq_empty_iff_forall_not_mem.mpr fun c hc => ?_
    obtain ⟨hc, hnot⟩ := Node.mem_children_bereft.mp hc
    exact hnot ((h.mem_map_name_iff hthere hn).mpr ⟨hc, hchildren c hc⟩)
  have hidle : p ∈ t'.pathsWhere (·.isIdle) :=
    mem_pathsWhere.mpr ⟨_, hleft, Node.isIdle_iff.mpr ⟨hmode, hhad, hchildless⟩⟩
  rw [hover] at hidle
  cases hidle

/-- **What rounds remove that are over is the least set that drains the tree.** -/
theorem isLeast (hr : t.Rounds rounds t') (h : t.Sound)
    (hover : t'.pathsWhere (·.isIdle) = []) :
    IsLeast {S | t.Drains S} {p | p ∈ rounds.flatten} :=
  ⟨hr.drains h hover, fun _ hS => hr.mem_of_drains h hS⟩

/-- **Rounds that are over come to the same**, in whatever order the containers have gone. -/
theorem perm_of_over (hr : t.Rounds rounds t') (hr' : t.Rounds rounds' t'') (h : t.Sound)
    (hover : t'.pathsWhere (·.isIdle) = []) (hover' : t''.pathsWhere (·.isIdle) = []) :
    rounds'.flatten.Perm rounds.flatten ∧ t'' = t' := by
  have hsame := (hr'.isLeast h hover').unique (hr.isLeast h hover)
  obtain ⟨hnodup, hthere⟩ := hr.nodup_flatten h
  obtain ⟨hnodup', hthere'⟩ := hr'.nodup_flatten h
  have hperm : rounds'.flatten.Perm rounds.flatten :=
    (List.perm_ext_iff_of_nodup hnodup' hnodup).mpr fun p => Set.ext_iff.mp hsame p
  exact ⟨hperm, by rw [hr.eq_removeAll, hr'.eq_removeAll,
    h.orderly.removeAll_perm hnodup' hthere' hperm]⟩

end Rounds

/-- **Reaping makes rounds of removals until they are over**, of which there are fewer than nodes.
-/
theorem Sound.exists_rounds {limit : Nat} (h : t.Sound) (hlimit : t.size < limit) :
    ∃ rounds, t.Rounds rounds (t.reapRounds limit).2 ∧
      (t.reapRounds limit).2.pathsWhere (·.isIdle) = [] ∧
      (t.reapRounds limit).1 = rounds.flatten.length := by
  induction limit generalizing t with
  | zero => exact absurd hlimit (Nat.not_lt_zero _)
  | succ limit ih =>
    rw [reapRounds]
    cases hps : t.pathsWhere (·.isIdle) with
    | nil => exact ⟨[], .nil, hps, rfl⟩
    | cons p ps =>
      have hperm : (p :: ps).Perm (t.pathsWhere (·.isIdle)) := by rw [hps]
      have hsize := size_removeAll (hperm.nodup_iff.mpr (nodup_pathsWhere _ _))
        (Rounds.isSome_of_perm hperm)
      rw [List.length_cons] at hsize
      obtain ⟨rounds, hrounds, hover, hcount⟩ := ih (h.removeAll hperm) (by omega)
      refine ⟨(p :: ps) :: rounds, .cons hperm (List.cons_ne_nil _ _) hrounds, hover, ?_⟩
      rw [List.flatten_cons, List.length_append, ← hcount]

/-- A tree without idle containers is reaped already. -/
theorem reap_of_over (hover : t.pathsWhere (·.isIdle) = []) : t.reap = (0, t) := by
  rw [reap, reapRounds, hover]

/-! ### Who has had children -/

/-- **Nodes know whether they have had children**: some have come since the node has. -/
def Remembers (es : List Entry) (t : Tree) : Prop :=
  ∀ p n, t.node? p = some n → (n.hadChildren ↔ 0 < Entry.comings p (Entry.life p es))

theorem Remembers.initial : Remembers [] initial := by
  intro p n hn
  rw [node?_initial] at hn
  split at hn
  · obtain rfl := Option.some.inj hn
    simp [Node.leaf, Entry.life, Entry.comings]
  · cases hn

/-- What has come since is all that counts, and an entry that has no child come adds none to it. -/
theorem comings_life_snoc {es : List Entry} {e : Entry} (hadded : e ≠ .added p)
    (hcoming : Entry.isComing p e = false) :
    Entry.comings p (Entry.life p (es ++ [e])) = Entry.comings p (Entry.life p es) := by
  rw [Entry.life_snoc, if_neg hadded, Entry.comings_snoc, hcoming]
  rfl

theorem Remembers.edit {stamp : Int} {es : List Entry} {e : Entry} (h : Remembers es t)
    (he : t.Edit stamp e t') : Remembers (es ++ [e]) t' := by
  intro p n hn
  cases he with
  | @added s data acl mode above q parent habove hne hparent hnew hfresh =>
    rcases node?_attach_cases hn with ⟨rfl, rfl⟩ | ⟨hp, rfl, m, hm, rfl⟩ | ⟨hp, hpa, hn⟩
    · rw [Entry.life_snoc, if_pos rfl]
      simp [Node.leaf, Entry.comings]
    · rw [Entry.life_snoc, if_neg (by simpa using Ne.symm hp), Entry.comings_snoc]
      simp [Node.gain, Entry.isComing, habove]
    · rw [comings_life_snoc (by simpa using Ne.symm hp)
        (by simpa [Entry.isComing, habove] using Ne.symm hpa)]
      exact h p n hn
  | @removed above q parent habove hne hparent hlisted hthere =>
    rw [comings_life_snoc (by simp) rfl]
    obtain ⟨-, ⟨rfl, m, hm, rfl⟩ | ⟨-, hn⟩⟩ := node?_remove_cases habove hne hn
    · exact h p m hm
    · exact h p n hn
  | @written q data v node hnode hversion =>
    rw [comings_life_snoc (by simp) rfl]
    rcases node?_put_cases hn with ⟨rfl, rfl⟩ | ⟨-, hn⟩
    · exact h p node hnode
    · exact h p n hn
  | @granted q acl node hnode =>
    rw [comings_life_snoc (by simp) rfl]
    rcases node?_put_cases hn with ⟨rfl, rfl⟩ | ⟨-, hn⟩
    · exact h p node hnode
    · exact h p n hn

end Tree

/-! ## Stores -/

namespace Store

variable {st : Store}

/-- **A node has had children if some have come since it has come itself.** -/
theorem remembers_journal {ms : List Move} (hms : Move.Legal .initial ms) :
    Tree.Remembers (initial.journal ms) (Move.run .initial ms).tree :=
  journal_keeps (P := Tree.Remembers) (fun _ _ _ ht => ht) (fun _ _ _ _ _ ht he => ht.edit he)
    .initial hms .initial

/-- **Reaping removes the least set of nodes that drains the tree**, whatever moves have led to the
store. It comes to an end, says how many nodes it has removed, and makes no transaction; a node that
stays has lost its children that are gone, and is otherwise as it was, like everything else in the
store. In which order the containers of a round go makes no difference, and there are no more rounds
than containers to remove. When it is done nothing is left to be reaped. Here a container has had
children if the store says so; that is the case if, since the container has come, the journal of the
run that has led to the store has had a child come below it. -/
theorem reap_removes_least (h : st.Attained) :
    ∃ R : Finset String, IsLeast {S | st.tree.Drains S} (R : Set String) ∧
      st.tree.Sheds R st.reap.2.tree ∧ st.reap.1 = R.card ∧
      st.reap.2 = { st with tree := st.reap.2.tree } ∧ st.reap.2.reap = (0, st.reap.2) ∧
      (∃ rounds, st.tree.Rounds rounds st.reap.2.tree ∧
        st.reap.2.tree.pathsWhere (·.isIdle) = []) ∧
      (∀ rounds t, st.tree.Rounds rounds t → rounds.length ≤ R.card ∧
        (t.pathsWhere (·.isIdle) = [] → t = st.reap.2.tree ∧
          rounds.flatten.Nodup ∧ ∀ p, p ∈ rounds.flatten ↔ p ∈ R)) ∧
      ∀ ms, Move.Legal .initial ms → Move.run .initial ms = st → ∀ p n,
        st.tree.node? p = some n →
        (n.hadChildren ↔ 0 < Entry.comings p (Entry.life p (initial.journal ms))) := by
  have hsound := h.sound
  obtain ⟨rounds, hrounds, hover, hcount⟩ := hsound.exists_rounds (Nat.lt_succ_self _)
  obtain ⟨hnodup, hthere⟩ := hrounds.nodup_flatten hsound
  have hleast := hrounds.isLeast hsound hover
  have hcard : rounds.flatten.toFinset.card = rounds.flatten.length :=
    List.toFinset_card_of_nodup hnodup
  refine ⟨rounds.flatten.toFinset, ?_, ?_, ?_, rfl, ?_, ⟨rounds, hrounds, hover⟩,
    fun rounds' t hrounds' => ⟨?_, fun hover' => ?_⟩, ?_⟩
  · rwa [List.coe_toFinset]
  · have hsheds := hsound.sheds_removeAll hnodup hthere
    rw [← hrounds.eq_removeAll] at hsheds
    exact hsheds
  · exact hcount.trans hcard.symm
  · have hagain : st.reap.2.tree.reap = (0, st.reap.2.tree) := Tree.reap_of_over hover
    rw [reap, hagain]
  · -- every round removes something, and what it removes belongs to the least set
    have hsub := hrounds'.mem_of_drains hsound hleast.1
    have hlength : rounds'.flatten.length ≤ rounds.flatten.length :=
      ((hrounds'.nodup_flatten hsound).1.subperm hsub).length_le
    rw [hcard]
    exact hrounds'.length_le.trans hlength
  · obtain ⟨hperm, htree⟩ := hrounds.perm_of_over hrounds' hsound hover hover'
    refine ⟨htree, hperm.nodup_iff.mpr hnodup, fun p => ?_⟩
    rw [hperm.mem_iff, List.mem_toFinset]
  · rintro ms hms rfl p n hn
    exact remembers_journal hms p n hn

/-- A container in a container that has lost its only child, next to one that has never had any. -/
def somePots : List Move :=
  [.connect [],
    .submit ⟨1, []⟩ (.createContainer "/pot" ByteArray.empty .worldOpen),
    .submit ⟨1, []⟩ (.createContainer "/pot/cup" ByteArray.empty .worldOpen),
    .submit ⟨1, []⟩ (.createContainer "/new" ByteArray.empty .worldOpen),
    .submit ⟨1, []⟩ (.create "/pot/cup/tea" ByteArray.empty .worldOpen .persistent),
    .submit ⟨1, []⟩ (.delete "/pot/cup/tea" anyVersion)]

theorem reap_removes_least_of_somePots :
    (Move.run .initial somePots).Attained ∧
    ∃ R : Finset String,
      IsLeast {S | (Move.run .initial somePots).tree.Drains S} (R : Set String) ∧
      R.card = 2 ∧ "/pot" ∈ R ∧ "/new" ∉ R ∧
      (Move.run .initial somePots).tree.Sheds R (Move.run .initial somePots).reap.2.tree := by
  have hattained : (Move.run .initial somePots).Attained :=
    (Reachable.initial.run (by decide +kernel)).attained
  obtain ⟨R, hleast, hsheds, hcount, -⟩ := reap_removes_least hattained
  have hcard : R.card = 2 := hcount.symm.trans (by decide +kernel)
  refine ⟨hattained, R, hleast, hcard, ?_, fun hnew => ?_, hsheds⟩
  · by_contra hstays
    have hthere : ((Move.run .initial somePots).tree.node? "/pot").isSome := by decide +kernel
    obtain ⟨n, hn⟩ := Option.isSome_iff_exists.mp hthere
    obtain ⟨cs, -, -, hleft⟩ := hsheds.stays "/pot" n hstays hn
    have hgone : (Move.run .initial somePots).reap.2.tree.node? "/pot" = none := by decide +kernel
    rw [hgone] at hleft
    cases hleft
  · have hgone := (hsheds.gone "/new" hnew).2
    exact absurd hgone (by decide +kernel)

end Store

end Coordination
