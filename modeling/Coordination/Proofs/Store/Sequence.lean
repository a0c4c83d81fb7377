import Coordination.Proofs.Store.Footprints
import Coordination.Proofs.Store.History

/-!
# Sequential names

The name of a sequential node ends in a counter of its parent. Every node that comes to the parent
and every one that goes, whatever kind of node it is and whoever removes it, advances the counter,
and nothing turns it back: a batch that is aborted has not changed the tree at all. So as long as
the parent stays and the counter does not overflow, no number is given away twice, and because all
numbers are written in ten digits, texts that end in them do not coincide and are ordered as the
nodes were created.

## Main definitions

* `Tree.counter?`: the counter of a node
* `Stage.Enrols`: the sequential creates of a history

## Main results

* `Tree.Step.counter_cases`, `Tree.Steps.le_counter`: what one change, and what any number of
  changes, does to a counter
* `Store.exists_counters_of_enrols`: the counters that two creates find
* `Store.sequential_paths`: sequential paths are told apart, and ordered if they were asked for by
  the same path
-/

namespace Coordination

/-! ## Counters -/

theorem toInt_succ_of_lt {v : Int32} (h : v < Int32.maxValue) : (v + 1).toInt = v.toInt + 1 := by
  have hlt : v.toInt < 2147483647 := Int32.lt_iff_toInt_lt.mp h
  have hge : -2147483648 ≤ v.toInt := Int32.le_toInt v
  have hone : (1 : Int32).toInt = 1 := rfl
  rw [Int32.toInt_add, hone]
  apply Int.bmod_eq_of_le <;> omega

namespace Tree

variable {t t' : Tree} {e : Stage} {es : List Stage} {p q : String} {u v : Int32}

/-- How often a child of the node at a path has come or gone. -/
def counter? (t : Tree) (p : String) : Option Int32 := (t.node? p).map (·.stat.childVersion)

theorem isSome_counter? : (t.counter? p).isSome ↔ (t.node? p).isSome := by
  simp [counter?]

/-- A change of the tree that leaves the node at a path alone, or gives it a child more or less. -/
theorem counter?_of_map {f : Node → Node} (h : t'.node? p = (t.node? p).map f)
    (hf : ∀ n, (f n).stat.childVersion = n.stat.childVersion ∨
      (f n).stat.childVersion = n.stat.childVersion + 1) (hv : t'.counter? p = some v) :
    ∃ u, t.counter? p = some u ∧ (v = u ∨ v = u + 1) := by
  rw [counter?, h, Option.map_map, Option.map_eq_some_iff] at hv
  obtain ⟨n, hn, rfl⟩ := hv
  exact ⟨n.stat.childVersion, by rw [counter?, hn]; rfl, hf n⟩

theorem counter?_attach {above q : String} {n : Node} (hfresh : t.node? q = none)
    (hn : n.stat.childVersion = 0) (hv : (t.attach above q n).counter? p = some v) :
    (t.counter? p = none ∧ v = 0) ∨ ∃ u, t.counter? p = some u ∧ (v = u ∨ v = u + 1) := by
  have hnode := node?_attach t above q p n
  -- the new node starts with zero, the one above it advances, and all others keep what they have
  by_cases hp : p = q
  · rw [if_pos hp] at hnode
    rw [counter?, hnode, Option.map_some, hn, Option.some.injEq] at hv
    exact .inl ⟨by rw [counter?, hp, hfresh]; rfl, hv.symm⟩
  · rw [if_neg hp] at hnode
    by_cases habove : p = above
    · rw [if_pos habove] at hnode
      exact .inr (counter?_of_map hnode (fun _ => .inr rfl) hv)
    · rw [if_neg habove] at hnode
      exact .inr (counter?_of_map (f := id) (by simpa using hnode) (fun _ => .inl rfl) hv)

theorem counter?_remove (hv : (t.remove q).counter? p = some v) :
    ∃ u, t.counter? p = some u ∧ (v = u ∨ v = u + 1) := by
  -- what is there afterwards is not the node that has gone
  have hp : p ≠ q := by
    rintro rfl
    unfold remove at hv
    split at hv <;> simp [counter?, node?_update, node?_erase] at hv
  unfold remove at hv
  split at hv
  · refine counter?_of_map (f := id) ?_ (fun _ => .inl rfl) hv
    rw [node?_erase, if_neg hp]
    simp
  · rename_i above _
    by_cases habove : p = above
    · refine counter?_of_map (f := (·.lose (Path.name q))) ?_ (fun _ => .inr rfl) hv
      rw [node?_update, if_pos habove, node?_erase, if_neg hp]
    · refine counter?_of_map (f := id) ?_ (fun _ => .inl rfl) hv
      rw [node?_update, if_neg habove, node?_erase, if_neg hp]
      simp

theorem counter?_put {q : String} {m n : Node} (hm : t.node? q = some m)
    (hv : (t.put q n).counter? p = some v) (hn : n.stat.childVersion = m.stat.childVersion) :
    t.counter? p = some v := by
  rw [counter?, node?_put] at hv
  split at hv
  · rename_i hp
    rw [counter?, hp, hm, Option.map_some, ← hn]
    exact hv
  · exact hv

/-- **What one change does to a counter**: the node has come with a counter of zero, or it has kept
its counter, or the counter has advanced by one. -/
theorem Step.counter_cases (h : t.Step e) (hv : e.tree.counter? p = some v) :
    (t.counter? p = none ∧ v = 0) ∨ ∃ u, t.counter? p = some u ∧ (v = u ∨ v = u + 1) := by
  cases h with
  | applied h =>
    cases h with
    | created hmode hdata hacl hvalid habove hparent hpermits hne hlasts hfresh =>
      exact counter?_attach hfresh rfl hv
    | deleted => exact .inr (counter?_remove hv)
    | dataSet hvalid hnode hpermits hversion =>
      exact .inr ⟨v, counter?_put hnode hv rfl, .inl rfl⟩
    | checked => exact .inr ⟨v, hv, .inl rfl⟩
  | removed q => exact .inr (counter?_remove hv)
  | granted h =>
    obtain ⟨node, hnode, -, -, rfl, rfl⟩ := setAcl_eq_ok_iff.mp h
    exact .inr ⟨v, counter?_put hnode hv rfl, .inl rfl⟩
  | counted z => exact .inr ⟨v, hv, .inl rfl⟩

/-- Whether the counter of the node at a path can advance once more. -/
def HasRoom (p : String) (t : Tree) : Prop := ∀ v, t.counter? p = some v → v < Int32.maxValue

/-- The counter of the node at a path has not run over. -/
def Counts (p : String) (t : Tree) : Prop := ∀ v, t.counter? p = some v → 0 ≤ v.toInt

theorem Step.counts (h : t.Step e) (hcounts : t.Counts p) (hroom : t.HasRoom p) :
    e.tree.Counts p := by
  intro v hv
  rcases h.counter_cases hv with ⟨-, rfl⟩ | ⟨u, hu, rfl | rfl⟩
  · decide
  · exact hcounts v hu
  · have hnonneg := hcounts u hu
    rw [toInt_succ_of_lt (hroom u hu)]
    omega

/-- A counter that has had room all the time has not run over. -/
theorem Steps.counts (h : t.Steps es) (hcounts : t.Counts p) (hroom : t.HasRoom p)
    (hrooms : ∀ e ∈ es, e.tree.HasRoom p) : (t.final es).Counts p := by
  induction es generalizing t with
  | nil => exact hcounts
  | cons e es ih =>
    obtain ⟨hstep, hsteps⟩ := h
    exact ih hsteps (hstep.counts hcounts hroom) (hrooms e List.mem_cons_self)
      fun e' he' => hrooms e' (List.mem_cons_of_mem _ he')

theorem hasRoom_final (hroom : t.HasRoom p) (hrooms : ∀ e ∈ es, e.tree.HasRoom p) :
    (t.final es).HasRoom p := by
  induction es generalizing t with
  | nil => exact hroom
  | cons e es ih =>
    exact ih (hrooms e List.mem_cons_self) fun e' he' => hrooms e' (List.mem_cons_of_mem _ he')

/-- **The counter of a node that stays does not go back**, as long as it has room. -/
theorem Steps.le_counter (h : t.Steps es) (hu : t.counter? p = some u) (hroom : t.HasRoom p)
    (hstays : ∀ e ∈ es, (e.tree.node? p).isSome) (hrooms : ∀ e ∈ es, e.tree.HasRoom p) :
    ∃ v, (t.final es).counter? p = some v ∧ u.toInt ≤ v.toInt := by
  -- the node is there at every stage, so its counter is never started again
  induction es generalizing t u with
  | nil => exact ⟨u, hu, Int.le_refl _⟩
  | cons e es ih =>
    obtain ⟨hstep, hsteps⟩ := h
    obtain ⟨w, hw⟩ := Option.isSome_iff_exists.mp
      (isSome_counter?.mpr (hstays e List.mem_cons_self))
    obtain ⟨v, hv, hwv⟩ := ih hsteps hw (hrooms e List.mem_cons_self)
      (fun e' he' => hstays e' (List.mem_cons_of_mem _ he'))
      fun e' he' => hrooms e' (List.mem_cons_of_mem _ he')
    refine ⟨v, hv, ?_⟩
    rcases hstep.counter_cases hw with ⟨hnone, -⟩ | ⟨u', hu', hw'⟩
    · rw [hu] at hnone
      cases hnone
    · obtain rfl : u = u' := by simpa [hu] using hu'
      rcases hw' with rfl | rfl
      · exact hwv
      · rw [toInt_succ_of_lt (hroom u hu)] at hwv
        omega

end Tree

/-! ## Sequential creates -/

/-- **The sequential creates of a history**: a stage comes from one if it was asked for by path `p`,
below the node at `above`, and led to a node at path `q`. -/
structure Stage.Enrols (above p q : String) (e : Stage) : Prop where
  /-- A create of path `p` has been applied and answered with `q`. -/
  applied : ∃ r stat, e.applied = some (r, .created q stat) ∧ r.path = p ∧ r.isSequential
  /-- The node above. -/
  above : Path.parent? p = some above

section Numbered

variable {p p' : String} {i j : Int}

theorem numbered_lt (hi : 0 ≤ i) (hij : i < j) (hj : j.natAbs < Nat.pow 10 10) :
    numbered p i < numbered p j := by
  rw [String.lt_iff, numbered, numbered, String.toList_append, String.toList_append,
    String.toList_ofList, String.toList_ofList]
  exact List.append_left_lt (Text.Decimal.zeroFilledChars_lt (by decide) hi hij hj)

/-- Ten digits that differ tell texts apart, whatever stands before them. -/
theorem numbered_ne (hi : 0 ≤ i) (hij : i < j) (hj : j.natAbs < Nat.pow 10 10) :
    numbered p i ≠ numbered p' j := by
  intro h
  -- texts that are the same end in the same ten characters
  have hlt : Text.Decimal.zeroFilledChars 10 i < Text.Decimal.zeroFilledChars 10 j :=
    Text.Decimal.zeroFilledChars_lt (by decide) hi hij hj
  have hchars : p.toList ++ Text.Decimal.zeroFilledChars 10 i =
      p'.toList ++ Text.Decimal.zeroFilledChars 10 j := by
    simpa [numbered] using congrArg String.toList h
  have hlength : (Text.Decimal.zeroFilledChars 10 i).length =
      (Text.Decimal.zeroFilledChars 10 j).length := by
    rw [Text.Decimal.length_zeroFilledChars (by decide) hi (by omega),
      Text.Decimal.length_zeroFilledChars (by decide) (by omega) hj]
  rw [(List.append_inj' hchars hlength).2] at hlt
  exact List.lt_irrefl _ hlt

end Numbered

/-- **A sequential create takes the counter that it finds and leaves the next one.** -/
theorem Tree.Step.of_enrols {t : Tree} {e : Stage} {above p q : String} (h : t.Step e)
    (he : e.Enrols above p q) :
    ∃ u, t.counter? above = some u ∧ e.tree.counter? above = some (u + 1) ∧
      q = numbered p u.toInt ∧ Path.isValid p ∧ Path.parent? p = some above := by
  obtain ⟨⟨_, stat, happlied, rfl, hmode⟩, habove⟩ := he
  cases h with
  | @applied s stamp r a t' h =>
    obtain ⟨rfl, rfl⟩ := Prod.mk.inj (Option.some.inj happlied)
    cases h with
    | @created _ data acl mode above' parent hmode' hdata hacl hvalid habove' hparent hpermits hne
        hlasts hfresh =>
      have hsequential : mode.isSequential := by simpa [Request.isSequential, hmode'] using hmode
      obtain rfl := Option.some.inj (habove.symm.trans habove')
      -- the new node is another one than its parent
      have hself : Path.isValid (actualPath parent r.path mode) ∧
          Path.parent? (actualPath parent r.path mode) = some above :=
        valid_actualPath hvalid habove
      have hne' : above ≠ actualPath parent r.path mode := fun heq =>
        Path.parent?_ne_self hself.1 (hself.2.trans (congrArg some heq))
      refine ⟨parent.stat.childVersion, by rw [counter?, hparent]; rfl, ?_, ?_, hvalid, habove⟩
      · rw [counter?, node?_attach, if_neg hne', if_pos rfl, hparent]
        rfl
      · exact actualPath_of_sequential hsequential
  | removed | granted | counted => cases happlied

/-! ## Runs -/

/-- Of two texts in a list that is in order, the smaller one comes first. -/
theorem pair_sublist_of_pairwise {a b : String} {names : List String}
    (h : names.Pairwise fun a b => Text.bytes a < Text.bytes b)
    (hab : Text.bytes a < Text.bytes b) (ha : a ∈ names) (hb : b ∈ names) :
    [a, b].Sublist names := by
  induction names with
  | nil => cases ha
  | cons c names ih =>
    obtain ⟨hc, hnames⟩ := List.pairwise_cons.mp h
    rcases List.mem_cons.mp ha with rfl | ha'
    · rcases List.mem_cons.mp hb with rfl | hb'
      · exact absurd hab (List.lt_irrefl _)
      · exact (List.singleton_sublist.mpr hb').cons_cons a
    · rcases List.mem_cons.mp hb with rfl | hb'
      · exact absurd (hc a ha') (List.lt_asymm hab)
      · exact (ih hnames ha' hb').cons c

namespace Store

variable {st : Store}

/-- Children that are there are listed, and listed in order. -/
theorem Reachable.sublist_getChildren {s : Session} {above q q' : String} {names : List String}
    (h : st.Reachable) (hnames : st.getChildren s above = .ok names)
    (hq : (st.tree.node? q).isSome) (hq' : (st.tree.node? q').isSome)
    (habove : Path.parent? q = some above) (habove' : Path.parent? q' = some above)
    (hlt : Text.bytes (Path.name q) < Text.bytes (Path.name q')) :
    [Path.name q, Path.name q'].Sublist names := by
  obtain ⟨n, hn, rfl⟩ : ∃ n, st.tree.node? above = some n ∧ n.children.toList = names := by
    rw [getChildren] at hnames
    cases hread : st.readable s above with
    | error e =>
      rw [hread] at hnames
      cases hnames
    | ok n =>
      rw [hread] at hnames
      refine ⟨n, ?_, Except.ok.inj hnames⟩
      unfold readable at hread
      repeat' split at hread
      all_goals cases hread
      assumption
  have hfits := h.wellFormed.fits above n hn
  refine pair_sublist_of_pairwise (pairwise_bytes_toList _) hlt ?_ ?_
  · exact Std.ExtTreeSet.mem_toList.mpr ((hfits.children _).mpr ⟨q, hq, habove, rfl⟩)
  · exact Std.ExtTreeSet.mem_toList.mpr ((hfits.children _).mpr ⟨q', hq', habove', rfl⟩)

theorem counts_initial (p : String) : Tree.initial.Counts p ∧ Tree.initial.HasRoom p := by
  have hzero : ∀ v, Tree.initial.counter? p = some v → v = 0 := by
    intro v hv
    rw [Tree.counter?, Tree.node?_initial] at hv
    split at hv
    · exact (Option.some.inj hv).symm
    · cases hv
  refine ⟨fun v hv => ?_, fun v hv => ?_⟩
  · rw [hzero v hv]
    decide
  · rw [hzero v hv]
    decide

/-- **Of two sequential creates below a node that stays, the later one finds the greater
counter.** -/
theorem exists_counters_of_enrols {t : Tree} {before between after : List Stage}
    {first second : Stage} {above p p' q q' : String}
    (hsteps : t.Steps (before ++ first :: (between ++ second :: after)))
    (hcounts : t.Counts above) (hroom : t.HasRoom above) (hfirst : first.Enrols above p q)
    (hsecond : second.Enrols above p' q')
    (hstays : ∀ e ∈ between, (e.tree.node? above).isSome)
    (hrooms : ∀ e ∈ before ++ first :: between, e.tree.HasRoom above) :
    ∃ u v : Int32, 0 ≤ u.toInt ∧ u.toInt < v.toInt ∧ q = numbered p u.toInt ∧
      q' = numbered p' v.toInt ∧ Path.isValid p ∧ Path.parent? p = some above := by
  obtain ⟨hbefore, hstep, hrest⟩ := Tree.steps_append.mp hsteps
  obtain ⟨hbetween, hstep', -⟩ := Tree.steps_append.mp hrest
  -- the first create finds a counter that has not run over, and has room
  have hbefores : ∀ e ∈ before, e.tree.HasRoom above := fun e he =>
    hrooms e (List.mem_append_left _ he)
  obtain ⟨u, hu, hnext, hq, hvalid, habove⟩ := hstep.of_enrols hfirst
  have hnonneg : 0 ≤ u.toInt := hbefore.counts hcounts hroom hbefores u hu
  have hlt : u < Int32.maxValue := Tree.hasRoom_final hroom hbefores u hu
  -- the second one finds what the first one left, or more
  obtain ⟨v, hv, -, hq', -⟩ := hstep'.of_enrols hsecond
  obtain ⟨w, hw, hle⟩ := hbetween.le_counter hnext
    (hrooms first (List.mem_append_right _ List.mem_cons_self)) hstays fun e he =>
      hrooms e (List.mem_append_right _ (List.mem_cons_of_mem _ he))
  obtain rfl := Option.some.inj (hw.symm.trans hv)
  rw [toInt_succ_of_lt hlt] at hle
  exact ⟨u, w, hnonneg, by omega, hq, hq', hvalid, habove⟩

/-- **Sequential paths are told apart, and ordered if they were asked for by the same path.** Of any
run, whatever happens in it, take two sequential creates below a node that has stayed there from the
one to the other, its counter not having overflown. Then their paths differ. If they were asked for
by the same path, the later one has the greater path in the order of bytes; and whoever is told the
children of the node, then or later, is told the names of those of the two that are still there in
the order of their creation. -/
theorem sequential_paths {ms : List Move} {before between after : List Stage} {first second : Stage}
    {above p p' q q' : String} (hms : Move.Legal .initial ms)
    (hrun : history .initial ms = before ++ first :: (between ++ second :: after))
    (hfirst : first.Enrols above p q) (hsecond : second.Enrols above p' q')
    (hstays : ∀ e ∈ between, (e.tree.node? above).isSome)
    (hroom : ∀ e ∈ before ++ first :: between, ∀ n, e.tree.node? above = some n →
      n.stat.childVersion < Int32.maxValue) :
    q ≠ q' ∧
    (p = p' → Text.bytes q < Text.bytes q' ∧
      ∀ s names, (Move.run .initial ms).getChildren s above = .ok names →
        ((Move.run .initial ms).tree.node? q).isSome →
        ((Move.run .initial ms).tree.node? q').isSome →
        [Path.name q, Path.name q'].Sublist names) := by
  have hrooms : ∀ e ∈ before ++ first :: between, e.tree.HasRoom above := by
    intro e he v hv
    obtain ⟨n, hn, rfl⟩ := Option.map_eq_some_iff.mp hv
    exact hroom e he n hn
  have hsteps := steps_history .initial ms
  rw [hrun] at hsteps
  obtain ⟨hcounts, hroom₀⟩ := counts_initial above
  obtain ⟨u, w, hnonneg, huw, rfl, rfl, hvalid, habove⟩ :=
    exists_counters_of_enrols hsteps hcounts hroom₀ hfirst hsecond hstays hrooms
  -- no counter has more than ten digits, so that all are written in ten
  have hdigits : w.toInt.natAbs < Nat.pow 10 10 := by
    have hmax := Int32.toInt_lt w
    have hpow : Nat.pow 10 10 = 10000000000 := rfl
    omega
  refine ⟨numbered_ne hnonneg huw hdigits, ?_⟩
  rintro rfl
  refine ⟨Text.bytes_lt_bytes (numbered_lt hnonneg huw hdigits), ?_⟩
  intro s names hnames hq hq'
  refine (Reachable.initial.run hms).sublist_getChildren hnames hq hq'
    (parent?_numbered hvalid habove _) (parent?_numbered hvalid habove _) ?_
  rw [name_numbered hvalid habove, name_numbered hvalid habove]
  exact Text.bytes_lt_bytes (numbered_lt hnonneg huw hdigits)

/-- Two seats are taken one after the other, a guest having come and gone between them. -/
def someSeats : List Move :=
  [.connect [],
    .submit ⟨1, []⟩ (.create "/q" ByteArray.empty .worldOpen .persistent),
    .submit ⟨1, []⟩ (.create "/q/seat" ByteArray.empty .worldOpen .persistentSequential),
    .submit ⟨1, []⟩ (.create "/q/guest" ByteArray.empty .worldOpen .ephemeral),
    .multi ⟨1, []⟩
      [.delete "/q/guest" anyVersion,
        .create "/q/seat" ByteArray.empty .worldOpen .ephemeralSequential]]

theorem sequential_paths_of_someSeats :
    "/q/seat0000000000" ≠ "/q/seat0000000003" ∧
    Text.bytes "/q/seat0000000000" < Text.bytes "/q/seat0000000003" ∧
    ∃ names, (Move.run .initial someSeats).getChildren ⟨1, []⟩ "/q" = .ok names ∧
      [Path.name "/q/seat0000000000", Path.name "/q/seat0000000003"].Sublist names := by
  let stages := history .initial someSeats
  let first := stages.get ⟨3, by decide +kernel⟩
  let second := stages.get ⟨8, by decide +kernel⟩
  have hlegal : Move.Legal .initial someSeats := by decide +kernel
  have hrun : stages = stages.take 3 ++ first ::
      ((stages.drop 4).take 4 ++ second :: stages.drop 9) := by decide +kernel
  have hfirst : first.Enrols "/q" "/q/seat" "/q/seat0000000000" :=
    ⟨⟨.create "/q/seat" ByteArray.empty .worldOpen .persistentSequential,
      some ⟨2, 2, 0, 0, 0, 0, 0, 0⟩, by decide +kernel, rfl, rfl⟩, by decide⟩
  have hsecond : second.Enrols "/q" "/q/seat" "/q/seat0000000003" :=
    ⟨⟨.create "/q/seat" ByteArray.empty .worldOpen .ephemeralSequential,
      some ⟨4, 4, 0, 0, 0, 1, 0, 0⟩, by decide +kernel, rfl, rfl⟩, by decide⟩
  have hstays : ∀ e ∈ (stages.drop 4).take 4, (e.tree.node? "/q").isSome := by decide +kernel
  have hroom : ∀ e ∈ stages.take 3 ++ first :: (stages.drop 4).take 4,
      (e.tree.node? "/q").all (·.stat.childVersion < Int32.maxValue) := by decide +kernel
  obtain ⟨hne, hsame⟩ := sequential_paths hlegal hrun hfirst hsecond hstays fun e he n hn => by
    simpa [hn] using hroom e he
  obtain ⟨hlt, hlisted⟩ := hsame rfl
  have hchildren : (Move.run .initial someSeats).getChildren ⟨1, []⟩ "/q" =
      .ok ["seat0000000000", "seat0000000003"] := by decide +kernel
  exact ⟨hne, hlt, _, hchildren,
    hlisted _ _ hchildren (by decide +kernel) (by decide +kernel)⟩

end Store

end Coordination
