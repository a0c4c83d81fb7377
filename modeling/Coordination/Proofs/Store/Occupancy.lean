import Coordination.Proofs.Store.Journal

/-!
# Coming and going take turns

A path is taken by one node at a time. The node can come by a request of its own or in a batch,
under the path asked for or with a counter added to it, and it can go by a request, with its session
or as an idle container; it comes only if it is not there and goes only if it is. So in the journal
of a run the comings and goings at a path take turns, and a create is a test and set: of all those
who want the same path one wins, and nobody else does before the node has gone.

The winner may not hear of it, and whoever is told of an error may be the winner, if only the answer
was lost. What is counted here is what the store has done, whoever knows.

## Main definitions

* `Entry.turns`: the comings and goings at a path
* `Entry.alternating`: a coming, a going, a coming, and so on
* `Tree.Vies`: whether requests ask for a node to come under a path

## Main results

* `Tree.Edit.isSome_node?_iff`: what one entry does to the question whether a node is there
* `Tree.Taken.edit`: every entry takes its turn
* `Store.creates_test_and_set`: so do those of a run, and of all who vie for a path one wins
-/

namespace Coordination

/-! ## Journals -/

namespace Entry

variable {p : String} {e : Entry} {es : List Entry} {n : Nat}

/-- Whether the node at a path comes or goes. -/
def isTurn (p : String) : Entry → Bool
  | added q | removed q => q == p
  | written .. | granted _ => false

/-- **The comings and goings at a path**, in order. -/
def turns (p : String) (es : List Entry) : List Entry := es.filter (isTurn p)

/-- Comings and goings that take turns, a coming first. -/
def alternating (p : String) (n : Nat) : List Entry :=
  (List.range n).map fun i => if i % 2 = 0 then added p else removed p

theorem isTurn_iff : isTurn p e ↔ e = added p ∨ e = removed p := by
  cases e <;> simp [isTurn]

theorem turns_append (p : String) (es fs : List Entry) :
    turns p (es ++ fs) = turns p es ++ turns p fs := List.filter_append ..

theorem turns_snoc (p : String) (es : List Entry) (e : Entry) :
    turns p (es ++ [e]) = if isTurn p e then turns p es ++ [e] else turns p es := by
  rw [turns_append]
  split <;> simp_all [turns]

theorem alternating_succ (p : String) (n : Nat) :
    alternating p (n + 1) = alternating p n ++ [if n % 2 = 0 then added p else removed p] := by
  rw [alternating, List.range_succ, List.map_append]
  rfl

theorem count_added_alternating (p : String) (n : Nat) :
    (alternating p n).count (added p) = (n + 1) / 2 := by
  induction n with
  | zero => rfl
  | succ n ih =>
    rw [alternating_succ, List.count_append, ih]
    split <;> simp <;> omega

theorem count_removed_alternating (p : String) (n : Nat) :
    (alternating p n).count (removed p) = n / 2 := by
  induction n with
  | zero => rfl
  | succ n ih =>
    rw [alternating_succ, List.count_append, ih]
    split <;> simp <;> omega

/-- A journal has as many comings as turns would have it. -/
theorem count_added_of_turns (h : turns p es = alternating p n) :
    es.count (added p) = (n + 1) / 2 := by
  rw [← count_added_alternating p n, ← h, turns, List.count_filter (isTurn_iff.mpr (.inl rfl))]

theorem count_removed_of_turns (h : turns p es = alternating p n) :
    es.count (removed p) = n / 2 := by
  rw [← count_removed_alternating p n, ← h, turns, List.count_filter (isTurn_iff.mpr (.inr rfl))]

end Entry

/-! ## Trees -/

namespace Tree

variable {t t' : Tree} {s : Session} {stamp : Int} {e : Entry} {es : List Entry} {p : String}
  {r : Request} {rs : List Request} {a : Answer} {as : List Answer} {i : Nat}

/-! ### Entries -/

/-- A node comes only if it is not there. -/
theorem Edit.node?_of_added (h : t.Edit stamp (.added p) t') : t.node? p = none := by
  cases h with
  | added habove hne hparent hnew hfresh => exact hfresh

/-- It goes only if it is. -/
theorem Edit.isSome_of_removed (h : t.Edit stamp (.removed p) t') : (t.node? p).isSome := by
  cases h with
  | removed habove hne hparent hlisted hthere => exact hthere

/-- **A node is there after an entry** if it has come, or if it was there and has not gone. -/
theorem Edit.isSome_node?_iff (h : t.Edit stamp e t') :
    (t'.node? p).isSome ↔ e = .added p ∨ (e ≠ .removed p ∧ (t.node? p).isSome) := by
  cases h with
  | added habove hne hparent hnew hfresh =>
    rw [isSome_node?_attach]
    simp [@eq_comm _ p]
  | removed habove hne hparent hlisted hthere =>
    rw [isSome_node?_remove habove hne]
    simp [@eq_comm _ p]
  | written hnode hversion =>
    rw [isSome_node?_put (by rw [hnode]; rfl)]
    simp
  | granted hnode =>
    rw [isSome_node?_put (by rw [hnode]; rfl)]
    simp

/-- **A tree and a journal agree on a path**: comings and goings have taken turns, a coming first,
and the node is there if the last turn was a coming. -/
def Taken (es : List Entry) (p : String) (t : Tree) : Prop :=
  ∃ n, Entry.turns p es = Entry.alternating p n ∧ ((t.node? p).isSome ↔ n % 2 = 1)

theorem Taken.initial (hp : p ≠ Path.root) : Taken [] p .initial := by
  refine ⟨0, rfl, ?_⟩
  rw [node?_initial, if_neg hp]
  simp

theorem Taken.transaction (h : Taken es p t) (z : Int) :
    Taken es p { t with transaction := z } := h

/-- **An entry takes its turn.** -/
theorem Taken.edit (h : Taken es p t) (he : t.Edit stamp e t') : Taken (es ++ [e]) p t' := by
  obtain ⟨n, hturns, hthere⟩ := h
  rw [Taken, Entry.turns_snoc, hturns, he.isSome_node?_iff]
  by_cases hturn : Entry.isTurn p e
  · refine ⟨n + 1, ?_⟩
    rw [if_pos hturn, Entry.alternating_succ]
    -- whose turn it is can be seen from whether the node is there
    rcases Entry.isTurn_iff.mp hturn with rfl | rfl
    · have habsent := he.node?_of_added
      rw [habsent] at hthere
      have heven : n % 2 = 0 := by
        simp only [Option.isSome_none, Bool.false_eq_true, false_iff] at hthere
        omega
      rw [if_pos heven]
      refine ⟨rfl, ?_⟩
      simp only [true_or, true_iff]
      omega
    · have hodd : n % 2 = 1 := hthere.mp he.isSome_of_removed
      rw [if_neg (by omega)]
      refine ⟨rfl, ?_⟩
      simp only [ne_eq, not_true_eq_false, false_and, or_false, reduceCtorEq, false_iff]
      omega
  · rw [if_neg hturn]
    rw [Entry.isTurn_iff, not_or] at hturn
    refine ⟨n, rfl, ?_⟩
    rw [← hthere]
    simp [hturn]

/-! ### Requests -/

/-- The path that a request would have a node come under, if it is a create below a node that is
there. -/
def target? (t : Tree) (r : Request) : Option String :=
  match r.mode?, Path.parent? r.path with
  | some mode, some above => (t.node? above).map fun parent => actualPath parent r.path mode
  | _, _ => none

/-- **Whether requests vie for a path**: one of them would have a node come under it, in the tree
that the ones before it lead to. -/
def Vies (s : Session) (stamp : Int) (p : String) : Tree → List Request → Prop
  | _, [] => False
  | t, r :: rs =>
    t.target? r = some p ∨ ∃ a t', t.apply s stamp r = .ok (a, t') ∧ Vies s stamp p t' rs

/-- A request that has a node come has it come where it would, and finds nothing there. -/
theorem Applied.of_target (h : t.Applied s stamp r a t') (htarget : t.target? r = some p) :
    Entry.ofAnswered? (r, a) = some (.added p) ∧ t.node? p = none := by
  cases h with
  | created hmode hdata hacl hvalid habove hparent hpermits hne hlasts hfresh =>
    obtain rfl : actualPath _ r.path _ = p := by
      simpa [target?, hmode, habove, hparent] using htarget
    refine ⟨?_, hfresh⟩
    cases r with
    | create | createContainer => rfl
    | delete | deleteContainer | setData | check => cases hmode
  | deleted htype =>
    cases r with
    | delete | deleteContainer => cases htarget
    | create | createContainer | setData | check => cases htype
  | dataSet => cases htarget
  | checked => cases htarget

/-- **Requests that vie for a path and are accepted have a node come under it.** -/
theorem Vies.added_mem (h : Vies s stamp p t rs) (happly : t.applyAll s stamp i rs = .ok (as, t')) :
    .added p ∈ Entry.ofBatch rs as := by
  induction rs generalizing t i as with
  | nil => cases h
  | cons r rs ih =>
    unfold applyAll at happly
    repeat' split at happly
    all_goals simp only [reduceCtorEq, Except.ok.injEq, Prod.mk.injEq] at happly
    rename_i a t₁ hfirst _ as₁ t₂ hrest
    obtain ⟨rfl, rfl⟩ := happly
    rw [Entry.ofBatch_cons, List.mem_append]
    rcases h with htarget | ⟨a', t₁', hfirst', hvies⟩
    · rw [((apply_eq_ok_iff.mp hfirst).of_target htarget).1]
      exact .inl (List.mem_singleton.mpr rfl)
    · obtain ⟨rfl, rfl⟩ : a = a' ∧ t₁ = t₁' := by simpa [hfirst] using hfirst'
      exact .inr (ih hvies hrest)

end Tree

/-! ## Stores -/

namespace Store

variable {st : Store} {s : Session} {m : Move} {ms : List Move} {p : String}

/-- **Comings and goings take turns in every run.** -/
theorem taken_journal (hms : Move.Legal .initial ms) (hp : p ≠ Path.root) :
    Tree.Taken (initial.journal ms) p (Move.run .initial ms).tree :=
  journal_keeps (P := fun es t => Tree.Taken es p t) (fun _ _ z ht => ht.transaction z)
    (fun _ _ _ _ _ ht he => ht.edit he) .initial hms (.initial hp)

/-! ### Refusals -/

/-- Whether a session is told of an error, and the tree stays as it is. -/
def Move.Fails (st : Store) : Move → Prop
  | submit s r => (∃ e, (st.submit s r).1 = .error e) ∧ (st.submit s r).2.tree = st.tree
  | multi s rs => (∃ e, (st.multi s rs).1 = .error e) ∧ (st.multi s rs).2.tree = st.tree
  | _ => False

/-- Whether a move vies for a path. -/
def Move.ViesFor (st : Store) (p : String) : Move → Prop
  | submit s r => Tree.Vies s (st.tree.transaction + 1) p st.tree [r]
  | multi s rs => Tree.Vies s (st.tree.transaction + 1) p st.tree rs
  | _ => False

/-- What does not reach the tree or is refused by it fails, and changes nothing. -/
theorem receive_of_refused {α : Type} {work : Store → Except StoreError α × Store}
    (h : st.letsIn s → ∀ st' : Store, st'.tree = st.tree → ∃ e, work st' = (.error e, st')) :
    (∃ e, (st.receive s work).1 = .error e) ∧ (st.receive s work).2.tree = st.tree := by
  cases hin : st.letsIn s with
  | false =>
    obtain ⟨htree, hnot⟩ := receive_of_not_letsIn hin work
    refine ⟨?_, htree⟩
    cases hresult : (st.receive s work).1 with
    | error e => exact ⟨e, rfl⟩
    | ok a => exact absurd hresult (hnot a)
  | true =>
    obtain ⟨st', htree, hwork, hok⟩ := receive_of_letsIn hin work
    obtain ⟨e, he⟩ := h hin st' htree
    rw [he] at hwork hok
    refine ⟨?_, by rw [hwork, htree]⟩
    cases hresult : (st.receive s work).1 with
    | error e => exact ⟨e, rfl⟩
    | ok a => cases hok a hresult

theorem fails_submit {r : Request} (h : st.letsIn s → st.tree.accepts s [r] = false) :
    (Move.submit s r).Fails st := by
  refine receive_of_refused fun hin st' htree => ?_
  have hrefused := h hin
  cases happly : st'.tree.apply s (st'.tree.transaction + 1) r with
  | error code => exact ⟨_, applyOne_of_refused happly⟩
  | ok result =>
    obtain ⟨a, t⟩ := result
    rw [← htree, Tree.accepts_of_applied happly] at hrefused
    cases hrefused

theorem fails_multi {rs : List Request} (h : st.letsIn s → st.tree.accepts s rs = false) :
    (Move.multi s rs).Fails st := by
  refine receive_of_refused fun hin st' htree => ?_
  obtain ⟨⟨index, code⟩, he⟩ := Tree.accepts_eq_false_iff.mp (htree ▸ h hin)
  rw [Tree.send] at he
  exact ⟨.abortedBatch rs.length index code, by rw [applyBatch, he]⟩

/-- Whoever vies for a path gets it, or does not reach the tree or is refused by it. -/
theorem added_mem_entered_of_vies {rs : List Request}
    (h : Tree.Vies s (st.tree.transaction + 1) p st.tree rs) :
    .added p ∈ st.entered s rs ∨ (st.letsIn s → st.tree.accepts s rs = false) := by
  by_cases hin : st.letsIn s
  · rcases hsend : st.tree.send s rs with e | ⟨as, t⟩
    · exact .inr fun _ => Tree.accepts_eq_false_iff.mpr ⟨e, hsend⟩
    · rw [entered, if_pos hin, hsend]
      exact .inl (h.added_mem hsend)
  · exact .inr fun h => absurd h hin

theorem added_mem_entries_of_viesFor (h : m.ViesFor st p) :
    .added p ∈ m.entries st ∨ m.Fails st := by
  cases m with
  | submit s r => exact (added_mem_entered_of_vies h).imp_right fails_submit
  | multi s rs => exact (added_mem_entered_of_vies h).imp_right fails_multi
  | connect | setAcl | failNext | failAfter | close | expire | reap => cases h

/-- **A create is a test and set.** In any run, and at any path but the root, comings and goings
take turns, a coming first, and the node is there just if the last turn was a coming. So as long as
the node does not go, at most one comes, and none if there was one to begin with; and everybody else
who wants the path, one request or a batch with a request for it, is told of an error and has
changed nothing. -/
theorem creates_test_and_set (hms : Move.Legal .initial ms) (hp : p ≠ Path.root) :
    (∃ n, Entry.turns p (initial.journal ms) = Entry.alternating p n ∧
      (((Move.run .initial ms).tree.node? p).isSome ↔ n % 2 = 1)) ∧
    ∀ before mid after, ms = before ++ mid ++ after →
      .removed p ∉ (Move.run .initial before).journal mid →
      ((Move.run .initial before).tree.node? p).isSome.toNat +
        ((Move.run .initial before).journal mid).count (.added p) ≤ 1 ∧
      ∀ earlier m later, mid = earlier ++ m :: later →
        m.ViesFor (Move.run .initial (before ++ earlier)) p →
        .added p ∈ m.entries (Move.run .initial (before ++ earlier)) ∨
          m.Fails (Move.run .initial (before ++ earlier)) := by
  refine ⟨taken_journal hms hp, ?_⟩
  rintro before mid after rfl hstays
  have hmid := (Move.legal_append.mp hms).1
  obtain ⟨n, hturns, hthere⟩ := taken_journal (Move.legal_append.mp hmid).1 hp
  obtain ⟨n', hturns', -⟩ := taken_journal hmid hp
  refine ⟨?_, fun earlier m later _ hvies => added_mem_entries_of_viesFor hvies⟩
  -- the turns in between are those of the longer run without those of the shorter one
  have hadded := Entry.count_added_of_turns hturns'
  have hremoved := Entry.count_removed_of_turns hturns'
  rw [journal_append, List.count_append, Entry.count_added_of_turns hturns] at hadded
  rw [journal_append, List.count_append, Entry.count_removed_of_turns hturns,
    List.count_eq_zero_of_not_mem hstays] at hremoved
  cases hpresent : ((Move.run .initial before).tree.node? p).isSome with
  | false =>
    rw [Bool.toNat_false]
    omega
  | true =>
    have hodd := hthere.mp hpresent
    rw [Bool.toNat_true]
    omega

/-- A session takes a seat without hearing of it, two others want it too, and it changes hands with
the end of the session, as an idle container and by a request. -/
def someRivals : List Move :=
  [.connect [], .connect [], .connect [], .failAfter .connectionLoss 1,
    .submit ⟨1, []⟩ (.create "/seat" ByteArray.empty .worldOpen .ephemeral),
    .submit ⟨2, []⟩ (.create "/seat" ByteArray.empty .worldOpen .persistent),
    .multi ⟨3, []⟩
      [.create "/hall" ByteArray.empty .worldOpen .persistent,
        .createContainer "/seat" ByteArray.empty .worldOpen],
    .close ⟨1, []⟩,
    .multi ⟨3, []⟩
      [.createContainer "/seat" ByteArray.empty .worldOpen,
        .create "/seat/guest" ByteArray.empty .worldOpen .ephemeral],
    .expire 3,
    .reap,
    .submit ⟨2, []⟩ (.create "/seat" ByteArray.empty .worldOpen .persistent),
    .submit ⟨2, []⟩ (.delete "/seat" anyVersion),
    .submit ⟨2, []⟩ (.create "/seat" ByteArray.empty .worldOpen .persistent)]

theorem creates_test_and_set_of_someRivals :
    (∃ n, Entry.turns "/seat" (initial.journal someRivals) = Entry.alternating "/seat" n ∧
      (((Move.run .initial someRivals).tree.node? "/seat").isSome ↔ n % 2 = 1)) ∧
    (Entry.turns "/seat" (initial.journal someRivals)).length = 7 ∧
    ((Move.run .initial (someRivals.take 4)).journal ((someRivals.drop 4).take 3)).count
      (.added "/seat") ≤ 1 ∧
    (Move.submit ⟨2, []⟩ (.create "/seat" ByteArray.empty .worldOpen .persistent)).Fails
      (Move.run .initial (someRivals.take 5)) ∧
    (Move.multi ⟨3, []⟩
      [.create "/hall" ByteArray.empty .worldOpen .persistent,
        .createContainer "/seat" ByteArray.empty .worldOpen]).Fails
      (Move.run .initial (someRivals.take 6)) := by
  have hlegal : Move.Legal .initial someRivals := by decide +kernel
  have hstays : .removed "/seat" ∉
      (Move.run .initial (someRivals.take 4)).journal ((someRivals.drop 4).take 3) := by
    decide +kernel
  obtain ⟨hturns, hrivals⟩ := creates_test_and_set hlegal (p := "/seat") (by decide)
  obtain ⟨hcount, hlosers⟩ :=
    hrivals (someRivals.take 4) ((someRivals.drop 4).take 3) (someRivals.drop 7) rfl hstays
  have hfirst := hlosers ((someRivals.drop 4).take 1) _ ((someRivals.drop 6).take 1) rfl
    (.inl (by decide +kernel))
  -- the batch wants the seat after it has had the hall come
  have hsecond := hlosers ((someRivals.drop 4).take 2) _ [] rfl
    (.inr ⟨_, _, rfl, .inl (by decide +kernel)⟩)
  refine ⟨hturns, by decide +kernel, Nat.le_of_add_left_le hcount, hfirst.resolve_left ?_,
    hsecond.resolve_left ?_⟩
  · decide +kernel
  · decide +kernel

end Store

end Coordination
