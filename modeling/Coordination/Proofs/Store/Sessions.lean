import Mathlib.Data.List.Nodup
import Coordination.Proofs.Store.Journal

/-!
# Sessions and what they own

A session owns the ephemeral nodes that it creates. They go with it, whether it is closed or
expires, and nothing that happens later brings them back: a session that is not connected reaches
the tree no more, stays so, and its number is not given away again. A number may expire before it
has been given away; whoever gets it owns nothing.

## Main definitions

* `Store.IsLive`: the numbers of the sessions that are connected
* `Store.opened`: the sessions that are opened in a run

## Main results

* `Tree.OwnersIn`, `Store.ownersIn_next`: what owns a node, and what a move does to it
* `Store.Reachable.ownersIn`: every ephemeral node is owned by a session that is connected
* `Store.sessions_end`: what has ended owns nothing and does nothing any more
-/

namespace Coordination

/-! ## Trees -/

namespace Tree

variable {t t' : Tree} {s : Session} {stamp : Int} {p : String} {n : Node} {live : Int → Prop}
  {ps : List String}

/-- **All owners of nodes are of a kind.** -/
def OwnersIn (live : Int → Prop) (t : Tree) : Prop :=
  ∀ p n, t.node? p = some n → n.stat.owner ≠ 0 → live n.stat.owner

theorem OwnersIn.initial : OwnersIn live .initial := by
  intro p n hn howner
  rw [node?_initial] at hn
  split at hn
  · obtain rfl := Option.some.inj hn
    exact absurd rfl howner
  · cases hn

theorem OwnersIn.mono {live' : Int → Prop} (h : OwnersIn live t) (hle : ∀ i, live i → live' i) :
    OwnersIn live' t := fun p n hn howner => hle _ (h p n hn howner)

theorem OwnersIn.put {m : Node} (h : OwnersIn live t) (hm : t.node? p = some m)
    (howner : n.stat.owner = m.stat.owner) : OwnersIn live (t.put p n) := by
  intro q k hk hne
  rcases node?_put_cases hk with ⟨rfl, rfl⟩ | ⟨-, hk⟩
  · rw [howner] at hne ⊢
    exact h q m hm hne
  · exact h q k hk hne

/-- What is removed takes nobody else's owner away. -/
theorem Edit.owner_of_removed (h : t.Edit stamp (.removed p) t') {q : String}
    (hn : t'.node? q = some n) :
    q ≠ p ∧ ∃ m, t.node? q = some m ∧ n.stat.owner = m.stat.owner := by
  cases h with
  | @removed above _ parent habove hne hparent hlisted =>
    obtain ⟨hqp, ⟨-, m, hm, rfl⟩ | ⟨-, hn⟩⟩ := node?_remove_cases habove hne hn
    · exact ⟨hqp, m, hm, rfl⟩
    · exact ⟨hqp, n, hn, rfl⟩

/-- What is left after some nodes have gone was there before and had the same owner. -/
theorem Edits.owner_of_removed (h : Edits stamp t (ps.map .removed) t') {q : String}
    (hn : t'.node? q = some n) :
    q ∉ ps ∧ ∃ m, t.node? q = some m ∧ n.stat.owner = m.stat.owner := by
  induction ps generalizing t with
  | nil =>
    cases h
    exact ⟨by simp, n, hn, rfl⟩
  | cons p ps ih =>
    cases h with
    | cons he hs =>
      obtain ⟨hq, m, hm, howner⟩ := ih hs
      obtain ⟨hqp, m', hm', howner'⟩ := he.owner_of_removed hm
      exact ⟨by simp [hqp, hq], m', hm', howner.trans howner'⟩

/-- **A session that goes takes its nodes with it**, and no others. -/
theorem WellFormed.ownersIn_removeOwned {session : Int} (hwf : t.WellFormed) (hs : session ≠ 0)
    (h : OwnersIn live t) : OwnersIn (fun i => live i ∧ i ≠ session) (t.removeOwned session) := by
  intro p n hn hne
  have hedits : Edits 0 t _ (t.removeOwned session) := hwf.edits_removeOwned hs
  obtain ⟨hp, m, hm, howner⟩ := hedits.owner_of_removed hn
  rw [howner] at hne ⊢
  refine ⟨h p m hm hne, ?_⟩
  rintro rfl
  exact hp (mem_pathsWhere.mpr ⟨m, hm, by simp⟩)

theorem WellFormed.ownersIn_reap (hwf : t.WellFormed) (h : OwnersIn live t) :
    OwnersIn live t.reap.2 := by
  intro p n hn hne
  have hedits : Edits 0 t _ t.reap.2 := hwf.edits_reap
  obtain ⟨-, m, hm, howner⟩ := hedits.owner_of_removed hn
  rw [howner] at hne ⊢
  exact h p m hm hne

/-- **What a session creates it owns itself**, if it is to be owned. -/
theorem OwnersIn.applied {r : Request} {a : Answer} (h : OwnersIn live t) (hs : live s.id)
    (ha : t.Applied s stamp r a t') : OwnersIn live t' := by
  cases ha with
  | @created _ data acl mode above parent hmode hdata hacl hvalid habove hparent =>
    intro p n hn hne
    rcases node?_attach_cases hn with ⟨-, rfl⟩ | ⟨-, -, m, hm, rfl⟩ | ⟨-, -, hn⟩
    · simp only [Node.leaf, freshStat] at hne ⊢
      split
      · exact hs
      · rename_i hmode
        rw [if_neg hmode] at hne
        exact absurd rfl hne
    · exact h p m hm hne
    · exact h p n hn hne
  | @deleted _ above parent node htype hvalid habove =>
    have hself : above ≠ r.path := by
      rintro rfl
      exact Path.parent?_ne_self hvalid habove
    intro p n hn hne
    obtain ⟨-, ⟨-, m, hm, rfl⟩ | ⟨-, hn⟩⟩ := node?_remove_cases habove hself hn
    · exact h p m hm hne
    · exact h p n hn hne
  | dataSet hvalid hnode => exact h.put hnode rfl
  | checked => exact h

end Tree

/-! ## Stores -/

namespace Store

variable {st st' : Store} {s : Session} {m : Move} {ms ms' : List Move} {i : Int}

/-! ### The life of a session -/

/-- Whether a store knows the same sessions as another, in the same state. -/
structure SameSessions (st st' : Store) : Prop where
  closed : st'.closed = st.closed
  expired : st'.expired = st.expired
  next : st'.nextSession = st.nextSession

theorem sameSessions_receive {α : Type} {work : Store → Except StoreError α × Store}
    (hwork : ∀ st', SameSessions st st' → SameSessions st (work st').2) :
    SameSessions st (st.receive s work).2 := by
  rw [snd_receive]
  split
  · exact hwork _ ⟨rfl, rfl, rfl⟩
  · exact ⟨rfl, rfl, rfl⟩

theorem sameSessions_submit (st : Store) (s : Session) (r : Request) :
    SameSessions st (st.submit s r).2 := by
  refine sameSessions_receive fun st' h => ?_
  obtain ⟨tree, mutations, heq⟩ := applyOne_eq st' s r
  rw [heq]
  exact ⟨h.closed, h.expired, h.next⟩

theorem sameSessions_multi (st : Store) (s : Session) (rs : List Request) :
    SameSessions st (st.multi s rs).2 := by
  refine sameSessions_receive fun st' h => ?_
  unfold applyBatch
  dsimp only
  split
  · exact h
  · exact ⟨h.closed, h.expired, h.next⟩

theorem sameSessions_setAcl (st : Store) (s : Session) (p : String) (acl : Acl) (version : Int32) :
    SameSessions st (st.setAcl s p acl version).2 := by
  rcases setAcl_cases st s p acl version with ⟨e, he⟩ | ⟨stat, t, -, -, hst⟩
  · rw [he]
    exact ⟨rfl, rfl, rfl⟩
  · rw [hst]
    exact ⟨rfl, rfl, rfl⟩

/-- Whether a number is that of a session that has been opened and is connected. -/
structure IsLive (st : Store) (i : Int) : Prop where
  pos : 0 < i
  opened : i < st.nextSession
  notClosed : i ∉ st.closed
  notExpired : i ∉ st.expired

theorem isConnected_iff_notMem : st.isConnected s ↔ s.id ∉ st.closed ∧ s.id ∉ st.expired := by
  rw [isConnected_iff, isClosed, hasExpired, ← Bool.not_eq_true, ← Bool.not_eq_true,
    Std.ExtTreeSet.contains_iff_mem, Std.ExtTreeSet.contains_iff_mem]

theorem IsLive.of_sameSessions (h : SameSessions st st') (hi : st.IsLive i) : st'.IsLive i :=
  ⟨hi.pos, h.next ▸ hi.opened, h.closed ▸ hi.notClosed, h.expired ▸ hi.notExpired⟩

/-- What has been opened, closed or has expired remains so. -/
structure Outlives (st st' : Store) : Prop where
  closed : ∀ i ∈ st.closed, i ∈ st'.closed
  expired : ∀ i ∈ st.expired, i ∈ st'.expired
  next : st.nextSession ≤ st'.nextSession

theorem Outlives.trans {st'' : Store} (h : Outlives st st') (h' : Outlives st' st'') :
    Outlives st st'' :=
  ⟨fun i hi => h'.closed i (h.closed i hi), fun i hi => h'.expired i (h.expired i hi),
    Int.le_trans h.next h'.next⟩

theorem SameSessions.outlives (h : SameSessions st st') : Outlives st st' :=
  ⟨fun _ hi => h.closed ▸ hi, fun _ hi => h.expired ▸ hi, Int.le_of_eq h.next.symm⟩

theorem outlives_next (st : Store) (m : Move) : Outlives st (m.next st) := by
  cases m with
  | connect identities =>
    exact ⟨fun _ hi => hi, fun _ hi => hi, Int.le_of_lt (Int.lt_add_one_of_le (Int.le_refl _))⟩
  | submit s r => exact (sameSessions_submit st s r).outlives
  | multi s rs => exact (sameSessions_multi st s rs).outlives
  | setAcl s p acl version => exact (sameSessions_setAcl st s p acl version).outlives
  | failNext | failAfter | reap => exact ⟨fun _ hi => hi, fun _ hi => hi, Int.le_refl _⟩
  | close s =>
    rw [Move.next, close]
    split
    · exact ⟨fun _ hi => hi, fun _ hi => hi, Int.le_refl _⟩
    · exact ⟨fun _ hi => Std.ExtTreeSet.mem_insert.mpr (.inr hi), fun _ hi => hi, Int.le_refl _⟩
  | expire session =>
    exact ⟨fun _ hi => hi, fun _ hi => Std.ExtTreeSet.mem_insert.mpr (.inr hi), Int.le_refl _⟩

/-- So it does in a run. -/
theorem outlives_run (st : Store) (ms : List Move) : Outlives st (Move.run st ms) := by
  induction ms generalizing st with
  | nil => exact ⟨fun _ hi => hi, fun _ hi => hi, Int.le_refl _⟩
  | cons m ms ih => exact (outlives_next st m).trans (ih _)

/-- **A session that is not connected does not come back.** -/
theorem Outlives.isConnected_eq_false (h : Outlives st st') (hs : st.isConnected s = false) :
    st'.isConnected s = false := by
  rw [← Bool.not_eq_true] at hs ⊢
  intro hs'
  obtain ⟨hc, he⟩ := isConnected_iff_notMem.mp hs'
  exact hs (isConnected_iff_notMem.mpr
    ⟨fun hi => hc (h.closed _ hi), fun hi => he (h.expired _ hi)⟩)

/-- The sessions that are opened in a run. -/
def opened (st : Store) : List Move → List Session
  | [] => []
  | .connect identities :: ms =>
    (st.connect identities).1 :: opened (Move.next st (.connect identities)) ms
  | m :: ms => opened (m.next st) ms

/-- Only opening a session gives away a number. -/
theorem nextSession_next (h : ∀ identities, m ≠ .connect identities) :
    (m.next st).nextSession = st.nextSession := by
  cases m with
  | connect identities => exact absurd rfl (h identities)
  | submit s r => exact (sameSessions_submit st s r).next
  | multi s rs => exact (sameSessions_multi st s rs).next
  | setAcl s p acl version => exact (sameSessions_setAcl st s p acl version).next
  | failNext | failAfter | expire | reap => rfl
  | close s =>
    rw [Move.next, close]
    split <;> rfl

theorem opened_cons (h : ∀ identities, m ≠ .connect identities) (ms : List Move) :
    st.opened (m :: ms) = (m.next st).opened ms := by
  cases m with
  | connect identities => exact absurd rfl (h identities)
  | _ => rfl

/-- **The numbers of the sessions that are opened follow on one another.** -/
theorem mem_opened (hmem : s ∈ st.opened ms) :
    st.nextSession ≤ s.id ∧ s.id < (Move.run st ms).nextSession := by
  induction ms generalizing st with
  | nil => cases hmem
  | cons m ms ih =>
    by_cases hm : ∃ identities, m = .connect identities
    · obtain ⟨identities, rfl⟩ := hm
      have hnext : (Move.next st (.connect identities)).nextSession = st.nextSession + 1 := rfl
      rcases List.mem_cons.mp hmem with rfl | hrest
      · have hle := (outlives_run (Move.next st (.connect identities)) ms).next
        refine ⟨Int.le_refl _, ?_⟩
        show st.nextSession < (Move.run (Move.next st (.connect identities)) ms).nextSession
        omega
      · obtain ⟨hle, hlt⟩ := ih hrest
        exact ⟨by omega, hlt⟩
    · have hm' : ∀ identities, m ≠ .connect identities := fun ids heq => hm ⟨ids, heq⟩
      rw [opened_cons hm'] at hmem
      obtain ⟨hle, hlt⟩ := ih hmem
      rw [nextSession_next hm'] at hle
      exact ⟨hle, hlt⟩

/-- No number is given away twice. -/
theorem nodup_opened (st : Store) (ms : List Move) :
    ((st.opened ms).map Session.id).Nodup := by
  induction ms generalizing st with
  | nil => exact List.nodup_nil
  | cons m ms ih =>
    by_cases hm : ∃ identities, m = .connect identities
    · obtain ⟨identities, rfl⟩ := hm
      refine List.nodup_cons.mpr ⟨fun hmem => ?_, ih _⟩
      obtain ⟨s, hs, heq⟩ := List.mem_map.mp hmem
      have hle := (mem_opened hs).1
      have hnext : (Move.next st (.connect identities)).nextSession = st.nextSession + 1 := rfl
      have hid : (st.connect identities).1.id = st.nextSession := rfl
      omega
    · rw [opened_cons fun ids heq => hm ⟨ids, heq⟩]
      exact ih _

/-- Every number between has been given away. -/
theorem exists_mem_opened (hle : st.nextSession ≤ i) (hlt : i < (Move.run st ms).nextSession) :
    ∃ s ∈ st.opened ms, s.id = i := by
  induction ms generalizing st with
  | nil => exact absurd hlt (Int.not_lt.mpr hle)
  | cons m ms ih =>
    by_cases hm : ∃ identities, m = .connect identities
    · obtain ⟨identities, rfl⟩ := hm
      by_cases hi : i = st.nextSession
      · exact ⟨_, List.mem_cons_self, hi.symm⟩
      · have hnext : (Move.next st (.connect identities)).nextSession = st.nextSession + 1 := rfl
        have hle' : (Move.next st (.connect identities)).nextSession ≤ i := by omega
        obtain ⟨s, hs, hid⟩ := ih hle' hlt
        exact ⟨s, List.mem_cons_of_mem _ hs, hid⟩
    · have hm' : ∀ identities, m ≠ .connect identities := fun ids heq => hm ⟨ids, heq⟩
      rw [opened_cons hm']
      exact ih (by rwa [nextSession_next hm']) hlt

/-! ### Owners -/

/-- What a session asks for leaves all nodes to sessions that are connected. -/
theorem ownersIn_submit (hs : 0 < s.id ∧ s.id < st.nextSession)
    (h : Tree.OwnersIn st.IsLive st.tree) (r : Request) :
    Tree.OwnersIn st.IsLive (st.submit s r).2.tree := by
  cases hin : st.letsIn s with
  | false => rwa [submit, (receive_of_not_letsIn hin _).1]
  | true =>
    obtain ⟨hc, he⟩ := isConnected_iff_notMem.mp (Bool.and_eq_true_iff.mp hin).1
    exact submit_keeps (fun _ _ ht => ht) (fun _ _ _ _ ht happlied =>
      ht.applied ⟨hs.1, hs.2, hc, he⟩ happlied) h

theorem ownersIn_multi (hs : 0 < s.id ∧ s.id < st.nextSession)
    (h : Tree.OwnersIn st.IsLive st.tree) (rs : List Request) :
    Tree.OwnersIn st.IsLive (st.multi s rs).2.tree := by
  cases hin : st.letsIn s with
  | false => rwa [multi, (receive_of_not_letsIn hin _).1]
  | true =>
    obtain ⟨hc, he⟩ := isConnected_iff_notMem.mp (Bool.and_eq_true_iff.mp hin).1
    exact multi_keeps (fun _ _ ht => ht) (fun _ _ _ _ _ _ ht happlied =>
      ht.applied ⟨hs.1, hs.2, hc, he⟩ happlied) h

theorem ownersIn_setAcl (h : Tree.OwnersIn st.IsLive st.tree) (s : Session) (p : String)
    (acl : Acl) (version : Int32) :
    Tree.OwnersIn st.IsLive (st.setAcl s p acl version).2.tree := by
  rcases setAcl_cases st s p acl version with ⟨e, he⟩ | ⟨stat, t, -, ht, hst⟩
  · rwa [he]
  · obtain ⟨node, hnode, -, -, rfl, rfl⟩ := Tree.setAcl_eq_ok_iff.mp ht
    rw [hst]
    exact h.put hnode rfl

/-- **A move leaves all nodes to sessions that are connected.** -/
theorem ownersIn_next (hwf : st.tree.WellFormed) (hm : m.Allowed st)
    (h : Tree.OwnersIn st.IsLive st.tree) :
    Tree.OwnersIn (m.next st).IsLive (m.next st).tree := by
  cases m with
  | connect identities =>
    refine h.mono fun i hi => ⟨hi.pos, ?_, hi.notClosed, hi.notExpired⟩
    exact Int.lt_of_lt_of_le hi.opened (outlives_next st (.connect identities)).next
  | submit s r =>
    exact (ownersIn_submit hm h r).mono fun i hi => hi.of_sameSessions (sameSessions_submit st s r)
  | multi s rs =>
    exact (ownersIn_multi hm h rs).mono fun i hi => hi.of_sameSessions (sameSessions_multi st s rs)
  | setAcl s p acl version =>
    exact (ownersIn_setAcl h s p acl version).mono fun i hi =>
      hi.of_sameSessions (sameSessions_setAcl st s p acl version)
  | failNext | failAfter =>
    exact h.mono fun i hi => ⟨hi.pos, hi.opened, hi.notClosed, hi.notExpired⟩
  | close s =>
    simp only [Move.next, close]
    split
    · exact h
    · refine (hwf.ownersIn_removeOwned (Int.ne_of_gt hm.1) h).mono fun i hi =>
        ⟨hi.1.pos, hi.1.opened, fun hmem => ?_, hi.1.notExpired⟩
      rcases Std.ExtTreeSet.mem_insert.mp hmem with heq | hmem
      · exact hi.2 (Std.LawfulEqCmp.eq_of_compare heq).symm
      · exact hi.1.notClosed hmem
  | expire session =>
    refine (hwf.ownersIn_removeOwned (Int.ne_of_gt hm) h).mono fun i hi =>
      ⟨hi.1.pos, hi.1.opened, hi.1.notClosed, fun hmem => ?_⟩
    rcases Std.ExtTreeSet.mem_insert.mp hmem with heq | hmem
    · exact hi.2 (Std.LawfulEqCmp.eq_of_compare heq).symm
    · exact hi.1.notExpired hmem
  | reap =>
    exact (hwf.ownersIn_reap h).mono fun i hi =>
      ⟨hi.pos, hi.opened, hi.notClosed, hi.notExpired⟩

/-- **Every node that is owned is owned by a session that is connected**, in every store that can be
reached. -/
theorem Reachable.ownersIn (h : st.Reachable) : Tree.OwnersIn st.IsLive st.tree := by
  induction h with
  | initial => exact .initial
  | move hst m hm ih => exact ownersIn_next hst.wellFormed hm ih

/-- What a session that has been closed owned is gone. -/
theorem Reachable.owner_ne_of_isClosed (h : st.Reachable) (hs : st.isClosed s) (hpos : 0 < s.id)
    {p : String} {n : Node} (hn : st.tree.node? p = some n) : n.stat.owner ≠ s.id := by
  intro howner
  have hlive := h.ownersIn p n hn (howner ▸ Int.ne_of_gt hpos)
  rw [howner] at hlive
  exact hlive.notClosed (Std.ExtTreeSet.contains_iff_mem.mp hs)

/-! ### What has ended -/

theorem isClosed_close (st : Store) (s : Session) : (st.close s).isClosed s := by
  unfold close
  split
  · assumption
  · simp [isClosed]

/-- The errors of calls of sessions that have ended. -/
inductive IsEnd : StoreError → Prop where
  | closed : IsEnd .closed
  | expired : IsEnd (plainError .sessionExpired)

theorem exists_isEnd_receive {α : Type} {work : Store → Except StoreError α × Store}
    (h : st.isConnected s = false) :
    (∃ e, IsEnd e ∧ (st.receive s work).1 = .error e) ∧
      (st.receive s work).2.tree = st.tree := by
  by_cases hc : st.isClosed s = true
  · rw [receive_of_closed hc]
    exact ⟨⟨_, .closed, rfl⟩, rfl⟩
  · have he : st.hasExpired s = true := by simpa [isConnected, hc] using h
    rw [receive_of_expired (by simpa using hc) he]
    exact ⟨⟨_, .expired, rfl⟩, rfl⟩

theorem exists_checkCall_eq_error (h : st.isConnected s = false) (p : String) :
    ∃ e, st.checkCall s p = .error e := by
  unfold checkCall
  repeat' split
  · exact ⟨_, rfl⟩
  · exact ⟨_, rfl⟩
  · exact ⟨_, rfl⟩
  · rename_i hc _ _ he
    simp [isConnected, hc, he] at h

/-- A session that is not connected reads nothing. -/
theorem exists_read_eq_error (h : st.isConnected s = false) (p : String) :
    (∃ e, st.exists? s p = .error e) ∧ (∃ e, st.getData s p = .error e) ∧
      ∃ e, st.getChildren s p = .error e := by
  obtain ⟨e, he⟩ := exists_checkCall_eq_error h p
  have hread : st.readable s p = .error e := by rw [readable, he]
  exact ⟨⟨e, by rw [exists?, he]; rfl⟩, ⟨e, by rw [getData, hread]; rfl⟩,
    e, by rw [getChildren, hread]; rfl⟩

/-- It grants nothing either. -/
theorem exists_setAcl_eq_error (h : st.isConnected s = false) (p : String) (acl : Acl)
    (version : Int32) : ∃ e, st.setAcl s p acl version = (.error e, st) := by
  rcases setAcl_cases st s p acl version with he | ⟨stat, t, hs, -, -⟩
  · exact he
  · rw [h] at hs
    cases hs

/-- **Ephemeral nodes do not outlive their session.** At every point of every run the owner of an
ephemeral node is the number of exactly one session that has been opened, and this session is
connected. A session that has been opened and is closed or has expired has ended for good: however
the run goes on, its requests and batches fail because it is closed or has expired, its readings and
grants fail too, none of them changes the tree, and no session that is opened later has its
number. -/
theorem sessions_end (hms : Move.Legal .initial ms) (hst : Move.run .initial ms = st) :
    (∀ p n, st.tree.node? p = some n → n.mode.isEphemeral →
      ∃ s ∈ initial.opened ms, s.id = n.stat.owner ∧ st.isConnected s ∧
        ∀ s' ∈ initial.opened ms, s'.id = n.stat.owner → s' = s) ∧
    ((initial.opened ms).map Session.id).Nodup ∧
    ∀ s, s.id < st.nextSession → st.isConnected s = false →
      ∀ ms' st', Move.run st ms' = st' →
        (∀ r, (∃ e, IsEnd e ∧ (st'.submit s r).1 = .error e) ∧
          (st'.submit s r).2.tree = st'.tree) ∧
        (∀ rs, (∃ e, IsEnd e ∧ (st'.multi s rs).1 = .error e) ∧
          (st'.multi s rs).2.tree = st'.tree) ∧
        (∀ p, (∃ e, st'.exists? s p = .error e) ∧ (∃ e, st'.getData s p = .error e) ∧
          ∃ e, st'.getChildren s p = .error e) ∧
        (∀ p acl version, ∃ e, st'.setAcl s p acl version = (.error e, st')) ∧
        ∀ s' ∈ st.opened ms', s'.id ≠ s.id := by
  subst hst
  have hreach : (Move.run .initial ms).Reachable := Reachable.initial.run hms
  refine ⟨fun p n hn hmode => ?_, nodup_opened _ ms, fun s hs hended ms' st' hst' => ?_⟩
  · have howner := (hreach.wellFormed.fits p n hn).self.owner.mpr hmode
    have hlive := hreach.ownersIn p n hn howner
    have hpos : initial.nextSession ≤ n.stat.owner := hlive.pos
    obtain ⟨s, hmem, hid⟩ := exists_mem_opened hpos hlive.opened
    refine ⟨s, hmem, hid, isConnected_iff_notMem.mpr ?_, fun s' hmem' hid' => ?_⟩
    · rw [hid]
      exact ⟨hlive.notClosed, hlive.notExpired⟩
    · exact List.inj_on_of_nodup_map (nodup_opened _ ms) hmem' hmem (hid'.trans hid.symm)
  · subst hst'
    have hended' := (outlives_run _ ms').isConnected_eq_false hended
    refine ⟨fun r => exists_isEnd_receive hended', fun rs => exists_isEnd_receive hended',
      fun p => exists_read_eq_error hended' p, fun p acl version =>
        exists_setAcl_eq_error hended' p acl version, fun s' hmem heq => ?_⟩
    have hle := (mem_opened hmem).1
    omega

/-- Two sessions come, one of which has expired before; one of them is closed, after it has expired,
and a third one comes. -/
def someSessions : List Move :=
  [.expire 2, .connect [], .connect [],
    .submit ⟨1, []⟩ (.create "/mine" ByteArray.empty .worldOpen .ephemeral),
    .submit ⟨2, []⟩ (.create "/yours" ByteArray.empty .worldOpen .ephemeral),
    .expire 1, .close ⟨1, []⟩, .connect [],
    .multi ⟨3, []⟩ [.create "/third" ByteArray.empty .worldOpen .ephemeral]]

theorem sessions_end_after_someSessions :
    (∃ n, (Move.run .initial someSessions).tree.node? "/third" = some n ∧
      ∃ s ∈ initial.opened someSessions, s.id = n.stat.owner ∧
        (Move.run .initial someSessions).isConnected s) ∧
    ∃ e, IsEnd e ∧
      ((Move.run .initial someSessions).submit ⟨1, []⟩ (.delete "/third" anyVersion)).1 =
        .error e := by
  have hlegal : Move.Legal .initial someSessions := by decide +kernel
  obtain ⟨howned, -, hended⟩ := sessions_end hlegal rfl
  obtain ⟨n, hn⟩ : ∃ n, (Move.run .initial someSessions).tree.node? "/third" = some n :=
    Option.isSome_iff_exists.mp (by decide +kernel)
  have hephemeral : ((Move.run .initial someSessions).tree.node? "/third").all
      (·.mode.isEphemeral) = true := by decide +kernel
  obtain ⟨s, hmem, hid, hs, -⟩ := howned "/third" n hn (by simpa [hn] using hephemeral)
  refine ⟨⟨n, hn, s, hmem, hid, hs⟩, ?_⟩
  exact ((hended ⟨1, []⟩ (by decide +kernel) (by decide +kernel) [] _ rfl).1 _).1

end Store

end Coordination
