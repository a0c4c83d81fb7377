import Coordination.Proofs.Client.Alike
import Coordination.Proofs.Client.Containment
import Coordination.Proofs.Store.Approaches

/-!
# The ways of a client

A client touches nodes of its namespace, but for those on the way to the root, which it only
creates, open to everybody and to last. So it keeps the way to another namespace free, and leaves
alone what lies there.

Two stores are compared in the namespace of a client: below its root they agree, and above it the
way is free in both. Then the client goes the way to its root, and the way to any path below it,
alike in both, whatever else there is.

## Main definitions

* `Task.StaysWithin`: tasks that ask for no numbered sibling of the root
* `Client.IsOrdinary`: clients that create open nodes on their ways
* `Store.Matches`: stores that agree for a namespace

## Main results

* `Client.Sends.reaches`, `Client.Sends.isOpening`: where the requests of a client lead
* `Client.clears_perform`, `Client.node?_perform`: what a task leaves alone
* `Ensurer.exists_createLineage_of_approached`: a free way can be gone
* `Ensurer.attempt_of_matches`: an attempt at a path on both sides
-/

namespace Coordination

/-! ## Where requests lead -/

/-- Whether a task asks for no numbered sibling of the root. -/
def Task.StaysWithin (k : Task) : Prop := ∀ o ∈ k.operations, ¬ o.NumbersRoot

instance (k : Task) : Decidable k.StaysWithin :=
  inferInstanceAs (Decidable (∀ o ∈ k.operations, ¬ o.NumbersRoot))

theorem Ensurer.isOpening_request {e : Ensurer} (hacl : e.acl = .worldOpen) (p : String) :
    (e.request p).IsOpening :=
  ⟨by rw [acl?_request, hacl], e.mode, e.mode?_request p, e.isEphemeral_mode, e.isSequential_mode⟩

namespace Client

variable {c c₁ : Client} {k : Task} {n : Namespace} {t t' : Tree} {s s' : Session} {stamp : Int}
  {r : Request} {a : Answer} {p : String} {st st' : Store}

/-- **Whether a client creates open nodes on its ways**, and works in the namespace of its
callers. -/
structure IsOrdinary (c : Client) : Prop where
  space : c.space.IsWellFormed
  rootSpace : c.rootEnsurer.space = .whole
  rootAcl : c.rootEnsurer.acl = .worldOpen
  pathSpace : c.ensurer.space = c.space
  pathAcl : c.ensurer.acl = .worldOpen

/-- Whether a client is an ordinary one is a matter of its settings. -/
theorem IsOrdinary.of_settings (h : c.IsOrdinary) (hsettings : c₁.settings = c.settings) :
    c₁.IsOrdinary := by
  have hspace : c₁.space = c.space := congrArg (·.space) hsettings
  have hrootSpace : c₁.rootEnsurer.space = c.rootEnsurer.space :=
    congrArg (·.rootEnsurer.space) hsettings
  have hrootAcl : c₁.rootEnsurer.acl = c.rootEnsurer.acl := congrArg (·.rootEnsurer.acl) hsettings
  have hpathSpace : c₁.ensurer.space = c.ensurer.space := congrArg (·.ensurer.space) hsettings
  have hpathAcl : c₁.ensurer.acl = c.ensurer.acl := congrArg (·.ensurer.acl) hsettings
  exact ⟨hspace ▸ h.space, hrootSpace.trans h.rootSpace, hrootAcl.trans h.rootAcl,
    by rw [hpathSpace, hspace, h.pathSpace], hpathAcl.trans h.pathAcl⟩

theorem isOrdinary_of_start {cfg : Config} (h : start cfg = .ok c) (hacl : cfg.acl = .worldOpen) :
    c.IsOrdinary := by
  obtain ⟨-, hspace, hroot, hpath, -⟩ := eq_of_start h
  exact ⟨Config.isWellFormed_of_validate hspace, by rw [hroot, Ensurer.ofConfig], by rwa [hroot],
    by rw [hpath, Ensurer.ofConfig], by rwa [hpath]⟩

/-- **What a client sends is about a node on the way to one of its own.** -/
theorem Sends.reaches (h : c.Sends k r) (hc : c.IsOrdinary) (hk : k.StaysWithin)
    (happlied : t.Applied s stamp r a t') :
    ∃ z, Path.Precedes (c.space.fix Path.root) z ∧ Path.Precedes (r.target a) z := by
  cases h with
  | @root root q hroot hvalid hq =>
    rw [hc.rootSpace, Namespace.fix_whole] at hq
    have htop : c.space.fix Path.root = root := by
      rw [Namespace.fix, hroot]
      rfl
    rw [happlied.target_of_opening (Ensurer.isOpening_request hc.rootAcl q), Ensurer.path_request,
      htop]
    exact ⟨root, .refl hvalid, (Path.precedes_iff_mem_lineage hvalid).mpr (.inr hq)⟩
  | @operation o ho hvalid =>
    obtain ⟨p, hp, htarget⟩ := exists_fix_of_applied hc.space hvalid (hk o ho) happlied
    have hreach := hc.space.precedes_fix hp
    rw [htarget] at hreach
    exact ⟨_, hreach, .refl hreach.isValid_right⟩
  | @path p q hpath hvalid hq =>
    rw [hc.pathSpace] at hq
    have hfix := hc.space.isValid_fix hvalid
    rw [happlied.target_of_opening (Ensurer.isOpening_request hc.pathAcl q), Ensurer.path_request]
    exact ⟨c.space.fix p, hc.space.precedes_fix hvalid,
      (Path.precedes_iff_mem_lineage hfix).mpr (.inr hq)⟩

/-- **What a client sends out of its namespace opens nodes.** -/
theorem Sends.isOpening (h : c.Sends k r) (hc : c.IsOrdinary) (hk : k.StaysWithin)
    (happlied : t.Applied s stamp r a t')
    (hout : ¬ Path.Precedes (c.space.fix Path.root) (r.target a)) : r.IsOpening := by
  cases h with
  | root hroot hvalid hq => exact Ensurer.isOpening_request hc.rootAcl _
  | path hpath hvalid hq => exact Ensurer.isOpening_request hc.pathAcl _
  | @operation o ho hvalid =>
    obtain ⟨p, hp, htarget⟩ := exists_fix_of_applied hc.space hvalid (hk o ho) happlied
    rw [← htarget] at hout
    exact absurd (hc.space.precedes_fix hp) hout

/-! ## What a task leaves alone -/

theorem serves_perform (hs : st.Serves s) (hs' : st.Serves s') (c : Client) (k : Task) :
    (c.perform (Store.link s) k st).2.2.Serves s' := by
  refine (perform_keeps (P := fun st : Store => st.Serves s ∧ st.Serves s') ?_ ?_ ⟨hs, hs'⟩).2
  · rintro r - st ⟨hs, hs'⟩
    exact ⟨hs.submit hs r, hs'.submit hs r⟩
  · rintro rs - st ⟨hs, hs'⟩
    exact ⟨hs.multi hs rs, hs'.multi hs rs⟩

/-- **A task keeps the way to a namespace free** that lies nowhere below its own, or is its own. -/
theorem clears_perform (hc : c.IsOrdinary) (hk : k.StaysWithin) (hproper : n.IsBelow Path.root)
    (hout : ∀ p, n.IsBelow p → ¬ Path.Precedes (c.space.fix Path.root) p)
    (h : n.IsApproached st.tree) (s : Session) :
    n.Clears st.tree (c.perform (Store.link s) k st).2.2.tree := by
  refine perform_keeps_tree (P := n.Clears st.tree) (fun _ _ h => h.counted _) ?_ h.clears
  intro r hsends t stamp a t' ht happlied
  refine ht.applied hproper happlied fun p hp htarget => ?_
  subst htarget
  exact hsends.isOpening hc hk happlied (hout _ hp)

/-- **A task leaves a namespace alone** that lies apart from its own. -/
theorem node?_perform (hc : c.IsOrdinary) (hk : k.StaysWithin) (hn : n.IsWellFormed)
    (hapart : ¬ Path.Precedes (n.fix Path.root) (c.space.fix Path.root))
    (hapart' : ¬ Path.Precedes (c.space.fix Path.root) (n.fix Path.root)) (st : Store) (s : Session)
    (hp : Path.isValid p) :
    (c.perform (Store.link s) k st).2.2.tree.node? (n.fix p) = st.tree.node? (n.fix p) := by
  refine perform_keeps_tree (P := fun t => t.node? (n.fix p) = st.tree.node? (n.fix p))
    (fun _ _ h => h) ?_ rfl
  intro r hsends t stamp a t' ht happlied
  obtain ⟨z, hreach, htarget⟩ := hsends.reaches hc hk happlied
  rw [happlied.node?_eq_of_precedes htarget ?_, ht]
  -- otherwise both roots were on the way to one node
  intro hup
  rcases ((hn.precedes_fix hp).trans hup).comparable hreach with hdown | hdown
  · exact hapart hdown
  · exact hapart' hdown

end Client

/-! ## The way of the first client -/

/-- **Two stores match for a session and a namespace**: they agree below its root, and the way to
the root is free in both. -/
structure Store.Matches (n : Namespace) (s : Session) (st st' : Store) : Prop where
  echoes : st.Echoes (fun _ _ => True) False n n s st'
  approached : n.IsApproached st.tree
  approached' : n.IsApproached st'.tree

namespace Ensurer

variable {e : Ensurer} {n : Namespace} {s : Session} {st st' : Store} {p above z : String}
  {ps : List String}

theorem fixRequest_request (e : Ensurer) (n : Namespace) (p : String) :
    n.fixRequest (e.request p) = e.request (n.fix p) := by
  unfold request
  split <;> rfl

/-- What is there stays there on the way to a path. -/
theorem isSome_createLineage (hacl : e.acl = .worldOpen) (hp : (st.tree.footing? p).isSome) :
    ((createLineage (Store.link s) e ps st).2.tree.footing? p).isSome := by
  refine createLineage_keeps (P := fun st : Store => (st.tree.footing? p).isSome) ?_ hp
  intro q _ st hst
  exact Store.submit_keeps (P := fun t => (t.footing? p).isSome) (fun _ _ h => h)
    (fun _ _ _ _ h happlied => happlied.isSome_footing? h fun _ => isOpening_request hacl q) hst

theorem isApproached_submit (hacl : e.acl = .worldOpen) (hproper : n.IsBelow Path.root)
    (h : n.IsApproached st.tree) (s : Session) (p : String) :
    n.IsApproached (st.submit s (e.request p)).2.tree := by
  have hclears : n.Clears st.tree (st.submit s (e.request p)).2.tree :=
    Store.submit_keeps (P := n.Clears st.tree) (fun _ _ h => h.counted _)
      (fun _ _ _ _ h happlied => h.applied hproper happlied fun _ _ _ => isOpening_request hacl p)
      h.clears
  exact hclears.approached

/-- Below an open node the work goes on, and the node is there. -/
theorem createLineage_cons_of_open (hacl : e.acl = .worldOpen) (hst : st.Serves s)
    (hp : Path.isValid p) (habove : Path.parent? p = some above)
    (hthere : (st.tree.footing? above).isSome) (hfree : st.tree.IsFree above) (ps : List String) :
    createLineage (Store.link s) e (p :: ps) st =
        createLineage (Store.link s) e ps (st.submit s (e.request p)).2 ∧
      ((st.submit s (e.request p)).2.tree.footing? p).isSome := by
  obtain ⟨hresult, hpresent⟩ := hst.submit_of_open (isOpening_request hacl p)
    (by rwa [path_request]) (by rwa [path_request]) hthere hfree
  rw [path_request] at hresult hpresent
  refine ⟨?_, hpresent⟩
  have hlink : (Store.link s).submit st (e.request p) =
      ((st.submit s (e.request p)).1, (st.submit s (e.request p)).2) := rfl
  rw [createLineage, hlink]
  rcases hresult with ⟨a, hresult⟩ | hresult
  · rw [hresult]
  · rw [hresult]
    rfl

/-- **The way to a root can be gone** if it is free. -/
theorem exists_createLineage_of_approached (hacl : e.acl = .worldOpen) (hst : st.Serves s)
    (hproper : n.IsBelow Path.root) (h : n.IsApproached st.tree)
    (hchain : (above :: ps).IsChain fun p q => Path.parent? q = some p)
    (hps : ∀ p ∈ ps, Path.Precedes p (n.fix Path.root)) (hthere : (st.tree.footing? above).isSome) :
    ∃ st₁, createLineage (Store.link s) e ps st = (.ok (), st₁) ∧
      ∀ p ∈ above :: ps, (st₁.tree.footing? p).isSome := by
  -- each node is below the one before it, which is there by then
  induction ps generalizing above st with
  | nil => exact ⟨st, rfl, by simpa using hthere⟩
  | cons p ps ih =>
    obtain ⟨habove, hrest⟩ := List.isChain_cons_cons.mp hchain
    have hup := hps p List.mem_cons_self
    obtain ⟨hnext, hpresent⟩ := createLineage_cons_of_open hacl hst hup.isValid_left habove hthere
      (h.free above (.of_parent? hup habove)) ps
    have hkept := isApproached_submit hacl hproper h s p
    obtain ⟨st₁, hdone, hall⟩ := ih (hst.submit hst _) hkept hrest
      (fun q hq => hps q (List.mem_cons_of_mem _ hq)) hpresent
    refine ⟨st₁, hnext.trans hdone, ?_⟩
    -- the node above was there all the time
    have hstays : ((createLineage (Store.link s) e (p :: ps) st).2.tree.footing? above).isSome :=
      isSome_createLineage hacl hthere
    rw [hnext, hdone] at hstays
    simpa [hstays] using hall

/-! ### On both sides -/

/-- A refusal lets the work go on in both stores or in neither. -/
theorem tolerates_of_echoes (h : st.Echoes (fun _ _ => True) False n n s st') (hn : n.IsWellFormed)
    (hp : Path.isValid p) (refusal : StoreError) :
    (tolerates (Store.link s) st (n.fix p) refusal = .ok () ∧
        tolerates (Store.link s) st' (n.fix p) refusal = .ok ()) ∨
      (tolerates (Store.link s) st (n.fix p) refusal = .error refusal ∧
        tolerates (Store.link s) st' (n.fix p) refusal = .error refusal) := by
  obtain ⟨z, z', hlook, hlook', hrel⟩ := h.exists? hn hn hp
  unfold tolerates
  split
  · exact .inl ⟨rfl, rfl⟩
  · simp only [Store.link, hlook, hlook']
    cases hrel with
    | none => exact .inr ⟨rfl, rfl⟩
    | some => exact .inl ⟨rfl, rfl⟩
  · exact .inr ⟨rfl, rfl⟩

/-- Above the root a create does not touch what the namespace reaches. -/
theorem node?_submit (hacl : e.acl = .worldOpen) (hn : n.IsWellFormed)
    (hout : ¬ Path.Precedes (n.fix Path.root) p) (st : Store) (s : Session) (q : String)
    (hq : Path.isValid q) :
    (st.submit s (e.request p)).2.tree.node? (n.fix q) = st.tree.node? (n.fix q) := by
  refine Store.submit_keeps (P := fun t => t.node? (n.fix q) = st.tree.node? (n.fix q))
    (fun _ _ h => h) ?_ rfl
  intro t stamp a t' ht happlied
  have htarget := happlied.target_of_opening (isOpening_request hacl p)
  rw [path_request] at htarget
  have hvalid : Path.isValid p := by
    have := happlied.isValid_path
    rwa [path_request] at this
  have hself : Path.Precedes ((e.request p).target a) p := by
    rw [htarget]
    exact .refl hvalid
  rw [happlied.node?_eq_of_precedes hself fun hup => hout ((hn.precedes_fix hq).trans hup), ht]

/-- One create on the way to a path of the namespace keeps the stores matching. -/
theorem matches_submit (hacl : e.acl = .worldOpen) (hn : n.IsWellFormed)
    (hproper : n.IsBelow Path.root) (h : st.Matches n s st') (hp : Path.isValid p)
    (habove : Path.parent? p = some above)
    (hthere : ¬ Path.Precedes (n.fix Path.root) above →
      (st.tree.footing? above).isSome ∧ (st'.tree.footing? above).isSome) :
    (Path.Precedes (n.fix Path.root) p →
        Agree (StoreError.Echoes n n) (Answer.Echoes (fun _ _ => True) n n)
          (st.submit s (e.request p)).1 (st'.submit s (e.request p)).1) ∧
      (st.submit s (e.request p)).2.Matches n s (st'.submit s (e.request p)).2 := by
  have happroached := isApproached_submit hacl hproper h.approached s p
  have happroached' := isApproached_submit hacl hproper h.approached' s p
  by_cases hin : Path.Precedes (n.fix Path.root) p
  · obtain ⟨q, hq, rfl⟩ := hn.exists_fix_iff.mpr hin
    have hsuits : Tree.Suits False n n st.tree st'.tree (e.request q) := by
      refine ⟨by rwa [path_request], fun hroot => ⟨?_, fun _ => ⟨not_false, ?_⟩⟩⟩
      · rw [Request.isSequential, mode?_request]
        exact e.isSequential_mode
      · -- the root itself comes below a node that is there in both stores
        rw [path_request] at hroot
        rw [hroot] at habove
        obtain ⟨hthere, hthere'⟩ := hthere (Namespace.IsBelow.of_parent?
          (.refl (hn.isValid_fix (by decide))) habove).not_precedes
        exact ⟨h.approached.admits hn habove hthere, h.approached'.admits hn habove hthere'⟩
    obtain ⟨hagree, hechoes⟩ := h.echoes.submit hn hn (fun _ _ _ => trivial) hsuits
    rw [fixRequest_request] at hagree hechoes
    exact ⟨fun _ => hagree, hechoes, happroached, happroached'⟩
  · refine ⟨fun hin' => absurd hin' hin, ⟨?_, ?_, ?_⟩, happroached, happroached'⟩
    · exact h.echoes.serves.submit h.echoes.serves _
    · exact h.echoes.serves'.submit h.echoes.serves' _
    · exact h.echoes.tree.of_same (node?_submit hacl hn hin st s) (node?_submit hacl hn hin st' s)

/-- **Both sides go the way to a path of the namespace alike.** -/
theorem createLineage_of_matches (hacl : e.acl = .worldOpen) (hn : n.IsWellFormed)
    (hproper : n.IsBelow Path.root)
    (hchain : (above :: ps).IsChain fun p q => Path.parent? q = some p)
    (hz : Path.Precedes (n.fix Path.root) z) (hps : ∀ p ∈ ps, Path.Precedes p z)
    (hthere : ¬ Path.Precedes (n.fix Path.root) above →
      (st.tree.footing? above).isSome ∧ (st'.tree.footing? above).isSome)
    (h : st.Matches n s st') :
    Agree (StoreError.Echoes n n) (fun _ _ => True) (createLineage (Store.link s) e ps st).1
        (createLineage (Store.link s) e ps st').1 ∧
      (createLineage (Store.link s) e ps st).2.Matches n s
        (createLineage (Store.link s) e ps st').2 := by
  induction ps generalizing above st st' with
  | nil => exact ⟨.ok trivial, h⟩
  | cons p ps ih =>
    obtain ⟨habove, hrest⟩ := List.isChain_cons_cons.mp hchain
    have hup := hps p List.mem_cons_self
    have hvalid : Path.isValid p := hup.isValid_left
    have hps : ∀ q ∈ ps, Path.Precedes q z := fun q hq => hps q (List.mem_cons_of_mem _ hq)
    obtain ⟨hagree, hnext⟩ := matches_submit hacl hn hproper h hvalid habove hthere
    by_cases hin : Path.Precedes (n.fix Path.root) above
    · -- below the root the answers decide how the work goes on
      have hdown := hin.trans (Path.precedes_of_parent? hvalid habove)
      have hagree := hagree hdown
      have hfurther := ih hrest hps (fun hout => absurd hdown hout) hnext
      have hlink : ∀ st : Store, (Store.link s).submit st (e.request p) =
          ((st.submit s (e.request p)).1, (st.submit s (e.request p)).2) := fun _ => rfl
      rw [createLineage, createLineage, hlink, hlink]
      generalize (st.submit s (e.request p)).2 = st₁ at hnext hfurther ⊢
      generalize (st'.submit s (e.request p)).2 = st₁' at hnext hfurther ⊢
      generalize (st.submit s (e.request p)).1 = x at hagree ⊢
      generalize (st'.submit s (e.request p)).1 = x' at hagree ⊢
      cases hagree with
      | ok => exact hfurther
      | @error refusal refusal' hrefusal =>
        obtain rfl : refusal' = refusal := (StoreError.renders_id n).echoes _ _ hrefusal
        obtain ⟨q, hq, rfl⟩ := hn.exists_fix_iff.mpr hdown
        rcases tolerates_of_echoes hnext.echoes hn hq refusal' with ⟨hgo, hgo'⟩ | ⟨hstop, hstop'⟩
        · simp only [hgo, hgo']
          exact hfurther
        · simp only [hstop, hstop']
          exact ⟨.error hrefusal, hnext⟩
    · -- above it the node is there on both sides, or is created
      have hbelow : n.IsBelow above := by
        have hway := (Path.precedes_of_parent? hvalid habove).trans hup
        refine ⟨(hz.comparable hway).resolve_left hin, ?_⟩
        rintro rfl
        exact hin (.refl hz.isValid_left)
      obtain ⟨hthere, hthere'⟩ := hthere hin
      obtain ⟨hgo, hpresent⟩ := createLineage_cons_of_open hacl h.echoes.serves hvalid habove hthere
        (h.approached.free above hbelow) ps
      obtain ⟨hgo', hpresent'⟩ := createLineage_cons_of_open hacl h.echoes.serves' hvalid habove
        hthere' (h.approached'.free above hbelow) ps
      rw [hgo, hgo']
      exact ih hrest hps (fun _ => ⟨hpresent, hpresent'⟩) hnext

/-- **One attempt at a path** is made alike on both sides. -/
theorem attempt_of_matches (hacl : e.acl = .worldOpen) (hn : n.IsWellFormed)
    (hproper : n.IsBelow Path.root) (hp : Path.isValid p)
    (hz : Path.Precedes (n.fix Path.root) (e.space.fix p)) (hspace : e.space.IsWellFormed)
    (h : st.Matches n s st') :
    Agree (StoreError.Echoes n n) (fun _ _ => True) (attempt (Store.link s) e p st).1
        (attempt (Store.link s) e p st').1 ∧
      (attempt (Store.link s) e p st).2.Matches n s (attempt (Store.link s) e p st').2 := by
  have hvalid := hspace.isValid_fix hp
  exact createLineage_of_matches hacl hn hproper (Path.isChain_lineage hvalid) hz
    (fun q hq => (Path.precedes_iff_mem_lineage hvalid).mpr (.inr hq))
    (fun _ => ⟨h.approached.start, h.approached'.start⟩) h

end Ensurer

end Coordination
