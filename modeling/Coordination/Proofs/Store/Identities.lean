import Coordination.Proofs.Store.Effects

/-!
# Sessions that have proved more

A session holds a permission when one grant gives it to one of the identities that the session has
proved, so a session that has proved more holds all the permissions that it would hold otherwise.
Every operation asks for permissions in one place, and goes on in the same way once they are held.
So of two sessions with one number, of which one has proved all that the other has proved, both are
served alike, or the one that has proved less is refused for lack of a permission. A batch is no
different: up to the first request that is refused for lack of a permission both go through the same
trees.

## Main definitions

* `Session.Within`: one session has proved all that another one has proved

## Main results

* `Tree.apply_eq_or_noAuth`, `Tree.applyAll_eq_or_noAuth`: one request, and a batch
* `Store.identities_only_add`: what a session gains from having proved more
-/

namespace Coordination

variable {s s' : Session} {stamp : Int} {p : String}

/-- **One session has proved all that another one has proved**, and they have the same number. -/
structure Session.Within (s s' : Session) : Prop where
  id : s'.id = s.id
  identities : s.identities ⊆ s'.identities

/-! ## Nodes -/

theorem Node.Grants.mono {n : Node} {perm : Permissions} (h : n.Grants s perm)
    (hs : s.Within s') : n.Grants s' perm := by
  obtain ⟨g, hg, hperm, hidentity⟩ := h
  exact ⟨g, hg, hperm, hidentity.imp_right fun hmem => hs.identities hmem⟩

theorem Node.permits_mono {n : Node} {perm : Permissions} (hs : s.Within s')
    (h : n.permits s perm) : n.permits s' perm :=
  permits_iff.mpr ((permits_iff.mp h).mono hs)

/-! ## Trees -/

namespace Tree

variable {t : Tree}

/-- What a session owns it owns by its number. -/
theorem freshStat_of_within (hs : s.Within s') (data : ByteArray) (mode : CreateMode) :
    freshStat s' data mode stamp = freshStat s data mode stamp := by
  rw [freshStat, hs.id]
  rfl

theorem create_eq_or_noAuth (hs : s.Within s') (t : Tree) (stamp : Int) (p : String)
    (data : ByteArray) (acl : Acl) (mode : CreateMode) :
    t.create s' stamp p data acl mode = t.create s stamp p data acl mode ∨
      t.create s stamp p data acl mode = .error .noAuth := by
  unfold create
  cases Path.parent? p with
  | none => exact .inl rfl
  | some above =>
    dsimp only
    cases t.node? above with
    | none => exact .inl rfl
    | some parent =>
      by_cases hpermits : parent.permits s .create = true
      · -- both go on below the same parent, and own what they create by the same number
        have hpermits' : parent.permits s' .create = true := Node.permits_mono hs hpermits
        simp only [hpermits, hpermits', freshStat_of_within hs]
        exact .inl trivial
      · exact .inr (if_pos (by simpa using hpermits))

theorem delete_eq_or_noAuth (hs : s.Within s') (t : Tree) (p : String) (version : Int32)
    (asContainer : Bool) :
    t.delete s' p version asContainer = t.delete s p version asContainer ∨
      t.delete s p version asContainer = .error .noAuth := by
  unfold delete
  cases Path.parent? p with
  | none => exact .inl rfl
  | some above =>
    dsimp only
    cases t.node? above with
    | none => exact .inl rfl
    | some parent =>
      by_cases hpermits : parent.permits s .delete = true
      · have hpermits' : parent.permits s' .delete = true := Node.permits_mono hs hpermits
        simp only [hpermits, hpermits']
        exact .inl trivial
      · -- without the permission only containers may be deleted, by everybody
        cases asContainer with
        | true => exact .inl rfl
        | false => exact .inr (if_pos (by simpa using hpermits))

theorem setData_eq_or_noAuth (hs : s.Within s') (t : Tree) (stamp : Int) (p : String)
    (data : ByteArray) (version : Int32) :
    t.setData s' stamp p data version = t.setData s stamp p data version ∨
      t.setData s stamp p data version = .error .noAuth := by
  unfold setData
  cases t.node? p with
  | none => exact .inl rfl
  | some node =>
    by_cases hpermits : node.permits s .write = true
    · have hpermits' : node.permits s' .write = true := Node.permits_mono hs hpermits
      simp only [hpermits, hpermits']
      exact .inl trivial
    · exact .inr (if_pos (by simpa using hpermits))

/-- **A request is served alike, or is refused to the session that has proved less.** -/
theorem apply_eq_or_noAuth (hs : s.Within s') (t : Tree) (stamp : Int) (r : Request) :
    t.apply s' stamp r = t.apply s stamp r ∨ t.apply s stamp r = .error .noAuth := by
  unfold apply
  by_cases hvalid : Path.isValid r.path = true
  · simp only [hvalid]
    cases r with
    | create p data acl mode => exact create_eq_or_noAuth hs t stamp p data acl mode
    | createContainer p data acl => exact create_eq_or_noAuth hs t stamp p data acl .container
    | delete p version => exact delete_eq_or_noAuth hs t p version false
    | deleteContainer p => exact delete_eq_or_noAuth hs t p anyVersion true
    | setData p data version => exact setData_eq_or_noAuth hs t stamp p data version
    | check p version => exact .inl rfl
  · simp only [hvalid]
    exact .inl rfl

/-- **So is a batch**: both sessions go through the same trees, up to the request that is refused to
the session that has proved less. -/
theorem applyAll_eq_or_noAuth (hs : s.Within s') (t : Tree) (stamp : Int) (index : Nat)
    (rs : List Request) :
    t.applyAll s' stamp index rs = t.applyAll s stamp index rs ∨
      ∃ i, t.applyAll s stamp index rs = .error (i, .noAuth) := by
  induction rs generalizing t index with
  | nil => exact .inl rfl
  | cons r rs ih =>
    rw [applyAll, applyAll]
    rcases apply_eq_or_noAuth hs t stamp r with hsame | hrefused
    · rw [hsame]
      cases t.apply s stamp r with
      | error code => exact .inl rfl
      | ok result =>
        rcases ih result.2 (index + 1) with hrest | ⟨i, hrest⟩
        · simp only [hrest]
          exact .inl trivial
        · exact .inr ⟨i, by simp only [hrest]⟩
    · exact .inr ⟨index, by rw [hrefused]⟩

end Tree

/-! ## Stores -/

namespace Store

variable {st : Store} {α : Type} {work work' : Store → Except StoreError α × Store}

/-- Sessions with one number are let in alike. -/
theorem receive_of_within (hs : s.Within s') (st : Store)
    (work : Store → Except StoreError α × Store) : st.receive s' work = st.receive s work := by
  unfold receive isClosed hasExpired
  rw [hs.id]

/-- What comes of a call is what comes of its work on the tree that there is. -/
theorem receive_congr (hwork : ∀ st' : Store, st'.tree = st.tree → work' st' = work st') :
    st.receive s work' = st.receive s work := by
  refine Prod.ext ?_ ?_
  · rw [fst_receive, fst_receive, hwork (st.admitted s) rfl]
  · rw [snd_receive, snd_receive, hwork (st.admitted s) rfl]

/-- A call of a session that is not connected comes to nothing, whatever its work is. -/
theorem receive_of_disconnected (h : st.isConnected s = false) :
    st.receive s work' = st.receive s work := by
  have hout : st.letsIn s = false := by rw [letsIn, h, Bool.false_and]
  refine Prod.ext ?_ ?_
  · rw [fst_receive, fst_receive]
    by_cases hclosed : st.isClosed s = true
    · rw [if_pos hclosed, if_pos hclosed]
    · have hexpired : st.hasExpired s = true := by simpa [isConnected, hclosed] using h
      rw [if_neg hclosed, if_neg hclosed, if_pos hexpired, if_pos hexpired]
  · rw [snd_receive, snd_receive, hout]
    rfl

/-- A fault that strikes before a call keeps it from the tree. -/
theorem letsIn_of_beforeApply {f : Fault} (h : st.struck? s = some f)
    (htiming : f.timing = .beforeApply) : st.letsIn s = false := by
  rw [struck?] at h
  split at h
  · rw [letsIn, h, Option.all_some, htiming]
    exact Bool.and_false _
  · cases h

/-- **A call whose outcome the permissions of its session decide**: there are two outcomes, that of
the session that has proved less and that of the one that has proved more, and `refusal` says with
which errors the tree refuses the former for lack of a permission. -/
structure OnlyAdds (st : Store) (s : Session) (refusal : StoreError → Prop)
    (less more : Except StoreError α × Store) : Prop where
  /-- What succeeds goes on to succeed, with the same answer and the same store. -/
  success : ∀ a, less.1 = .ok a → more = less
  /-- Sessions that are not told the same lack a permission, or have one. -/
  answer : more.1 ≠ less.1 → ∃ e, refusal e ∧ less.1 = .error e
  /-- So do sessions that do not do the same, but a fault may keep it from both. -/
  effect : more ≠ less → ∃ e, refusal e ∧
    (less.1 = .error e ∨ ∃ f, st.struck? s = some f ∧ f.timing = .afterApply ∧
      less.1 = .error (plainError f.code) ∧ more.1 = .error (plainError f.code))

/-- Work that is the same for both, or is refused to the one, makes such a call. -/
theorem onlyAdds_receive {refusal : StoreError → Prop} (hs : s.Within s')
    (hwork : (∀ st' : Store, st'.tree = st.tree → work' st' = work st') ∨
      ∃ e, refusal e ∧ ∀ st' : Store, st'.tree = st.tree → (work st').1 = .error e) :
    st.OnlyAdds s refusal (st.receive s work) (st.receive s' work') := by
  rw [receive_of_within hs]
  rcases hwork with hsame | ⟨e, he, hrefused⟩
  · rw [receive_congr hsame]
    exact ⟨fun _ _ => rfl, fun hne => absurd rfl hne, fun hne => absurd rfl hne⟩
  · cases hconnected : st.isConnected s with
    | false =>
      rw [receive_of_disconnected hconnected]
      exact ⟨fun _ _ => rfl, fun hne => absurd rfl hne, fun hne => absurd rfl hne⟩
    | true =>
      obtain ⟨hopen, hlive⟩ := isConnected_iff.mp hconnected
      have hless := fst_receive st s work
      have hmore := fst_receive st s work'
      rw [hopen, hlive] at hless hmore
      cases hstruck : st.struck? s with
      | none =>
        -- the session that has proved less is told the refusal
        have htold : (st.receive s work).1 = .error e := by
          rw [hstruck] at hless
          exact hless.trans (hrefused (st.admitted s) rfl)
        refine ⟨fun a ha => ?_, fun _ => ⟨e, he, htold⟩, fun _ => ⟨e, he, .inl htold⟩⟩
        rw [htold] at ha
        cases ha
      | some f =>
        -- both are told the fault, and what they do differs only if the fault comes afterwards
        rw [hstruck] at hless hmore
        refine ⟨fun a ha => ?_, fun hne => absurd (hmore.trans hless.symm) hne, fun hne => ?_⟩
        · rw [hless] at ha
          cases ha
        · refine ⟨e, he, .inr ⟨f, hstruck, ?_, hless, hmore⟩⟩
          cases htiming : f.timing with
          | afterApply => rfl
          | beforeApply =>
            refine absurd (Prod.ext (hmore.trans hless.symm) ?_) hne
            rw [snd_receive, snd_receive, letsIn_of_beforeApply hstruck htiming]
            rfl

/-- **Having proved more takes nothing away.** Take any store and two sessions with one number, of
which one has proved all that the other has proved, whether they are connected or not. What a
request or a batch comes to for the one that has proved less, answer and store, if it succeeds, it
comes to for the other. If the two are told different things, the one that has proved less is told
that it lacks a permission. And if anything at all is different, that is what the tree has refused
it for; a fault that strikes after the call may then be all that either is told. -/
theorem identities_only_add (hs : s.Within s') (st : Store) :
    (∀ r, st.OnlyAdds s
      (fun e => st.tree.apply s (st.tree.transaction + 1) r = .error .noAuth ∧
        e = .refused .noAuth (some r.path))
      (st.submit s r) (st.submit s' r)) ∧
    ∀ rs, st.OnlyAdds s
      (fun e => ∃ i, st.tree.applyAll s (st.tree.transaction + 1) 0 rs = .error (i, .noAuth) ∧
        e = .abortedBatch rs.length i .noAuth)
      (st.multi s rs) (st.multi s' rs) := by
  refine ⟨fun r => onlyAdds_receive hs ?_, fun rs => onlyAdds_receive hs ?_⟩
  · rcases Tree.apply_eq_or_noAuth hs st.tree (st.tree.transaction + 1) r with hsame | hrefused
    · left
      intro st' hst'
      rw [applyOne, applyOne, hst', hsame]
    · right
      refine ⟨_, ⟨hrefused, rfl⟩, fun st' hst' => ?_⟩
      rw [← hst'] at hrefused
      rw [applyOne_of_refused hrefused]
  · rcases Tree.applyAll_eq_or_noAuth hs st.tree (st.tree.transaction + 1) 0 rs with
      hsame | ⟨i, hrefused⟩
    · left
      intro st' hst'
      rw [applyBatch, applyBatch, hst', hsame]
    · right
      refine ⟨_, ⟨i, hrefused, rfl⟩, fun st' hst' => ?_⟩
      rw [applyBatch, hst', hrefused]

/-- What somebody wants who has proved to be Bob, or nothing: a node of Bob's rewritten, after one
that is open to everybody. -/
def someIntrusion : List Request :=
  [.create "/open" ByteArray.empty .worldOpen .persistent,
    .setData "/safe" "mine".toUTF8 anyVersion]

theorem identities_only_add_of_someLocks :
    let st := Move.run .initial someLocks
    let late := st.failAfter .connectionLoss 1
    let r : Request := .createContainer "/safe/c" ByteArray.empty .worldOpen
    (Session.Within ⟨2, []⟩ ⟨2, [⟨"digest", "bob"⟩]⟩) ∧
    (st.submit ⟨2, []⟩ r).1 = .error (.refused .noAuth (some "/safe/c")) ∧
    (∃ i, (st.multi ⟨2, []⟩ someIntrusion).1 = .error (.abortedBatch 2 i .noAuth)) ∧
    late.tree.apply ⟨2, []⟩ 2 r = .error .noAuth ∧
    (late.submit ⟨2, [⟨"digest", "bob"⟩]⟩ r).1 = .error (plainError .connectionLoss) := by
  intro st late r
  have hs : Session.Within ⟨2, []⟩ ⟨2, [⟨"digest", "bob"⟩]⟩ := ⟨rfl, List.nil_subset _⟩
  obtain ⟨hsubmit, hmulti⟩ := identities_only_add hs st
  obtain ⟨hlate, -⟩ := identities_only_add hs late
  refine ⟨hs, ?_, ?_, ?_⟩
  · obtain ⟨e, ⟨-, rfl⟩, he⟩ := (hsubmit r).answer (by decide +kernel)
    exact he
  · obtain ⟨e, ⟨i, -, rfl⟩, he⟩ := (hmulti someIntrusion).answer (by decide +kernel)
    exact ⟨i, he⟩
  · -- both are told that the connection was lost, but only one of them has created the node
    obtain ⟨e, ⟨hrefused, rfl⟩, -⟩ := (hlate r).effect (by decide +kernel)
    refine ⟨hrefused, ?_⟩
    decide +kernel

end Store

end Coordination
