import Mathlib.Data.List.DropRight
import Coordination.Proofs.Store.Journal

/-!
# Versions count updates

A node has three versions. Each is a count of something that the journal enters since the node has
come: how often its data have been replaced, how often its access list has, how often a child has
come or gone. So a request that names a version is let through just if that many updates have been
made, and of two writers who have seen the same version only one succeeds, whatever else happens in
between.

Versions are 32-bit words and run over; what they count is what they are as long as the counts fit.

## Main definitions

* `Entry.life`: the journal since a node has come
* `Entry.writes`, `Entry.grants`, `Entry.comings`, `Entry.goings`: what versions count
* `Tree.Tallied`: the counters of a tree agree with a journal

## Main results

* `Tree.Tallied.edit`, `Tree.Tallied.edits`: what an entry does to a tree keeps the counters right
* `Store.tallied_journal`: the counters agree with the journal of every run
* `Store.versions_count`: what a node's versions are, and whom they let through
-/

namespace Coordination

namespace Entry

variable {p : String} {e : Entry} {es : List Entry} {v : Int32}

/-! ## The life of a node -/

/-- The entries of a journal since the node at a path has come, all of them if none has come. -/
def life (p : String) (es : List Entry) : List Entry := es.rtakeWhile (· ≠ added p)

/-- Whether an entry replaces the data of the node at a path. -/
def isWrite (p : String) : Entry → Bool
  | written q _ => q == p
  | _ => false

/-- Whether an entry adds a child to the node at a path. -/
def isComing (p : String) : Entry → Bool
  | added q => Path.parent? q == some p
  | _ => false

/-- Whether an entry removes a child from the node at a path. -/
def isGoing (p : String) : Entry → Bool
  | removed q => Path.parent? q == some p
  | _ => false

/-- How often the data of the node at a path are replaced. -/
def writes (p : String) (es : List Entry) : Nat := es.countP (isWrite p)

/-- How often the access list of the node at a path is replaced. -/
def grants (p : String) (es : List Entry) : Nat := es.count (granted p)

/-- How often a child of the node at a path comes. -/
def comings (p : String) (es : List Entry) : Nat := es.countP (isComing p)

/-- How often a child of the node at a path goes. -/
def goings (p : String) (es : List Entry) : Nat := es.countP (isGoing p)

theorem life_snoc (p : String) (es : List Entry) (e : Entry) :
    life p (es ++ [e]) = if e = added p then [] else life p es ++ [e] := by
  rw [life, List.rtakeWhile_concat]
  by_cases h : e = added p <;> simp [h, life]

theorem added_notMem_life (p : String) (es : List Entry) : added p ∉ life p es := fun h => by
  simpa using List.mem_rtakeWhile_imp h

theorem life_eq_of_notMem (h : added p ∉ es) : life p es = es := by
  refine List.rtakeWhile_eq_self_iff.mpr fun e he => ?_
  have hne : e ≠ added p := fun heq => h (heq ▸ he)
  simpa using hne

/-- A journal that has a node come ends in the node's life. -/
theorem exists_eq_append_life (h : added p ∈ es) :
    ∃ before, es = before ++ added p :: life p es := by
  induction es using List.reverseRecOn with
  | nil => cases h
  | append_singleton es e ih =>
    rw [life_snoc]
    by_cases he : e = added p
    · exact ⟨es, by rw [if_pos he, he]⟩
    · obtain ⟨before, hbefore⟩ := ih (by simpa [Ne.symm he] using h)
      refine ⟨before, ?_⟩
      rw [if_neg he, ← List.cons_append, ← List.append_assoc, ← hbefore]

/-- Whether an entry is about the node at a path, or about a child of it. -/
def Concerns (p : String) (e : Entry) : Prop :=
  e = added p ∨ e = removed p ∨ isWrite p e ∨ e = granted p ∨ isComing p e ∨ isGoing p e

/-! ## Tallies -/

/-- **The counters of the node at a path agree with a journal.** The node has come and has not gone
since, and no version below the present one has been named by two writers. -/
structure Tally (es : List Entry) (p : String) (n : Node) : Prop where
  /-- The node has come, unless it is the root. -/
  came : p ≠ Path.root → added p ∈ es
  /-- It has stayed since. -/
  stays : removed p ∉ life p es
  /-- The version counts writers. -/
  version : n.stat.version = Int32.ofNat (writes p (life p es))
  /-- The version of the access list counts grants. -/
  aclVersion : n.stat.aclVersion = Int32.ofNat (grants p (life p es))
  /-- The version of the children counts children that have come or gone. -/
  childVersion :
    n.stat.childVersion = Int32.ofNat (comings p (life p es) + goings p (life p es))
  /-- The children that have come and have not gone are there. -/
  children : n.children.size + goings p (life p es) = comings p (life p es)
  /-- Each version has been named by one writer at most, and none that is to come has been. -/
  once : writes p (life p es) < Nat.pow 2 31 → ∀ v : Int32, 0 ≤ v.toInt →
    (life p es).count (written p v) ≤ 1 ∧
      (writes p (life p es) ≤ v.toInt → (life p es).count (written p v) = 0)

variable {n n' : Node}

theorem writes_snoc (p : String) (es : List Entry) (e : Entry) :
    writes p (es ++ [e]) = writes p es + if isWrite p e then 1 else 0 := by
  simp [writes, List.countP_singleton]

theorem grants_snoc (p : String) (es : List Entry) (e : Entry) :
    grants p (es ++ [e]) = grants p es + if e = granted p then 1 else 0 := by
  simp [grants, List.count_singleton]

theorem comings_snoc (p : String) (es : List Entry) (e : Entry) :
    comings p (es ++ [e]) = comings p es + if isComing p e then 1 else 0 := by
  simp [comings, List.countP_singleton]

theorem goings_snoc (p : String) (es : List Entry) (e : Entry) :
    goings p (es ++ [e]) = goings p es + if isGoing p e then 1 else 0 := by
  simp [goings, List.countP_singleton]

/-- Only one who names the version that a node has counts as a writer, so no version is named
again. -/
theorem count_written_snoc (hversion : n.stat.version = Int32.ofNat (writes p es))
    (hlt : writes p (es ++ [e]) < Nat.pow 2 31)
    (hnames : ∀ u, e = written p u → Tree.Names u n.stat.version) (hv : 0 ≤ v.toInt)
    (honce : es.count (written p v) ≤ 1 ∧ (writes p es ≤ v.toInt → es.count (written p v) = 0)) :
    (es ++ [e]).count (written p v) ≤ 1 ∧
      (writes p (es ++ [e]) ≤ v.toInt → (es ++ [e]).count (written p v) = 0) := by
  rw [writes_snoc] at hlt ⊢
  rw [List.count_append, List.count_singleton]
  by_cases he : e = written p v
  · -- a version that is not negative is the present one, which nobody has named before
    have hpresent : v.toInt = writes p es := by
      rcases hnames v he with rfl | heq
      · exact absurd hv (by decide)
      · have hlt' : writes p es < Nat.pow 2 31 := by omega
        rw [heq, hversion, Int32.toInt_ofNat_of_lt hlt']
    have hwrite : isWrite p e = true := by simp [he, isWrite]
    rw [honce.2 (by omega), hwrite, if_pos (by simpa using he)]
    exact ⟨by omega, fun hle => by simp at hle; omega⟩
  · rw [if_neg (by simpa using he)]
    exact ⟨honce.1, fun hle => honce.2 (by omega)⟩

/-- **A tally goes on** when the counters follow what is entered and the node itself stays. -/
theorem Tally.snoc (h : Tally es p n) (hadded : e ≠ added p) (hremoved : e ≠ removed p)
    (hversion : n'.stat.version = n.stat.version + if isWrite p e then 1 else 0)
    (haclVersion : n'.stat.aclVersion = n.stat.aclVersion + if e = granted p then 1 else 0)
    (hchildVersion : n'.stat.childVersion = n.stat.childVersion +
      Int32.ofNat ((if isComing p e then 1 else 0) + if isGoing p e then 1 else 0))
    (hchildren : n'.children.size + (if isGoing p e then 1 else 0) =
      n.children.size + if isComing p e then 1 else 0)
    (hnames : ∀ v, e = written p v → Tree.Names v n.stat.version) : Tally (es ++ [e]) p n' := by
  have hlife : life p (es ++ [e]) = life p es ++ [e] := by rw [life_snoc, if_neg hadded]
  constructor
  · exact fun hr => List.mem_append_left _ (h.came hr)
  all_goals rw [hlife]
  · simpa [Ne.symm hremoved] using h.stays
  · rw [hversion, h.version, writes_snoc, Int32.ofNat_add]
    split <;> rfl
  · rw [haclVersion, h.aclVersion, grants_snoc, Int32.ofNat_add]
    split <;> rfl
  · rw [hchildVersion, h.childVersion, comings_snoc, goings_snoc, ← Int32.ofNat_add]
    congr 1
    omega
  · rw [comings_snoc, goings_snoc]
    have := h.children
    omega
  · intro hlt v hv
    have hlt' : writes p (life p es) < Nat.pow 2 31 := by
      rw [writes_snoc] at hlt
      omega
    exact count_written_snoc h.version hlt hnames hv (h.once hlt' v hv)

/-- A node's tally goes on when something happens elsewhere. -/
theorem Tally.snoc_of_not_concerns (h : Tally es p n) (he : ¬Concerns p e) :
    Tally (es ++ [e]) p n := by
  simp only [Concerns, not_or, Bool.not_eq_true] at he
  obtain ⟨hadded, hremoved, hwrite, hgranted, hcoming, hgoing⟩ := he
  refine h.snoc hadded hremoved ?_ ?_ ?_ ?_ ?_
  · simp [hwrite]
  · simp [hgranted]
  · simp [hcoming, hgoing]
  · simp [hcoming, hgoing]
  · rintro v rfl
    simp [isWrite] at hwrite

/-- It starts when the node comes. -/
theorem Tally.of_added {s : Session} {data : ByteArray} {acl : Acl} {mode : CreateMode}
    {stamp : Int} :
    Tally (es ++ [added p]) p (.leaf data acl (Tree.freshStat s data mode stamp) mode) := by
  have hlife : life p (es ++ [added p]) = [] := by rw [life_snoc, if_pos rfl]
  constructor
  · exact fun _ => by simp
  all_goals rw [hlife]
  · simp
  · rfl
  · rfl
  · rfl
  · rfl
  · simp

end Entry

/-! ## Trees -/

namespace Tree

variable {t t' : Tree} {stamp : Int} {e : Entry} {es fs : List Entry}

/-- **The counters of a tree agree with a journal.** -/
structure Tallied (es : List Entry) (t : Tree) : Prop where
  /-- The root never comes. -/
  root : .added Path.root ∉ es
  /-- Every node's counters agree. -/
  node : ∀ p n, t.node? p = some n → Entry.Tally es p n

theorem Tallied.initial : Tallied [] initial := by
  refine ⟨by simp, fun p n hn => ?_⟩
  rw [node?_initial] at hn
  split at hn
  · rename_i hp
    obtain rfl := Option.some.inj hn
    exact ⟨fun hr => absurd hp hr, by simp [Entry.life], rfl, rfl, rfl, rfl, by simp [Entry.life]⟩
  · cases hn

/-- The number of the last transaction is not counted. -/
theorem Tallied.transaction (h : Tallied es t) (z : Int) :
    Tallied es { t with transaction := z } := ⟨h.root, h.node⟩

/-- **What an entry does to a tree keeps the counters right.** -/
theorem Tallied.edit (h : Tallied es t) (he : t.Edit stamp e t') : Tallied (es ++ [e]) t' := by
  have hroot : e ≠ .added Path.root := by
    rintro rfl
    cases he with
    | added habove => exact Path.ne_root_of_parent? habove rfl
  refine ⟨by simpa [h.root] using Ne.symm hroot, fun p n hn => ?_⟩
  cases he with
  | @added s data acl mode above q parent habove hne hparent hnew hfresh =>
    rcases node?_attach_cases hn with ⟨rfl, rfl⟩ | ⟨hp, rfl, m, hm, rfl⟩ | ⟨hp, hpa, hn⟩
    · exact .of_added
    · obtain rfl : parent = m := Option.some.inj (hparent.symm.trans hm)
      have hadded : Entry.added q ≠ .added p := by simpa using Ne.symm hp
      refine (h.node p parent hparent).snoc hadded (by simp) ?_ ?_ ?_ ?_ (by simp)
      · simp [Entry.isWrite, Node.gain, Node.withChildren]
      · simp [Node.gain, Node.withChildren]
      · simp [Entry.isComing, Entry.isGoing, habove, Node.gain, Node.withChildren]
      · simp [Entry.isComing, Entry.isGoing, habove, Std.ExtTreeSet.size_insert, hnew]
    · refine (h.node p n hn).snoc_of_not_concerns ?_
      simp [Entry.Concerns, Entry.isWrite, Entry.isComing, Entry.isGoing, habove, Ne.symm hp,
        Ne.symm hpa]
  | @removed above q parent habove hne hparent hlisted =>
    obtain ⟨hp, ⟨rfl, m, hm, rfl⟩ | ⟨hpa, hn⟩⟩ := node?_remove_cases habove hne hn
    · obtain rfl : parent = m := Option.some.inj (hparent.symm.trans hm)
      have hremoved : Entry.removed q ≠ .removed p := by simpa using Ne.symm hp
      refine (h.node p parent hparent).snoc (by simp) hremoved ?_ ?_ ?_ ?_ (by simp)
      · simp [Entry.isWrite, Node.lose, Node.withChildren]
      · simp [Node.lose, Node.withChildren]
      · simp [Entry.isComing, Entry.isGoing, habove, Node.lose, Node.withChildren]
      · have hpos : parent.children.size ≠ 0 := fun hzero => by
          simp [Std.ExtTreeSet.eq_empty_iff_size_eq_zero.mpr hzero] at hlisted
        simp [Entry.isComing, Entry.isGoing, habove, Std.ExtTreeSet.size_erase, hlisted]
        omega
    · refine (h.node p n hn).snoc_of_not_concerns ?_
      simp [Entry.Concerns, Entry.isWrite, Entry.isComing, Entry.isGoing, habove, Ne.symm hp,
        Ne.symm hpa]
  | @written q data v node hnode hversion =>
    rcases node?_put_cases hn with ⟨rfl, rfl⟩ | ⟨hp, hn⟩
    · refine (h.node p node hnode).snoc (by simp) (by simp) ?_ ?_ ?_ ?_ ?_
      · simp [Entry.isWrite, writtenStat]
      · simp [writtenStat]
      · simp [Entry.isComing, Entry.isGoing, writtenStat]
      · simp [Entry.isComing, Entry.isGoing]
      · rintro v' heq
        simp at heq
        exact heq ▸ hversion
    · refine (h.node p n hn).snoc_of_not_concerns ?_
      simp [Entry.Concerns, Entry.isWrite, Entry.isComing, Entry.isGoing, Ne.symm hp]
  | @granted q acl node hnode =>
    rcases node?_put_cases hn with ⟨rfl, rfl⟩ | ⟨hp, hn⟩
    · refine (h.node p node hnode).snoc (by simp) (by simp) ?_ ?_ ?_ ?_ (by simp)
      · simp [Entry.isWrite]
      · simp
      · simp [Entry.isComing, Entry.isGoing]
      · simp [Entry.isComing, Entry.isGoing]
    · refine (h.node p n hn).snoc_of_not_concerns ?_
      simp [Entry.Concerns, Entry.isWrite, Entry.isComing, Entry.isGoing, Ne.symm hp]

/-- So do several entries. -/
theorem Tallied.edits (h : Tallied es t) (hs : Edits stamp t fs t') : Tallied (es ++ fs) t' :=
  hs.keeps (fun _ _ _ _ ht he => ht.edit he) h

/-! ### Requests that name a version -/

variable {s : Session} {r : Request} {v : Int32} {p : String} {n : Node}

/-- A request that is applied has named the version that it found, or none. -/
theorem Applied.names {a : Answer} (h : t.Applied s stamp r a t') (hv : r.version? = some v)
    (hn : t.node? r.path = some n) : Names v n.stat.version := by
  cases h with
  | created hmode => cases r <;> cases hmode <;> cases hv
  | deleted htype hvalid habove hparent hnode hpermits hversion =>
    obtain rfl := Option.some.inj (hnode.symm.trans hn)
    exact hversion v hv
  | dataSet hvalid hnode hpermits hversion =>
    obtain rfl := Option.some.inj (hnode.symm.trans hn)
    cases hv
    exact hversion
  | checked hvalid hnode hversion =>
    obtain rfl := Option.some.inj (hnode.symm.trans hn)
    cases hv
    exact hversion

theorem isOk_apply_check (hvalid : Path.isValid p) (hn : t.node? p = some n)
    (hnames : Names v n.stat.version) : (t.apply s stamp (.check p v)).isOk := by
  rw [apply_eq_ok_iff.mpr (.checked hvalid hn hnames)]
  rfl

/-- A request that is refused for its version has named another one than it found. -/
theorem not_names_of_apply (h : t.apply s stamp r = .error .badVersion)
    (hv : r.version? = some v) (hn : t.node? r.path = some n) : ¬Names v n.stat.version := by
  intro hnames
  have hok := checkVersion_eq_ok_iff.mpr hnames
  -- the only refusal for a version is that of the test, which has been passed
  cases r <;> cases hv <;> simp only [Request.path] at hn
  all_goals
    simp only [apply, delete, setData, check, Request.path, hn, hok] at h
    repeat' split at h
    all_goals cases h

end Tree

/-! ## Stores -/

namespace Store

variable {st : Store} {es : List Entry} {ms : List Move}

/-- **The counters agree with the journal of every run.** -/
theorem tallied_journal (hst : st.Reachable) (hms : Move.Legal st ms)
    (h : Tree.Tallied es st.tree) : Tree.Tallied (es ++ st.journal ms) (Move.run st ms).tree :=
  journal_keeps (fun _ _ z ht => ht.transaction z) (fun _ _ _ _ _ ht he => ht.edit he) hst hms h

/-- **Versions count updates.** In any run, whatever sessions do in it and whatever befalls them,
take a node that is there between two calls, or in a batch after some of its requests, and the
journal of its life. As long as the counts are below 2³¹, its version is the number of writers, the
version of its access list is the number of grants, and the version of its children is the number of
children that have come plus the number of those that have gone, so that it exceeds the number of
children by an even number. Of all writers who have named the same version only one has been let
through; and whoever names a version next passes the test just if so many have written. -/
theorem versions_count {s : Session} {rs : List Request} {as : List Answer} {t : Tree} {p : String}
    {n : Node} {life : List Entry} (hms : Move.Legal .initial ms) (hs : s.id ≠ 0)
    (hsend : (Move.run .initial ms).tree.send s rs = .ok (as, t)) (hn : t.node? p = some n)
    (hlife : Entry.life p (initial.journal ms ++ Entry.ofBatch rs as) = life)
    (hwrites : Entry.writes p life < Nat.pow 2 31) (hgrants : Entry.grants p life < Nat.pow 2 31)
    (hchildren : Entry.comings p life + Entry.goings p life < Nat.pow 2 31) :
    ((p = Path.root ∧ initial.journal ms ++ Entry.ofBatch rs as = life) ∨
      ∃ before, initial.journal ms ++ Entry.ofBatch rs as = before ++ .added p :: life) ∧
    .added p ∉ life ∧ .removed p ∉ life ∧
    n.stat.version.toInt = Entry.writes p life ∧
    n.stat.aclVersion.toInt = Entry.grants p life ∧
    n.stat.childVersion.toInt = Entry.comings p life + Entry.goings p life ∧
    n.stat.childVersion.toInt - n.stat.childCount.toInt = 2 * Entry.goings p life ∧
    ∀ v : Int32, 0 ≤ v.toInt →
      life.count (.written p v) ≤ 1 ∧
      (Tree.checkVersion v n.stat.version = .ok () ↔ v.toInt = Entry.writes p life) ∧
      ∀ r : Request, r.path = p → r.version? = some v → ∀ s' stamp,
        ((t.apply s' stamp r).isOk → v.toInt = Entry.writes p life) ∧
        (t.apply s' stamp r = .error .badVersion → v.toInt ≠ Entry.writes p life) ∧
        (r.type = .check → v.toInt = Entry.writes p life → (t.apply s' stamp r).isOk) := by
  have hreach : (Move.run .initial ms).Reachable := Reachable.initial.run hms
  have hjournal : Tree.Tallied ([] ++ initial.journal ms) (Move.run .initial ms).tree :=
    tallied_journal .initial hms .initial
  have htallied : Tree.Tallied (initial.journal ms ++ Entry.ofBatch rs as) t :=
    hjournal.edits (hreach.wellFormed.edits_of_applyAll hs hsend)
  have hwf : t.WellFormed := Tree.applyAll_keeps
    (fun _ _ _ _ _ ht happlied => ht.applied hs happlied) hreach.wellFormed hsend
  have htally := htallied.node p n hn
  have hfits := hwf.fits p n hn
  subst hlife
  have hversion := htally.version ▸ Int32.toInt_ofNat_of_lt hwrites
  have haclVersion := htally.aclVersion ▸ Int32.toInt_ofNat_of_lt hgrants
  have hchildVersion := htally.childVersion ▸ Int32.toInt_ofNat_of_lt hchildren
  have hchildCount : n.stat.childCount.toInt = n.children.size := by
    have hsize := htally.children
    have hlt : n.children.size < Nat.pow 2 31 := by omega
    rw [hfits.self.childCount, Int32.toInt_ofNat_of_lt hlt]
  -- a version that is not negative passes the test just if it is the node's
  have hnames : ∀ v : Int32, 0 ≤ v.toInt →
      (Tree.Names v n.stat.version ↔ v.toInt = n.stat.version.toInt) := by
    intro v hv
    rw [Int32.toInt_inj]
    refine ⟨fun h => h.resolve_left ?_, .inr⟩
    rintro rfl
    exact absurd hv (by decide)
  rw [← hversion]
  refine ⟨?_, Entry.added_notMem_life p _, htally.stays, rfl, haclVersion, by omega, ?_,
    fun v hv => ⟨(htally.once hwrites v hv).1, ?_, ?_⟩⟩
  · by_cases hr : p = Path.root
    · exact .inl ⟨hr, by rw [hr, Entry.life_eq_of_notMem htallied.root]⟩
    · exact .inr (Entry.exists_eq_append_life (htally.came hr))
  · have hsize := htally.children
    omega
  · rw [Tree.checkVersion_eq_ok_iff, hnames v hv]
  · rintro r rfl hr s' stamp
    refine ⟨fun hok => ?_, fun hbad => ?_, fun hcheck heq => ?_⟩
    · cases happly : t.apply s' stamp r with
      | error code => rw [happly] at hok; cases hok
      | ok result =>
        exact (hnames v hv).mp ((Tree.apply_eq_ok_iff.mp happly).names hr hn)
    · exact fun heq => Tree.not_names_of_apply hbad hr hn ((hnames v hv).mpr heq)
    · cases r <;> cases hcheck
      cases hr
      exact Tree.isOk_apply_check hfits.valid hn ((hnames v hv).mpr heq)

/-- Two sessions write to a node, one of them without hearing of it, and a guest comes and goes. -/
def someUpdates : List Move :=
  [.connect [], .connect [],
    .submit ⟨1, []⟩ (.create "/n" ByteArray.empty .worldOpen .persistent),
    .submit ⟨1, []⟩ (.setData "/n" ByteArray.empty 0),
    .submit ⟨2, []⟩ (.setData "/n" ByteArray.empty 0),
    .setAcl ⟨2, []⟩ "/n" .worldOpen 0,
    .multi ⟨2, []⟩
      [.create "/n/guest" ByteArray.empty .worldOpen .ephemeral,
        .create "/n/stay" ByteArray.empty .worldOpen .persistent],
    .failAfter .connectionLoss 1,
    .submit ⟨2, []⟩ (.setData "/n" ByteArray.empty anyVersion),
    .expire 2]

theorem versions_count_after_someUpdates :
    ∃ n, (Move.run .initial someUpdates).tree.node? "/n" = some n ∧
      n.stat.version.toInt = 2 ∧ n.stat.aclVersion.toInt = 1 ∧ n.stat.childVersion.toInt = 3 ∧
      n.stat.childVersion.toInt - n.stat.childCount.toInt = 2 ∧
      ∀ v : Int32, 0 ≤ v.toInt → (Tree.checkVersion v n.stat.version = .ok () ↔ v.toInt = 2) := by
  have hlegal : Move.Legal .initial someUpdates := by decide +kernel
  -- a batch that only looks at the version sees the node as the run has left it
  have hsend : (Move.run .initial someUpdates).tree.send ⟨1, []⟩ [.check "/n" 2] =
      .ok ([.checked], (Move.run .initial someUpdates).tree) := by decide +kernel
  have hlife : Entry.life "/n" (initial.journal someUpdates ++
        Entry.ofBatch [.check "/n" 2] [.checked]) =
      [.written "/n" 0, .granted "/n", .added "/n/guest", .added "/n/stay",
        .written "/n" anyVersion, .removed "/n/guest"] := by decide +kernel
  obtain ⟨n, hn⟩ : ∃ n, (Move.run .initial someUpdates).tree.node? "/n" = some n :=
    Option.isSome_iff_exists.mp (by decide +kernel)
  obtain ⟨-, -, -, hversion, haclVersion, hchildVersion, hdifference, hnamed⟩ :=
    versions_count hlegal (by decide) hsend hn hlife (by decide +kernel) (by decide +kernel)
      (by decide +kernel)
  exact ⟨n, hn, hversion, haclVersion, hchildVersion, hdifference, fun v hv => (hnamed v hv).2.1⟩

end Store

end Coordination
