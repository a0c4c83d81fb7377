import Coordination.Proofs.Store.History

/-!
# Faults strike where they are to, and nowhere else

A store that has been told of faults to come deals them out, one to each request or batch of a
session that is connected, in the order in which they were announced. A request that meets a fault
is lost, or is done and its sender is not told; that is all that a fault does.

## The calm run

Take a run apart: leave out the announcements of faults and the requests that are lost, and make the
other moves on a store that knows of no faults. That run is calm, and it goes through the same
trees. The stores of the two runs differ in two things only, the faults to come and the number of
requests that have come in, because requests that are lost have come in all the same. What a session
is told is the same, too, unless it is told of a fault; so are the things that are read on the way.

Which requests are lost can only be seen in the run itself, where the faults are dealt out, so the
moves that remain are computed along the run and not from its moves alone.

## Main definitions

* `Store.Reply`: what whoever makes a move is told
* `Store.calm`: a store without faults to come
* `Store.Move.fault?`, `Store.Move.isLost`: the fault that a move meets, and whether it is lost by
  it
* `Store.remaining`: the moves of the calm run
* `Store.course`: the moves of a run, each with the store that it finds

## Main results

* `Store.exists_calm_run`: the calm run goes through the same trees
* `Store.faults_confined`: what faults do to a run, and what the counters of a store count
-/

namespace Coordination

namespace Store

/-- **What whoever makes a move is told.** -/
inductive Reply where
  /-- Nothing. -/
  | nothing
  /-- Which session has been opened. -/
  | opened (s : Session)
  /-- What has become of a request. -/
  | single (result : Except StoreError Answer)
  /-- What has become of a batch. -/
  | batch (result : Except StoreError (List Answer))
  /-- What has become of a change of an access list. -/
  | granted (result : Except StoreError Stat)
  /-- How many containers have been removed. -/
  | reaped (count : Nat)
  deriving DecidableEq

variable {st : Store} {s : Session} {m : Move} {ms : List Move}

/-- The store without faults to come, having counted so many requests. -/
def calm (st : Store) (n : Nat) : Store := { st with faults := [], requests := n }

/-! ## Calm stores -/

/-- Stores that differ in nothing but their faults and their requests. -/
theorem eq_of_calm {st' : Store} {n : Nat} (h : st.calm n = st'.calm n) :
    st = { st' with faults := st.faults, requests := st.requests } :=
  congrArg (fun x : Store => { x with faults := st.faults, requests := st.requests }) h

theorem admitted_calm (st : Store) (s : Session) (n : Nat) :
    (st.calm n).admitted s = (st.admitted s).calm (if st.isClosed s then n else n + 1) := by
  have hconnected : (st.calm n).isConnected s = st.isConnected s := rfl
  rw [admitted, hconnected]
  cases st.isConnected s <;> rfl

/-- A calm store lets in everybody who is connected. -/
theorem letsIn_calm (st : Store) (s : Session) (n : Nat) :
    (st.calm n).letsIn s = st.isConnected s := Bool.and_true _

/-- A request is applied to a tree, whatever faults are to come. -/
theorem applyOne_calm (st : Store) (s : Session) (r : Request) (n : Nat) :
    (st.calm n).applyOne s r = ((st.applyOne s r).1, (st.applyOne s r).2.calm n) := by
  have htree : (st.calm n).tree = st.tree := rfl
  simp only [applyOne, htree]
  cases st.tree.apply s (st.tree.transaction + 1) r with
  | error code => rfl
  | ok result =>
    dsimp only
    split <;> rfl

/-- So is a batch. -/
theorem applyBatch_calm (st : Store) (s : Session) (rs : List Request) (n : Nat) :
    (st.calm n).applyBatch s rs = ((st.applyBatch s rs).1, (st.applyBatch s rs).2.calm n) := by
  have htree : (st.calm n).tree = st.tree := rfl
  simp only [applyBatch, htree]
  cases st.tree.applyAll s (st.tree.transaction + 1) 0 rs <;> rfl

/-- A grant is made whatever faults are to come, and takes none of them off the list. -/
theorem setAcl_calm (st : Store) (s : Session) (p : String) (acl : Acl) (version : Int32)
    (n : Nat) :
    (st.calm n).setAcl s p acl version =
      ((st.setAcl s p acl version).1, (st.setAcl s p acl version).2.calm n) := by
  have htree : (st.calm n).tree = st.tree := rfl
  have hclosed : (st.calm n).isClosed s = st.isClosed s := rfl
  have hexpired : (st.calm n).hasExpired s = st.hasExpired s := rfl
  simp only [setAcl, htree, hclosed, hexpired]
  repeat' split
  all_goals rfl

/-- What is let in of all that connected sessions ask for does to a calm store what it does to the
other one. -/
theorem exists_receive_calm {α : Type} {work : Store → Except StoreError α × Store}
    (hwork : ∀ st n, work (calm st n) = ((work st).1, (work st).2.calm n))
    (hin : st.letsIn s = st.isConnected s) (n : Nat) :
    ∃ n', ((st.calm n).receive s work).2 = (st.receive s work).2.calm n' := by
  refine ⟨if st.isClosed s then n else n + 1, ?_⟩
  rw [snd_receive, snd_receive, letsIn_calm, hin, admitted_calm]
  split
  · rw [hwork]
  · rfl

/-- A session is told of the fault that its call meets, or what it is told by a calm store. -/
theorem fst_receive_calm {α : Type} {work : Store → Except StoreError α × Store}
    (hwork : ∀ st n, work (calm st n) = ((work st).1, (work st).2.calm n)) (st : Store)
    (s : Session)
    (n : Nat) :
    (st.receive s work).1 =
      match st.struck? s with
      | some f => .error (plainError f.code)
      | none => ((st.calm n).receive s work).1 := by
  have hclosed : (st.calm n).isClosed s = st.isClosed s := rfl
  have hexpired : (st.calm n).hasExpired s = st.hasExpired s := rfl
  have hcalm : (st.calm n).struck? s = none := ite_self none
  rw [fst_receive, fst_receive, hclosed, hexpired, hcalm, admitted_calm, hwork]
  by_cases hs : st.isConnected s
  · obtain ⟨hc, he⟩ := isConnected_iff.mp hs
    rw [hc, he]
    rfl
  · have hnone : st.struck? s = none := if_neg hs
    rw [hnone]

/-! ## Moves -/

namespace Move

/-- What whoever makes a move is told. -/
def reply (st : Store) : Move → Reply
  | connect identities => .opened (st.connect identities).1
  | submit s r => .single (st.submit s r).1
  | multi s rs => .batch (st.multi s rs).1
  | setAcl s p acl version => .granted (st.setAcl s p acl version).1
  | reap => .reaped st.reap.1
  | failNext .. | failAfter .. | close _ | expire _ => .nothing

/-- What whoever makes a move is told if it fails. -/
def failed (e : StoreError) : Move → Reply
  | submit .. => .single (.error e)
  | multi .. => .batch (.error e)
  | setAcl .. => .granted (.error e)
  | connect _ | failNext .. | failAfter .. | close _ | expire _ | reap => .nothing

/-- The session that asks for a request or a batch. -/
def asker? : Move → Option Session
  | submit s _ | multi s _ => some s
  | connect _ | setAcl .. | failNext .. | failAfter .. | close _ | expire _ | reap => none

/-- The requests that are asked for. -/
def requests : Move → List Request
  | submit _ r => [r]
  | multi _ rs => rs
  | connect _ | setAcl .. | failNext .. | failAfter .. | close _ | expire _ | reap => []

/-- Whether a batch is asked for. -/
def isBatch : Move → Bool
  | multi .. => true
  | _ => false

/-- Whether faults are announced. -/
def announces : Move → Bool
  | failNext .. | failAfter .. => true
  | _ => false

/-- The fault that a move meets. -/
def fault? (st : Store) (m : Move) : Option Fault := m.asker?.bind st.struck?

/-- Whether a request or a batch is lost. -/
def isLost (st : Store) (m : Move) : Bool := (m.fault? st).any (·.timing == .beforeApply)

/-- The faults to come after a move. -/
def faultsLeft (st : Store) : Move → List Fault
  | submit s _ | multi s _ => if st.isConnected s then st.faults.tail else st.faults
  | failNext code count => st.faults ++ List.replicate count ⟨code, .beforeApply⟩
  | failAfter code count => st.faults ++ List.replicate count ⟨code, .afterApply⟩
  | connect _ | setAcl .. | close _ | expire _ | reap => st.faults

/-- Whether a request or a batch comes in: its session may have expired but has not been closed. -/
def comesIn (st : Store) (m : Move) : Bool := m.asker?.any (!st.isClosed ·)

/-- Whether a request or a batch is applied: it reaches the tree and is accepted, whether or not its
sender hears of it. -/
def isApplied (st : Store) (m : Move) : Bool :=
  m.asker?.any fun s => st.letsIn s && st.tree.accepts s m.requests

end Move

/-- A call is let in if its session is connected and it is not lost. -/
theorem letsIn_eq (st : Store) (s : Session) :
    st.letsIn s = (st.isConnected s && !(st.struck? s).any (·.timing == .beforeApply)) := by
  rw [letsIn, struck?]
  cases st.isConnected s with
  | false => rfl
  | true => rcases st.faults with _ | ⟨⟨code, _ | _⟩, faults⟩ <;> rfl

theorem letsIn_of_not_lost (h : (st.struck? s).any (·.timing == .beforeApply) = false) :
    st.letsIn s = st.isConnected s := by
  rw [letsIn_eq, h]
  exact Bool.and_true _

theorem letsIn_of_lost (h : (st.struck? s).any (·.timing == .beforeApply)) :
    st.letsIn s = false := by
  rw [letsIn_eq, h]
  exact Bool.and_false _

/-- **A move that is not lost does to a calm store what it does to the other one.** -/
theorem exists_calm_next (ha : m.announces = false) (hl : m.isLost st = false) (n : Nat) :
    ∃ n', m.next (st.calm n) = (m.next st).calm n' := by
  cases m with
  | connect identities => exact ⟨n, rfl⟩
  | submit s r =>
    exact exists_receive_calm (fun st n => applyOne_calm st s r n) (letsIn_of_not_lost hl) n
  | multi s rs =>
    exact exists_receive_calm (fun st n => applyBatch_calm st s rs n) (letsIn_of_not_lost hl) n
  | setAcl s p acl version => exact ⟨n, congrArg Prod.snd (setAcl_calm st s p acl version n)⟩
  | failNext | failAfter => cases ha
  | close s =>
    refine ⟨n, ?_⟩
    have hclosed : (st.calm n).isClosed s = st.isClosed s := rfl
    rw [Move.next, Move.next, close, close, hclosed]
    split <;> rfl
  | expire session => exact ⟨n, rfl⟩
  | reap => exact ⟨n, rfl⟩

/-- **A move that announces faults or is lost leaves a store as it is**, but for the faults to come
and the count of requests. -/
theorem calm_next (h : m.announces || m.isLost st) (n : Nat) : (m.next st).calm n = st.calm n := by
  cases m with
  | failNext | failAfter => rfl
  | submit s r =>
    have hin : st.letsIn s = false := letsIn_of_lost h
    rw [Move.next, submit, snd_receive, hin]
    rfl
  | multi s rs =>
    have hin : st.letsIn s = false := letsIn_of_lost h
    rw [Move.next, multi, snd_receive, hin]
    rfl
  | connect | setAcl | close | expire | reap => cases h

/-- **Whoever makes a move is told of the fault that it meets**, or what a calm store says. -/
theorem reply_eq (st : Store) (m : Move) (n : Nat) :
    m.reply st =
      match m.fault? st with
      | some f => m.failed (plainError f.code)
      | none => m.reply (st.calm n) := by
  cases m with
  | submit s r =>
    show Reply.single (st.receive s (·.applyOne s r)).1 = _
    rw [fst_receive_calm (fun st n => applyOne_calm st s r n) st s n, Move.fault?]
    show _ = match st.struck? s with | some f => _ | none => _
    cases st.struck? s <;> rfl
  | multi s rs =>
    show Reply.batch (st.receive s (·.applyBatch s rs)).1 = _
    rw [fst_receive_calm (fun st n => applyBatch_calm st s rs n) st s n, Move.fault?]
    show _ = match st.struck? s with | some f => _ | none => _
    cases st.struck? s <;> rfl
  | setAcl s p acl version =>
    exact congrArg (fun x => Reply.granted x.1) (setAcl_calm st s p acl version n).symm
  | connect | failNext | failAfter | close | expire | reap => rfl

/-- Reading goes by the tree and the sessions. -/
theorem reads_calm (st : Store) (s : Session) (p : String) (n : Nat) :
    (st.calm n).exists? s p = st.exists? s p ∧ (st.calm n).getData s p = st.getData s p ∧
      (st.calm n).getChildren s p = st.getChildren s p := ⟨rfl, rfl, rfl⟩

/-! ### What moves count -/

theorem applyBatch_eq (st : Store) (s : Session) (rs : List Request) :
    ∃ tree mutations commits,
      (st.applyBatch s rs).2 = { st with tree, mutations, commits } := by
  unfold applyBatch
  dsimp only
  split <;> exact ⟨_, _, _, rfl⟩

/-- A move by which nobody asks for a request or a batch counts nothing, and takes no fault off the
list. -/
theorem exists_next_eq (h : m.asker? = none) (st : Store) :
    ∃ tree expired closed nextSession, m.next st =
      { st with tree, expired, closed, nextSession, faults := m.faultsLeft st } := by
  cases m with
  | submit | multi => cases h
  | connect identities => exact ⟨st.tree, st.expired, st.closed, _, rfl⟩
  | setAcl s p acl version =>
    rw [Move.next, setAcl]
    repeat' split
    all_goals exact ⟨_, st.expired, st.closed, st.nextSession, rfl⟩
  | failNext | failAfter => exact ⟨st.tree, st.expired, st.closed, st.nextSession, rfl⟩
  | close s =>
    rw [Move.next, close]
    split
    · exact ⟨st.tree, st.expired, st.closed, st.nextSession, rfl⟩
    · exact ⟨_, st.expired, _, st.nextSession, rfl⟩
  | expire session => exact ⟨_, _, st.closed, st.nextSession, rfl⟩
  | reap => exact ⟨_, st.expired, st.closed, st.nextSession, rfl⟩

/-- **A request or a batch of a session that is connected takes the next fault off the list**, and
nothing else does. -/
theorem faults_next (st : Store) (m : Move) : (m.next st).faults = m.faultsLeft st := by
  have hquiet := fun h => exists_next_eq (m := m) h st
  cases m with
  | submit s r =>
    rw [Move.next, submit, snd_receive]
    split
    · exact faults_applyOne _ s r
    · rfl
  | multi s rs =>
    rw [Move.next, multi, snd_receive]
    split
    · exact faults_applyBatch _ s rs
    · rfl
  | connect | setAcl | failNext | failAfter | close | expire | reap =>
    obtain ⟨tree, expired, closed, nextSession, h⟩ := hquiet rfl
    rw [h]

theorem requests_admitted (st : Store) (s : Session) :
    (st.admitted s).requests = st.requests + (!st.isClosed s).toNat := by
  rw [admitted]
  cases st.isClosed s <;> rfl

/-- **Requests and batches that come in are counted**, whatever becomes of them. -/
theorem requests_next (st : Store) (m : Move) :
    (m.next st).requests = st.requests + (m.comesIn st).toNat := by
  have hquiet := fun h => exists_next_eq (m := m) h st
  cases m with
  | submit s r =>
    show (st.receive s (·.applyOne s r)).2.requests = _
    rw [proj_receive (·.requests) ?_ st s]
    · exact requests_admitted st s
    · intro st
      obtain ⟨tree, mutations, h⟩ := applyOne_eq st s r
      rw [h]
  | multi s rs =>
    show (st.receive s (·.applyBatch s rs)).2.requests = _
    rw [proj_receive (·.requests) ?_ st s]
    · exact requests_admitted st s
    · intro st
      obtain ⟨tree, mutations, commits, h⟩ := applyBatch_eq st s rs
      rw [h]
  | connect | setAcl | failNext | failAfter | close | expire | reap =>
    obtain ⟨tree, expired, closed, nextSession, h⟩ := hquiet rfl
    rw [h]
    rfl

theorem mutations_applyOne (st : Store) (s : Session) (r : Request) :
    (st.applyOne s r).2.mutations =
      st.mutations + if st.tree.accepts s [r] then [r].countP (·.isMutation) else 0 := by
  cases happly : st.tree.apply s (st.tree.transaction + 1) r with
  | error code =>
    rw [applyOne_of_refused happly, Tree.accepts_of_refused happly]
    rfl
  | ok result =>
    obtain ⟨a, t⟩ := result
    rw [Tree.accepts_of_applied happly]
    cases hr : r.isMutation with
    | true =>
      rw [applyOne_of_applied hr happly]
      simp [hr, advanced]
    | false =>
      rw [applyOne_of_checked hr happly]
      simp [hr]

theorem applyBatch_counts (st : Store) (s : Session) (rs : List Request) :
    (st.applyBatch s rs).2.mutations =
        st.mutations + (if st.tree.accepts s rs then rs.countP (·.isMutation) else 0) ∧
      (st.applyBatch s rs).2.commits = st.commits + (st.tree.accepts s rs).toNat := by
  rw [Tree.accepts, Tree.send]
  unfold applyBatch
  dsimp only
  cases st.tree.applyAll s (st.tree.transaction + 1) 0 rs <;> exact ⟨rfl, rfl⟩

/-- **Requests that are applied are counted**, checks apart. -/
theorem mutations_next (st : Store) (m : Move) :
    (m.next st).mutations =
      st.mutations + if m.isApplied st then m.requests.countP (·.isMutation) else 0 := by
  have hquiet := fun h => exists_next_eq (m := m) h st
  cases m with
  | submit s r =>
    show (st.receive s (·.applyOne s r)).2.mutations =
      st.mutations + if st.letsIn s && st.tree.accepts s [r] then _ else 0
    rw [snd_receive]
    cases st.letsIn s with
    | false => rfl
    | true => exact mutations_applyOne (st.admitted s) s r
  | multi s rs =>
    show (st.receive s (·.applyBatch s rs)).2.mutations =
      st.mutations + if st.letsIn s && st.tree.accepts s rs then _ else 0
    rw [snd_receive]
    cases st.letsIn s with
    | false => rfl
    | true => exact (applyBatch_counts (st.admitted s) s rs).1
  | connect | setAcl | failNext | failAfter | close | expire | reap =>
    obtain ⟨tree, expired, closed, nextSession, h⟩ := hquiet rfl
    rw [h]
    rfl

/-- **So are batches.** -/
theorem commits_next (st : Store) (m : Move) :
    (m.next st).commits = st.commits + (m.isBatch && m.isApplied st).toNat := by
  have hquiet := fun h => exists_next_eq (m := m) h st
  cases m with
  | submit s r => exact commits_submit st s r
  | multi s rs =>
    show (st.receive s (·.applyBatch s rs)).2.commits =
      st.commits + (st.letsIn s && st.tree.accepts s rs).toNat
    rw [snd_receive]
    cases st.letsIn s with
    | false => rfl
    | true => exact (applyBatch_counts (st.admitted s) s rs).2
  | connect | setAcl | failNext | failAfter | close | expire | reap =>
    obtain ⟨tree, expired, closed, nextSession, h⟩ := hquiet rfl
    rw [h]
    rfl

/-! ## Runs -/

/-- **The moves of the calm run**: those that announce no faults and are not lost. -/
def remaining (st : Store) : List Move → List Move
  | [] => []
  | m :: ms =>
    if m.announces || m.isLost st then remaining (m.next st) ms else m :: remaining (m.next st) ms

/-- The moves of a run, each with the store that it finds. -/
def course (st : Store) : List Move → List (Store × Move)
  | [] => []
  | m :: ms => (st, m) :: course (m.next st) ms

theorem remaining_append (st : Store) (ms ms' : List Move) :
    st.remaining (ms ++ ms') = st.remaining ms ++ (Move.run st ms).remaining ms' := by
  induction ms generalizing st with
  | nil => rfl
  | cons m ms ih =>
    rw [List.cons_append, remaining, remaining, ih]
    split <;> rfl

/-- A calm run announces no faults. -/
theorem announces_of_mem_remaining (h : m ∈ st.remaining ms) : m.announces = false := by
  induction ms generalizing st with
  | nil => cases h
  | cons m' ms ih =>
    rw [remaining] at h
    split at h
    · exact ih h
    · rename_i hkept
      rcases List.mem_cons.mp h with rfl | h
      · simp only [Bool.or_eq_true, not_or, Bool.not_eq_true] at hkept
        exact hkept.1
      · exact ih h

/-- **The calm run goes through the same trees.** -/
theorem exists_calm_run (st : Store) (ms : List Move) (n : Nat) :
    ∃ n', Move.run (st.calm n) (st.remaining ms) = (Move.run st ms).calm n' := by
  induction ms generalizing st n with
  | nil => exact ⟨n, rfl⟩
  | cons m ms ih =>
    rw [remaining]
    split
    · rename_i hvain
      rw [← calm_next hvain n]
      exact ih (m.next st) n
    · rename_i hkept
      simp only [Bool.or_eq_true, not_or, Bool.not_eq_true] at hkept
      obtain ⟨n', hn'⟩ := exists_calm_next hkept.1 hkept.2 n
      obtain ⟨k, hk⟩ := ih (m.next st) n'
      refine ⟨k, ?_⟩
      show Move.run (m.next (st.calm n)) _ = _
      rw [hn', hk]
      rfl

/-- Its moves can be seen by its stores. -/
theorem legal_remaining (hms : Move.Legal st ms) (n : Nat) :
    Move.Legal (st.calm n) (st.remaining ms) := by
  induction ms generalizing st n with
  | nil => trivial
  | cons m ms ih =>
    obtain ⟨hm, hms⟩ := hms
    rw [remaining]
    split
    · rename_i hvain
      rw [← calm_next hvain n]
      exact ih hms n
    · rename_i hkept
      simp only [Bool.or_eq_true, not_or, Bool.not_eq_true] at hkept
      obtain ⟨n', hn'⟩ := exists_calm_next hkept.1 hkept.2 n
      refine ⟨?_, ?_⟩
      · cases m <;> exact hm
      · rw [hn']
        exact ih hms n'

/-- **What the counters of a store have counted.** -/
theorem counters_run (st : Store) (ms : List Move) :
    (Move.run st ms).requests = st.requests + (st.course ms).countP (fun x => x.2.comesIn x.1) ∧
    (Move.run st ms).mutations = st.mutations +
      (((st.course ms).filter fun x => x.2.isApplied x.1).flatMap
        (·.2.requests)).countP (·.isMutation) ∧
    (Move.run st ms).commits = st.commits +
      (st.course ms).countP (fun x => x.2.isBatch && x.2.isApplied x.1) := by
  induction ms generalizing st with
  | nil => exact ⟨rfl, rfl, rfl⟩
  | cons m ms ih =>
    obtain ⟨hrequests, hmutations, hcommits⟩ := ih (m.next st)
    have hrun : Move.run st (m :: ms) = Move.run (m.next st) ms := rfl
    rw [hrun, hrequests, hmutations, hcommits, requests_next, mutations_next, commits_next, course]
    refine ⟨?_, ?_, ?_⟩
    · cases hm : m.comesIn st with
      | false => rw [List.countP_cons_of_neg (by simp [hm]), Bool.toNat_false, Nat.add_zero]
      | true =>
        rw [List.countP_cons_of_pos (by exact hm), Bool.toNat_true]
        omega
    · cases hm : m.isApplied st with
      | false =>
        rw [List.filter_cons_of_neg (by simp [hm]), if_neg Bool.false_ne_true, Nat.add_zero]
      | true =>
        rw [List.filter_cons_of_pos (by exact hm), if_pos rfl, List.flatMap_cons,
          List.countP_append, Nat.add_assoc]
    · cases hm : m.isBatch && m.isApplied st with
      | false => rw [List.countP_cons_of_neg (by simp [hm]), Bool.toNat_false, Nat.add_zero]
      | true =>
        rw [List.countP_cons_of_pos (by exact hm), Bool.toNat_true]
        omega

/-- **Faults strike where they are to, and nowhere else.** Take any run, and the calm run that is
left without the announcements of faults and without the requests that are lost. Up to any point,
the two lead to stores that differ only in the faults to come and in the count of requests, so they
have the same trees and transaction numbers, the same counts of mutations and of batches, and read
the same. A move that is left out has done nothing, and any other does the same on both sides, also
if its answer is lost; whoever makes it is told of the fault that it meets, if it meets one, and the
same as in the calm run if not. A request or a batch of a session that is connected takes the first
of the faults to come, and nothing else takes any. The store has counted the requests and batches of
sessions that were not closed, the requests other than checks that were applied, one by one or in
batches, and the batches that were. -/
theorem faults_confined (ms : List Move) :
    (∀ m ∈ initial.remaining ms, m.announces = false) ∧
    (Move.Legal .initial ms → Move.Legal .initial (initial.remaining ms)) ∧
    ∀ before after st st', ms = before ++ after → Move.run .initial before = st →
      Move.run .initial (initial.remaining before) = st' →
      initial.remaining ms = initial.remaining before ++ st.remaining after ∧
      (∃ n, st' = st.calm n) ∧
      (∀ s p, st'.exists? s p = st.exists? s p ∧ st'.getData s p = st.getData s p ∧
        st'.getChildren s p = st.getChildren s p) ∧
      st.requests = (initial.course before).countP (fun x => x.2.comesIn x.1) ∧
      st.mutations = (((initial.course before).filter fun x => x.2.isApplied x.1).flatMap
        (·.2.requests)).countP (·.isMutation) ∧
      st.commits = (initial.course before).countP (fun x => x.2.isBatch && x.2.isApplied x.1) ∧
      ∀ m rest, after = m :: rest →
        (m.next st).faults = m.faultsLeft st ∧
        (m.announces || m.isLost st → ∃ n, st' = (m.next st).calm n) ∧
        (m.announces = false → m.isLost st = false → ∃ n, m.next st' = (m.next st).calm n) ∧
        m.reply st =
          match m.fault? st with
          | some f => m.failed (plainError f.code)
          | none => m.reply st' := by
  have hinitial : initial.calm 0 = initial := rfl
  refine ⟨fun m hm => announces_of_mem_remaining hm,
    fun hms => hinitial ▸ legal_remaining hms 0, ?_⟩
  rintro before after st st' rfl rfl rfl
  obtain ⟨n, hn⟩ := exists_calm_run .initial before 0
  rw [hinitial] at hn
  obtain ⟨hrequests, hmutations, hcommits⟩ := counters_run .initial before
  refine ⟨remaining_append _ before after, ⟨n, hn⟩, ?_, ?_, ?_, ?_, ?_⟩
  · rw [hn]
    exact fun s p => reads_calm _ s p n
  · simpa [initial] using hrequests
  · simpa [initial] using hmutations
  · simpa [initial] using hcommits
  · rintro m rest -
    rw [hn]
    exact ⟨faults_next _ m, fun hvain => ⟨n, (calm_next hvain n).symm⟩,
      fun hloud hlost => exists_calm_next hloud hlost n, reply_eq _ m n⟩

/-- A request is lost and asked for again, a batch is applied whose sender does not hear of it, and
a session that has expired waits for a fault in vain. -/
def someFaults : List Move :=
  [.connect [], .connect [], .failNext .connectionLoss 1, .failAfter .operationTimeout 2,
    .expire 2,
    .submit ⟨2, []⟩ (.create "/a" ByteArray.empty .worldOpen .persistent),
    .submit ⟨1, []⟩ (.create "/a" ByteArray.empty .worldOpen .persistent),
    .submit ⟨1, []⟩ (.create "/a" ByteArray.empty .worldOpen .persistent),
    .multi ⟨1, []⟩
      [.check "/a" 0, .setData "/a" ByteArray.empty 0,
        .create "/a/b" ByteArray.empty .worldOpen .persistent],
    .multi ⟨1, []⟩ [.delete "/a" 1],
    .submit ⟨1, []⟩ (.check "/a" 1),
    .close ⟨1, []⟩,
    .submit ⟨1, []⟩ (.delete "/a" anyVersion)]

theorem faults_confined_of_someFaults :
    (initial.remaining someFaults).length = 10 ∧
    (∃ n, Move.run .initial (initial.remaining someFaults) =
      (Move.run .initial someFaults).calm n) ∧
    (Move.run .initial someFaults).requests = 6 ∧
    (Move.run .initial someFaults).mutations = 3 ∧
    (Move.run .initial someFaults).commits = 1 := by
  obtain ⟨-, -, hrun⟩ := faults_confined someFaults
  obtain ⟨-, hcalm, -, hrequests, hmutations, hcommits, -⟩ :=
    hrun someFaults [] _ _ (List.append_nil _).symm rfl rfl
  refine ⟨by decide +kernel, hcalm, hrequests.trans ?_, hmutations.trans ?_, hcommits.trans ?_⟩
  all_goals decide +kernel

end Store

end Coordination
