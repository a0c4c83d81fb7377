import Coordination.Proofs.Client.Tasks
import Coordination.Proofs.Retry.Returning
import Coordination.Proofs.Store.Answers
import Coordination.Proofs.Store.Faults

/-!
# Tasks return

A client makes an attempt again after an error that is worth a retry, and some policies would have
it do so for ever. The store raises such errors for faults only: what its tree answers is final, and
so is what a session is told that has been closed or has expired. So every retry takes a fault that
the store has been told of, and a call, during which no fault is announced, returns when they have
been used up at the latest. This holds for the loop on the way to the root of the namespace and for
the loop of the call together, though each attempt begins at the top again.

Here the loops are run without a budget, and time and chance are any: each loop of a task may read
any clock and roll any die. Others may move between the requests of a task as they like. That the
budget of a client's loops makes no difference follows.

## Main definitions

* `Circumstances`: time and chance, as the loops of a task meet them
* `Client.performFreely`: a task whose loops have no budget
* `Link.Drains`: the lines on which errors that are worth a retry use something up
* `Store.sharedLink`: the line of a session to a store at which others move, too

## Main results

* `Store.drains_link`, `Store.drains_sharedLink`: the lines of the store use up faults
* `Client.perform_returns`: a task returns, after at most as many retries as there are faults
-/

namespace Coordination

/-! ## Loops without a budget -/

/-- Time and chance, as the loops of a task meet them. -/
structure Circumstances where
  /-- On the way to the root of the namespace. -/
  root : Surroundings
  /-- In the call itself. -/
  call : Surroundings

namespace Circumstances

/-- Time and chance as a sleeper has them. -/
def ofSleeper (s : Sleeper) : Circumstances := ⟨s.surroundings, s.surroundings⟩

end Circumstances

noncomputable section

variable {σ : Type}

/-- Makes a call until it succeeds or the policy gives up; says how long it waited between the
attempts. -/
def Config.withRetriesFreely {α : Type} (c : Config) (around : Surroundings)
    (attempt : Nat → σ → Except StoreError α × σ) (s : σ) :
    Part (Except Failure α × List Duration × σ) :=
  (RetryLoop.runFreely c.policy.rule around attempt (.fresh, s)).map fun (result, l, s') =>
    (result, l.sleeps, s')

/-- Ensures a path, with retries. -/
def Ensurer.ensureFreely (link : Link σ) (c : Config) (around : Surroundings) (e : Ensurer)
    (p : String) (s : σ) : Part (Except Failure Unit × Ensurer × List Duration × σ) :=
  match Path.check p with
  | .error refusal => Part.some (.error (.invalidArgument refusal.message), e, [], s)
  | .ok () =>
    if e.isEnsured p then Part.some (.ok (), e, [], s)
    else
      (c.withRetriesFreely around (fun _ => attempt link e p) s).map fun
        | (.ok (), sleeps, s') => (.ok (), e.remember p, sleeps, s')
        | (.error f, sleeps, s') => (.error f, e, sleeps, s')

namespace Client

/-- Ensures the root of the namespace, if there is one. -/
def ensureRootFreely (link : Link σ) (around : Circumstances) (c : Client) (s : σ) :
    Part (Except Failure Unit × Client × σ) :=
  match c.space.root with
  | none => Part.some (.ok (), c, s)
  | some root =>
    (c.rootEnsurer.ensureFreely link c.config around.root root s).map
      fun (result, rootEnsurer, sleeps, s) => (result, { c with rootEnsurer }.slept sleeps, s)

/-- Makes a call with retries, once the root of the namespace has been ensured. -/
def callFreely {α : Type} (link : Link σ) (around : Circumstances) (c : Client)
    (attempt : Nat → σ → Except StoreError α × σ) (s : σ) : Part (Except Failure α × Client × σ) :=
  (c.ensureRootFreely link around s).bind fun
    | (.error f, c, s) => Part.some (.error f, c, s)
    | (.ok (), c, s) =>
      (c.config.withRetriesFreely around.call attempt s).map fun (result, sleeps, s) =>
        (result, c.slept sleeps, s)

/-- Runs one operation. -/
def executeFreely (link : Link σ) (around : Circumstances) (c : Client) (o : Operation) (s : σ) :
    Part (Except Failure Answer × Client × σ) :=
  match c.checkOpen with
  | .error f => Part.some (.error f, c, s)
  | .ok () =>
    match c.prepare o with
    | .error f => Part.some (.error f, c, s)
    | .ok r =>
      (c.callFreely link around (attempt link r) s).map fun (result, c, s) =>
        (result.map (reported c.space), c, s)

/-- Runs a transaction. -/
def submitFreely (link : Link σ) (around : Circumstances) (c : Client) (os : List Operation)
    (s : σ) : Part (Except Failure (List Outcome) × Client × σ) :=
  match c.checkOpen with
  | .error f => Part.some (.error f, c, s)
  | .ok () =>
    match c.prepareBatch os with
    | .error f => Part.some (.error f, c, s)
    | .ok b =>
      (c.callFreely link around (fun _ s => link.multi s b.requests) s).map fun (result, c, s) =>
        (conclude c.space b result, c, s)

/-- Ensures a path for a caller. -/
def ensurePathFreely (link : Link σ) (around : Circumstances) (c : Client) (p : String) (s : σ) :
    Part (Except Failure Unit × Client × σ) :=
  match c.checkOpen with
  | .error f => Part.some (.error f, c, s)
  | .ok () =>
    (c.ensurer.ensureFreely link c.config around.call p s).map fun (result, ensurer, sleeps, s) =>
      (result, { c with ensurer }.slept sleeps, s)

/-- Does a task. -/
def performFreely (link : Link σ) (around : Circumstances) (c : Client) :
    Task → σ → Part (Except Failure Told × Client × σ)
  | .execute o, s =>
    (c.executeFreely link around o s).map fun (result, c, s) => (result.map .answered, c, s)
  | .submit os, s =>
    (c.submitFreely link around os s).map fun (result, c, s) => (result.map .reported, c, s)
  | .ensurePath p, s =>
    (c.ensurePathFreely link around p s).map fun (result, c, s) =>
      (result.map fun () => .ensured, c, s)

end Client

end

/-! ## Lines on which retries use something up -/

variable {σ : Type}

/-- What a result costs whoever meets it: one, if it is worth a retry. -/
def toll {α : Type} : Except StoreError α → Nat
  | .ok _ => 0
  | .error e => e.isRetryable.toNat

/-- **The lines on which errors that are worth a retry use something up**, of which there is never
more than the losses that the line counts with. -/
structure Link.Drains (link : Link σ) (pending : σ → Nat) : Prop where
  submit : ∀ s r, pending (link.submit s r).2 + toll (link.submit s r).1 ≤ pending s
  multi : ∀ s rs, pending (link.multi s rs).2 + toll (link.multi s rs).1 ≤ pending s
  exists? : ∀ s p, toll (link.exists? s p) = 0
  le_lossBound : ∀ s, pending s ≤ link.lossBound s

theorem toll_le_one {α : Type} (result : Except StoreError α) : toll result ≤ 1 := by
  cases result with
  | ok a => exact Nat.zero_le 1
  | error e => exact Bool.toNat_le e.isRetryable

theorem toll_eq_zero {α : Type} {result : Except StoreError α}
    (h : ∀ e, result = .error e → e.isRetryable = false) : toll result = 0 := by
  cases result with
  | ok a => rfl
  | error e => rw [toll, h e rfl]; rfl

namespace Store

variable {s : Session}

/-- **What is worth a retry has taken a fault**, if the work leaves the faults alone and fails for
good only; whether or not the session is connected. -/
theorem faults_receive_toll {α : Type} {work : Store → Except StoreError α × Store}
    (hfaults : ∀ st, (work st).2.faults = st.faults)
    (hfinal : ∀ st e, (work st).1 = .error e → e.isRetryable = false) (st : Store) (s : Session) :
    (st.receive s work).2.faults.length + toll (st.receive s work).1 ≤ st.faults.length := by
  cases hclosed : st.isClosed s with
  | true =>
    rw [receive_of_closed hclosed]
    exact Nat.le_refl _
  | false =>
    cases hexpired : st.hasExpired s with
    | true =>
      rw [receive_of_expired hclosed hexpired]
      exact Nat.le_refl _
    | false =>
      rw [receive_of_connected (isConnected_iff.mpr ⟨hclosed, hexpired⟩)]
      rcases hfs : st.faults with _ | ⟨⟨code, _ | _⟩, fs⟩
      · dsimp only
        rw [hfaults, toll_eq_zero (hfinal _)]
        simp
      · exact Nat.add_le_add_left (toll_le_one _) _
      · dsimp only
        rw [hfaults]
        exact Nat.add_le_add_left (toll_le_one _) _

theorem faults_submit_toll (st : Store) (s : Session) (r : Request) :
    (st.submit s r).2.faults.length + toll (st.submit s r).1 ≤ st.faults.length :=
  faults_receive_toll (fun st => faults_applyOne st s r) (fun _ _ => isRetryable_of_applyOne) st s

theorem faults_multi_toll (st : Store) (s : Session) (rs : List Request) :
    (st.multi s rs).2.faults.length + toll (st.multi s rs).1 ≤ st.faults.length :=
  faults_receive_toll (fun st => faults_applyBatch st s rs) (fun _ _ => isRetryable_of_applyBatch)
    st s

theorem toll_exists? (st : Store) (s : Session) (p : String) : toll (st.exists? s p) = 0 := by
  rw [exists?, checkCall, Path.check]
  cases st.isClosed s <;> cases Path.isValid p <;> cases st.hasExpired s <;> rfl

/-- **The line of a session uses up faults**, whatever has become of the session. -/
theorem drains_link (s : Session) : (Store.link s).Drains fun st => st.faults.length where
  submit st r := faults_submit_toll st s r
  multi st rs := faults_multi_toll st s rs
  exists? st p := toll_exists? st s p
  le_lossBound _ := Nat.le_refl _

/-! ### Others on the way -/

/-- How many faults a move announces. -/
def Move.announced : Move → Nat
  | failNext _ n | failAfter _ n => n
  | _ => 0

/-- How many faults some moves announce. -/
def announced : List Move → Nat
  | [] => 0
  | m :: ms => m.announced + announced ms

theorem announced_append (ms ms' : List Move) :
    announced (ms ++ ms') = announced ms + announced ms' := by
  induction ms with
  | nil => simp [announced]
  | cons m ms ih => rw [List.cons_append, announced, announced, ih, Nat.add_assoc]

/-- A store, and what others will do to it, a list of moves each time that they get the chance. -/
abbrev Shared := Store × List (List Move)

/-- The store when others have moved. -/
def Shared.visited (x : Shared) : Shared := (Move.run x.1 (x.2.head?.getD []), x.2.tail)

/-- The faults that are to come, and those that will be announced. -/
def Shared.pending (x : Shared) : Nat :=
  x.1.faults.length + announced x.2.flatten

/-- **The line of a session to a store at which others move, too**, before each of its requests and
after it. -/
def sharedLink (s : Session) : Link Shared :=
  { submit := fun x r =>
      let (result, st) := x.visited.1.submit s r
      (result, Shared.visited (st, x.visited.2))
    multi := fun x rs =>
      let (result, st) := x.visited.1.multi s rs
      (result, Shared.visited (st, x.visited.2))
    exists? := fun x p => x.1.exists? s p
    isConnected := fun x => x.1.isConnected s
    lossBound := Shared.pending }

theorem faults_next_le (st : Store) (m : Move) :
    (m.next st).faults.length ≤ st.faults.length + m.announced := by
  rw [faults_next]
  cases m with
  | submit s r | multi s rs =>
    rw [Move.faultsLeft]
    split
    · rw [List.length_tail]
      omega
    · omega
  | failNext code n | failAfter code n => simp [Move.faultsLeft, Move.announced]
  | connect | setAcl | close | expire | reap => exact Nat.le_refl _

theorem faults_run_le (st : Store) (ms : List Move) :
    (Move.run st ms).faults.length ≤ st.faults.length + announced ms := by
  induction ms generalizing st with
  | nil => exact Nat.le_refl _
  | cons m ms ih =>
    have hfirst := faults_next_le st m
    have hrest := ih (m.next st)
    rw [announced]
    show (Move.run (m.next st) ms).faults.length ≤ _
    omega

/-- Faults that are announced have been among those that would be. -/
theorem Shared.pending_visited (x : Shared) : x.visited.pending ≤ x.pending := by
  obtain ⟨st, ds⟩ := x
  cases ds with
  | nil => exact Nat.le_refl _
  | cons ms ds =>
    have := faults_run_le st ms
    simp only [visited, pending, List.head?_cons, Option.getD_some, List.tail_cons,
      List.flatten_cons, announced_append]
    omega

theorem Shared.pending_toll {α : Type} {ask : Store → Except StoreError α × Store}
    (hask : ∀ st, (ask st).2.faults.length + toll (ask st).1 ≤ st.faults.length) (x : Shared) :
    Shared.pending (Shared.visited ((ask x.visited.1).2, x.visited.2)) + toll (ask x.visited.1).1 ≤
      x.pending :=
  calc Shared.pending (Shared.visited ((ask x.visited.1).2, x.visited.2)) + toll (ask x.visited.1).1
      ≤ Shared.pending ((ask x.visited.1).2, x.visited.2) + toll (ask x.visited.1).1 :=
        Nat.add_le_add_right (Shared.pending_visited _) _
    _ ≤ x.visited.pending := by
        have := hask x.visited.1
        simp only [pending]
        omega
    _ ≤ x.pending := Shared.pending_visited x

/-- **So does a line at which others move**: it uses up faults that have been announced or will
be. -/
theorem drains_sharedLink (s : Session) : (Store.sharedLink s).Drains Shared.pending where
  submit x r := Shared.pending_toll (fun st => faults_submit_toll st s r) x
  multi x rs := Shared.pending_toll (fun st => faults_multi_toll st s rs) x
  exists? x p := toll_exists? x.1 s p
  le_lossBound _ := Nat.le_refl _

end Store

/-! ## The loops return -/

namespace RetryPolicy

/-- Whether a policy comes with the library; such a policy retries on the errors that are worth a
retry. -/
def isBuiltIn : RetryPolicy → Bool
  | custom .. => false
  | nTimes .. | oneTime _ | forever _ | untilElapsed .. | exponential _ | bounded _ => true

theorem retriesOn_of_isBuiltIn {p : RetryPolicy} (h : p.isBuiltIn) (e : StoreError) :
    p.rule.retriesOn e = e.isRetryable := by
  cases p <;> first | rfl | cases h

end RetryPolicy

section

variable {link : Link σ} {pending : σ → Nat} {s : σ} {α : Type}

namespace Link.Drains

/-- The way to a path takes something for an error that is worth a retry. -/
theorem createLineage (h : link.Drains pending) (e : Ensurer) (ps : List String) (s : σ) :
    pending (e.createLineage link ps s).2 + toll (e.createLineage link ps s).1 ≤ pending s := by
  induction ps generalizing s with
  | nil => exact Nat.le_refl _
  | cons p ps ih =>
    have hsubmit := h.submit s (e.request p)
    rw [Ensurer.createLineage]
    rcases hresult : link.submit s (e.request p) with ⟨refusal | a, s'⟩
    · rw [hresult] at hsubmit
      dsimp only at hsubmit ⊢
      have hexists := h.exists? s' p
      cases htolerates : Ensurer.tolerates link s' p refusal with
      | ok =>
        have := ih s'
        dsimp only
        omega
      | error e' =>
        -- what is not tolerated is the refusal itself, or comes from the look at the node
        have hle : toll (.error e' : Except StoreError Unit) ≤
            toll (.error refusal : Except StoreError Answer) := by
          unfold Ensurer.tolerates at htolerates
          repeat' split at htolerates
          all_goals cases htolerates
          all_goals first
            | exact Nat.le_refl _
            | rename_i hlook
              rw [hlook] at hexists
              exact Nat.le_trans (Nat.le_of_eq hexists) (Nat.zero_le _)
        dsimp only
        omega
    · rw [hresult] at hsubmit
      have := ih s'
      dsimp only at hsubmit ⊢
      omega

/-- A result that is settled by a repeat costs no more than it did. -/
theorem toll_settled (r : Request) (n : Nat) (result : Except StoreError Answer) :
    toll (r.settled n result) ≤ toll result := by
  unfold Request.settled
  repeat' split
  all_goals first | exact Nat.le_refl _ | exact Nat.zero_le _

theorem attempt (h : link.Drains pending) (r : Request) (n : Nat) (s : σ) :
    pending (Client.attempt link r n s).2 + toll (Client.attempt link r n s).1 ≤ pending s := by
  have hsubmit := h.submit s r
  have hsettled := toll_settled r n (link.submit s r).1
  have hle := Nat.add_le_add_left hsettled (pending (link.submit s r).2)
  exact Nat.le_trans hle hsubmit

end Link.Drains

/-- Attempts that take something for an error that is worth a retry use it up under the policies of
the library. -/
theorem RetryLoop.drains_of_toll {p : RetryPolicy} (hp : p.isBuiltIn)
    {attempt : Nat → σ → Except StoreError α × σ}
    (h : ∀ n s, pending (attempt n s).2 + toll (attempt n s).1 ≤ pending s) :
    RetryLoop.Drains p.rule attempt pending where
  le n s := by
    have := h n s
    omega
  lt n s e he hretries := by
    have hle := h n s
    rw [he, toll, (p.retriesOn_of_isBuiltIn hp e).symm.trans hretries] at hle
    exact hle

/-- **The loop of a call returns**, having taken something for each wait; and its budget makes no
difference. -/
theorem Config.exists_withRetriesFreely {c : Config} (hp : c.policy.isBuiltIn)
    (hloss : ∀ s, pending s ≤ link.lossBound s) {attempt : Nat → σ → Except StoreError α × σ}
    (h : ∀ n s, pending (attempt n s).2 + toll (attempt n s).1 ≤ pending s) (around : Surroundings)
    (s : σ) :
    ∃ result ws s', c.withRetriesFreely around attempt s = Part.some (result, ws, s') ∧
      ws.length + pending s' ≤ pending s ∧
      (around = c.sleeper.surroundings → c.withRetries link attempt s = (result, ws, s')) := by
  have hdrains := RetryLoop.drains_of_toll hp h
  obtain ⟨ws, r, hbudget, hcourse⟩ : ∃ ws r, ws.length ≤ c.retryBudget link s ∧
      RetryLoop.Course c.policy.rule around attempt .fresh s ws r := by
    rw [retryBudget]
    cases hlimit : c.policy.retryLimit? with
    | none =>
      obtain ⟨ws, r, hcourse⟩ := hdrains.exists_course around .fresh s
      have hlength := hdrains.length_le_of_course hcourse
      have hle := hloss s
      exact ⟨ws, r, by rw [Option.getD_none]; omega, hcourse⟩
    | some n =>
      exact RetryLoop.exists_course_of_givesUpBy (RetryPolicy.givesUpBy_rule hlimit)
  refine ⟨r, ws, _, ?_, hdrains.length_le_of_course hcourse, ?_⟩
  · rw [withRetriesFreely, hcourse.runFreely_eq, RetryLoop.waited_fresh]
    rfl
  · rintro rfl
    rw [withRetries, hcourse.run_eq hbudget, RetryLoop.waited_fresh]

/-- **The ensuring of a path returns.** -/
theorem Ensurer.exists_ensureFreely (hlink : link.Drains pending) {c : Config}
    (hp : c.policy.isBuiltIn) (around : Surroundings) (e : Ensurer) (p : String) (s : σ) :
    ∃ result e' ws s', e.ensureFreely link c around p s = Part.some (result, e', ws, s') ∧
      ws.length + pending s' ≤ pending s ∧
      (around = c.sleeper.surroundings → e.ensure link c p s = (result, e', ws, s')) := by
  rw [ensureFreely, ensure, ensureBy]
  cases Path.check p with
  | error refusal => exact ⟨_, _, _, _, rfl, by simp, fun _ => rfl⟩
  | ok =>
    dsimp only
    split
    · exact ⟨_, _, _, _, rfl, by simp, fun _ => rfl⟩
    · obtain ⟨result, ws, s', hfree, hbound, hown⟩ :=
        Config.exists_withRetriesFreely hp hlink.le_lossBound
          (fun _ => hlink.createLineage e (Path.lineage (e.space.fix p))) around s
      have hfree' : c.withRetriesFreely around (fun _ => attempt link e p) s =
          Part.some (result, ws, s') := hfree
      rw [hfree']
      rcases result with f | ⟨⟩
      · exact ⟨_, _, _, _, rfl, hbound, fun h => by rw [show c.withRetries link
          (fun _ => attempt link e p) s = _ from hown h]⟩
      · exact ⟨_, _, _, _, rfl, hbound, fun h => by rw [show c.withRetries link
          (fun _ => attempt link e p) s = _ from hown h]⟩

namespace Client

/-- **A part of a task returns**: without budgets it comes to an end, the client has waited some
more, each wait has taken something, and if its loops meet time and chance as they do with budgets,
these make no difference. -/
def Returns (pending : σ → Nat) (own : Prop) (c : Client) (s : σ)
    (free : Part (Except Failure α × Client × σ)) (plain : Except Failure α × Client × σ) :
    Prop :=
  ∃ result c' s' ws, free = Part.some (result, c', s') ∧ c'.config = c.config ∧
    c'.sleeps = c.sleeps ++ ws ∧ ws.length + pending s' ≤ pending s ∧
    (own → plain = (result, c', s'))

variable {own : Prop} {c : Client} {β : Type}

/-- What is over at once returns. -/
theorem Returns.at_once (result : Except Failure α) (c : Client) (s : σ) :
    Returns pending own c s (Part.some (result, c, s)) (result, c, s) :=
  ⟨result, c, s, [], rfl, rfl, (List.append_nil _).symm, by simp, fun _ => rfl⟩

/-- It makes no difference in which form the result is told. -/
theorem Returns.map {free : Part (Except Failure α × Client × σ)}
    {plain : Except Failure α × Client × σ} (h : Returns pending own c s free plain)
    (f : Client → Except Failure α → Except Failure β) :
    Returns pending own c s (free.map fun x => (f x.2.1 x.1, x.2.1, x.2.2))
      (f plain.2.1 plain.1, plain.2.1, plain.2.2) := by
  obtain ⟨result, c', s', ws, hfree, hconfig, hsleeps, hbound, hown⟩ := h
  refine ⟨f c' result, c', s', ws, by rw [hfree]; rfl, hconfig, hsleeps, hbound, fun h => ?_⟩
  rw [hown h]

theorem returns_ensureRoot (hlink : link.Drains pending) (hp : c.config.policy.isBuiltIn)
    (around : Circumstances) (s : σ) :
    Returns pending (around = .ofSleeper c.config.sleeper) c s (c.ensureRootFreely link around s)
      (c.ensureRoot link s) := by
  rw [ensureRootFreely, ensureRoot]
  cases c.space.root with
  | none => exact .at_once (.ok ()) c s
  | some root =>
    obtain ⟨result, e', ws, s', hfree, hbound, hown⟩ :=
      Ensurer.exists_ensureFreely hlink hp around.root c.rootEnsurer root s
    dsimp only
    rw [hfree]
    refine ⟨result, Client.slept { c with rootEnsurer := e' } ws, s', ws, rfl, rfl, rfl, hbound, ?_⟩
    rintro rfl
    rw [hown rfl]

/-- **A call returns**: what the loop on the way to the root leaves is there for its own loop. -/
theorem returns_call (hlink : link.Drains pending) (hp : c.config.policy.isBuiltIn)
    (around : Circumstances) {attempt : Nat → σ → Except StoreError α × σ}
    (h : ∀ n s, pending (attempt n s).2 + toll (attempt n s).1 ≤ pending s) (s : σ) :
    Returns pending (around = .ofSleeper c.config.sleeper) c s (c.callFreely link around attempt s)
      (c.call link attempt s) := by
  obtain ⟨rooted, c₁, s₁, ws₁, hroot, hconfig, hsleeps, hbound, hown⟩ :=
    returns_ensureRoot hlink hp around s
  rw [callFreely, call, hroot, Part.bind_some]
  rcases rooted with f | ⟨⟩
  · refine ⟨_, c₁, s₁, ws₁, rfl, hconfig, hsleeps, hbound, fun h => ?_⟩
    rw [hown h]
  · have hp' : c₁.config.policy.isBuiltIn := by rwa [hconfig]
    obtain ⟨result, ws, s', hfree, hbound', hown'⟩ :=
      Config.exists_withRetriesFreely hp' hlink.le_lossBound h around.call s₁
    dsimp only
    rw [hfree]
    refine ⟨result, c₁.slept ws, s', ws₁ ++ ws, rfl, hconfig, ?_, ?_, fun h => ?_⟩
    · rw [slept, hsleeps, List.append_assoc]
    · rw [List.length_append]
      omega
    · have hcall := hown' (by rw [h, hconfig]; rfl)
      rw [hown h]
      dsimp only
      rw [hcall]

theorem returns_perform (hlink : link.Drains pending) (hp : c.config.policy.isBuiltIn)
    (around : Circumstances) (k : Task) (s : σ) :
    Returns pending (around = .ofSleeper c.config.sleeper) c s (c.performFreely link around k s)
      (c.perform link k s) := by
  cases k with
  | execute o =>
    have hexecute : Returns pending (around = .ofSleeper c.config.sleeper) c s
        (c.executeFreely link around o s) (c.execute link o s) := by
      rw [executeFreely, execute]
      cases c.checkOpen with
      | error f => exact .at_once (.error f) c s
      | ok =>
        dsimp only
        cases c.prepare o with
        | error f => exact .at_once (.error f) c s
        | ok r =>
          exact (returns_call hlink hp around (fun n s => hlink.attempt r n s) s).map
            fun c result => result.map (reported c.space)
    exact hexecute.map fun _ result => result.map Told.answered
  | submit os =>
    have hsubmit : Returns pending (around = .ofSleeper c.config.sleeper) c s
        (c.submitFreely link around os s) (c.submit link os s) := by
      rw [submitFreely, submit]
      cases c.checkOpen with
      | error f => exact .at_once (.error f) c s
      | ok =>
        dsimp only
        cases c.prepareBatch os with
        | error f => exact .at_once (.error f) c s
        | ok b =>
          exact (returns_call hlink hp around (fun _ s => hlink.multi s b.requests) s).map
            fun c result => conclude c.space b result
    exact hsubmit.map fun _ result => result.map Told.reported
  | ensurePath p =>
    have hensure : Returns pending (around = .ofSleeper c.config.sleeper) c s
        (c.ensurePathFreely link around p s) (c.ensurePath link p s) := by
      rw [ensurePathFreely, ensurePath]
      cases c.checkOpen with
      | error f => exact .at_once (.error f) c s
      | ok =>
        obtain ⟨result, e', ws, s', hfree, hbound, hown⟩ :=
          Ensurer.exists_ensureFreely hlink hp around.call c.ensurer p s
        dsimp only
        rw [hfree, ensure]
        refine ⟨result, Client.slept { c with ensurer := e' } ws, s', ws, rfl, rfl, rfl, hbound, ?_⟩
        rintro rfl
        rw [hown rfl]
    exact hensure.map fun _ result => result.map fun () => Told.ensured

/-- **A task returns**, whatever the store is that it finds and whatever has become of its session,
whatever the namespace of the client is and whatever its ensurers remember, under every policy of
the library, and whatever the clocks show and the dice roll. The client has made at most as many
retries as there were faults when it began and are not any more, on the way to the root of the
namespace and in the call together. Others may move before each request and after it; then faults
count that they announce. With time and chance as the client's sleeper has them, the task comes to
what it comes to with budgets. -/
theorem perform_returns (hp : c.config.policy.isBuiltIn) (s : Session) (k : Task) (st : Store) :
    (∀ around, ∃ told c' st' ws,
      c.performFreely (Store.link s) around k st = Part.some (told, c', st') ∧
        c'.sleeps = c.sleeps ++ ws ∧ ws.length + st'.faults.length ≤ st.faults.length) ∧
    (∀ around (others : List (List Store.Move)), ∃ told c' st' rest ws,
      c.performFreely (Store.sharedLink s) around k (st, others) = Part.some (told, c', st', rest) ∧
        c'.sleeps = c.sleeps ++ ws ∧
        ws.length + st'.faults.length ≤ st.faults.length + Store.announced others.flatten) ∧
    c.performFreely (Store.link s) (.ofSleeper c.config.sleeper) k st =
      Part.some (c.perform (Store.link s) k st) := by
  refine ⟨fun around => ?_, fun around others => ?_, ?_⟩
  · obtain ⟨told, c', st', ws, hfree, -, hsleeps, hbound, -⟩ :=
      returns_perform (Store.drains_link s) hp around k st
    exact ⟨told, c', st', ws, hfree, hsleeps, hbound⟩
  · obtain ⟨told, c', ⟨st', rest⟩, ws, hfree, -, hsleeps, hbound, -⟩ :=
      returns_perform (Store.drains_sharedLink s) hp around k (st, others)
    refine ⟨told, c', st', rest, ws, hfree, hsleeps, Nat.le_trans ?_ hbound⟩
    exact Nat.add_le_add_left (Nat.le_add_right _ _) _
  · obtain ⟨told, c', st', ws, hfree, -, -, -, hown⟩ :=
      returns_perform (Store.drains_link s) hp (.ofSleeper c.config.sleeper) k st
    rw [hfree, hown rfl]

/-- A client that never gives up, at the root of a namespace which it has not ensured yet. -/
def steadfast : Client :=
  { config := { Config.trial with policy := .forever (.ofMillis 1), space := some "svc" }
    space := ⟨some "/svc"⟩
    rootEnsurer := .ofConfig .trial .whole
    ensurer := .ofConfig .trial ⟨some "/svc"⟩
    closed := false
    sleeps := [] }

/-- A store that will lose an answer, lie to a client about a node, lose a request, and lose an
answer again. -/
def battered : Store :=
  Store.Move.run .initial
    [.connect [], .failAfter .connectionLoss 1, .failNext .nodeExists 1,
      .failNext .operationTimeout 1, .failAfter .connectionLoss 1]

/-- A create under that client's namespace. -/
def arrival : Task := .execute (.create "/x" ByteArray.empty .persistent none)

/-- One retry on the way to the root of the namespace and two in the call, for four faults; in the
end the node is there. -/
theorem perform_returns_of_steadfast :
    ∃ c' st',
      steadfast.performFreely (Store.link ⟨1, []⟩) (.ofSleeper .recording) arrival battered =
        Part.some (.ok (.answered (.created "/x" none)), c', st') ∧
      c'.sleeps = List.replicate 3 (.ofMillis 1) ∧ battered.faults.length = 4 ∧
      st'.faults.length = 0 ∧ (st'.tree.node? "/svc/x").isSome := by
  obtain ⟨-, -, hplain⟩ :=
    perform_returns (c := steadfast) rfl ⟨1, []⟩ arrival battered
  have htold : (steadfast.perform (Store.link ⟨1, []⟩) arrival battered).1 =
      .ok (.answered (.created "/x" none)) := by decide +kernel
  have hsleeps : (steadfast.perform (Store.link ⟨1, []⟩) arrival battered).2.1.sleeps =
      List.replicate 3 (.ofMillis 1) := by decide +kernel
  have hstore : (steadfast.perform (Store.link ⟨1, []⟩) arrival battered).2.2.faults.length = 0 ∧
      ((steadfast.perform (Store.link ⟨1, []⟩) arrival battered).2.2.tree.node?
        "/svc/x").isSome := by
    decide +kernel
  refine ⟨_, _, hplain.trans ?_, hsleeps, by decide +kernel, hstore⟩
  rw [← htold]

end Client

end

end Coordination
