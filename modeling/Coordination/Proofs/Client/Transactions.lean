import Coordination.Proofs.Client.Calls
import Coordination.Proofs.Store.Resending

/-!
# Transactions whose answers are lost

A client sends a transaction again when it learns nothing of the last sending, be it that the
request was lost or that the answer was. It does not tell the two apart, so a transaction may reach
the tree several times: once for every answer that was lost, and once when there are no faults left.
How often that is depends on the faults and on the retry rule, and not on what the tree does.

Two promises about transactions hold in most cases and fail in the others. A transaction is applied
at most once, unless the tree accepts the batch and then accepts it again. A transaction that is
reported to have failed has not taken effect, unless the tree accepted the batch the first time and
refused it later. Both cases are stated exactly.

## Main definitions

* `RetryLoop.landings`: how often the attempts of a loop reach the tree
* `Client.SendsTwice`: the calls in which a batch is applied more than once

## Main results

* `Client.commits_submit_le_iff`: when a transaction is applied at most once
* `Client.commits_submit_le_of_answered`: it is where no answer is lost
* `Client.tree_submit_eq_iff`: when a transaction that has failed has not taken effect
-/

namespace Coordination

/-! ## The loop -/

namespace RetryLoop

variable {rule : RetryRule} {around : Surroundings} {budget : Nat} {l : RetryLoop} {st : Store}
  {s : Session} {rs : List Request}

/-- How often the attempts of a loop reach the tree behind some faults. The attempt that meets no
fault reaches it and learns so. -/
def landings (rule : RetryRule) (around : Surroundings) : RetryLoop → List Fault → Nat
  | _, [] => 1
  | l, f :: fs =>
    f.landings +
      match l.next? rule around (Store.plainError f.code) with
      | none => 0
      | some sleep => landings rule around (l.retried sleep) fs

/-- A loop sends a batch as often as it lands, given a budget for all faults or for all retries. -/
theorem lands_run (hs : st.isConnected s)
    (hbudget : st.faults.length ≤ budget ∨ rule.GivesUpBy (l.retries + budget)) :
    Store.Lands s rs (landings rule around l st.faults) st
      (run rule around (fun _ st => st.multi s rs) budget l st).2.2 := by
  -- Every retry takes a fault away until there are none, so the induction is on the faults.
  generalize hfaults : st.faults = fs at hbudget
  induction fs generalizing budget l st with
  | nil =>
    obtain ⟨hok, hnone, hlands⟩ := Store.multi_of_faultless hs hfaults rs
    rcases hresult : st.multi s rs with ⟨e | as, st'⟩
    · -- The tree refuses the batch, and goes on doing so if it is sent again.
      have hrefused : st.tree.accepts s rs = false := by rw [← hok, hresult]; rfl
      have hlast : (∃ n, Store.Lands s rs n st
          (run rule around (fun _ st => st.multi s rs) budget l st).2.2) ∧
          (run rule around (fun _ st => st.multi s rs) budget l st).2.2.faults = [] := by
        refine run_preserves (P := fun st' => (∃ n, Store.Lands s rs n st st') ∧ st'.faults = [])
          ?_ ⟨⟨0, .refl s rs st⟩, hfaults⟩
        rintro _ st' ⟨⟨n, hn⟩, hfaults'⟩
        obtain ⟨-, hnone', hlands'⟩ :=
          Store.multi_of_faultless (hn.connected.trans hs) hfaults' rs
        exact ⟨⟨n + 1, hn.trans hlands'⟩, hnone'⟩
      obtain ⟨⟨n, hn⟩, -⟩ := hlast
      exact hn.of_refused hrefused 1
    · rw [run_of_ok hresult]
      rwa [hresult] at hlands
  | cons f fs ih =>
    obtain ⟨st', hresult, hfs, hlands⟩ := Store.multi_of_fault hs hfaults rs
    have hs' : st'.isConnected s := hlands.connected.trans hs
    rw [landings]
    cases hnext : l.next? rule around (Store.plainError f.code) with
    | none =>
      -- The rule gives up, and what the last attempt did is all there is.
      have hend : ∃ g, EndsBy rule (Store.plainError f.code) g ∧
          run rule around (fun _ st => st.multi s rs) budget l st = (.error g, l, st') :=
        run_of_end hresult (.inr hnext)
      obtain ⟨g, -, hrun⟩ := hend
      rw [hrun]
      exact hlands
    | some sleep =>
      cases budget with
      | zero =>
        -- Without a budget the rule has to give up here.
        rcases hbudget with hlength | hgives
        · simp at hlength
        · have hnone : l.next? rule around (Store.plainError f.code) = none :=
            hgives l.retries (Nat.le_refl _) _ _ _
          rw [hnone] at hnext
          cases hnext
      | succ budget =>
        rw [run_of_retry hresult hnext]
        refine hlands.trans (ih hs' hfs ?_)
        rcases hbudget with hlength | hgives
        · exact .inl (by simpa using hlength)
        · right
          rwa [retried, Nat.add_assoc, Nat.add_comm 1]

/-- Requests that are lost do not reach the tree. -/
theorem landings_le_one {fs : List Fault} (h : ∀ f ∈ fs, f.timing = .beforeApply) :
    landings rule around l fs ≤ 1 := by
  induction fs generalizing l with
  | nil => exact Nat.le_refl 1
  | cons f fs ih =>
    have hf : f.landings = 0 := by rw [Fault.landings, h f List.mem_cons_self]
    rw [landings, hf, Nat.zero_add]
    split
    · exact Nat.zero_le 1
    · exact ih fun g hg => h g (List.mem_cons_of_mem _ hg)

theorem lands_run_of_disconnected (hs : st.isConnected s = false) :
    Store.Lands s rs 0 st (run rule around (fun _ st => st.multi s rs) budget l st).2.2 := by
  refine run_preserves (P := Store.Lands s rs 0 st) ?_ (.refl s rs st)
  intro _ st' hlands
  exact hlands.trans (Store.multi_of_disconnected (hlands.connected.trans hs) rs)

end RetryLoop

/-! ## Aborts -/

/-- Whether a failure tells of a batch that was aborted. -/
def Failure.isAbort : Failure → Bool
  | store (.aborted ..) | transactionFailed .. => true
  | _ => false

/-- A loop that does not end by an aborted batch does not tell of one. -/
theorem RetryLoop.EndsBy.isAbort_eq_false {rule : RetryRule} {e : StoreError} {f : Failure}
    (h : EndsBy rule e f) (he : ∀ index code answers, e ≠ .aborted index code answers) :
    f.isAbort = false := by
  cases h with
  | exhausted => rfl
  | refused =>
    cases e with
    | aborted index code answers => exact absurd rfl (he index code answers)
    | refused => rfl
    | closed => rfl

/-! ## Calls -/

namespace Client

variable {c : Client} {s : Session} {os : List Operation} {st : Store} {b : Batch}

/-- The store when the root of the namespace has been ensured. -/
def rooted (c : Client) (s : Session) (st : Store) : Store := (c.ensureRoot (Store.link s) st).2.2

/-- How often a transaction reaches the tree once it has been prepared. -/
def landings (c : Client) (s : Session) (st : Store) : Nat :=
  if (c.ensureRoot (Store.link s) st).1.isOk && (c.rooted s st).isConnected s then
    RetryLoop.landings c.config.policy.rule c.config.sleeper.surroundings .fresh
      (c.rooted s st).faults
  else 0

/-- The calls in which a batch is applied more than once: it reaches the tree twice, and the tree
accepts it twice. -/
def SendsTwice (c : Client) (s : Session) (os : List Operation) (st : Store) : Prop :=
  ∃ b, c.closed = false ∧ c.prepareBatch os = .ok b ∧ 2 ≤ c.landings s st ∧
    (c.rooted s st).tree.accepts s b.requests ∧
    ((c.rooted s st).tree.sent s b.requests).accepts s b.requests

theorem commits_rooted (c : Client) (s : Session) (st : Store) :
    (c.rooted s st).commits = st.commits :=
  ensureRoot_preserves (P := fun st' => st'.commits = st.commits)
    (fun st' r h => (Store.commits_submit st' s r).trans h) rfl

theorem lands_withRetries {config : Config} {rs : List Request} (hs : st.isConnected s) :
    Store.Lands s rs
      (RetryLoop.landings config.policy.rule config.sleeper.surroundings .fresh st.faults) st
      (config.withRetries (Store.link s) (fun _ st => st.multi s rs) st).2.2 := by
  refine RetryLoop.lands_run hs ?_
  -- A policy that counts gives up within its budget; any other has one retry for each fault.
  rw [Config.retryBudget]
  cases hlimit : config.policy.retryLimit? with
  | none => exact .inl (Nat.le_refl _)
  | some n =>
    right
    rw [RetryLoop.fresh, Nat.zero_add]
    exact RetryPolicy.givesUpBy_rule hlimit

/-- A batch that is sent, in a call that has been prepared, lands as often as the call says. -/
theorem lands_call (c : Client) (s : Session) (rs : List Request) (st : Store) :
    Store.Lands s rs (c.landings s st) (c.rooted s st)
      (c.call (Store.link s) (fun _ st => st.multi s rs) st).2.2 := by
  have hconfig := config_ensureRoot (Store.link s) c st
  rw [landings, rooted]
  unfold call
  rcases hroot : c.ensureRoot (Store.link s) st with ⟨f | ⟨⟩, c', st'⟩
  · exact .refl s rs st'
  · rw [hroot] at hconfig
    rw [← (show c'.config = c.config from hconfig)]
    by_cases hs : st'.isConnected s = true
    · rw [if_pos (by simpa [Except.isOk, Except.toBool] using hs)]
      exact lands_withRetries hs
    · rw [if_neg (by simpa [Except.isOk, Except.toBool] using hs)]
      exact RetryLoop.lands_run_of_disconnected (by simpa using hs)

/-- What a call that is not rejected does to the store, its batch does. -/
theorem lands_submit (hopen : c.closed = false) (hb : c.prepareBatch os = .ok b) :
    Store.Lands s b.requests (c.landings s st) (c.rooted s st)
      (c.submit (Store.link s) os st).2.2 := by
  have hcall := lands_call c s b.requests st
  rw [submit, checkOpen, hopen, if_neg Bool.false_ne_true, hb]
  exact hcall

/-- A call that is rejected leaves the store alone. -/
theorem submit_of_rejected (h : c.closed = true ∨ ∃ f, c.prepareBatch os = .error f) :
    (c.submit (Store.link s) os st).2.2 = st := by
  rw [submit, checkOpen]
  by_cases hopen : c.closed = true
  · rw [if_pos hopen]
  · obtain ⟨f, hf⟩ := h.resolve_left hopen
    rw [if_neg hopen, hf]

/-- **A transaction is applied at most once**, for every retry policy and all faults to come, unless
it reaches a tree twice that accepts it twice. -/
theorem commits_submit_le_iff (c : Client) (s : Session) (os : List Operation) (st : Store) :
    (c.submit (Store.link s) os st).2.2.commits ≤ st.commits + 1 ↔ ¬ c.SendsTwice s os st := by
  by_cases hopen : c.closed = true
  · rw [submit_of_rejected (.inl hopen)]
    refine iff_of_true (Nat.le_succ _) ?_
    rintro ⟨b, hclosed, -⟩
    rw [hopen] at hclosed
    cases hclosed
  · cases hb : c.prepareBatch os with
    | error f =>
      rw [submit_of_rejected (.inr ⟨f, hb⟩)]
      refine iff_of_true (Nat.le_succ _) ?_
      rintro ⟨b, -, hb', -⟩
      rw [hb] at hb'
      cases hb'
    | ok b =>
      have hclosed : c.closed = false := by simpa using hopen
      -- What was counted before the call is left alone by the ensuring of the root.
      have hlands : Store.Lands s b.requests (c.landings s st) (c.rooted s st)
          (c.submit (Store.link s) os st).2.2 := lands_submit hclosed hb
      have htwice : c.SendsTwice s os st ↔
          1 < (c.rooted s st).tree.acceptances s b.requests (c.landings s st) := by
        rw [Tree.one_lt_acceptances_iff]
        constructor
        · rintro ⟨b', -, hb', h⟩
          obtain rfl : b = b' := by simpa [hb] using hb'
          exact h
        · intro h
          exact ⟨b, hclosed, hb, h⟩
      rw [hlands.commits, commits_rooted, htwice]
      omega

/-- **Requests that are lost do no harm**: where no answer is lost, a transaction is applied at most
once, whatever the batch. -/
theorem commits_submit_le_of_answered (h : ∀ f ∈ st.faults, f.timing = .beforeApply) :
    (c.submit (Store.link s) os st).2.2.commits ≤ st.commits + 1 := by
  have hrooted : ∀ f ∈ (c.rooted s st).faults, f.timing = .beforeApply :=
    ensureRoot_preserves (P := fun st' : Store => ∀ f ∈ st'.faults, f.timing = .beforeApply)
      (fun st' r hst' f hf => hst' f (Store.mem_faults_of_submit hf)) h
  have honce : c.landings s st ≤ 1 := by
    rw [landings]
    split
    · exact RetryLoop.landings_le_one hrooted
    · exact Nat.zero_le 1
  cases hb : c.prepareBatch os with
  | error f =>
    rw [submit_of_rejected (.inr ⟨f, hb⟩)]
    exact Nat.le_succ _
  | ok b =>
    by_cases hopen : c.closed = true
    · rw [submit_of_rejected (.inl hopen)]
      exact Nat.le_succ _
    · rw [(lands_submit (by simpa using hopen) hb).commits, commits_rooted]
      exact Nat.add_le_add_left (Nat.le_trans (Tree.acceptances_le _ _) honce) _

/-- A client of the first session. -/
def someClient : Client :=
  { config := .trial, space := .whole, rootEnsurer := .ofConfig .trial .whole,
    ensurer := .ofConfig .trial .whole, closed := false, sleeps := [] }

/-- A store with one session, the next answer to which will be lost. -/
def forgetful : Store := Store.Move.run .initial [.connect [], .failAfter .connectionLoss 1]

/-- A transaction that the tree accepts any number of times. -/
def rewriting : List Operation := [.plain (.setData "/" "x".toUTF8 anyVersion)]

/-- One lost answer, and the batch is applied twice. -/
theorem two_commits_of_rewriting :
    Client.start .trial = .ok someClient ∧ forgetful.Reachable ∧
      (∀ f ∈ forgetful.faults, f.code = .connectionLoss) ∧
      ¬ (someClient.submit (Store.link ⟨1, []⟩) rewriting forgetful).2.2.commits ≤
        forgetful.commits + 1 :=
  ⟨rfl, Store.Reachable.initial.run (by decide +kernel), by decide +kernel, by decide +kernel⟩

/-! ## Failures -/

theorem isAbort_of_ensureRoot_error {f : Failure}
    (h : (c.ensureRoot (Store.link s) st).1 = .error f) : f.isAbort = false := by
  unfold ensureRoot at h
  split at h
  · cases h
  · rcases Ensurer.ensureBy_eq_error h with ⟨message, rfl⟩ | hwork
    · rfl
    · obtain ⟨n, st₁, e, hend, hattempt⟩ := Config.exists_attempt_of_withRetries_error hwork
      obtain ⟨st₂, ⟨r, hr⟩ | ⟨p, hp⟩⟩ :=
        Ensurer.createLineage_eq_error (congrArg Prod.fst hattempt)
      · exact hend.isAbort_eq_false fun index code answers he =>
          Store.submit_ne_aborted (he ▸ hr)
      · exact hend.isAbort_eq_false fun index code answers he =>
          Store.exists?_ne_aborted (he ▸ hp)

/-- If a call tells of an aborted batch, the tree that is there in the end refuses it. -/
theorem send_of_call_isAbort {rs : List Request} {f : Failure}
    (h : (c.call (Store.link s) (fun _ st => st.multi s rs) st).1 = .error f)
    (hf : f.isAbort) :
    ∃ index code answers, f = .store (.aborted index code answers) ∧
      (c.call (Store.link s) (fun _ st => st.multi s rs) st).2.2.tree.send s rs =
        .error (index, code) := by
  unfold call at h ⊢
  rcases hroot : c.ensureRoot (Store.link s) st with ⟨g | ⟨⟩, c', st'⟩
  · rw [hroot] at h
    obtain rfl : g = f := by simpa using h
    rw [isAbort_of_ensureRoot_error (congrArg Prod.fst hroot)] at hf
    cases hf
  · rw [hroot] at h
    obtain ⟨n, st₁, e, hend, hmulti⟩ := Config.exists_attempt_of_withRetries_error h
    cases hend with
    | exhausted => cases hf
    | refused =>
      cases e with
      | aborted index code answers =>
        exact ⟨index, code, answers, rfl, Store.send_of_multi_aborted hmulti⟩
      | refused => cases hf
      | closed => cases hf

/-- A transaction that is reported to have failed has been sent, and the tree that is there in the
end refuses it for the reason that is reported. -/
theorem send_of_submit_transactionFailed {index : Nat} {path : String} {code : ErrorCode}
    {outcomes : List Outcome}
    (h : (c.submit (Store.link s) os st).1 =
      .error (.transactionFailed index path code outcomes)) :
    c.closed = false ∧ ∃ b, c.prepareBatch os = .ok b ∧
      (c.submit (Store.link s) os st).2.2.tree.send s b.requests = .error (index, code) := by
  unfold submit at h ⊢
  cases hopen : c.checkOpen with
  | error f =>
    rw [hopen] at h
    obtain rfl : f = _ := by simpa using h
    cases isRejection_of_checkOpen hopen
  | ok =>
    cases hb : c.prepareBatch os with
    | error f =>
      rw [hopen, hb] at h
      obtain rfl : f = _ := by simpa using h
      cases isRejection_of_prepareBatch hb
    | ok b =>
      rw [hopen, hb] at h
      have hclosed : c.closed = false := by
        by_cases hc : c.closed = true
        · simp [checkOpen, hc] at hopen
        · simpa using hc
      refine ⟨hclosed, b, rfl, ?_⟩
      rcases conclude_eq_transactionFailed h with ⟨answers, hresult⟩ | hresult
      · obtain ⟨index', code', answers', habort, hsend⟩ := send_of_call_isAbort hresult rfl
        cases habort
        exact hsend
      · obtain ⟨index', code', answers', habort, -⟩ := send_of_call_isAbort hresult rfl
        cases habort

/-- **A transaction that is reported to have failed has not taken effect**, unless the tree accepted
its batch when it was first sent. Whatever came before, the tree that is there in the end refuses it
for the reason that is reported. -/
theorem tree_submit_eq_iff {index : Nat} {path : String} {code : ErrorCode}
    {outcomes : List Outcome}
    (h : (c.submit (Store.link s) os st).1 =
      .error (.transactionFailed index path code outcomes)) :
    ∃ b, c.prepareBatch os = .ok b ∧
      (c.submit (Store.link s) os st).2.2.tree.send s b.requests = .error (index, code) ∧
      ((c.submit (Store.link s) os st).2.2.tree = (c.rooted s st).tree ↔
        (c.rooted s st).tree.accepts s b.requests = false) := by
  obtain ⟨hclosed, b, hb, hsend⟩ := send_of_submit_transactionFailed h
  -- The tree in the end refuses the batch; if it is the tree of the beginning, so does that one.
  refine ⟨b, hb, hsend, fun htree => ?_, fun hrefused => ?_⟩
  · rw [← htree]
    exact Tree.accepts_eq_false_iff.mpr ⟨_, hsend⟩
  · rw [(lands_submit hclosed hb).tree, Tree.sentTimes_of_refused hrefused]

/-- A transaction that the tree accepts once. -/
def creating : List Operation := [.create "/once" ByteArray.empty .persistent none]

/-- What is reported of it when the tree has accepted it before. -/
def alreadyThere : Failure :=
  .transactionFailed 0 "/once" .nodeExists
    [{ type := .create, path := "/once", createdPath := none, stat := none,
       code := some .nodeExists }]

/-- One lost answer, and a transaction that has taken effect is reported to have failed. -/
theorem creating_failed_and_done :
    forgetful.Reachable ∧ (∀ f ∈ forgetful.faults, f.code = .connectionLoss) ∧
      (someClient.submit (Store.link ⟨1, []⟩) creating forgetful).1 = .error alreadyThere ∧
      someClient.rooted ⟨1, []⟩ forgetful = forgetful ∧
      (someClient.submit (Store.link ⟨1, []⟩) creating forgetful).2.2.tree ≠ forgetful.tree :=
  ⟨Store.Reachable.initial.run (by decide +kernel), by decide +kernel, by decide +kernel,
    by decide +kernel, by decide +kernel⟩

/-- A store where the node has been created before. -/
def taken : Store :=
  Store.Move.run .initial
    [.connect [], .submit ⟨1, []⟩ (.create "/once" ByteArray.empty .worldOpen .persistent)]

/-- The same report is true where the tree refuses the batch from the start. -/
theorem tree_submit_creating_of_taken :
    (someClient.submit (Store.link ⟨1, []⟩) creating taken).1 = .error alreadyThere ∧
      (someClient.submit (Store.link ⟨1, []⟩) creating taken).2.2.tree =
        (someClient.rooted ⟨1, []⟩ taken).tree := by
  have hfailed : (someClient.submit (Store.link ⟨1, []⟩) creating taken).1 =
      .error alreadyThere := by decide +kernel
  have hrefused : (someClient.prepareBatch creating).toOption.any
      (fun b => !(someClient.rooted ⟨1, []⟩ taken).tree.accepts ⟨1, []⟩ b.requests) := by
    decide +kernel
  obtain ⟨b, hb, -, hiff⟩ := tree_submit_eq_iff hfailed
  rw [hb] at hrefused
  exact ⟨hfailed, hiff.mpr (by simpa [Except.toOption] using hrefused)⟩

end Client

end Coordination
