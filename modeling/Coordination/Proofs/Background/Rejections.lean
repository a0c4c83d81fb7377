import Coordination.Proofs.Background.Agreement
import Coordination.Proofs.Client.Preparation

/-!
# Rejected calls leave no trace

A client prepares a call before it runs it or leaves it to its processor, so a call is rejected for
the same reason in both ways, and a world in which a call has been rejected is the world in which it
was not made: the store with its counters and the faults to come, what the client knows to have been
ensured, the clock, the queues. There is no number for the call either, so that no event can ever be
told of it.

## Main definitions

* `World.handOn`: what becomes of the batch of a transaction that is not rejected

## Main results

* `World.rejections`: what transactions are rejected for, and what becomes of the others; rejected
  calls leave no trace
-/

namespace Coordination

namespace World

variable {α : Type} {w : World} {k : Nat} {m : Member} {mode : Mode} {payload : Payload}
  {f : Failure} {o : Operation} {os : List Operation} {p : String}

/-! ## Worlds that stay as they are -/

/-- Work that leaves the client and its line as they were leaves the world as it was. -/
theorem foreground_of_idle {a : α} {work : Work α} (hm : w.members[k]? = some m)
    (h : work (Tampering.link m.session) m.client (w.store, m.tampering) =
      (a, m.client, w.store, m.tampering)) :
    w.foreground k m work = (a, w) := by
  -- no sleep has been added, so no time passes
  have hwaited : (m.client.sleeps.drop m.client.sleeps.length) = [] := List.drop_length
  simp only [foreground, h, hwaited, Nat.sub_self, Nat.add_zero, Prod.mk.injEq, true_and]
  exact updateMember_of_eq hm rfl

/-- A call that its processor does not take leaves the world as it was. -/
theorem enqueue_of_rejected (h : (w.enqueue k m payload mode).1 = .error f) :
    w.enqueue k m payload mode = (.error f, w) := by
  unfold enqueue at h ⊢
  dsimp only at h ⊢
  split
  · rename_i hfull
    rw [hfull] at h
    obtain rfl : Failure.shuttingDown = f := by simpa using h
    rfl
  · rename_i hroom
    rw [hroom] at h
    cases h

theorem later_of_rejected {prepared : Except Failure Payload}
    (h : (w.later α k m prepared mode).1 = .error f) :
    w.later α k m prepared mode = (.error f, w) := by
  cases hopen : m.client.closed with
  | true =>
    rw [later_of_closed hopen] at h ⊢
    cases h
    rfl
  | false =>
    cases prepared with
    | error f' =>
      rw [later_of_error hopen] at h ⊢
      cases h
      rfl
    | ok payload =>
      rw [later_of_ok hopen] at h ⊢
      cases henqueue : (w.enqueue k m payload mode).1 with
      | error f' =>
        rw [henqueue] at h
        cases h
        rw [enqueue_of_rejected henqueue]
        rfl
      | ok ticket =>
        rw [henqueue] at h
        cases h

theorem atOnce_of_rejected {work : Work (Except Failure α)} (hm : w.members[k]? = some m)
    (hwork : ∀ s, (work (Tampering.link m.session) m.client s).1 = .error f →
      work (Tampering.link m.session) m.client s = (.error f, m.client, s))
    (h : (w.atOnce k m work).1 = .error f) : w.atOnce k m work = (.error f, w) := by
  have hresult : (w.foreground k m work).1 = .error f := by
    cases hresult : (w.foreground k m work).1 with
    | error f' => simpa [atOnce, hresult, Except.map] using h
    | ok a => simp [atOnce, hresult, Except.map] at h
  rw [atOnce, foreground_of_idle hm (hwork _ hresult)]
  rfl

/-! ## Operations and transactions -/

/-- What becomes of the batch of a transaction that is not rejected: the client sends it at once, or
leaves it to its processor. -/
def handOn (w : World) (k : Nat) (m : Member) (b : Batch) (mode : Mode) :
    Except Failure (Submission (List Outcome)) × World :=
  if mode.background then w.later (List Outcome) k m (.ok (.batch b)) mode
  else w.atOnce k m fun link c s =>
    let (result, c, s) := c.call link (fun _ s => link.multi s b.requests) s
    (Client.conclude c.space b result, c, s)

theorem execute_atOnce (hmode : mode.background = false) :
    w.execute k m o mode = w.atOnce k m fun link c s => c.execute link o s := by
  rw [execute, if_neg (by simp [hmode])]
  rfl

theorem submit_atOnce (hmode : mode.background = false) :
    w.submit k m os mode = w.atOnce k m fun link c s => c.submit link os s := by
  rw [submit, if_neg (by simp [hmode])]
  rfl

theorem execute_of_rejected (hm : w.members[k]? = some m) (hf : f.isRejection)
    (h : (w.execute k m o mode).1 = .error f) : w.execute k m o mode = (.error f, w) := by
  cases hmode : mode.background with
  | true =>
    rw [execute_background hmode] at h ⊢
    exact later_of_rejected h
  | false =>
    rw [execute_atOnce hmode] at h ⊢
    exact atOnce_of_rejected hm (fun s hs => Client.execute_of_rejected hs hf) h

theorem submit_of_rejected (hm : w.members[k]? = some m) (hf : f.isRejection)
    (h : (w.submit k m os mode).1 = .error f) : w.submit k m os mode = (.error f, w) := by
  cases hmode : mode.background with
  | true =>
    rw [submit_background hmode] at h ⊢
    exact later_of_rejected h
  | false =>
    rw [submit_atOnce hmode] at h ⊢
    exact atOnce_of_rejected hm (fun s hs => Client.submit_of_isRejection hs hf) h

/-- A transaction that is not prepared is rejected in both ways. -/
theorem submit_of_unprepared (hm : w.members[k]? = some m) (hopen : m.client.closed = false)
    (h : m.client.prepareBatch os = .error f) (mode : Mode) :
    w.submit k m os mode = (.error f, w) := by
  have hrejected : (w.submit k m os mode).1 = .error f := by
    cases hmode : mode.background with
    | true =>
      rw [submit_background hmode, h]
      exact congrArg Prod.fst (later_of_error hopen f)
    | false =>
      rw [submit_atOnce hmode, atOnce, foreground]
      simp only [Client.submit, Client.checkOpen, hopen, h, Bool.false_eq_true, if_false,
        Except.map]
  exact submit_of_rejected hm (Client.isRejection_of_prepareBatch h) hrejected

theorem submit_of_prepared {b : Batch} (hopen : m.client.closed = false)
    (h : m.client.prepareBatch os = .ok b) (mode : Mode) :
    w.submit k m os mode = w.handOn k m b mode := by
  unfold handOn
  cases hmode : mode.background with
  | true =>
    rw [submit_background hmode, h]
    rfl
  | false =>
    rw [submit_atOnce hmode]
    simp only [atOnce, foreground, Client.submit, Client.checkOpen, hopen, h, Bool.false_eq_true,
      if_false]

/-- **Rejected calls leave no trace**, and a transaction of an open client is rejected for its first
offence, in both ways; if it has none, it has operations of which none offends, and their requests
are handed on in order. -/
theorem rejections (hm : w.members[k]? = some m) (mode : Mode) :
    (m.client.closed = false → ∀ os,
      (∀ f, m.client.FirstOffence os f → w.submit k m os mode = (.error f, w)) ∧
      ((∀ f, ¬ m.client.FirstOffence os f) →
        os ≠ [] ∧ (∀ i o, os[i]? = some o → ∀ f, ¬ m.client.Offends i o f) ∧
        (m.client.entries os).requests = os.map m.client.request ∧
        w.submit k m os mode = w.handOn k m (m.client.entries os) mode)) ∧
    ∀ f, f.isRejection →
      (∀ o, (w.execute k m o mode).1 = .error f → (w.execute k m o mode).2 = w) ∧
      (∀ os, (w.submit k m os mode).1 = .error f → (w.submit k m os mode).2 = w) ∧
      ∀ p, (w.foreground k m fun link c s => c.ensurePath link p s).1 = .error f →
        (w.foreground k m fun link c s => c.ensurePath link p s).2 = w := by
  constructor
  · intro hopen os
    constructor
    · intro f hoffence
      exact submit_of_unprepared hm hopen (Client.prepareBatch_eq_error_iff.mpr hoffence) mode
    · intro hnone
      refine ⟨fun hnil => hnone _ (.empty hnil),
        Client.not_offends_of_forall_not_firstOffence hnone, Client.requests_entries _ _, ?_⟩
      exact submit_of_prepared hopen (Client.prepareBatch_eq_ok_iff.mpr ⟨hnone, rfl⟩) mode
  · intro f hf
    refine ⟨fun o h => ?_, fun os h => ?_, fun p h => ?_⟩
    · rw [execute_of_rejected hm hf h]
    · rw [submit_of_rejected hm hf h]
    · rw [foreground_of_idle hm (Client.ensurePath_of_rejected h hf)]

/-- The client of `resident`, which may only work at the path of its presence. -/
def guarded : Member :=
  { resident (.nTimes 5 (.ofMillis 1)) with
    client :=
      { Client.tenant with
        config :=
          { Client.tenant.config with
            schemas := (SchemaSet.ofList [.permissive "presence" (.exact "/here")]).strict } } }

/-- A transaction of which the first operation may pass, the second one is not allowed and the last
one is malformed. -/
def mixed : List Operation :=
  [Client.presence, .create "/elsewhere" ByteArray.empty .persistent none,
    .create "nowhere/" ByteArray.empty .persistent none]

/-- A world with the client, in which one request and two answers will be lost. -/
def warded : World := { initial with store := Client.lossy, members := [guarded] }

/-- The second operation has the word, in both ways; without it and the last one the transaction is
handed on. Neither the offence nor a malformed path leaves a trace. -/
theorem submit_mixed_of_warded :
    (∀ mode : Mode, warded.submit 0 guarded mixed mode =
      (.error (.schemaViolation 1 "/elsewhere" (.uncovered "/elsewhere")), warded)) ∧
    (∀ mode : Mode, warded.submit 0 guarded [Client.presence] mode =
      warded.handOn 0 guarded (guarded.client.entries [Client.presence]) mode) ∧
    (warded.foreground 0 guarded fun link c s => c.ensurePath link "nowhere/" s).2 = warded := by
  have hm : warded.members[0]? = some guarded := rfl
  have hopen : guarded.client.closed = false := rfl
  have hoffence : guarded.client.FirstOffence mixed
      (.schemaViolation 1 "/elsewhere" (.uncovered "/elsewhere")) := by
    rw [← Client.prepareBatch_eq_error_iff]
    decide +kernel
  have haccepted : (guarded.client.prepareBatch [Client.presence]).isOk := by decide +kernel
  have hnone : ∀ f, ¬ guarded.client.FirstOffence [Client.presence] f := by
    intro f hf
    rw [Client.prepareBatch_eq_error_iff.mpr hf] at haccepted
    cases haccepted
  have hmalformed : (warded.foreground 0 guarded fun link c s =>
      c.ensurePath link "nowhere/" s).1 =
        .error (.invalidArgument "bad arguments (-8) for nowhere/") := by
    decide +kernel
  refine ⟨fun mode => ?_, fun mode => ?_, ?_⟩
  · exact ((rejections hm mode).1 hopen mixed).1 _ hoffence
  · exact (((rejections hm mode).1 hopen [Client.presence]).2 hnone).2.2.2
  · exact ((rejections hm .foreground).2 _ rfl).2.2 _ hmalformed

end World

end Coordination
