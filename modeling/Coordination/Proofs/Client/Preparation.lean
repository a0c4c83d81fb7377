import Coordination.Proofs.Client.Repeats

/-!
# What a call is rejected for

A transaction is looked at operation by operation before anything of it is sent, first the path of
an operation and then its request. The first operation that offends is the one that the transaction
is rejected for; if none does and there is one at all, what is sent is their requests, in order. And
no call is rejected once it has asked for something: whatever a link answers, and whatever the
client and the state behind the link, a rejected call leaves both as they were.

## Main definitions

* `Client.Offends`: what is wrong with an operation
* `Client.FirstOffence`: what a transaction is rejected for
* `Client.entries`: the batch of some operations

## Main results

* `Client.prepareBatch_eq_error_iff`, `Client.prepareBatch_eq_ok_iff`: a transaction is rejected for
  its first offence, and is prepared if it has none
* `Client.execute_of_rejected`, `Client.submit_of_isRejection`, `Client.ensurePath_of_rejected`: a
  rejected call leaves everything as it was
-/

namespace Coordination

namespace Client

variable {σ α : Type} {link : Link σ} {s : σ} {c : Client} {o : Operation} {os : List Operation}
  {index : Nat} {f : Failure} {b : Batch} {p : String}

/-! ## Offences -/

/-- **What is wrong with an operation at a place in its call**: its path is malformed, or its
schema, which is that of the caller's path, does not allow its request. -/
inductive Offends (c : Client) (index : Nat) (o : Operation) : Failure → Prop where
  /-- The path is malformed. -/
  | path (h : Path.isValid o.path = false) :
      Offends c index o (.invalidArgument ("operation " ++ Text.Decimal.natural index ++ ": " ++
        (StoreError.refused .badArguments (some o.path)).message))
  /-- The path is well formed, but the schema does not allow the request. -/
  | schema (h : Path.isValid o.path) (v : Violation)
      (hv : c.config.schemas.validateFor o.path (c.request o) = .error v) :
      Offends c index o (.schemaViolation index o.path v)

/-- **What a transaction is rejected for**: it has no operations, or the first that offends. -/
inductive FirstOffence (c : Client) (os : List Operation) : Failure → Prop where
  /-- There are no operations. -/
  | empty (h : os = []) : FirstOffence c os (.invalidArgument "transaction has no operations")
  /-- An operation offends, and none before it does. -/
  | operation {f : Failure} (index : Nat) (o : Operation) (ho : os[index]? = some o)
      (h : c.Offends index o f)
      (hfirst : ∀ i < index, ∀ o', os[i]? = some o' → ∀ f', ¬ c.Offends i o' f') :
      FirstOffence c os f

/-- The entry of an operation. -/
def entry (c : Client) (o : Operation) : BatchEntry :=
  { request := c.request o, type := o.request.type, path := o.path }

/-- The batch of some operations, in order. -/
def entries (c : Client) (os : List Operation) : Batch := os.map c.entry

@[simp] theorem requests_entries (c : Client) (os : List Operation) :
    (c.entries os).requests = os.map c.request := by
  rw [entries, Batch.requests, List.map_map]
  rfl

theorem prepareEntry_eq_error_iff :
    c.prepareEntry index o = .error f ↔ c.Offends index o f := by
  unfold prepareEntry Path.check
  by_cases hvalid : Path.isValid o.path = true
  · rw [if_pos hvalid]
    dsimp only
    unfold checkSchema
    cases hschema : c.config.schemas.validateFor o.path (c.request o) with
    | error v =>
      constructor
      · rintro ⟨⟩
        exact .schema hvalid v hschema
      · rintro (hmalformed | ⟨-, v', hv'⟩)
        · rw [hmalformed] at hvalid
          cases hvalid
        · rw [hschema] at hv'
          cases hv'
          rfl
    | ok =>
      constructor
      · rintro ⟨⟩
      · rintro (hmalformed | ⟨-, v', hv'⟩)
        · rw [hmalformed] at hvalid
          cases hvalid
        · rw [hschema] at hv'
          cases hv'
  · rw [if_neg hvalid]
    constructor
    · rintro ⟨⟩
      exact .path (by simpa using hvalid)
    · rintro (hmalformed | ⟨hvalid', -, -⟩)
      · rfl
      · exact absurd hvalid' hvalid

/-- An entry that is prepared is the entry of its operation. -/
theorem eq_entry_of_prepareEntry {e : BatchEntry} (h : c.prepareEntry index o = .ok e) :
    e = c.entry o := by
  unfold prepareEntry at h
  split at h
  · cases h
  · split at h
    · cases h
    · cases h
      rfl

theorem prepareEntry_eq_ok_iff {e : BatchEntry} :
    c.prepareEntry index o = .ok e ↔ (∀ f, ¬ c.Offends index o f) ∧ e = c.entry o := by
  constructor
  · intro h
    refine ⟨fun f hf => ?_, eq_entry_of_prepareEntry h⟩
    rw [prepareEntry_eq_error_iff.mpr hf] at h
    cases h
  · rintro ⟨hnone, rfl⟩
    cases h : c.prepareEntry index o with
    | error f => exact absurd (prepareEntry_eq_error_iff.mp h) (hnone f)
    | ok e => rw [eq_entry_of_prepareEntry h]

/-- The entries cannot be prepared if an operation offends, and the first that does has the word. -/
theorem prepareEntries_eq_error_iff :
    c.prepareEntries index os = .error f ↔
      ∃ (i : Nat) (o : Operation), os[i]? = some o ∧ c.Offends (index + i) o f ∧
        ∀ j < i, ∀ o', os[j]? = some o' → ∀ f', ¬ c.Offends (index + j) o' f' := by
  induction os generalizing index with
  | nil => simp [prepareEntries]
  | cons o os ih =>
    rw [prepareEntries]
    constructor
    · intro h
      split at h
      · rename_i hentry
        cases h
        exact ⟨0, o, rfl, prepareEntry_eq_error_iff.mp hentry, by simp⟩
      · rename_i hentry
        split at h
        · rename_i hentries
          cases h
          -- the first offence of the tail is the first, as the head has passed
          obtain ⟨i, o', ho', hoffends, hfirst⟩ := ih.mp hentries
          refine ⟨i + 1, o', ho', by rwa [Nat.add_right_comm] at hoffends, ?_⟩
          rintro (_ | j) hj o'' ho''
          · obtain rfl : o = o'' := by simpa using ho''
            exact (prepareEntry_eq_ok_iff.mp hentry).1
          · have hbefore := hfirst j (Nat.lt_of_succ_lt_succ hj) o'' (by simpa using ho'')
            rwa [Nat.add_right_comm] at hbefore
        · cases h
    · rintro ⟨_ | i, o', ho', hoffends, hfirst⟩
      · obtain rfl : o = o' := by simpa using ho'
        have hhead : c.prepareEntry index o = .error f := prepareEntry_eq_error_iff.mpr hoffends
        rw [hhead]
      · have hhead : c.prepareEntry index o = .ok (c.entry o) :=
          prepareEntry_eq_ok_iff.mpr ⟨hfirst 0 (Nat.succ_pos i) o rfl, rfl⟩
        have htail : c.prepareEntries (index + 1) os = .error f := by
          refine ih.mpr ⟨i, o', ho', by rwa [Nat.add_right_comm], ?_⟩
          intro j hj o'' ho''
          rw [Nat.add_right_comm]
          exact hfirst (j + 1) (Nat.succ_lt_succ hj) o'' ho''
        rw [hhead, htail]

theorem eq_entries_of_prepareEntries (h : c.prepareEntries index os = .ok b) :
    b = c.entries os := by
  induction os generalizing index b with
  | nil =>
    cases h
    rfl
  | cons o os ih =>
    rw [prepareEntries] at h
    split at h
    · cases h
    · rename_i hentry
      split at h
      · cases h
      · rename_i hentries
        cases h
        rw [(prepareEntry_eq_ok_iff.mp hentry).2, ih hentries]
        rfl

/-- **A transaction is rejected for its first offence.** -/
theorem prepareBatch_eq_error_iff : c.prepareBatch os = .error f ↔ c.FirstOffence os f := by
  unfold prepareBatch
  constructor
  · intro h
    split at h
    · rename_i hentries
      cases h
      obtain ⟨i, o, ho, hoffends, hfirst⟩ := prepareEntries_eq_error_iff.mp hentries
      simp only [Nat.zero_add] at hoffends hfirst
      exact .operation i o ho hoffends hfirst
    · -- entries are missing only if the operations are
      rename_i hentries
      cases h
      refine .empty ?_
      have hnil := eq_entries_of_prepareEntries hentries
      simpa [entries] using hnil
    · cases h
  · intro h
    cases h with
    | empty hnil =>
      subst hnil
      rfl
    | operation i o ho hoffends hfirst =>
      have hentries : c.prepareEntries 0 os = .error f :=
        prepareEntries_eq_error_iff.mpr ⟨i, o, ho, by simpa using hoffends, by simpa using hfirst⟩
      rw [hentries]

theorem eq_entries_of_prepareBatch (h : c.prepareBatch os = .ok b) : b = c.entries os := by
  unfold prepareBatch at h
  split at h
  · cases h
  · cases h
  · rename_i hentries
    cases h
    exact eq_entries_of_prepareEntries hentries

/-- **A transaction without an offence is prepared as it is.** -/
theorem prepareBatch_eq_ok_iff :
    c.prepareBatch os = .ok b ↔ (∀ f, ¬ c.FirstOffence os f) ∧ b = c.entries os := by
  constructor
  · intro h
    refine ⟨fun f hf => ?_, eq_entries_of_prepareBatch h⟩
    rw [prepareBatch_eq_error_iff.mpr hf] at h
    cases h
  · rintro ⟨hnone, rfl⟩
    cases h : c.prepareBatch os with
    | error f => exact absurd (prepareBatch_eq_error_iff.mp h) (hnone f)
    | ok b => rw [eq_entries_of_prepareBatch h]

/-- **If there is an offence at all, there is a first one**: a transaction without it has no
operation that offends. -/
theorem not_offends_of_forall_not_firstOffence (h : ∀ f, ¬ c.FirstOffence os f) (i : Nat) :
    ∀ o, os[i]? = some o → ∀ f, ¬ c.Offends i o f := by
  induction i using Nat.strongRecOn with
  | ind i hbefore =>
    intro o ho f hoffends
    exact h f (.operation i o ho hoffends hbefore)

/-- The paths of a transaction that is prepared are well formed. -/
theorem isValid_of_prepareBatch (h : c.prepareBatch os = .ok b) :
    ∀ o ∈ os, Path.isValid o.path := by
  intro o ho
  obtain ⟨i, hi⟩ := List.getElem?_of_mem ho
  by_contra hmalformed
  exact not_offends_of_forall_not_firstOffence (prepareBatch_eq_ok_iff.mp h).1 i o hi _
    (.path (by simpa using hmalformed))

/-- A transaction is rejected, or it is a call for the batch of its operations. -/
theorem submit_cases (link : Link σ) (c : Client) (os : List Operation) (s : σ) :
    (∃ f, f.isRejection ∧ (c.submit link os s).1 = .error f) ∨
      c.prepareBatch os = .ok (c.entries os) ∧
        c.submit link os s =
          (conclude c.space (c.entries os)
              (c.call link (fun _ s => link.multi s (os.map c.request)) s).1,
            (c.call link (fun _ s => link.multi s (os.map c.request)) s).2) := by
  unfold submit
  cases hopen : c.checkOpen with
  | error f => exact .inl ⟨f, isRejection_of_checkOpen hopen, rfl⟩
  | ok =>
    cases hb : c.prepareBatch os with
    | error f => exact .inl ⟨f, isRejection_of_prepareBatch hb, rfl⟩
    | ok b =>
      obtain rfl := eq_entries_of_prepareBatch hb
      right
      refine ⟨rfl, ?_⟩
      dsimp only
      rw [requests_entries, space_call]

end Client

/-! ## Rejections -/

/-- A loop does not reject a call that it has sent. -/
theorem RetryLoop.EndsBy.isRejection_eq_false {rule : RetryRule} {e : StoreError} {f : Failure}
    (h : EndsBy rule e f) : f.isRejection = false := by
  cases h <;> rfl

variable {σ : Type} {link : Link σ} {s : σ} {f : Failure} {p : String}

theorem Ensurer.ensure_of_rejected {c : Config} {e : Ensurer}
    (h : (e.ensure link c p s).1 = .error f) (hf : f.isRejection) :
    e.ensure link c p s = (.error f, e, [], s) := by
  unfold ensure ensureBy at h ⊢
  split
  · rename_i hpath
    rw [hpath] at h
    obtain rfl : _ = f := by simpa using h
    rfl
  · rename_i hpath
    rw [hpath] at h
    dsimp only at h
    split at h
    · cases h
    · split at h
      · cases h
      · rename_i hwork
        -- what the work fails with is no rejection
        obtain rfl : _ = f := by simpa using h
        obtain ⟨n, s₁, refusal, hends, -⟩ :=
          Config.exists_attempt_of_withRetries_error (congrArg Prod.fst hwork)
        rw [hends.isRejection_eq_false] at hf
        cases hf

namespace Client

variable {α : Type} {c : Client} {o : Operation} {os : List Operation}

@[simp] theorem slept_nil (c : Client) : c.slept [] = c := by
  simp only [slept, List.append_nil]

theorem ensureRoot_of_rejected (h : (c.ensureRoot link s).1 = .error f) (hf : f.isRejection) :
    c.ensureRoot link s = (.error f, c, s) := by
  unfold ensureRoot at h ⊢
  split
  · rename_i hroot
    rw [hroot] at h
    cases h
  · rename_i root hroot
    rw [hroot] at h
    rw [Ensurer.ensure_of_rejected h hf]
    simp only [slept_nil]

/-- A call that has been prepared is rejected only if the root of the namespace is malformed. -/
theorem call_of_rejected {attempt : Nat → σ → Except StoreError α × σ}
    (h : (c.call link attempt s).1 = .error f) (hf : f.isRejection) :
    c.call link attempt s = (.error f, c, s) := by
  rcases exists_attempt_of_call_error h with hroot | ⟨n, s₁, e, hends, -⟩
  · rw [call, ensureRoot_of_rejected hroot hf]
  · rw [hends.isRejection_eq_false] at hf
    cases hf

/-- **An operation that is rejected leaves everything as it was.** -/
theorem execute_of_rejected (h : (c.execute link o s).1 = .error f) (hf : f.isRejection) :
    c.execute link o s = (.error f, c, s) := by
  unfold execute at h ⊢
  split
  · rename_i hopen
    rw [hopen] at h
    obtain rfl : _ = f := by simpa using h
    rfl
  · rename_i hopen
    rw [hopen] at h
    dsimp only at h
    split
    · rename_i hprepare
      rw [hprepare] at h
      obtain rfl : _ = f := by simpa using h
      rfl
    · rename_i r hprepare
      rw [hprepare] at h
      have hcall : (c.call link (attempt link r) s).1 = .error f := by
        cases hresult : (c.call link (attempt link r) s).1 with
        | error f' => simpa [hresult, Except.map] using h
        | ok a => simp [hresult, Except.map] at h
      rw [call_of_rejected hcall hf]
      rfl

/-- **A transaction that is rejected leaves everything as it was.** -/
theorem submit_of_isRejection (h : (c.submit link os s).1 = .error f) (hf : f.isRejection) :
    c.submit link os s = (.error f, c, s) := by
  unfold submit at h ⊢
  split
  · rename_i hopen
    rw [hopen] at h
    obtain rfl : _ = f := by simpa using h
    rfl
  · rename_i hopen
    rw [hopen] at h
    dsimp only at h
    split
    · rename_i hprepare
      rw [hprepare] at h
      obtain rfl : _ = f := by simpa using h
      rfl
    · rename_i b hprepare
      rw [hprepare] at h
      have hcall := call_of_rejected (eq_error_of_conclude h hf) hf
      dsimp only at h
      rw [hcall] at h ⊢
      exact congrArg (·, c, s) h

/-- **A path that is rejected leaves everything as it was.** -/
theorem ensurePath_of_rejected (h : (c.ensurePath link p s).1 = .error f) (hf : f.isRejection) :
    c.ensurePath link p s = (.error f, c, s) := by
  unfold ensurePath at h ⊢
  split
  · rename_i hopen
    rw [hopen] at h
    obtain rfl : _ = f := by simpa using h
    rfl
  · rename_i hopen
    rw [hopen] at h
    have hensure : (c.ensurer.ensure link c.config p s).1 = .error f := h
    rw [ensure, Ensurer.ensure_of_rejected hensure hf]
    simp only [slept_nil]

end Client

end Coordination
