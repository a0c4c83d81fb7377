import Coordination.Store.Basic

/-!
# Links

A client's line to a store: what it can ask for, over any state. The line to the store of this
library is one; a line whose answers are tampered with is another. A client relies on nothing but
the link, so that what is proved of a client over every link holds of a client over any store.
-/

namespace Coordination

/-- A client's line to a store with states `σ`. -/
structure Link (σ : Type) where
  /-- Asks for one request. -/
  submit : σ → Request → Except StoreError Answer × σ
  /-- Asks for a batch of requests. -/
  multi : σ → List Request → Except StoreError (List Answer) × σ
  /-- The stat of a node, if there is one. -/
  exists? : σ → String → Except StoreError (Option Stat)
  /-- Whether the session is neither closed nor expired. -/
  isConnected : σ → Bool
  /-- A bound on the number of calls to come whose outcome will not be known. -/
  lossBound : σ → Nat

/-- The line of a session to its store. Only faults make an outcome unknown. -/
def Store.link (s : Session) : Link Store :=
  { submit := fun st r => st.submit s r
    multi := fun st rs => st.multi s rs
    exists? := fun st p => st.exists? s p
    isConnected := fun st => st.isConnected s
    lossBound := fun st => st.faults.length }

/-! ## Tampering -/

/-- What becomes of a store's answers on their way to a client. Failures pass unchanged. -/
structure Tampering where
  /-- Answers to put in the place of the coming ones to single requests, one by one. -/
  singles : List Answer
  /-- Answers to put in the place of the coming ones to batches, one by one. -/
  batches : List (List Answer)
  /-- Whether the last answer to a batch is lost. -/
  dropsLast : Bool
  /-- Whether answers that are not waited for are held back. -/
  holds : Bool
  deriving DecidableEq

namespace Tampering

/-- Nothing is tampered with. -/
def none : Tampering := { singles := [], batches := [], dropsLast := false, holds := false }

/-- The outcome of a single request as the client sees it. -/
def single (t : Tampering) (result : Except StoreError Answer) :
    Except StoreError Answer × Tampering :=
  match result, t.singles with
  | .ok _, a :: as => (.ok a, { t with singles := as })
  | _, _ => (result, t)

/-- The outcome of a batch as the client sees it. -/
def batch (t : Tampering) (result : Except StoreError (List Answer)) :
    Except StoreError (List Answer) × Tampering :=
  match result with
  | .error e => (.error e, t)
  | .ok as =>
    let (as, t) :=
      match t.batches with
      | [] => (as, t)
      | bs :: rest => (bs, { t with batches := rest })
    (.ok (if t.dropsLast then as.dropLast else as), t)

/-- The line of a session whose answers are tampered with. -/
def link (s : Session) : Link (Store × Tampering) :=
  { submit := fun (st, t) r =>
      let (result, st) := st.submit s r
      let (result, t) := t.single result
      (result, st, t)
    multi := fun (st, t) rs =>
      let (result, st) := st.multi s rs
      let (result, t) := t.batch result
      (result, st, t)
    exists? := fun (st, _) p => st.exists? s p
    isConnected := fun (st, _) => st.isConnected s
    lossBound := fun (st, _) => st.faults.length }

end Tampering

end Coordination
