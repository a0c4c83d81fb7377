import Coordination.Store.Tree

/-!
# The store

A tree behind sessions. The store counts what it is asked and what it applies, knows which sessions
have been closed or have expired, and holds faults to be met by coming requests: a request that
meets a fault is answered with the fault's code, before or after it has been applied.

A call of a closed session is not seen by the store at all; one of an expired session is counted but
meets no fault. Reading and the change of an access list are no requests in this sense: they are not
counted and meet no fault.

## Main definitions

* `Store.submit`, `Store.multi`: one request, and a batch of requests
* `Store.exists?`, `Store.getData`, `Store.getChildren`, `Store.setAcl`
* `Store.connect`, `Store.close`, `Store.expire`: the life of a session
* `Store.failNext`, `Store.failAfter`: faults to come
-/

namespace Coordination

/-- When a fault strikes. -/
inductive FaultTiming where
  /-- The request is lost. -/
  | beforeApply
  /-- The request is applied and its answer is lost. -/
  | afterApply
  deriving DecidableEq

/-- What a coming request will meet with. -/
structure Fault where
  /-- The code that the client sees. -/
  code : ErrorCode
  /-- When it strikes. -/
  timing : FaultTiming
  deriving DecidableEq

/-- A tree behind sessions. -/
structure Store where
  /-- The nodes. -/
  tree : Tree
  /-- The faults to come, the next one first. -/
  faults : List Fault
  /-- The sessions that have expired. -/
  expired : Std.ExtTreeSet Int
  /-- The sessions that have been closed. -/
  closed : Std.ExtTreeSet Int
  /-- The number of the next session. -/
  nextSession : Int
  /-- How many requests and batches have come in. -/
  requests : Nat
  /-- How many requests other than checks have been applied. -/
  mutations : Nat
  /-- How many batches have been applied. -/
  commits : Nat
  deriving DecidableEq

namespace Store

/-- A store with the root alone. -/
def initial : Store :=
  { tree := .initial, faults := [], expired := ∅, closed := ∅, nextSession := 1, requests := 0,
    mutations := 0, commits := 0 }

/-- The store as text. -/
def text (st : Store) : String :=
  Text.record "InMemoryStore" [("nodes", Text.Decimal.natural st.tree.size)]

/-! ## Sessions -/

/-- Opens a session for a client that has proved some identities. -/
def connect (st : Store) (identities : List Identity) : Session × Store :=
  (⟨st.nextSession, identities⟩, { st with nextSession := st.nextSession + 1 })

/-- Whether a session has been closed. -/
def isClosed (st : Store) (s : Session) : Bool := st.closed.contains s.id

/-- Whether a session has expired. -/
def hasExpired (st : Store) (s : Session) : Bool := st.expired.contains s.id

/-- Whether a session is neither closed nor expired. -/
def isConnected (st : Store) (s : Session) : Bool := !st.isClosed s && !st.hasExpired s

/-- Closes a session; its ephemeral nodes go. -/
def close (st : Store) (s : Session) : Store :=
  if st.isClosed s then st
  else { st with closed := st.closed.insert s.id, tree := st.tree.removeOwned s.id }

/-- Lets the session with a number expire; its ephemeral nodes go. -/
def expire (st : Store) (session : Int) : Store :=
  { st with expired := st.expired.insert session, tree := st.tree.removeOwned session }

/-- Removes the containers whose last child has gone, and counts them. -/
def reap (st : Store) : Nat × Store :=
  let (count, tree) := st.tree.reap
  (count, { st with tree })

/-! ## Faults -/

/-- The next requests will be lost. -/
def failNext (st : Store) (code : ErrorCode) (count : Nat) : Store :=
  { st with faults := st.faults ++ List.replicate count ⟨code, .beforeApply⟩ }

/-- The answers to the next requests will be lost. -/
def failAfter (st : Store) (code : ErrorCode) (count : Nat) : Store :=
  { st with faults := st.faults ++ List.replicate count ⟨code, .afterApply⟩ }

/-! ## Requests -/

/-- The error of a call that failed for no path's sake. -/
def plainError (code : ErrorCode) : StoreError := .refused code none

/-- Lets a request in: unless the session is closed, the request is counted; unless it has expired,
the request meets the next fault, if there is one, and `work` is done unless the fault comes
before. -/
def receive {α : Type} (st : Store) (s : Session)
    (work : Store → Except StoreError α × Store) : Except StoreError α × Store :=
  if st.isClosed s then (.error .closed, st)
  else
    let counted := { st with requests := st.requests + 1 }
    if counted.hasExpired s then (.error (plainError .sessionExpired), counted)
    else match counted.faults with
      | [] => work counted
      | ⟨code, .beforeApply⟩ :: faults => (.error (plainError code), { counted with faults })
      | ⟨code, .afterApply⟩ :: faults =>
        (.error (plainError code), (work { counted with faults }).2)

/-- Applies one request, in a transaction of its own unless it is a check. -/
def applyOne (st : Store) (s : Session) (r : Request) : Except StoreError Answer × Store :=
  let stamp := st.tree.transaction + 1
  match st.tree.apply s stamp r with
  | .error code => (.error (.refused code (some r.path)), st)
  | .ok (answer, tree) =>
    if r.isMutation then
      (.ok answer,
        { st with tree := { tree with transaction := stamp }, mutations := st.mutations + 1 })
    else (.ok answer, st)

/-- Applies a batch in one transaction, or nothing of it. -/
def applyBatch (st : Store) (s : Session) (rs : List Request) :
    Except StoreError (List Answer) × Store :=
  let stamp := st.tree.transaction + 1
  match st.tree.applyAll s stamp 0 rs with
  | .error (index, code) => (.error (.abortedBatch rs.length index code), st)
  | .ok (answers, tree) =>
    (.ok answers,
      { st with
        tree := { tree with transaction := stamp }
        mutations := st.mutations + rs.countP (·.isMutation)
        commits := st.commits + 1 })

/-- Asks for one request. -/
def submit (st : Store) (s : Session) (r : Request) : Except StoreError Answer × Store :=
  st.receive s (·.applyOne s r)

/-- Asks for a batch of requests. -/
def multi (st : Store) (s : Session) (rs : List Request) :
    Except StoreError (List Answer) × Store :=
  st.receive s (·.applyBatch s rs)

/-! ## Reading -/

/-- Accepts calls about well-formed paths by sessions that are connected. -/
def checkCall (st : Store) (s : Session) (p : String) : Except StoreError Unit :=
  if st.isClosed s then .error .closed
  else match Path.check p with
    | .error e => .error e
    | .ok () => if st.hasExpired s then .error (plainError .sessionExpired) else .ok ()

/-- The stat of a node, if there is one. No permission is needed. -/
def exists? (st : Store) (s : Session) (p : String) : Except StoreError (Option Stat) :=
  (st.checkCall s p).map fun () => (st.tree.node? p).map Node.stat

/-- The node at a path, if the session may read it. -/
def readable (st : Store) (s : Session) (p : String) : Except StoreError Node :=
  match st.checkCall s p with
  | .error e => .error e
  | .ok () =>
    match st.tree.node? p with
    | none => .error (.refused .noNode (some p))
    | some node => if node.permits s .read then .ok node else .error (.refused .noAuth (some p))

/-- The data and the stat of a node. -/
def getData (st : Store) (s : Session) (p : String) : Except StoreError (ByteArray × Stat) :=
  (st.readable s p).map fun n => (n.data, n.stat)

/-- The names of a node's children, in order. -/
def getChildren (st : Store) (s : Session) (p : String) : Except StoreError (List String) :=
  (st.readable s p).map fun n => n.children.toList

/-- Replaces the access list of a node. An empty list is refused before the session is asked for its
state. -/
def setAcl (st : Store) (s : Session) (p : String) (acl : Acl) (version : Int32) :
    Except StoreError Stat × Store :=
  if st.isClosed s then (.error .closed, st)
  else match Path.check p with
    | .error e => (.error e, st)
    | .ok () =>
      if acl.isEmpty then (.error (.refused .invalidAcl (some p)), st)
      else if st.hasExpired s then (.error (plainError .sessionExpired), st)
      else match st.tree.setAcl s p acl version with
        | .error code => (.error (.refused code (some p)), st)
        | .ok (stat, tree) =>
          (.ok stat, { st with tree := { tree with transaction := st.tree.transaction + 1 } })

end Store

end Coordination
