import Coordination.Batch
import Coordination.Client.Ensurer
import Coordination.Retry.Replay

/-!
# Clients

A client over one session. Every call is first prepared: its paths are checked, its operations are
resolved against the client's access list, moved into the namespace and held against the schemas of
the caller's paths. What passes is run here, in the foreground, or handed on to the background; a
call that does not pass asks the store for nothing.

## Main definitions

* `Client.prepare`, `Client.prepareBatch`: what a call sends to the store
* `Client.execute`: one operation, with retries; a repeat that finds its work done succeeds
* `Client.submit`: a transaction, with retries
* `Client.ensurePath`: a path of the namespace, once
-/

namespace Coordination

/-- A client over one session. -/
structure Client where
  /-- What the client was told when it was started. -/
  config : Config
  /-- The namespace of its callers. -/
  space : Namespace
  /-- What ensures the root of the namespace. -/
  rootEnsurer : Ensurer
  /-- What ensures paths for callers. -/
  ensurer : Ensurer
  /-- Whether the client has been closed. -/
  closed : Bool
  /-- How long the client has waited between attempts, in order. -/
  sleeps : List Duration

namespace Client

/-- Starts a client. -/
def start (c : Config) : Except Failure Client :=
  match c.validate with
  | .error f => .error f
  | .ok space =>
    .ok
      { config := c, space, rootEnsurer := .ofConfig c .whole, ensurer := .ofConfig c space,
        closed := false, sleeps := [] }

/-- Accepts calls of clients that have not been closed. -/
def checkOpen (c : Client) : Except Failure Unit :=
  if c.closed then .error .shuttingDown else .ok ()

/-! ## Preparation -/

/-- The request that an operation sends to the store. -/
def request (c : Client) (o : Operation) : Request :=
  c.space.fixRequest (o.resolved c.config.acl)

/-- Accepts operations that their schema allows; `index` is the operation's place in its call. -/
def checkSchema (c : Client) (index : Nat) (o : Operation) : Except Failure Unit :=
  match c.config.schemas.validateFor o.path (c.request o) with
  | .error v => .error (.schemaViolation index o.path v)
  | .ok () => .ok ()

/-- The request of a call for one operation. -/
def prepare (c : Client) (o : Operation) : Except Failure Request :=
  match Path.check o.path with
  | .error e => .error (.invalidArgument e.message)
  | .ok () =>
    match c.checkSchema 0 o with
    | .error f => .error f
    | .ok () => .ok (c.request o)

/-- The entry of an operation at a place in its call. -/
def prepareEntry (c : Client) (index : Nat) (o : Operation) : Except Failure BatchEntry :=
  match Path.check o.path with
  | .error e =>
    .error (.invalidArgument
      ("operation " ++ Text.Decimal.natural index ++ ": " ++ e.message))
  | .ok () =>
    match c.checkSchema index o with
    | .error f => .error f
    | .ok () => .ok { request := c.request o, type := o.request.type, path := o.path }

/-- The entries of operations, counted from `index`; the first that does not pass has the word. -/
def prepareEntries (c : Client) (index : Nat) : List Operation → Except Failure Batch
  | [] => .ok []
  | o :: os =>
    match c.prepareEntry index o with
    | .error f => .error f
    | .ok e =>
      match prepareEntries c (index + 1) os with
      | .error f => .error f
      | .ok es => .ok (e :: es)

/-- The batch of a transaction, which must not be empty. -/
def prepareBatch (c : Client) (os : List Operation) : Except Failure Batch :=
  match c.prepareEntries 0 os with
  | .error f => .error f
  | .ok [] => .error (.invalidArgument "transaction has no operations")
  | .ok b => .ok b

/-! ## The foreground -/

variable {σ : Type}

/-- The client after some more waits. -/
def slept (c : Client) (sleeps : List Duration) : Client := { c with sleeps := c.sleeps ++ sleeps }

/-- Ensures the root of the namespace, if there is one. -/
def ensureRoot (link : Link σ) (c : Client) (s : σ) : Except Failure Unit × Client × σ :=
  match c.space.root with
  | none => (.ok (), c, s)
  | some root =>
    let (result, rootEnsurer, sleeps, s) := c.rootEnsurer.ensure link c.config root s
    (result, { c with rootEnsurer }.slept sleeps, s)

/-- Makes a call with retries, once the root of the namespace has been ensured. -/
def call {α : Type} (link : Link σ) (c : Client) (attempt : Nat → σ → Except StoreError α × σ)
    (s : σ) : Except Failure α × Client × σ :=
  match c.ensureRoot link s with
  | (.error f, c, s) => (.error f, c, s)
  | (.ok (), c, s) =>
    let (result, sleeps, s) := c.config.withRetries link attempt s
    (result, c.slept sleeps, s)

/-- One attempt at a request. -/
def attempt (link : Link σ) (r : Request) (n : Nat) (s : σ) : Except StoreError Answer × σ :=
  let (result, s) := link.submit s r
  (r.settled n result, s)

/-- An answer with its path moved out of the namespace. -/
def reported (n : Namespace) : Answer → Answer
  | .created p stat => .created (n.unfix p) stat
  | a => a

/-- Runs one operation. -/
def execute (link : Link σ) (c : Client) (o : Operation) (s : σ) :
    Except Failure Answer × Client × σ :=
  match c.checkOpen with
  | .error f => (.error f, c, s)
  | .ok () =>
    match c.prepare o with
    | .error f => (.error f, c, s)
    | .ok r =>
      let (result, c, s) := c.call link (attempt link r) s
      (result.map (reported c.space), c, s)

/-- What a transaction reports after its last attempt. -/
def conclude (n : Namespace) (b : Batch) :
    Except Failure (List Answer) → Except Failure (List Outcome)
  | .ok answers => b.outcomes n answers
  | .error (.store (.aborted index code answers)) =>
    match b.outcomes n answers with
    | .error f => .error f
    | .ok outcomes =>
      .error (.transactionFailed index ((b[index]?.map (·.path)).getD "") code outcomes)
  | .error f => .error f

/-- Runs a transaction. -/
def submit (link : Link σ) (c : Client) (os : List Operation) (s : σ) :
    Except Failure (List Outcome) × Client × σ :=
  match c.checkOpen with
  | .error f => (.error f, c, s)
  | .ok () =>
    match c.prepareBatch os with
    | .error f => (.error f, c, s)
    | .ok b =>
      let (result, c, s) := c.call link (fun _ s => link.multi s b.requests) s
      (conclude c.space b result, c, s)

/-- Ensures a path for a caller, also of a client that has been closed. -/
def ensure (link : Link σ) (c : Client) (p : String) (s : σ) : Except Failure Unit × Client × σ :=
  let (result, ensurer, sleeps, s) := c.ensurer.ensure link c.config p s
  (result, { c with ensurer }.slept sleeps, s)

/-- Ensures a path for a caller. -/
def ensurePath (link : Link σ) (c : Client) (p : String) (s : σ) :
    Except Failure Unit × Client × σ :=
  match c.checkOpen with
  | .error f => (.error f, c, s)
  | .ok () => c.ensure link p s

end Client

end Coordination
