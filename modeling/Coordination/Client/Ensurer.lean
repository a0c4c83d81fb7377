import Coordination.Client.Config
import Coordination.Client.Link

/-!
# Ensuring paths

Creates a node and the nodes above it where they are missing. A node that is there already will do,
also if the session would not have been allowed to create it. An ensurer remembers the paths that it
has ensured and does not ask the store about them again, whatever has become of them.

## Main definitions

* `Ensurer.createLineage`: one attempt, node by node from the top
* `Ensurer.ensureOnce`: one attempt, unless the path has been ensured
* `Ensurer.ensure`: as many attempts as the retry policy allows, unless the path has been ensured
-/

namespace Coordination

/-- Creates paths, each at most once. -/
structure Ensurer where
  /-- The namespace of the paths. -/
  space : Namespace
  /-- The access list of the nodes that are created. -/
  acl : Acl
  /-- Whether they are containers. -/
  containers : Bool
  /-- The paths that have been ensured. -/
  ensured : Std.ExtTreeSet String
  deriving DecidableEq

namespace Ensurer

/-- The ensurer of a client, which has ensured nothing yet. -/
def ofConfig (c : Config) (space : Namespace) : Ensurer :=
  { space, acl := c.acl, containers := c.containers, ensured := ∅ }

/-- Whether a path has been ensured. -/
def isEnsured (e : Ensurer) (p : String) : Bool := e.ensured.contains p

/-- The request that creates a node. -/
def request (e : Ensurer) (p : String) : Request :=
  if e.containers then .createContainer p ByteArray.empty e.acl
  else .create p ByteArray.empty e.acl .persistent

/-- Whether a refusal to create a node still lets the work go on, because the node is there. -/
def tolerates {σ : Type} (link : Link σ) (s : σ) (p : String) (refusal : StoreError) :
    Except StoreError Unit :=
  match refusal.code with
  | .nodeExists => .ok ()
  | .noAuth =>
    match link.exists? s p with
    | .error e => .error e
    | .ok none => .error refusal
    | .ok (some _) => .ok ()
  | _ => .error refusal

/-- Creates the nodes that are missing at some paths, in order. -/
def createLineage {σ : Type} (link : Link σ) (e : Ensurer) :
    List String → σ → Except StoreError Unit × σ
  | [], s => (.ok (), s)
  | p :: ps, s =>
    match link.submit s (e.request p) with
    | (.ok _, s') => createLineage link e ps s'
    | (.error refusal, s') =>
      match tolerates link s' p refusal with
      | .ok () => createLineage link e ps s'
      | .error e => (.error e, s')

/-- Creates a path of the namespace, all nodes above it included. -/
def attempt {σ : Type} (link : Link σ) (e : Ensurer) (p : String) (s : σ) :
    Except StoreError Unit × σ :=
  createLineage link e (Path.lineage (e.space.fix p)) s

/-- The ensurer after it has ensured a path. -/
def remember (e : Ensurer) (p : String) : Ensurer := { e with ensured := e.ensured.insert p }

/-- Ensures a path by some work, unless it has been ensured; what the work brings besides is
`nothing` when there is no work to do. -/
def ensureBy {σ ε : Type} (e : Ensurer) (p : String) (nothing : ε)
    (work : σ → Except Failure Unit × ε × σ) (s : σ) : Except Failure Unit × Ensurer × ε × σ :=
  match Path.check p with
  | .error refusal => (.error (.invalidArgument refusal.message), e, nothing, s)
  | .ok () =>
    if e.isEnsured p then (.ok (), e, nothing, s)
    else match work s with
      | (.ok (), extra, s') => (.ok (), e.remember p, extra, s')
      | (.error f, extra, s') => (.error f, e, extra, s')

/-- Ensures a path in one attempt. -/
def ensureOnce {σ : Type} (link : Link σ) (e : Ensurer) (p : String) (s : σ) :
    Except Failure Unit × Ensurer × σ :=
  let (result, e', (), s') :=
    e.ensureBy p () (fun s =>
      match attempt link e p s with
      | (.ok (), s') => (.ok (), (), s')
      | (.error refusal, s') => (.error (.store refusal), (), s')) s
  (result, e', s')

end Ensurer

/-! ## Retries -/

namespace Config

/-- How many retries one call can come to: what the policy allows, or as many as calls to come can
have an unknown outcome. -/
def retryBudget {σ : Type} (c : Config) (link : Link σ) (s : σ) : Nat :=
  c.policy.retryLimit?.getD (link.lossBound s)

/-- Makes a call until it succeeds or the policy gives up; says how long it waited between the
attempts. -/
def withRetries {σ α : Type} (c : Config) (link : Link σ)
    (attempt : Nat → σ → Except StoreError α × σ) (s : σ) :
    Except Failure α × List Duration × σ :=
  let (result, l, s') :=
    RetryLoop.run c.policy.rule c.sleeper.surroundings attempt (c.retryBudget link s) .fresh s
  (result, l.sleeps, s')

end Config

/-- Ensures a path, with retries. -/
def Ensurer.ensure {σ : Type} (link : Link σ) (c : Config) (e : Ensurer) (p : String) (s : σ) :
    Except Failure Unit × Ensurer × List Duration × σ :=
  e.ensureBy p [] (c.withRetries link fun _ => attempt link e p) s

namespace Ensurer

/-- An ensurer as text. -/
def text (e : Ensurer) : String :=
  Text.record "PathEnsurer"
    [("namespace", e.space.text), ("use_containers", Text.truth e.containers),
      ("ensured", Text.Decimal.natural e.ensured.size)]

end Ensurer

end Coordination
