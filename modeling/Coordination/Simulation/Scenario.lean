import Coordination.Simulation.Command

/-!
# Scenarios

Runs commands on a world, one after another, and keeps the names under which they speak of sessions,
clients, handles and background calls. After every command everything that need not wait is done.

## Main definitions

* `Scenario.step`: one command
* `Scenario.run`: a list of commands
* `Scenario.tally?`: what the store has counted, once no call is on its way that nobody has waited
  for
-/

namespace Coordination

/-! ## Names -/

/-- A client under a name. -/
structure NamedClient where
  /-- The number of the client. -/
  member : Nat
  /-- Whether the asker can see how long the client waits. -/
  watched : Bool
  deriving DecidableEq

/-- What ensures one path over a client's line, with a memory of its own. -/
structure Handle where
  /-- The number of the client. -/
  member : Nat
  /-- What ensures the path. -/
  ensurer : Ensurer
  /-- The path. -/
  path : String
  deriving DecidableEq

namespace Handle

/-- Whether the path has been ensured. -/
def isEnsured (h : Handle) : Bool := h.ensurer.isEnsured h.path

/-- A handle as text. -/
def text (h : Handle) : String :=
  Text.record "EnsureContainers"
    [("ensurer", h.ensurer.text), ("path", Text.quoted h.path)]

end Handle

/-- A background call under a name. -/
structure NamedCall where
  /-- The number of the client. -/
  member : Nat
  /-- The number of the call. -/
  ticket : Nat
  deriving DecidableEq

/-- A world with names for what is in it. -/
structure Scenario where
  /-- The world. -/
  world : World
  /-- The sessions. -/
  sessions : Std.ExtTreeMap String Session
  /-- The clients. -/
  clients : Std.ExtTreeMap String NamedClient
  /-- The handles. -/
  handles : Std.ExtTreeMap String Handle
  /-- The background calls. -/
  calls : Std.ExtTreeMap String NamedCall
  /-- The background calls that were not waited for. -/
  loose : Std.ExtTreeSet String
  /-- Whether a reply has been let go and nobody has waited since. -/
  released : Bool

/-- What the store has counted. -/
structure Tally where
  /-- The nodes. -/
  nodes : Nat
  /-- The requests and batches that have come in. -/
  requests : Nat
  /-- The requests other than checks that have been applied. -/
  mutations : Nat
  /-- The batches that have been applied. -/
  commits : Nat
  /-- The faults to come. -/
  faults : Nat
  deriving DecidableEq

/-- What a store has counted. -/
def Store.tally (st : Store) : Tally :=
  { nodes := st.tree.size, requests := st.requests, mutations := st.mutations,
    commits := st.commits, faults := st.faults.length }

namespace Scenario

/-- A store and nothing else. -/
def initial : Scenario :=
  { world := .initial, sessions := ∅, clients := ∅, handles := ∅, calls := ∅, loose := ∅,
    released := false }

/-- What the store has counted, unless a call may still be on its way. -/
def tally? (s : Scenario) : Option Tally :=
  if s.loose.isEmpty ∧ ¬s.released then some s.world.store.tally else none

/-- The scenario with another store. -/
def withStore (s : Scenario) (store : Store) : Scenario :=
  { s with world := { s.world with store } }

/-- Something is done over a session. -/
def withSession (s : Scenario) (name : String)
    (work : Session → Store → Reply × Store) : Reply × Scenario :=
  match s.sessions[name]? with
  | none => (.unknown, s)
  | some session =>
    let (reply, store) := work session s.world.store
    (reply, s.withStore store)

/-- Something is done with a client. -/
def withClient (s : Scenario) (name : String)
    (work : NamedClient → Member → World → Reply × World) : Reply × Scenario :=
  match s.clients[name]? with
  | none => (.unknown, s)
  | some c =>
    match s.world.members[c.member]? with
    | none => (.unknown, s)
    | some m =>
      let (reply, world) := work c m s.world
      (reply, { s with world })

/-! ## Sessions -/

/-- Whether a client that goes by a name works over a session. -/
def isHeld (s : Scenario) (session : Session) : Bool :=
  s.clients.toList.any fun c =>
    (s.world.members[c.2.member]?).any fun m => m.session.id == session.id

/-- A session that nobody holds any more is closed. -/
def letGo (s : Scenario) (session : Session) : Scenario :=
  if s.isHeld session then s else s.withStore (s.world.store.close session)

/-- Opens a session under a name. -/
def connect (s : Scenario) (name : String) (identities : List Identity) : Reply × Scenario :=
  let former := s.sessions[name]?
  let (session, store) := s.world.store.connect identities
  let s := { s.withStore store with sessions := s.sessions.insert name session }
  (.number session.id, former.elim s s.letGo)

/-- Lets go of the session under a name. -/
def dropSession (s : Scenario) (name : String) : Reply × Scenario :=
  match s.sessions[name]? with
  | none => (.truth false, s)
  | some session =>
    (.truth true, { s with sessions := s.sessions.erase name }.letGo session)

/-! ## Clients -/

/-- Lets go of a client, which is closed thereby. -/
def dropMember (s : Scenario) (c : NamedClient) : Scenario :=
  { s with world := s.world.close c.member }

/-- Starts a client under a name. One that went by the name before is let go of if the new one could
be started. -/
def start (s : Scenario) (name session : String) (setup : Setup) : Reply × Scenario :=
  match s.sessions[session]? with
  | none => (.unknown, s)
  | some link =>
    match setup.config.bind (s.world.start link setup.tampering) with
    | .error f => (.started (.error f), s)
    | .ok (member, world) =>
      let former := s.clients[name]?
      let c : NamedClient := { member, watched := setup.watched }
      let s := { s with world, clients := s.clients.insert name c }
      let root := (world.members[member]?).bind fun m => m.client.space.root
      (.started (.ok root), former.elim s s.dropMember)

/-- Lets go of the client under a name. -/
def drop (s : Scenario) (name : String) : Reply × Scenario :=
  match s.clients[name]? with
  | none => (.truth false, s)
  | some c => (.truth true, { s with clients := s.clients.erase name }.dropMember c)

/-- What there is to be known about a client. -/
def describe (c : NamedClient) (m : Member) (w : World) : Description :=
  { text := m.text
    root := m.client.space.root
    closed := m.client.closed
    sleeps := if c.watched then some m.client.sleeps else none
    containers := m.client.config.containers
    session := m.session.id
    connected := w.store.isConnected m.session }

/-! ## Background calls -/

/-- Waits until a call has come so far. Whether a call is parked shows without waiting. -/
def waitFor (s : Scenario) (c : NamedCall) : Milestone → Reply × Scenario
  | .delivered =>
    let (r, world) := (s.world.await c.ticket).report c.member c.ticket
    (.report r, { s with world })
  | .held =>
    (.reached .held, { s with world := s.world.waitUntil (·.isHolding c.member) })
  | m => (.reached m, s)

/-- A call has been queued: it gets its name, and the asker waits. -/
def queued (s : Scenario) (name : String) (c : NamedCall) (m : Milestone) : Reply × Scenario :=
  let s := { s with calls := s.calls.insert name c }
  if m = .queued then (.reached m, { s with loose := s.loose.insert name })
  else s.waitFor c m

/-- Makes a call. -/
def call (s : Scenario) (client : String) (o : Order) (mode : Mode) (name : String)
    (m : Milestone) : Reply × Scenario :=
  match s.clients[client]? with
  | none => (.unknown, s)
  | some c =>
    match s.world.members[c.member]? with
    | none => (.unknown, s)
    | some member =>
      match o with
      | .operation o =>
        match s.world.execute c.member member o mode with
        | (.error f, world) => (.executed (.error f), { s with world })
        | (.ok (.completed a), world) => (.executed (.ok a), { s with world })
        | (.ok (.queued ticket), world) =>
          { s with world }.queued name { member := c.member, ticket } m
      | .transaction os =>
        match s.world.submit c.member member os mode with
        | (.error f, world) => (.committed (.error f), { s with world })
        | (.ok (.completed a), world) => (.committed (.ok a), { s with world })
        | (.ok (.queued ticket), world) =>
          { s with world }.queued name { member := c.member, ticket } m

/-- Waits for a call that has a name. -/
def await (s : Scenario) (name : String) (m : Milestone) : Reply × Scenario :=
  match s.calls[name]? with
  | none => (.unknown, s)
  | some c => { s with loose := s.loose.erase name, released := false }.waitFor c m

/-- Lets go the first reply that is held back for a client. -/
def release (s : Scenario) (client : String) : Reply × Scenario :=
  { s with released := true }.withClient client fun c _ w =>
    let (was, w) := w.release c.member
    (.truth was, w)

/-! ## Ensuring -/

/-- Ensures a path so many times. -/
def ensureTimes (c : NamedClient) (path : String) :
    Nat → World → List (Except Failure Unit) × World
  | 0, w => ([], w)
  | n + 1, w =>
    match w.members[c.member]? with
    | none => ([], w)
    | some m =>
      let (result, w) := w.foreground c.member m fun link cl st => cl.ensure link path st
      let (results, w) := ensureTimes c path n w
      (result :: results, w)

/-- Makes a handle under a name. -/
def makeHandle (s : Scenario) (client name path : String) : Reply × Scenario :=
  match s.clients[client]? with
  | none => (.unknown, s)
  | some c =>
    match s.world.members[c.member]? with
    | none => (.unknown, s)
    | some m =>
      let h : Handle :=
        { member := c.member, ensurer := .ofConfig m.client.config m.client.space, path }
      (.handle path h.isEnsured, { s with handles := s.handles.insert name h })

/-- Ensures the path of a handle. -/
def ensureHandle (s : Scenario) (name : String) : Reply × Scenario :=
  match s.handles[name]? with
  | none => (.unknown, s)
  | some h =>
    match s.world.members[h.member]? with
    | none => (.unknown, s)
    | some m =>
      let ((result, ensurer), world) := s.world.ensureWith h.member m h.ensurer h.path
      let h := { h with ensurer }
      (.handled result h.isEnsured h.text, { s with world, handles := s.handles.insert name h })

/-! ## Commands -/

/-- Does what a command asks for. -/
def perform (s : Scenario) : Command → Reply × Scenario
  | .connect name identities => s.connect name identities
  | .dropSession name => s.dropSession name
  | .closeSession name =>
    s.withSession name fun x st => (.outcome (.ok ()), st.close x)
  | .isConnected name => s.withSession name fun x st => (.truth (st.isConnected x), st)
  | .expire name => s.withSession name fun x st => (.done, st.expire x.id)
  | .expireNumber id => (.done, s.withStore (s.world.store.expire id))
  | .reap =>
    let (count, store) := s.world.store.reap
    (.number count, s.withStore store)
  | .submit name r =>
    s.withSession name fun x st => let (a, st) := st.submit x r; (.answer a none, st)
  | .multi name rs =>
    s.withSession name fun x st => let (as, st) := st.multi x rs; (.answers as none, st)
  | .submitLater name r =>
    s.withSession name fun x st => let (a, st) := st.submit x r; (.answer a (some .io), st)
  | .multiLater name rs =>
    s.withSession name fun x st => let (as, st) := st.multi x rs; (.answers as (some .io), st)
  | .exists name path => s.withSession name fun x st => (.stat (st.exists? x path), st)
  | .getData name path => s.withSession name fun x st => (.data (st.getData x path), st)
  | .getChildren name path => s.withSession name fun x st => (.names (st.getChildren x path), st)
  | .setAcl name path acl version =>
    s.withSession name fun x st =>
      let (result, st) := st.setAcl x path acl version
      (.stat (result.map some), st)
  | .failNext code count => (.done, s.withStore (s.world.store.failNext code count))
  | .failAfter code count => (.done, s.withStore (s.world.store.failAfter code count))
  | .find path =>
    (.found { path, node := s.world.store.tree.node? path, hidden := none }, s)
  | .survey name => s.withSession name fun x st => (.surveyed (st.survey x), st)
  | .storeText => (.text s.world.store.text, s)
  | .start name session setup => s.start name session setup
  | .call client o mode name m => s.call client o mode name m
  | .await name m => s.await name m
  | .release client => s.release client
  | .listen client fault =>
    s.withClient client fun c _ w =>
      (.done, w.updateMember c.member fun m =>
        { m with eventListeners := m.eventListeners ++ [{ fault, seen := [] }] })
  | .listenErrors client panics =>
    s.withClient client fun c _ w =>
      (.done, w.updateMember c.member fun m =>
        { m with errorListeners := m.errorListeners ++ [{ panics, seen := [] }] })
  | .ensurePath client path =>
    s.withClient client fun c m w =>
      let (result, w) := w.foreground c.member m fun link cl st => cl.ensurePath link path st
      (.outcome result, w)
  | .ensured client path =>
    s.withClient client fun _ m w =>
      let e := m.client.ensurer
      (.ensured e.ensured.toList (e.isEnsured path) e.text, w)
  | .ensureTimes client path count =>
    s.withClient client fun c _ w =>
      let (results, w) := ensureTimes c path count w
      (.outcomes results, w)
  | .handle client name path => s.makeHandle client name path
  | .ensureHandle name => s.ensureHandle name
  | .close client => s.withClient client fun c _ w => (.truth true, w.close c.member)
  | .drop client => s.drop client
  | .describe client => s.withClient client fun c m w => (.description (describe c m w), w)

/-- Does what a command asks for, and then everything that need not wait. -/
def step (s : Scenario) (c : Command) : Reply × Scenario :=
  let (reply, s) := s.perform c
  (reply, { s with world := s.world.settle })

/-- Runs commands; of each is told what is replied and what the store has counted by then. -/
def run (s : Scenario) : List Command → List (Reply × Option Tally)
  | [] => []
  | c :: cs =>
    let (reply, s) := s.step c
    (reply, s.tally?) :: run s cs

end Scenario

end Coordination
