import Coordination.Background.Delivery
import Coordination.Background.Processor

/-!
# The world

A store, the clients over it and the threads that work for them, all in one value, with a clock that
moves only when somebody waits and a die that decides what is left to chance. Threads are data: each
piece of work knows on which thread it is done, and a thread with a queue does its work in order.
What callbacks and listeners are told is noted with the calls and the listeners.

The functions that change a world are single pieces of work; `Coordination.Simulation.Schedule` puts
them in order.
-/

namespace Coordination

/-! ## Threads -/

/-- A thread that runs callbacks for clients. -/
inductive WorkerId where
  /-- The callback thread of a client. -/
  | ofClient (client : Nat)
  /-- A delivery thread that callers have brought along. -/
  | named (name : String)
  deriving DecidableEq

/-- A thread. -/
inductive Thread where
  /-- The caller's. -/
  | main
  /-- A session's, for replies. -/
  | io
  /-- The processor of a client. -/
  | processor (client : Nat)
  /-- A thread for callbacks. -/
  | worker (id : WorkerId)
  deriving DecidableEq

/-- The name of a thread. -/
def Thread.name : Thread → String
  | main => "main"
  | io => "ensemble-memory-io"
  | processor _ => "ensemble-background"
  | worker (.ofClient _) => "ensemble-callbacks"
  | worker (.named name) => name

/-- A thread for callbacks with its work. -/
structure Worker where
  /-- Which thread it is. -/
  id : WorkerId
  /-- The deliveries to be made, each for a client, the next one first. -/
  queue : List (Nat × Delivery)
  /-- Whether the next one waits for the client's processor to end. -/
  waits : Bool

/-! ## Clients -/

/-- A listener of a client for events. -/
structure EventListener where
  /-- How it fails, if it does. -/
  fault : Option String
  /-- What it has been told, and where. -/
  seen : List (Event × Thread)

/-- A listener of a client for errors. -/
structure ErrorListener where
  /-- Whether it panics when it is told something. -/
  panics : Bool
  /-- What it has been told. -/
  seen : List Notice

/-- A client at work. -/
structure Member where
  /-- Its session. -/
  session : Session
  /-- What becomes of the store's answers on their way. -/
  tampering : Tampering
  /-- The client. -/
  client : Client
  /-- What carries its background calls. -/
  processor : Processor
  /-- The replies that are held back, the first one first. -/
  held : List (Job × StoreReply)
  /-- Its listeners for events. -/
  eventListeners : List EventListener
  /-- Its listeners for errors. -/
  errorListeners : List ErrorListener

/-- A client at work as text. -/
def Member.text (m : Member) : String :=
  Text.record "Framework"
    [("namespace", m.client.space.text), ("processor", m.processor.text),
      ("closed", Text.truth m.client.closed)]

/-! ## Calls -/

/-- What has become of a background call. -/
structure CallLog where
  /-- Whether the call brought an error listener along. -/
  hasListener : Bool
  /-- What its callback has been told, and where. -/
  events : List (Event × Thread)
  /-- What its error listener has been told. -/
  errors : List Notice
  /-- The events that have been delivered for it, in order. -/
  deliveries : List Event

/-- A reply on its way to a client. -/
structure IncomingReply where
  /-- The client. -/
  client : Nat
  /-- The call. -/
  job : Job
  /-- What the store said. -/
  reply : StoreReply

/-! ## The world -/

/-- A store, the clients over it and the threads that work for them. -/
structure World where
  /-- The time, in nanoseconds. -/
  clock : Nat
  /-- The store. -/
  store : Store
  /-- The clients, by their numbers. -/
  members : List Member
  /-- The replies on their way, the next one first. -/
  incoming : List IncomingReply
  /-- The threads for callbacks. -/
  workers : List Worker
  /-- The background calls, by their numbers. -/
  calls : List CallLog
  /-- The die: what it shows for a background call, by its number, after so many retries. -/
  die : Nat → Nat → Nat

namespace World

/-- A world with a store and nothing else. -/
def initial : World :=
  { clock := 0, store := .initial, members := [], incoming := [], workers := [], calls := [],
    die := fun _ _ => 0 }

/-- The world with a client changed. -/
def updateMember (w : World) (k : Nat) (f : Member → Member) : World :=
  { w with members := w.members.modify k f }

/-- The world with a call changed. -/
def updateCall (w : World) (ticket : Nat) (f : CallLog → CallLog) : World :=
  { w with calls := w.calls.modify ticket f }

/-- A client starts. -/
def start (w : World) (s : Session) (t : Tampering) (c : Config) : Except Failure (Nat × World) :=
  (Client.start c).map fun client =>
    let m : Member :=
      { session := s, tampering := t, client, processor := .initial, held := [],
        eventListeners := [], errorListeners := [] }
    (w.members.length, { w with members := w.members ++ [m] })

/-! ## The foreground -/

/-- What a client does in the foreground over its line to the store. -/
abbrev Work (α : Type) :=
  Link (Store × Tampering) → Client → Store × Tampering → α × Client × Store × Tampering

/-- A client does something in the foreground. If it waits, the time passes. -/
def foreground {α : Type} (w : World) (k : Nat) (m : Member) (work : Work α) : α × World :=
  let (a, client, store, tampering) :=
    work (Tampering.link m.session) m.client (w.store, m.tampering)
  let waited := client.sleeps.drop m.client.sleeps.length
  let elapsed := client.config.sleeper.surroundings.elapsed
  let passed := (elapsed waited).nanos - (elapsed []).nanos
  (a,
    { w with clock := w.clock + passed, store }.updateMember k fun m =>
      { m with client, tampering })

/-! ## Closing -/

/-- A client closes its gate. -/
def beginClose (w : World) (k : Nat) : World :=
  w.updateMember k fun m =>
    { m with client := { m.client with closed := true }, processor := m.processor.shutdown }

/-- A client closes its session. -/
def endClose (w : World) (k : Nat) : World :=
  match w.members[k]? with
  | none => w
  | some m => { w with store := w.store.close m.session }

end World

end Coordination
