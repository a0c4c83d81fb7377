import Coordination.Simulation.Call
import Coordination.Store.Survey

/-!
# Commands

What can be asked of a world in which sessions, clients and background calls go by names, and what
is replied. Each name is the asker's own choice; a name that is used again stands for the new thing
from then on.
-/

namespace Coordination

/-- How far a background call has come. -/
inductive Milestone where
  /-- It is on its way. -/
  | queued
  /-- Its reply is held back. -/
  | held
  /-- It waits to be sent again. -/
  | parked
  /-- Its event has been delivered. -/
  | delivered
  deriving DecidableEq

/-- What a call has to say, whether it is an operation or a transaction. -/
inductive Order where
  /-- One operation. -/
  | operation (o : Operation)
  /-- A transaction. -/
  | transaction (os : List Operation)
  deriving DecidableEq

/-- How a client is to be started. -/
structure Setup where
  /-- What the client is told, unless that cannot be read. -/
  config : Except Failure Config
  /-- Whether the asker can see how long the client waits. -/
  watched : Bool
  /-- What becomes of the store's answers on their way. -/
  tampering : Tampering

/-- What can be asked. -/
inductive Command where
  /-- To open a session for a client that has proved some identities. -/
  | connect (session : String) (identities : List Identity)
  /-- To let go of a session. -/
  | dropSession (session : String)
  /-- To close a session. -/
  | closeSession (session : String)
  /-- Whether a session is neither closed nor expired. -/
  | isConnected (session : String)
  /-- To let a session expire. -/
  | expire (session : String)
  /-- To let the session with a number expire. -/
  | expireNumber (id : Int)
  /-- To remove the containers whose last child has gone. -/
  | reap
  /-- To send a request. -/
  | submit (session : String) (r : Request)
  /-- To send a batch. -/
  | multi (session : String) (rs : List Request)
  /-- To send a request and let the reply come in later. -/
  | submitLater (session : String) (r : Request)
  /-- To send a batch and let the reply come in later. -/
  | multiLater (session : String) (rs : List Request)
  /-- The stat of a node. -/
  | exists (session path : String)
  /-- The data of a node. -/
  | getData (session path : String)
  /-- The children of a node. -/
  | getChildren (session path : String)
  /-- To replace the access list of a node. -/
  | setAcl (session path : String) (acl : Acl) (version : Int32)
  /-- To lose requests to come. -/
  | failNext (code : ErrorCode) (count : Nat)
  /-- To lose answers to requests to come. -/
  | failAfter (code : ErrorCode) (count : Nat)
  /-- What there is at a path. -/
  | find (path : String)
  /-- What a session finds in the tree. -/
  | survey (session : String)
  /-- The store as text. -/
  | storeText
  /-- To start a client over a session. -/
  | start (client session : String) (setup : Setup)
  /-- To make a call; if it runs in the background, to wait until it has come so far. -/
  | call (client : String) (o : Order) (mode : Mode) (name : String) (goal : Milestone)
  /-- To wait until a background call has come so far. -/
  | await (name : String) (goal : Milestone)
  /-- To let go the first reply that is held back. -/
  | release (client : String)
  /-- To add a listener for events. -/
  | listen (client : String) (fault : Option String)
  /-- To add a listener for errors. -/
  | listenErrors (client : String) (panics : Bool)
  /-- To ensure a path. -/
  | ensurePath (client path : String)
  /-- What has been ensured, and whether a path has. -/
  | ensured (client path : String)
  /-- To ensure a path so many times, also when the client has been closed. -/
  | ensureTimes (client path : String) (count : Nat)
  /-- To make a handle that ensures a path with a memory of its own. -/
  | handle (client handle path : String)
  /-- To ensure the path of a handle. -/
  | ensureHandle (handle : String)
  /-- To close a client. -/
  | close (client : String)
  /-- To let go of a client. -/
  | drop (client : String)
  /-- What there is to be known about a client. -/
  | describe (client : String)

/-- What there is to be known about a client. -/
structure Description where
  /-- The client as text. -/
  text : String
  /-- The root of its namespace. -/
  root : Option String
  /-- Whether it has been closed. -/
  closed : Bool
  /-- How long it has waited between attempts, if that can be seen. -/
  sleeps : Option (List Duration)
  /-- Whether it creates containers on the way to a path. -/
  containers : Bool
  /-- The number of its session. -/
  session : Int
  /-- Whether the session is neither closed nor expired. -/
  connected : Bool
  deriving DecidableEq

/-- What is replied. -/
inductive Reply where
  /-- That it has been done. -/
  | done
  /-- That a name is not known. -/
  | unknown
  /-- Whether it is so. -/
  | truth (b : Bool)
  /-- A number. -/
  | number (i : Int)
  /-- A text. -/
  | text (s : String)
  /-- How something without a result ended. -/
  | outcome (result : Except Failure Unit)
  /-- The answer to a request, and the thread on which it came in, if it came later. -/
  | answer (result : Except StoreError Answer) (on : Option Thread)
  /-- The answers to a batch, and the thread on which they came in, if they came later. -/
  | answers (result : Except StoreError (List Answer)) (on : Option Thread)
  /-- A stat, if there is one. -/
  | stat (result : Except StoreError (Option Stat))
  /-- Data with their stat. -/
  | data (result : Except StoreError (ByteArray × Stat))
  /-- The names of children. -/
  | names (result : Except StoreError (List String))
  /-- What there is at a path. -/
  | found (f : Finding)
  /-- What there is in the tree. -/
  | surveyed (fs : List Finding)
  /-- The root of the namespace of a client that has been started. -/
  | started (result : Except Failure (Option String))
  /-- How an operation ended. -/
  | executed (result : Except Failure Answer)
  /-- How a transaction ended. -/
  | committed (result : Except Failure (List Outcome))
  /-- How far a background call has come. -/
  | reached (m : Milestone)
  /-- What has been told about a background call. -/
  | report (r : Report)
  /-- The paths that have been ensured, whether the one in question has, and the ensurer as text. -/
  | ensured (paths : List String) (asked : Bool) (text : String)
  /-- How each of several attempts to ensure a path ended. -/
  | outcomes (results : List (Except Failure Unit))
  /-- The path of a handle and whether it has been ensured. -/
  | handle (path : String) (ensured : Bool)
  /-- How it ended, whether the path has been ensured, and the handle as text. -/
  | handled (result : Except Failure Unit) (ensured : Bool) (text : String)
  /-- What there is to be known about a client. -/
  | description (d : Description)

end Coordination
