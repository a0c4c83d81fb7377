import Coordination.Retry.Loop
import Coordination.Schema.Definition

/-!
# Configuration

What a client is told when it is started. A configuration is accepted when its access list is not
empty and its namespace is well formed.
-/

namespace Coordination

/-- How a client waits between attempts. -/
inductive Sleeper where
  /-- It waits. -/
  | thread
  /-- It notes how long it would have waited. -/
  | recording
  /-- It waits as its caller has it, and looks as the caller says; any time may pass, and chance has
  any part in it. -/
  | custom (text : String) (around : Surroundings)

namespace Sleeper

/-- Time and chance, as a client meets them that waits like this. -/
def surroundings : Sleeper → Surroundings
  | thread => .waiting
  | recording => .still
  | custom _ around => around

/-- A sleeper as text; one that notes its waits has noted some. -/
def text (sleeps : List Duration) : Sleeper → String
  | thread => "ThreadSleeper"
  | recording =>
    Text.record "RecordingSleeper"
      [("sleeps",
        Text.record "Mutex" [("data", Text.listing (sleeps.map Duration.text))])]
  | custom text _ => text

end Sleeper

/-- What a client is told when it is started. -/
structure Config where
  /-- When to send a request again. -/
  policy : RetryPolicy
  /-- How to wait before that. -/
  sleeper : Sleeper
  /-- What nodes have to look like. -/
  schemas : SchemaSet
  /-- The name of the namespace. -/
  space : Option String
  /-- The access list of nodes for which the caller chooses none. -/
  acl : Acl
  /-- Whether nodes on the way to a path are created as containers. -/
  containers : Bool

namespace Config

/-- The usual configuration. -/
def usual : Config :=
  { policy := .exponential (.ofRetries (.ofMillis 100) 3 none)
    sleeper := .thread
    schemas := .permissive
    space := none
    acl := .worldOpen
    containers := true }

/-- A configuration for trying things out: it waits only on paper, and little. -/
def trial : Config :=
  { usual with policy := .nTimes 5 (.ofMillis 1), sleeper := .recording }

/-- The namespace of a configuration, if the configuration is accepted. -/
def validate (c : Config) : Except Failure Namespace :=
  if c.acl.isEmpty then .error (.invalidConfig "default ACL must not be empty")
  else match c.space with
    | none => .ok .whole
    | some name => Namespace.ofName name

/-- A configuration as text. -/
def text (c : Config) : String :=
  Text.record "ClientConfig"
    [("retry_policy", c.policy.text), ("sleeper", c.sleeper.text []),
      ("schemas", Text.Decimal.natural c.schemas.size),
      ("namespace", Text.optional (c.space.map Text.quoted)), ("default_acl", c.acl.text),
      ("use_containers", Text.truth c.containers)]

end Config

end Coordination
