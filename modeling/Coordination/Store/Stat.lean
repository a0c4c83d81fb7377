import Coordination.Text.Decimal
import Coordination.Text.Record

/-!
# Node metadata

How a node was created, and the counters that the store keeps with it. Transaction numbers are
integers; versions and counts are 32-bit words, as clients see them.
-/

namespace Coordination

/-! ## Create modes -/

/-- How a node is created. -/
inductive CreateMode where
  /-- The node stays when its session ends. -/
  | persistent
  /-- The node stays, and its name ends in a counter of its parent. -/
  | persistentSequential
  /-- The node goes when its session ends. -/
  | ephemeral
  /-- The node goes when its session ends, and its name ends in a counter of its parent. -/
  | ephemeralSequential
  /-- The store may remove the node once its last child has gone. -/
  | container
  deriving DecidableEq

namespace CreateMode

/-- Every mode. -/
def all : List CreateMode :=
  [persistent, persistentSequential, ephemeral, ephemeralSequential, container]

/-- Whether the node goes when its session ends. -/
def isEphemeral : CreateMode → Bool
  | ephemeral | ephemeralSequential => true
  | _ => false

/-- Whether the node's name ends in a counter. -/
def isSequential : CreateMode → Bool
  | persistentSequential | ephemeralSequential => true
  | _ => false

/-- Whether the store may remove the node once its last child has gone. -/
def isContainer (m : CreateMode) : Bool := m == container

/-- The number of a mode. -/
def flag : CreateMode → Int
  | persistent => 0
  | ephemeral => 1
  | persistentSequential => 2
  | ephemeralSequential => 3
  | container => 4

/-- The mode with a number, or `fallback` if no mode has it. -/
def ofFlag (n : Int) (fallback : CreateMode) : CreateMode :=
  (all.find? (·.flag == n)).getD fallback

/-- The name of a mode. -/
def name : CreateMode → String
  | persistent => "persistent"
  | persistentSequential => "persistent_sequential"
  | ephemeral => "ephemeral"
  | ephemeralSequential => "ephemeral_sequential"
  | container => "container"

/-- The modes by their names. -/
def named : List (String × CreateMode) := all.map fun m => (m.name, m)

theorem ofFlag_flag (m fallback : CreateMode) : ofFlag m.flag fallback = m := by
  cases m <;> rfl

end CreateMode

/-! ## Stats -/

/-- What the store knows of a node. -/
structure Stat where
  /-- The transaction that created the node. -/
  created : Int
  /-- The transaction that last wrote the node's data. -/
  modified : Int
  /-- How often the data has been replaced. -/
  version : Int32
  /-- How often a child has come or gone. -/
  childVersion : Int32
  /-- How often the access list has been replaced. -/
  aclVersion : Int32
  /-- The session that owns the node, 0 if none does. -/
  owner : Int
  /-- The length of the data. -/
  dataLength : Int32
  /-- The number of children. -/
  childCount : Int32
  deriving DecidableEq

namespace Stat

/-- The stat of a node that nothing has happened to. -/
def zero : Stat := ⟨0, 0, 0, 0, 0, 0, 0, 0⟩

/-- A stat as text. -/
def text (s : Stat) : String :=
  Text.record "Stat"
    [("czxid", Text.Decimal.integer s.created), ("mzxid", Text.Decimal.integer s.modified),
      ("version", Text.Decimal.integer s.version.toInt),
      ("cversion", Text.Decimal.integer s.childVersion.toInt),
      ("aversion", Text.Decimal.integer s.aclVersion.toInt),
      ("ephemeral_owner", Text.Decimal.integer s.owner),
      ("data_length", Text.Decimal.integer s.dataLength.toInt),
      ("num_children", Text.Decimal.integer s.childCount.toInt)]

end Stat

end Coordination
