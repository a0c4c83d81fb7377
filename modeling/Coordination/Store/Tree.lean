import Std.Data.ExtTreeMap
import Std.Data.ExtTreeSet
import Coordination.Store.Answer

/-!
# The node tree

The nodes of a store by their paths. A node knows the names of its children, and its parent's
counters follow every child that comes or goes. A request either changes the tree and is answered,
or is refused with a code and changes nothing. A batch is applied request by request to a tree that
takes effect only if none of them is refused.

## Main definitions

* `Tree.apply`: one request
* `Tree.applyAll`: a batch
* `Tree.removeOwned`: the end of a session
* `Tree.reap`: the removal of containers that have lost their last child
-/

namespace Coordination

/-- A client's line to the store. -/
structure Session where
  /-- The number of the session. -/
  id : Int
  /-- The identities that the client has proved. -/
  identities : List Identity
  deriving DecidableEq

/-- One node. -/
structure Node where
  /-- The data. -/
  data : ByteArray
  /-- Who may do what. -/
  acl : Acl
  /-- The counters. -/
  stat : Stat
  /-- How the node was created. -/
  mode : CreateMode
  /-- The names of the children. -/
  children : Std.ExtTreeSet String
  /-- Whether the node has ever had a child. -/
  hadChildren : Bool
  deriving DecidableEq

namespace Node

/-- A node without children. -/
def leaf (data : ByteArray) (acl : Acl) (stat : Stat) (mode : CreateMode) : Node :=
  { data, acl, stat, mode, children := ∅, hadChildren := false }

/-- Whether a session holds permission `p` on the node. -/
def permits (n : Node) (s : Session) (p : Permissions) : Bool := n.acl.permits s.identities p

/-- The node with other children, one having come or gone. -/
def withChildren (n : Node) (children : Std.ExtTreeSet String) : Node :=
  { n with
    children
    stat :=
      { n.stat with
        childVersion := n.stat.childVersion + 1
        childCount := Int32.ofNat children.size } }

/-- The node with one more child. -/
def gain (n : Node) (child : String) : Node :=
  { n.withChildren (n.children.insert child) with hadChildren := true }

/-- The node with one child less. -/
def lose (n : Node) (child : String) : Node := n.withChildren (n.children.erase child)

/-- Whether the store may remove the node: a container whose last child has gone. -/
def isIdle (n : Node) : Bool := n.mode.isContainer && n.hadChildren && n.children.isEmpty

end Node

/-- The nodes of a store. -/
structure Tree where
  /-- The nodes by their paths. -/
  nodes : Std.ExtTreeMap String Node
  /-- The number of the last transaction. -/
  transaction : Int
  deriving DecidableEq

namespace Tree

/-- The root alone, open to everybody. -/
def initial : Tree :=
  { nodes := Std.ExtTreeMap.empty.insert Path.root
      (Node.leaf ByteArray.empty .worldOpen .zero .persistent)
    transaction := 0 }

/-- The node at a path. -/
def node? (t : Tree) (p : String) : Option Node := t.nodes[p]?

/-- The number of nodes. -/
def size (t : Tree) : Nat := t.nodes.size

/-- The tree with the node at a path changed, if there is one. -/
def update (t : Tree) (p : String) (f : Node → Node) : Tree :=
  { t with nodes := t.nodes.modify p f }

/-! ## Coming and going -/

/-- The tree with one more node, entered with its parent. -/
def attach (t : Tree) (above p : String) (n : Node) : Tree :=
  let t := t.update above (·.gain (Path.name p))
  { t with nodes := t.nodes.insert p n }

/-- The tree without a node, struck from its parent. -/
def remove (t : Tree) (p : String) : Tree :=
  let rest : Tree := { t with nodes := t.nodes.erase p }
  match Path.parent? p with
  | none => rest
  | some above => rest.update above (·.lose (Path.name p))

/-- The tree without some nodes. -/
def removeAll (t : Tree) (ps : List String) : Tree := ps.foldl remove t

/-- The paths of the nodes with a property, in order. -/
def pathsWhere (t : Tree) (f : Node → Bool) : List String :=
  (t.nodes.filter fun _ n => f n).keys

/-- The tree without the nodes that a session owns. -/
def removeOwned (t : Tree) (session : Int) : Tree :=
  t.removeAll (t.pathsWhere (·.stat.owner == session))

/-- Removes idle containers for so many rounds, each of which may leave others idle. -/
def reapRounds : Nat → Tree → Nat × Tree
  | 0, t => (0, t)
  | rounds + 1, t =>
    match t.pathsWhere (·.isIdle) with
    | [] => (0, t)
    | ps =>
      let (more, rest) := reapRounds rounds (t.removeAll ps)
      (ps.length + more, rest)

/-- Removes idle containers until there are none, and counts them. Every round but the last removes
a node, so there are fewer rounds than nodes. -/
def reap (t : Tree) : Nat × Tree := t.reapRounds (t.size + 1)

/-! ## Requests -/

/-- Accepts the versions that a request names. -/
def checkVersion (expected actual : Int32) : Except ErrorCode Unit :=
  if expected = anyVersion ∨ expected = actual then .ok () else .error .badVersion

/-- The path of a node to be created below `parent`. -/
def actualPath (parent : Node) (p : String) (mode : CreateMode) : String :=
  if mode.isSequential then p ++ Text.Decimal.zeroFilled 10 parent.stat.childVersion.toInt else p

/-- The stat of a node that transaction `stamp` creates. -/
def freshStat (s : Session) (data : ByteArray) (mode : CreateMode) (stamp : Int) : Stat :=
  { Stat.zero with
    created := stamp
    modified := stamp
    owner := if mode.isEphemeral then s.id else 0
    dataLength := Int32.ofNat data.size }

/-- Creates a node. The permission is looked at before the node is looked for. -/
def create (t : Tree) (s : Session) (stamp : Int) (p : String) (data : ByteArray) (acl : Acl)
    (mode : CreateMode) : Except ErrorCode (Answer × Tree) :=
  match Path.parent? p with
  | none => .error .nodeExists
  | some above =>
    match t.node? above with
    | none => .error .noNode
    | some parent =>
      if !parent.permits s .create then .error .noAuth
      else if acl.isEmpty then .error .invalidAcl
      else if parent.mode.isEphemeral then .error .noChildrenForEphemerals
      else
        let actual := actualPath parent p mode
        if (t.node? actual).isSome then .error .nodeExists
        else
          let stat := freshStat s data mode stamp
          .ok (.created actual (some stat), t.attach above actual (.leaf data acl stat mode))

/-- Deletes a node. A container may be deleted as such without a permission. -/
def delete (t : Tree) (s : Session) (p : String) (version : Int32) (asContainer : Bool) :
    Except ErrorCode (Answer × Tree) :=
  match Path.parent? p with
  | none => .error .badArguments
  | some above =>
    match t.node? above with
    | none => .error .noNode
    | some parent =>
      if !asContainer && !parent.permits s .delete then .error .noAuth
      else match t.node? p with
        | none => .error .noNode
        | some node =>
          if asContainer && !node.mode.isContainer then .error .badArguments
          else match checkVersion version node.stat.version with
            | .error code => .error code
            | .ok () =>
              if !node.children.isEmpty then .error .notEmpty
              else .ok (.deleted, t.remove p)

/-- Replaces the data of a node. -/
def setData (t : Tree) (s : Session) (stamp : Int) (p : String) (data : ByteArray)
    (version : Int32) : Except ErrorCode (Answer × Tree) :=
  match t.node? p with
  | none => .error .noNode
  | some node =>
    if !node.permits s .write then .error .noAuth
    else match checkVersion version node.stat.version with
      | .error code => .error code
      | .ok () =>
        let stat :=
          { node.stat with
            version := node.stat.version + 1
            modified := stamp
            dataLength := Int32.ofNat data.size }
        .ok (.dataSet stat, { t with nodes := t.nodes.insert p { node with data, stat } })

/-- Makes sure that a node has a version. -/
def check (t : Tree) (p : String) (version : Int32) : Except ErrorCode (Answer × Tree) :=
  match t.node? p with
  | none => .error .noNode
  | some node =>
    match checkVersion version node.stat.version with
    | .error code => .error code
    | .ok () => .ok (.checked, t)

/-- Applies a request as part of transaction `stamp`. -/
def apply (t : Tree) (s : Session) (stamp : Int) (r : Request) :
    Except ErrorCode (Answer × Tree) :=
  if !Path.isValid r.path then .error .badArguments
  else match r with
    | .create p data acl mode => t.create s stamp p data acl mode
    | .createContainer p data acl => t.create s stamp p data acl .container
    | .delete p version => t.delete s p version false
    | .deleteContainer p => t.delete s p anyVersion true
    | .setData p data version => t.setData s stamp p data version
    | .check p version => t.check p version

/-- Applies requests one after the other. If one is refused, says which, counting from `index`. -/
def applyAll (t : Tree) (s : Session) (stamp : Int) (index : Nat) :
    List Request → Except (Nat × ErrorCode) (List Answer × Tree)
  | [] => .ok ([], t)
  | r :: rs =>
    match t.apply s stamp r with
    | .error code => .error (index, code)
    | .ok (answer, t') =>
      match t'.applyAll s stamp (index + 1) rs with
      | .error e => .error e
      | .ok (answers, t'') => .ok (answer :: answers, t'')

/-- Replaces the access list of a node. -/
def setAcl (t : Tree) (s : Session) (p : String) (acl : Acl) (version : Int32) :
    Except ErrorCode (Stat × Tree) :=
  match t.node? p with
  | none => .error .noNode
  | some node =>
    if !node.permits s .admin then .error .noAuth
    else match checkVersion version node.stat.aclVersion with
      | .error code => .error code
      | .ok () =>
        let stat := { node.stat with aclVersion := node.stat.aclVersion + 1 }
        .ok (stat, { t with nodes := t.nodes.insert p { node with acl, stat } })

end Tree

end Coordination
