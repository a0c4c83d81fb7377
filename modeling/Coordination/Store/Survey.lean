import Coordination.Store.Basic

/-!
# Surveys

What a session can find out of the tree when it goes down from the root and lists the children of
every node that it may read: level by level, the nodes of a level in the order in which they are
listed. A node whose children it cannot list is found, and what lies under it is not.
-/

namespace Coordination

/-- What has been found at a path. -/
structure Finding where
  /-- The path. -/
  path : String
  /-- The node there, if there is one. -/
  node : Option Node
  /-- Why the children of the node are hidden, if they are. -/
  hidden : Option ErrorCode
  deriving DecidableEq

namespace Store

/-- What is found at a path, and the paths under it that are to be visited. Where there is no node,
no children are hidden. -/
def visit (st : Store) (s : Session) (p : String) : Finding × List String :=
  let node := st.tree.node? p
  match st.getChildren s p with
  | .ok names => ({ path := p, node, hidden := none }, names.map (Path.join p))
  | .error e => ({ path := p, node, hidden := node.map fun _ => e.code }, [])

/-- Visits so many paths, the first one of a queue each time. -/
def surveyFor (st : Store) (s : Session) : Nat → List String → List Finding
  | 0, _ | _, [] => []
  | n + 1, p :: ps =>
    let (found, below) := st.visit s p
    found :: surveyFor st s n (ps ++ below)

/-- What a session finds in the tree; no node is visited twice. The root is visited even if it has
been removed. -/
def survey (st : Store) (s : Session) : List Finding :=
  st.surveyFor s (st.tree.size + 1) [Path.root]

end Store

end Coordination
