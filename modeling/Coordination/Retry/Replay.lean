import Coordination.Store.Answer

/-!
# Replayed requests

A request whose answer was lost is sent again, and the store may then refuse it because the first
sending did the work. A create that finds its node and a delete that finds none count as done; a
sequential create does not, because each sending creates a node of its own.
-/

namespace Coordination

/-- The answer to a repeated request that the store refuses because it has been applied before. -/
def Request.replayed? (r : Request) (e : StoreError) : Option Answer :=
  match r, e with
  | .create p _ _ mode, .refused .nodeExists _ =>
    if mode.isSequential then none else some (.created p none)
  | .createContainer p _ _, .refused .nodeExists _ => some (.created p none)
  | .delete .., .refused .noNode _ | .deleteContainer _, .refused .noNode _ => some .deleted
  | _, _ => none

/-- The outcome of an attempt, given its number: on a repeat, a refusal that shows the request to
have been applied before is a success. -/
def Request.settled (r : Request) (attempt : Nat) (result : Except StoreError Answer) :
    Except StoreError Answer :=
  match result with
  | .ok a => .ok a
  | .error e =>
    if attempt = 0 then .error e
    else match r.replayed? e with
      | some a => .ok a
      | none => .error e

end Coordination
