import Coordination.Failure

/-!
# Batches

The requests of a transaction as the store sees them, each with the operation type and the caller's
path under which its outcome is reported. The store's answers are matched with the entries by their
places: there must be one answer per entry, of the entry's type or a failure.
-/

namespace Coordination

/-- One request of a batch. -/
structure BatchEntry where
  /-- The request, with its path in the store. -/
  request : Request
  /-- What the operation does. -/
  type : RequestType
  /-- The path that the caller gave. -/
  path : String
  deriving DecidableEq

/-- The requests of a transaction, in order. -/
abbrev Batch := List BatchEntry

namespace BatchEntry

/-- What the caller learns when the entry's outcome carries nothing. -/
def bare (e : BatchEntry) : Outcome :=
  { type := e.type, path := e.path, createdPath := none, stat := none, code := none }

/-- What the caller learns from the store's answer. -/
def outcome (n : Namespace) (e : BatchEntry) (a : Answer) : Except Failure Outcome :=
  match e.type, a with
  | _, .failed code => .ok { e.bare with code := some code }
  | .create, .created p stat => .ok { e.bare with createdPath := some (n.unfix p), stat }
  | .setData, .dataSet stat => .ok { e.bare with stat := some stat }
  | .delete, .deleted => .ok e.bare
  | .check, .checked => .ok e.bare
  | _, _ => .error (.protocol (e.type.name ++ " on " ++ e.path ++ " answered with " ++ a.text))

end BatchEntry

namespace Batch

/-- The requests of a batch, in order. -/
def requests (b : Batch) : List Request := b.map (·.request)

/-- What the caller learns of entries and answers place by place. -/
def matched (n : Namespace) : Batch → List Answer → Except Failure (List Outcome)
  | e :: b, a :: as =>
    match e.outcome n a with
    | .error f => .error f
    | .ok o =>
      match matched n b as with
      | .error f => .error f
      | .ok os => .ok (o :: os)
  | _, _ => .ok []

/-- What the caller learns from the store's answers. -/
def outcomes (n : Namespace) (b : Batch) (as : List Answer) : Except Failure (List Outcome) :=
  if as.length = b.length then matched n b as
  else .error (.protocol
    ("transaction of " ++ Text.Decimal.natural b.length ++ " operations answered with "
      ++ Text.Decimal.natural as.length ++ " results"))

end Batch

end Coordination
