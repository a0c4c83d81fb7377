import Coordination.Store.ErrorCode
import Coordination.Store.Request
import Coordination.Path

/-!
# Answers

What the store says to a request that it has applied, and the ways in which it refuses. A batch is
refused as a whole, with one entry per request: the code of the one that failed, and an
inconsistency for the others, which were not applied.
-/

namespace Coordination

/-- What the store says to one request. -/
inductive Answer where
  /-- The node was created at this path. -/
  | created (path : String) (stat : Option Stat)
  /-- The node was deleted. -/
  | deleted
  /-- The data was replaced. -/
  | dataSet (stat : Stat)
  /-- The version is the one named. -/
  | checked
  /-- The request failed, or was not applied because another one of its batch failed. -/
  | failed (code : ErrorCode)
  deriving DecidableEq

namespace Answer

/-- The code of a failure. -/
def code? : Answer → Option ErrorCode
  | failed code => some code
  | _ => none

/-- An answer as text. -/
def text : Answer → String
  | created path stat =>
    Text.record "Create" [("path", Text.quoted path), ("stat", Text.optional (stat.map Stat.text))]
  | deleted => "Delete"
  | dataSet stat => Text.record "SetData" [("stat", stat.text)]
  | checked => "Check"
  | failed code => Text.record "Error" [("code", code.name)]

end Answer

/-- Why the store refuses a call. -/
inductive StoreError where
  /-- A single call failed, about a path if one is known. -/
  | refused (code : ErrorCode) (path : Option String)
  /-- A batch failed because of one of its requests, and nothing of it was applied. -/
  | aborted (index : Nat) (code : ErrorCode) (answers : List Answer)
  /-- The session has been closed. -/
  | closed
  deriving DecidableEq

namespace StoreError

/-- The code of an error; a closed session counts as an expired one. -/
def code : StoreError → ErrorCode
  | refused code _ => code
  | aborted _ code _ => code
  | closed => .sessionExpired

/-- The path that an error is about, if it is known. -/
def path? : StoreError → Option String
  | refused _ path => path
  | _ => none

/-- Whether the call may be made again. -/
def isRetryable : StoreError → Bool
  | closed => false
  | e => e.code.isRetryable

/-- An error in words. -/
def message : StoreError → String
  | refused code path => code.message ++ " for " ++ path.getD "<none>"
  | aborted index code _ =>
    "multi-op aborted by operation " ++ Text.Decimal.natural index ++ ": " ++ code.message
  | closed => "store client is closed"

/-- The outcome of a batch of `size` requests of which the one at `index` failed. -/
def abortedBatch (size index : Nat) (code : ErrorCode) : StoreError :=
  aborted index code
    ((List.range size).map fun i =>
      Answer.failed (if i = index then code else .runtimeInconsistency))

end StoreError

/-- Accepts well-formed paths. -/
def Path.check (p : String) : Except StoreError Unit :=
  if Path.isValid p then .ok () else .error (.refused .badArguments (some p))

end Coordination
