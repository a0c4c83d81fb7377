/-!
# Violations

A request that its schema does not allow, with the reason. A path that no schema covers violates a
schema without a name.
-/

namespace Coordination

/-- A constraint that a request does not meet. -/
structure Violation where
  /-- The name of the schema. -/
  schema : String
  /-- The path that the schema was looked up for. -/
  path : String
  /-- The constraint. -/
  reason : String
  deriving DecidableEq

namespace Violation

/-- The violation of a path that no schema covers. -/
def uncovered (path : String) : Violation := ⟨"", path, "no schema found"⟩

/-- A violation in words. -/
def message (v : Violation) : String :=
  "schema '" ++ v.schema ++ "' rejected " ++ v.path ++ ": " ++ v.reason

end Violation

end Coordination
