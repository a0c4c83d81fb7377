import Coordination.Failure
import Coordination.Text.Regex.Compile

/-!
# Matchers

Which paths a schema is for: one path, the paths that a pattern matches as a whole, or all of them.
A pattern that is no expression is refused in the words of the reader of expressions.
-/

namespace Coordination

/-- Which paths a schema is for. -/
inductive Matcher where
  /-- One path. -/
  | exact (path : String)
  /-- The paths in which an expression is found. -/
  | pattern (expression : Text.Regex)
  /-- Every path. -/
  | any

namespace Matcher

/-- A pattern that has to match from the start of a path to its end. -/
def anchored (pattern : String) : String := "^(?:" ++ pattern ++ ")$"

/-- What is said of a pattern that is no expression. -/
def badPattern (pattern : String) (why : String → String) : String :=
  "bad schema pattern " ++ Text.quoted pattern ++ ": " ++ why (anchored pattern)

/-- The matcher of the paths that a pattern matches as a whole. The reader of expressions says why
it does not read one. -/
def ofPattern (pattern : String) (why : String → String := fun _ => "") : Except Failure Matcher :=
  match Text.Regex.ofPattern? (anchored pattern) with
  | some r => .ok (.pattern r)
  | none => .error (.invalidConfig (badPattern pattern why))

/-- Whether a schema is for a path. -/
def covers (m : Matcher) (p : String) : Bool :=
  match m with
  | exact q => q == p
  | pattern r => r.search p
  | any => true

end Matcher

end Coordination
