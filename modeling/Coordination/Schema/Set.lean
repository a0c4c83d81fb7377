import Std.Data.ExtTreeMap
import Coordination.Schema.Basic

/-!
# Schema sets

The schemas of a client. A path has the schema that was given last for just this path; otherwise the
first of the other schemas that is for it; otherwise the fallback, if the set has one.
-/

namespace Coordination

/-- The schemas of a client. -/
structure SchemaSet where
  /-- The schemas for one path each, by their paths. -/
  exact : Std.ExtTreeMap String Schema
  /-- The other schemas, in order. -/
  others : List Schema
  /-- The schema of paths that no other is for. -/
  fallback : Option Schema

namespace SchemaSet

/-- The set with one more schema. -/
def add (set : SchemaSet) (s : Schema) : SchemaSet :=
  match s.matcher with
  | .exact p => { set with exact := set.exact.insert p s }
  | _ => { set with others := set.others ++ [s] }

/-- The set of some schemas, everything being allowed elsewhere. -/
def ofList (schemas : List Schema) : SchemaSet :=
  schemas.foldl add { exact := Std.ExtTreeMap.empty, others := [], fallback := some .fallback }

/-- The set that allows everything. -/
def permissive : SchemaSet := ofList []

/-- The set that allows nothing at paths that no schema is for. -/
def strict (set : SchemaSet) : SchemaSet := { set with fallback := none }

/-- The number of schemas, the fallback not counted. -/
def size (set : SchemaSet) : Nat := set.exact.size + set.others.length

/-- The schema of a path. -/
def resolve? (set : SchemaSet) (p : String) : Option Schema :=
  match set.exact[p]? with
  | some s => some s
  | none =>
    match set.others.find? (·.matcher.covers p) with
    | some s => some s
    | none => set.fallback

/-- The schema of a path, or the violation of a path without one. -/
def resolve (set : SchemaSet) (p : String) : Except Violation Schema :=
  match set.resolve? p with
  | some s => .ok s
  | none => .error (.uncovered p)

/-- Accepts requests that the schema of path `p` allows. -/
def validateFor (set : SchemaSet) (p : String) (r : Request) : Except Violation Unit :=
  match set.resolve p with
  | .error v => .error v
  | .ok s => s.validate p r

/-- Accepts requests that the schema of their own path allows. -/
def validate (set : SchemaSet) (r : Request) : Except Violation Unit := set.validateFor r.path r

end SchemaSet

end Coordination
