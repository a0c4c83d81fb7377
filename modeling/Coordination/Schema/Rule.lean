import Coordination.Store.Access
import Coordination.Text.Json.Value
import Coordination.Text.Utf8

/-!
# Rules

What a schema asks of a node: properties that it may, must or must not have, and what its data and
its access list have to look like. A rule that is broken says so in a few words. Why some data are
no document only the reader of documents can say, so its words come with the rule.
-/

namespace Coordination

/-! ## Properties -/

/-- Whether a node may have a property. -/
inductive Allowance where
  /-- It may or may not. -/
  | can
  /-- It must. -/
  | must
  /-- It must not. -/
  | cannot
  deriving DecidableEq

namespace Allowance

/-- The name of an allowance. -/
def name : Allowance → String
  | can => "can"
  | must => "must"
  | cannot => "cannot"

/-- The allowances by their names. -/
def named : List (String × Allowance) := [can, must, cannot].map fun a => (a.name, a)

/-- Accepts nodes that have a property or not, as they may. -/
def check (a : Allowance) (has : Bool) (property : String) : Except String Unit :=
  match a, has with
  | must, false => .error ("must be " ++ property)
  | cannot, true => .error ("cannot be " ++ property)
  | _, _ => .ok ()

end Allowance

/-! ## Data -/

/-- What data has to look like. -/
inductive DataRule where
  /-- Anything. -/
  | any
  /-- At most so many bytes. -/
  | atMost (limit : Nat)
  /-- UTF-8. -/
  | utf8
  /-- A JSON document; of other data the reader says why they are none. -/
  | json (why : ByteArray → String := fun _ => "")
  /-- What every rule of a list asks. -/
  | all (rules : List DataRule)
  deriving Inhabited

namespace DataRule

/-- Whether bytes are a JSON document. -/
def isJson (data : ByteArray) : Bool :=
  match String.fromUTF8? data with
  | none => false
  | some s => Text.Json.isValue s

mutual

/-- Accepts data that a rule allows. -/
def check (data : ByteArray) : DataRule → Except String Unit
  | any => .ok ()
  | atMost limit =>
    if limit < data.size then
      .error ("data is " ++ Text.Decimal.natural data.size ++ " bytes, limit is "
        ++ Text.Decimal.natural limit)
    else .ok ()
  | utf8 =>
    match Text.Utf8.firstFault? data with
    | none => .ok ()
    | some fault => .error ("data is not UTF-8: " ++ fault.message)
  | json why => if isJson data then .ok () else .error ("data is not JSON: " ++ why data)
  | all rules => checkAll data rules

/-- Accepts data that every rule allows; the first that does not has the word. -/
def checkAll (data : ByteArray) : List DataRule → Except String Unit
  | [] => .ok ()
  | r :: rs =>
    match check data r with
    | .error reason => .error reason
    | .ok () => checkAll data rs

end

end DataRule

/-- A form that data can have. -/
inductive DataFormat where
  | any
  | utf8
  | json
  deriving DecidableEq

namespace DataFormat

/-- The name of a form. -/
def name : DataFormat → String
  | any => "any"
  | utf8 => "utf8"
  | json => "json"

/-- The forms by their names. -/
def named : List (String × DataFormat) := [any, utf8, json].map fun f => (f.name, f)

/-- The rules that data of a form keeps. -/
def rules (why : ByteArray → String) : DataFormat → List DataRule
  | any => []
  | utf8 => [.utf8]
  | json => [.json why]

end DataFormat

/-! ## Access lists -/

/-- What an access list has to look like. -/
inductive AclRule where
  /-- Anything. -/
  | any
  /-- There is a grant. -/
  | nonEmpty
  /-- No grant lets everybody write. -/
  | noWorldWrite
  deriving DecidableEq

namespace AclRule

/-- The name of a rule. -/
def name : AclRule → String
  | any => "any"
  | nonEmpty => "non_empty"
  | noWorldWrite => "no_world_write"

/-- The rules by their names. -/
def named : List (String × AclRule) := [any, nonEmpty, noWorldWrite].map fun r => (r.name, r)

/-- Accepts access lists that a rule allows. -/
def check (acl : Acl) : AclRule → Except String Unit
  | any => .ok ()
  | nonEmpty => if acl.isEmpty then .error "ACL must not be empty" else .ok ()
  | noWorldWrite =>
    if acl.any fun g => g.identity.isAnyone && g.permissions.contains .write then
      .error "ACL must not grant world write"
    else .ok ()

end AclRule

end Coordination
