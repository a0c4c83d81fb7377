import Coordination.Text.Unicode.Age
import Coordination.Text.Unicode.Break
import Coordination.Text.Unicode.ScriptExtension

/-!
# Named sets of characters

The sets that a name, or a property and a value, ask for. Names are compared without regard to case,
blanks, hyphens, underscores and a leading `is`; what is not ASCII does not count, and a name of
which nothing is left names nothing. A binary property comes before a general category, and that
before a script.

## Main definitions

* `named?`: the set with a name
* `valued?`: the set of the characters with a value of a property
-/

namespace Coordination.Text.Unicode

/-- A name without what the comparison of names disregards. -/
def normalName (name : String) : String :=
  let cs := name.toList
  let lowered := cs.map Char.toLower
  let hasIs := ['i', 's'].isPrefixOf lowered
  let kept := (if hasIs then lowered.drop 2 else lowered).filter fun c =>
    c.toNat < 0x80 && c != ' ' && c != '_' && c != '-'
  if hasIs && kept == ['c'] then "isc" else String.ofList kept

/-- The set with a name in a list of named sets. -/
def findNamed? (sets : List NamedSet) (normal : String) : Option CodeSet :=
  (sets.find? fun s => s.names.any fun n => normalName n == normal).map (·.members)

/-- A general category, or a union of categories, by name. -/
def category? (normal : String) : Option CodeSet :=
  match normal with
  | "any" => some (.ofText "0-10FFFF")
  | "ascii" => some (.ofText "0-7F")
  | "assigned" => some unassigned.complement
  | "cn" | "unassigned" => some unassigned
  | "c" | "other" => some others
  | normal =>
    match findNamed? categories normal with
    | some s => some s
    | none =>
      (categoryGroups.find? fun g => g.1.any fun n => normalName n == normal).map fun g =>
        categoryUnion g.2

/-- The set with a name. -/
def named? (name : String) : Option CodeSet :=
  let normal := normalName name
  let byProperty :=
    if normal == "cf" || normal == "sc" || normal == "lc" then none
    else findNamed? properties normal
  match byProperty with
  | some s => some s
  | none =>
    match category? normal with
    | some s => some s
    | none => findNamed? scripts normal

/-- The characters used with a script. -/
def scriptExtension? (normal : String) : Option CodeSet :=
  (scripts.find? fun s => s.names.any fun n => normalName n == normal).map fun s =>
    scriptExtension (s.names.headD "") s.members

/-- The characters of a version and of those before it. -/
def addedBy? (normal : String) : Option CodeSet :=
  (ages.findIdx? fun s => s.names.any fun n => normalName n == normal).map fun i =>
    .ofRanges ((ages.take (i + 1)).flatMap (·.members.ranges.toList))

/-- The set of the characters with a value of a property. -/
def valued? (property value : String) : Option CodeSet :=
  let normal := normalName value
  match normalName property with
  | "gc" | "generalcategory" => category? normal
  | "sc" | "script" => findNamed? scripts normal
  | "scx" | "scriptextensions" => scriptExtension? normal
  | "age" => addedBy? normal
  | "gcb" | "graphemeclusterbreak" => findNamed? graphemeBreaks normal
  | "wb" | "wordbreak" => findNamed? wordBreaks normal
  | "sb" | "sentencebreak" => findNamed? sentenceBreaks normal
  | _ => none

end Coordination.Text.Unicode
