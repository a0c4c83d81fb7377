/-!
# Node paths

A node is named by an absolute path: the root is a single slash, and every other path is a sequence
of segments, each after a slash. Paths stay texts, because the operations below are also asked about
texts that are no paths; `Path.isValid` says which texts are.

## Main definitions

* `Path.isSegment`, `Path.isValid`: the grammar
* `Path.parent?`, `Path.name`, `Path.join`: cutting a path at its last slash, and gluing it again
* `Path.lineage`: the paths that lead from below the root to a node
-/

namespace Coordination.Path

/-- The path of the root. -/
def root : String := "/"

/-! ## The grammar -/

/-- Whether characters are a segment: not empty, no slash and no NUL, and neither of the two names
that stand for a node itself and for its parent. -/
def isSegment (cs : List Char) : Bool :=
  !cs.isEmpty && !cs.contains '/' && !cs.contains '\x00' && cs != ['.'] && cs != ['.', '.']

/-- The pieces of a text between its slashes. -/
def pieces (cs : List Char) : List (List Char) := cs.splitOn '/'

/-- Whether characters are a path: a slash alone, or segments with a slash before each. -/
def isValidChars : List Char → Bool
  | '/' :: rest => rest.isEmpty || (pieces rest).all isSegment
  | _ => false

/-- Whether a text is a path. -/
def isValid (p : String) : Bool := isValidChars p.toList

/-! ## Cutting and gluing -/

/-- What stands after the last slash. -/
def nameChars (cs : List Char) : List Char := (cs.reverse.takeWhile (· != '/')).reverse

/-- What stands before the last slash; none without a slash. -/
def stemChars? (cs : List Char) : Option (List Char) :=
  match cs.reverse.dropWhile (· != '/') with
  | [] => none
  | _ :: before => some before.reverse

/-- The last segment of a path. -/
def name (p : String) : String := String.ofList (nameChars p.toList)

/-- The path of the node above; the root has none. -/
def parent? (p : String) : Option String :=
  if p = root then none
  else (stemChars? p.toList).map fun stem => if stem.isEmpty then root else String.ofList stem

/-- A text without the slashes that it starts with. -/
def trimLeft (cs : List Char) : List Char := cs.dropWhile (· == '/')

/-- A text without the slashes that it ends with. -/
def trimRight (cs : List Char) : List Char := (cs.reverse.dropWhile (· == '/')).reverse

/-- The path of a node below another. -/
def join (above below : String) : String :=
  let rest := trimLeft below.toList
  if above = root ∨ above = "" then String.ofList ('/' :: rest)
  else if rest.isEmpty then above
  else String.ofList (trimRight above.toList ++ '/' :: rest)

/-- The paths that end in each of the segments in turn, `stem` standing before the first. -/
def lineageFrom (stem : List Char) : List (List Char) → List String
  | [] => []
  | s :: ss => String.ofList (stem ++ '/' :: s) :: lineageFrom (stem ++ '/' :: s) ss

/-- The paths from the node below the root down to the node itself; none for the root. -/
def lineage (p : String) : List String :=
  lineageFrom [] ((pieces p.toList).filter (!·.isEmpty))

end Coordination.Path
