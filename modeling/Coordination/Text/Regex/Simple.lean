import Coordination.Text.Regex.Basic

/-!
# Simple forms

Expressions are put together by operations that keep them simple: characters that stand in a row
are one literal, a choice between characters or sets is one set, what all branches of a choice begin
with stands before it, and what matches only the empty stretch is repeated at most once. The
simple form matches what the parts say; how much room an expression takes depends on it.

## Main definitions

* `Regex.minLength`, `Regex.maxLength`: how many bytes of UTF-8 a match has
* `Regex.append`, `Regex.anyOf`, `Regex.repeated`, `Regex.ofSet`: simple forms of compounds
-/

namespace Coordination.Text.Regex

open Unicode (CodeSet)

/-! ## Lengths -/

/-- How many bytes characters take in UTF-8. -/
def utf8Length (cs : List Char) : Nat := cs.foldl (fun n c => n + c.utf8Size) 0

/-- The least number of bytes of a match; none where some part matches nothing. -/
def minLength : Regex → Option Nat
  | .empty => some 0
  | .literal cs => some (utf8Length cs)
  | .oneOf s => s.ranges[0]?.map fun r => (Char.ofNat r.1).utf8Size
  | .look _ => some 0
  | .seq a b =>
    match minLength a, minLength b with
    | some m, some n => some (m + n)
    | _, _ => none
  | .alt a b =>
    match minLength a, minLength b with
    | some m, some n => some (min m n)
    | _, _ => none
  | .repetition least _ a => (minLength a).map (least * ·)
  | .group a => minLength a

/-- The greatest number of bytes of a match; none where there is no greatest, or where some part
matches nothing. -/
def maxLength : Regex → Option Nat
  | .empty => some 0
  | .literal cs => some (utf8Length cs)
  | .oneOf s => s.ranges.back?.map fun r => (Char.ofNat r.2).utf8Size
  | .look _ => some 0
  | .seq a b =>
    match maxLength a, maxLength b with
    | some m, some n => some (m + n)
    | _, _ => none
  | .alt a b =>
    match maxLength a, maxLength b with
    | some m, some n => some (max m n)
    | _, _ => none
  | .repetition _ most a =>
    match most, maxLength a with
    | some m, some n => some (m * n)
    | _, _ => none
  | .group a => maxLength a

/-! ## Rows -/

/-- The parts that an expression puts one after the other. -/
def parts : Regex → List Regex
  | .seq a b => a :: parts b
  | .empty => []
  | r => [r]

/-- Parts one after the other. -/
def ofParts : List Regex → Regex
  | [] => .empty
  | [r] => r
  | r :: rest => .seq r (ofParts rest)

/-- One part and then an expression; two literals become one. -/
def attach (r : Regex) : Regex → Regex
  | .empty => r
  | .literal ds =>
    match r with
    | .literal cs => .literal (cs ++ ds)
    | r => .seq r (.literal ds)
  | .seq (.literal ds) b =>
    match r with
    | .literal cs => .seq (.literal (cs ++ ds)) b
    | r => .seq r (.seq (.literal ds) b)
  | b => .seq r b

/-- One expression and then another. -/
def append : Regex → Regex → Regex
  | .empty, b => b
  | .seq a a', b => attach a (append a' b)
  | a, b => attach a b

/-! ## Repetitions -/

/-- At least `least` and, if given, at most `most` stretches. One empty stretch is as good as many,
and exactly one stretch is the stretch itself. -/
def repeated (least : Nat) (most : Option Nat) (r : Regex) : Regex :=
  let once := r.maxLength == some 0
  let least := if once then min least 1 else least
  let most := if once then some (most.elim 1 (min · 1)) else most
  if least == 0 && most == some 0 then .empty
  else if least == 1 && most == some 1 then r
  else .repetition least most r

/-! ## Choices -/

/-- One character of a set; a literal if there is only one. -/
def ofSet (s : CodeSet) : Regex :=
  match s.single? with
  | some n => .literal [Char.ofNat n]
  | none => .oneOf s

/-- The branches of a choice. -/
def branches : Regex → List Regex
  | .alt a b => a :: branches b
  | r => [r]

/-- A choice between branches; without branches nothing matches. -/
def ofBranches : List Regex → Regex
  | [] => .oneOf .empty
  | [r] => r
  | r :: rest => .alt r (ofBranches rest)

/-- The character of a literal that is one character. -/
def char? : Regex → Option Nat
  | .literal [c] => some c.toNat
  | _ => none

/-- The set of an expression that is one character of a set. -/
def set? : Regex → Option CodeSet
  | .oneOf s => some s
  | _ => none

/-- A choice as one set, if all branches are characters or all are sets, and else as `other` puts
it. -/
def choice (other : List Regex → Regex) (rs : List Regex) : Regex :=
  match rs with
  | [r] => r
  | rs =>
    match rs.mapM char? with
    | some codes => ofSet (.ofCodes codes)
    | none =>
      match rs.mapM set? with
      | some sets => ofSet (.ofRanges (sets.flatMap (·.ranges.toList)))
      | none => other rs

/-- Whether two expressions are the same. No two groups are, since each is remembered on its own. -/
def same : Regex → Regex → Bool
  | .group _, _ => false
  | .seq a b, .seq c d => same a c && same b d
  | .alt a b, .alt c d => same a c && same b d
  | .repetition least most a, .repetition least' most' b =>
    least == least' && most == most' && same a b
  | a, b => a == b

/-- What two rows of parts begin with. -/
def commonParts : List Regex → List Regex → List Regex
  | x :: xs, y :: ys => if same x y then x :: commonParts xs ys else []
  | _, _ => []

/-- Whether an expression is a row of parts. -/
def isRow : Regex → Bool
  | .seq _ _ => true
  | _ => false

/-- A choice between rows, with the parts that all of them begin with before it. -/
def factored (rs : List Regex) : Regex :=
  if !rs.all isRow then ofBranches rs
  else
    match rs.map parts with
    | [] => ofBranches rs
    | row :: rows =>
      let start := rows.foldl commonParts row
      if start.isEmpty then ofBranches rs
      else
        let rest := (row :: rows).map fun row => ofParts (row.drop start.length)
        append (ofParts start) (choice ofBranches (rest.flatMap branches))

/-- One of some expressions. -/
def anyOf (rs : List Regex) : Regex := choice factored (rs.flatMap branches)

end Coordination.Text.Regex
