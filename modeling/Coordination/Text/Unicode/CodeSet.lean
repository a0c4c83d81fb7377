/-!
# Sets of code points

A set of characters as ascending, disjoint, closed ranges of code points that do not touch, read
from a text of hexadecimal ranges such as `41-5A 61-7A AA`. Membership is a binary search over the
ranges; the operations go through the ranges of both sides once.

The ends of a range are characters, so a step from one end skips the surrogates. Two ranges that
only the surrogates part stay two ranges, and between them the complement has the pair of ends.

## Main definitions

* `CodeSet`, `CodeSet.contains`: sets and their members
* `CodeSet.ofRanges`, `CodeSet.ofText`: the set of some ranges
* `CodeSet.union`, `CodeSet.inter`, `CodeSet.difference`, `CodeSet.complement`: the operations
-/

namespace Coordination.Text.Unicode

/-- A set of code points: ascending, disjoint, closed ranges. -/
structure CodeSet where
  /-- The first and last code point of each range. -/
  ranges : Array (Nat × Nat)
  deriving DecidableEq

/-- The last code point. -/
def lastCode : Nat := 0x10ffff

/-- The code points that stand for no character. -/
def surrogates : Nat × Nat := (0xd800, 0xdfff)

/-- The character after a code point. -/
def nextCode (n : Nat) : Nat := if n = 0xd7ff then 0xe000 else n + 1

/-- The character before a code point. -/
def previousCode (n : Nat) : Nat := if n = 0xe000 then 0xd7ff else n - 1

namespace CodeSet

/-- The set without members. -/
def empty : CodeSet := ⟨#[]⟩

/-! ## Reading -/

/-- The number that a hexadecimal text denotes. -/
def hexValue (cs : List Char) : Nat :=
  cs.foldl (fun n c => 16 * n + (if c.isDigit then c.toNat - 48 else c.toNat - 55)) 0

/-- One range: `41-5A`, or a single code point. -/
def readRange (t : String) : Nat × Nat :=
  let first := t.toList.takeWhile (· ≠ '-')
  let last := (t.toList.dropWhile (· ≠ '-')).drop 1
  (hexValue first, if last.isEmpty then hexValue first else hexValue last)

/-- The words of a text, blanks and line ends between them. -/
def words (t : String) : List String :=
  ((t.map fun c => if c = '\n' then ' ' else c).splitOn " ").filter (· ≠ "")

/-- The set that a text of ranges lists. -/
def ofText (t : String) : CodeSet := ⟨((words t).map readRange).toArray⟩

/-! ## Members -/

/-- Whether a range with index in `[lo, hi)` holds `n`. -/
def search (ranges : Array (Nat × Nat)) (n lo hi : Nat) : Bool :=
  if _h : lo < hi then
    let mid := (lo + hi) / 2
    match ranges[mid]? with
    | none => false
    | some (first, last) =>
      if n < first then search ranges n lo mid
      else if last < n then search ranges n (mid + 1) hi
      else true
  else false
termination_by hi - lo

/-- Whether the set holds a code point. -/
def containsCode (s : CodeSet) (n : Nat) : Bool := search s.ranges n 0 s.ranges.size

/-- Whether the set holds a character. -/
def contains (s : CodeSet) (c : Char) : Bool := s.containsCode c.toNat

/-- Whether the set has no members. -/
def isEmpty (s : CodeSet) : Bool := s.ranges.isEmpty

/-- The only member of a set that has exactly one. -/
def single? (s : CodeSet) : Option Nat :=
  match s.ranges.toList with
  | [(first, last)] => if first = last then some first else none
  | _ => none

/-! ## Operations -/

/-- Ascending ranges with those joined that overlap or touch; `range` is the one before them. -/
def joinRanges (range : Nat × Nat) : List (Nat × Nat) → List (Nat × Nat)
  | [] => [range]
  | next :: rest =>
    if next.1 ≤ range.2 + 1 then joinRanges (range.1, max range.2 next.2) rest
    else range :: joinRanges next rest

/-- The set of the code points in some ranges, in any order. -/
def ofRanges (ranges : List (Nat × Nat)) : CodeSet :=
  match ranges.mergeSort fun a b => a.1 < b.1 || (a.1 == b.1 && a.2 ≤ b.2) with
  | [] => empty
  | range :: rest => ⟨(joinRanges range rest).toArray⟩

/-- The set of some code points. -/
def ofCodes (codes : List Nat) : CodeSet := ofRanges (codes.map fun n => (n, n))

/-- The members of either set. -/
def union (s t : CodeSet) : CodeSet := ofRanges (s.ranges.toList ++ t.ranges.toList)

/-- What two ascending lists of ranges share. -/
def interRanges : List (Nat × Nat) → List (Nat × Nat) → List (Nat × Nat)
  | [], _ => []
  | _, [] => []
  | x :: xs, y :: ys =>
    let rest := if x.2 < y.2 then interRanges xs (y :: ys) else interRanges (x :: xs) ys
    if max x.1 y.1 ≤ min x.2 y.2 then (max x.1 y.1, min x.2 y.2) :: rest else rest
termination_by xs ys => xs.length + ys.length

/-- The members of both sets. -/
def inter (s t : CodeSet) : CodeSet := ⟨(interRanges s.ranges.toList t.ranges.toList).toArray⟩

/-- What is in an ascending list of ranges and not in another. -/
def differenceRanges : List (Nat × Nat) → List (Nat × Nat) → List (Nat × Nat)
  | [], _ => []
  | xs, [] => xs
  | x :: xs, y :: ys =>
    if y.2 < x.1 then differenceRanges (x :: xs) ys
    else if x.2 < y.1 then x :: differenceRanges xs (y :: ys)
    else
      let before := if x.1 < y.1 then [(x.1, previousCode y.1)] else []
      if y.2 < x.2 then before ++ differenceRanges ((nextCode y.2, x.2) :: xs) ys
      else before ++ differenceRanges xs (y :: ys)
termination_by xs ys => xs.length + ys.length

/-- The members of the first set that are not in the second. -/
def difference (s t : CodeSet) : CodeSet :=
  ⟨(differenceRanges s.ranges.toList t.ranges.toList).toArray⟩

/-- The members of exactly one of two sets. -/
def symmetricDifference (s t : CodeSet) : CodeSet := (s.union t).difference (s.inter t)

/-- The range between two that do not touch. -/
def gap (x y : Nat × Nat) : Nat × Nat :=
  (min (nextCode x.2) (previousCode y.1), max (nextCode x.2) (previousCode y.1))

/-- The ranges after `x` and between those that follow it. -/
def gapsAfter (x : Nat × Nat) : List (Nat × Nat) → List (Nat × Nat)
  | [] => if x.2 < lastCode then [(nextCode x.2, lastCode)] else []
  | y :: rest => gap x y :: gapsAfter y rest

/-- The characters that are not in a set. -/
def complement (s : CodeSet) : CodeSet :=
  match s.ranges.toList with
  | [] => ⟨#[(0, lastCode)]⟩
  | x :: rest =>
    ⟨((if 0 < x.1 then [(0, previousCode x.1)] else []) ++ gapsAfter x rest).toArray⟩

end CodeSet

/-- A set of characters that a standard names, with its names. -/
structure NamedSet where
  /-- The names, the short one first. -/
  names : List String
  /-- The members. -/
  members : CodeSet

/-- The set with this first name in a list of named sets; empty for a name that is none. -/
def NamedSet.get (sets : List NamedSet) (name : String) : CodeSet :=
  ((sets.find? (·.names.head? == some name)).map (·.members)).getD .empty

end Coordination.Text.Unicode
