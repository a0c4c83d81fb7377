import Coordination.Text.Unicode.Derived

/-!
# Regular expressions

An expression matches a stretch of a text between two positions. It may look at the characters on
either side of a position, so a match depends on the whole text and not on the stretch alone.
`Regex.Matches` says which stretches match; `Regex.reach` computes, from a list of starting
positions, every position where a match can end. A repetition takes the rounds it has to take until
they change nothing, and then the optional ones until no new position turns up, so it ends on every
expression and text.

## Main definitions

* `Regex`, `Look`: expressions and what they can ask about a position
* `Regex.Matches`: the stretches that match
* `Regex.reach`, `Regex.search`: the positions reached, and whether anything matches at all
-/

namespace Coordination.Text

/-- A question about a position of a text. -/
inductive Look where
  /-- The text starts here. -/
  | textStart
  /-- The text ends here. -/
  | textEnd
  /-- A line starts here, after a line feed. -/
  | lineStart
  /-- A line ends here, before a line feed. -/
  | lineEnd
  /-- A line starts here, when carriage return and line feed together end a line. -/
  | crlfLineStart
  /-- A line ends here, when carriage return and line feed together end a line. -/
  | crlfLineEnd
  /-- Exactly one of the neighbours is a word character. -/
  | wordBoundary (unicode : Bool)
  /-- Both or none of the neighbours are word characters. -/
  | noWordBoundary (unicode : Bool)
  /-- A word starts here. -/
  | wordStart (unicode : Bool)
  /-- A word ends here. -/
  | wordEnd (unicode : Bool)
  /-- No word character comes before. -/
  | wordStartHalf (unicode : Bool)
  /-- No word character comes after. -/
  | wordEndHalf (unicode : Bool)
  deriving DecidableEq

/-- Whether a character can be part of a word. -/
def isWordChar (c : Char) : Bool := Unicode.wordCharacters.contains c

/-- Whether a character can be part of a word of ASCII letters, digits and underscores. -/
def isAsciiWordChar (c : Char) : Bool := c.isAlphanum || c == '_'

/-- Whether the neighbour is a word character; outside the text there is none. -/
def isWordAt (unicode : Bool) : Option Char → Bool
  | none => false
  | some c => if unicode then isWordChar c else isAsciiWordChar c

/-- The answer at a position between the neighbours `before` and `after`. -/
def Look.holdsBetween (before after : Option Char) : Look → Bool
  | .textStart => before.isNone
  | .textEnd => after.isNone
  | .lineStart => before.isNone || before == some '\n'
  | .lineEnd => after.isNone || after == some '\n'
  | .crlfLineStart =>
    before.isNone || before == some '\n' || (before == some '\r' && after != some '\n')
  | .crlfLineEnd =>
    after.isNone || after == some '\r' || (after == some '\n' && before != some '\r')
  | .wordBoundary u => isWordAt u before != isWordAt u after
  | .noWordBoundary u => isWordAt u before == isWordAt u after
  | .wordStart u => !isWordAt u before && isWordAt u after
  | .wordEnd u => isWordAt u before && !isWordAt u after
  | .wordStartHalf u => !isWordAt u before
  | .wordEndHalf u => !isWordAt u after

/-- The answer at position `i` of a text. -/
def Look.holdsAt (t : Array Char) (i : Nat) (l : Look) : Bool :=
  l.holdsBetween (if i = 0 then none else t[i - 1]?) t[i]?

/-- A regular expression. -/
inductive Regex where
  /-- The empty stretch. -/
  | empty
  /-- These characters, one after the other. -/
  | literal (cs : List Char)
  /-- One character of a set. -/
  | oneOf (s : Unicode.CodeSet)
  /-- The empty stretch at a position with a property. -/
  | look (l : Look)
  /-- One stretch and then another. -/
  | seq (a b : Regex)
  /-- One of two. -/
  | alt (a b : Regex)
  /-- At least `least` and, if given, at most `most` stretches, one after the other. -/
  | repetition (least : Nat) (most : Option Nat) (a : Regex)
  /-- A stretch that is remembered. -/
  | group (a : Regex)
  deriving DecidableEq

namespace Regex

/-- The stretches of a text, by their first and last position, that an expression matches. -/
inductive Matches (t : Array Char) : Regex → Nat → Nat → Prop
  | empty {i : Nat} : i ≤ t.size → Matches t .empty i i
  | literalNil {i : Nat} : i ≤ t.size → Matches t (.literal []) i i
  | literalCons {c : Char} {cs : List Char} {i j : Nat} :
      t[i]? = some c → Matches t (.literal cs) (i + 1) j → Matches t (.literal (c :: cs)) i j
  | oneOf {s : Unicode.CodeSet} {i : Nat} {c : Char} :
      t[i]? = some c → s.contains c = true → Matches t (.oneOf s) i (i + 1)
  | look {l : Look} {i : Nat} : i ≤ t.size → l.holdsAt t i = true → Matches t (.look l) i i
  | seq {a b : Regex} {i j k : Nat} : Matches t a i j → Matches t b j k → Matches t (.seq a b) i k
  | altLeft {a b : Regex} {i j : Nat} : Matches t a i j → Matches t (.alt a b) i j
  | altRight {a b : Regex} {i j : Nat} : Matches t b i j → Matches t (.alt a b) i j
  | repetitionNil {a : Regex} {most : Option Nat} {i : Nat} :
      i ≤ t.size → Matches t (.repetition 0 most a) i i
  | repetitionCons {a : Regex} {least i j k : Nat} {most : Option Nat} :
      most ≠ some 0 → Matches t a i j →
        Matches t (.repetition (least - 1) (most.map (· - 1)) a) j k →
          Matches t (.repetition least most a) i k
  | group {a : Regex} {i j : Nat} : Matches t a i j → Matches t (.group a) i j

/-- The positions of the first list and those of the second that are new. -/
def union (xs ys : List Nat) : List Nat := xs ++ ys.filter (!xs.contains ·)

/-- What `f` reaches from `found` in at most `n` rounds, each from the positions new in the one
before. -/
def closure (f : List Nat → List Nat) : (n : Nat) → (found fresh : List Nat) → List Nat
  | 0, found, _ => found
  | n + 1, found, fresh =>
    let next := (f fresh).eraseDups.filter (!found.contains ·)
    if next.isEmpty then found else closure f n (found ++ next) next

/-- What `f` reaches from `here` in exactly `n` rounds, cut short when a round changes nothing. -/
def iterate (f : List Nat → List Nat) : (n : Nat) → (here : List Nat) → List Nat
  | 0, here => here
  | n + 1, here =>
    let next := f here
    if next == here then here else iterate f n next

/-- The position after a list of characters that stands at position `i`. -/
def literalEnd? (t : Array Char) : List Char → Nat → Option Nat
  | [], i => some i
  | c :: cs, i => if t[i]? == some c then literalEnd? t cs (i + 1) else none

/-- The positions where a match that starts at one of `from` can end. -/
def reach (t : Array Char) : Regex → List Nat → List Nat
  | .empty, s => s
  | .literal cs, s => s.filterMap (literalEnd? t cs)
  | .oneOf p, s => s.filterMap fun i => if t[i]?.any p.contains then some (i + 1) else none
  | .look l, s => s.filter fun i => l.holdsAt t i
  | .seq a b, s => reach t b (reach t a s)
  | .alt a b, s => union (reach t a s) (reach t b s)
  | .repetition least most a, s =>
    let here := iterate (fun s => (reach t a s).eraseDups) least s
    closure (reach t a) (most.elim (t.size + 1) (· - least)) here here
  | .group a, s => reach t a s

/-- Whether some stretch of a text matches. -/
def search (r : Regex) (text : String) : Bool :=
  let t := text.toList.toArray
  !(reach t r (List.range (t.size + 1))).isEmpty

end Regex

end Coordination.Text
