import Coordination.Text.Regex.Simple
import Std.Data.HashMap

/-!
# The size of an expression

An expression is run by an automaton over the bytes of UTF-8, with its repetitions written out. How
much room the automaton takes is found by laying it out: each state takes 32 bytes, each transition
in a list 8, each branch of a fork 4. The automaton is laid out twice, once for reading forwards and
once for reading backwards, and an expression for which either takes more than ten mebibytes is too
large.

A set of characters becomes a small automaton over their encodings. Forwards, states with the same
transitions are shared; backwards, what comes after the same first bytes is. States are remembered
for sharing in a table with a fixed number of places, and the one remembered last in a place
counts, so the room of a set depends on the number of states before it.

## Main definitions

* `Regex.byteSequences`: the encodings of a range of characters
* `Regex.layout`: the room of an expression, added to that of what is laid out before
* `Regex.fits`: whether an expression is not too large
-/

namespace Coordination.Text.Regex

open Unicode (CodeSet)

/-! ## Encodings -/

/-- The bytes of a character in UTF-8. -/
def encoding (n : Nat) : List Nat := (String.utf8EncodeChar (Char.ofNat n)).map UInt8.toNat

/-- Where a range of characters has to be cut because its encodings do not agree in form: at the
surrogates, where the encodings become longer, or where a byte starts over. -/
def cut? (first last : Nat) : Option (Nat × Nat) :=
  if first < 0xe000 && 0xd7ff < last then some (0xd7ff, 0xe000)
  else
    match [0x7f, 0x7ff, 0xffff].find? fun n => first ≤ n && n < last with
    | some n => some (n, n + 1)
    | none =>
      if last ≤ 0x7f then none
      else
        match [64, 4096, 262144].find? fun n => first / n != last / n &&
            (first % n != 0 || last % n != n - 1) with
        | none => none
        | some n =>
          if first % n != 0 then some (first / n * n + (n - 1), first / n * n + n)
          else some (last / n * n - 1, last / n * n)

/-- The encodings of a range of characters, cut at most so often. -/
def byteSequencesWithin : (cuts : Nat) → (first last : Nat) → List (List (Nat × Nat))
  | 0, _, _ => []
  | cuts + 1, first, last =>
    match cut? first last with
    | none => [(encoding first).zip (encoding last)]
    | some (before, after) =>
      byteSequencesWithin cuts first before ++ byteSequencesWithin cuts after last

/-- The encodings of a range of characters, as rows of ranges of bytes. -/
def byteSequences (range : Nat × Nat) : List (List (Nat × Nat)) :=
  byteSequencesWithin 32 range.1 range.2

/-! ## Room -/

/-- What is laid out so far: the number of states, and the bytes that their lists take. -/
structure Room where
  states : Nat
  bytes : Nat

/-- How many bytes an automaton may take. -/
def maxBytes : Nat := 10485760

/-- More states, with so many bytes in lists; none when that is too much. -/
def Room.add (room : Room) (states bytes : Nat) : Option Room :=
  let room := ⟨room.states + states, room.bytes + bytes⟩
  if 32 * room.states + room.bytes ≤ maxBytes then some room else none

/-- One more transition from a state. A fork takes it into its list, any other state has the place
for it. -/
def Room.link (room : Room) (fork : Bool) : Option Room :=
  if fork then room.add 0 4 else some room

/-- A laid out part: the room so far, and whether the part ends in a fork. -/
abbrev Part := Room × Bool

/-! ## Sets -/

/-- The states that are remembered for sharing, each at its place. -/
abbrev Known (α : Type) := Std.HashMap Nat (α × Nat)

/-- One more number in the hash of a row of numbers. -/
def hashNext (h : UInt64) (n : Nat) : UInt64 := (h ^^^ n.toUInt64) * 1099511628211

/-- The hash of the empty row. -/
def hashStart : UInt64 := 14695981039346656037

/-- The hash of the transitions of a state, each by its first byte, its last byte and its goal. -/
def hashTransitions (transitions : List (Nat × Nat × Nat)) : UInt64 :=
  transitions.foldl (fun h t => hashNext (hashNext (hashNext h t.1) t.2.1) t.2.2) hashStart

/-- The state remembered at a place, if it is the one asked for. -/
def numberOf? {α : Type} [DecidableEq α] (known : Known α) (at' : Nat) (key : α) : Option Nat :=
  match known[at']? with
  | some (old, state) => if old = key then some state else none
  | none => none

/-- The state with these transitions, an old one if it is remembered. -/
def shareState (transitions : List (Nat × Nat × Nat)) (room : Room)
    (known : Known (List (Nat × Nat × Nat))) :
    Option (Nat × Room × Known (List (Nat × Nat × Nat))) :=
  let at' := (hashTransitions transitions).toNat % 10000
  match numberOf? known at' transitions with
  | some state => some (state, room, known)
  | none =>
    (room.add 1 (8 * transitions.length)).map fun room' =>
      (room.states, room', known.insert at' (transitions, room.states))

/-- The state from which these rows of bytes lead to `goal`, with the states behind it. -/
def layoutTree (goal : Nat) : (depth : Nat) → List (List (Nat × Nat)) → Room →
    Known (List (Nat × Nat × Nat)) → Option (Nat × Room × Known (List (Nat × Nat × Nat)))
  | 0, _, room, known => some (goal, room, known)
  | depth + 1, rows, room, known =>
    if rows.all List.isEmpty then some (goal, room, known)
    else do
      let (transitions, room, known) ←
        (rows.splitBy fun a b => a.head? == b.head?).foldlM
          (fun (transitions, room, known) group => do
            let (state, room, known) ← layoutTree goal depth (group.map List.tail) room known
            let bytes := (group.headD []).headD (0, 0)
            pure ((bytes.1, bytes.2, state) :: transitions, room, known))
          ([], room, known)
      shareState transitions.reverse room known

/-- The states that read a row of bytes backwards and then fork; `state` comes after them. -/
def layoutRow : List (Nat × Nat) → (state : Nat) → Room → Known (Nat × Nat × Nat) →
    Option (Room × Known (Nat × Nat × Nat))
  | [], _, room, known => (room.add 0 4).map fun room => (room, known)
  | bytes :: rest, state, room, known =>
    let key := (state, bytes.1, bytes.2)
    let at' := (hashNext (hashNext (hashNext hashStart state) bytes.1) bytes.2).toNat % 1000
    match numberOf? known at' key with
    | some state' => layoutRow rest state' room known
    | none =>
      match room.add 1 0 with
      | none => none
      | some room' => layoutRow rest room.states room' (known.insert at' (key, room.states))

/-- A set of characters. A set of ASCII characters takes one state with all transitions. -/
def layoutSet (backwards : Bool) (s : CodeSet) (room : Room) : Option Room :=
  if s.ranges.all (·.2 < 0x80) then room.add 2 (8 * s.ranges.size)
  else
    let rows := s.ranges.toList.flatMap byteSequences
    if backwards then do
      let room' ← room.add 2 0
      let (room', _) ← rows.foldlM (fun (room', known) row =>
        layoutRow row (room.states + 1) room' known) (room', (∅ : Known (Nat × Nat × Nat)))
      pure room'
    else do
      let room' ← room.add 1 0
      let (_, room', _) ← layoutTree room.states 4 rows room' ∅
      pure room'

/-! ## Choices between literals -/

/-- Words in chunks, cut where one of them ends. -/
def chunks : List (List Nat) → List (List (List Nat))
  | [] => [[]]
  | [] :: rest => [] :: chunks rest
  | word :: rest =>
    match chunks rest with
    | [] => [[word]]
    | chunk :: more => (word :: chunk) :: more

/-- The room of a tree of words below one state: a fork into its chunks and, where a word ends, to
the goal; each chunk is a state with a transition for each first byte. -/
def wordsRoom : (depth : Nat) → List (List Nat) → Room
  | 0, _ => ⟨0, 0⟩
  | depth + 1, words =>
    if words.all List.isEmpty then ⟨0, 0⟩
    else
      let words :=
        match words with
        | [] :: rest => [] :: rest.dropWhile List.isEmpty
        | words => words
      let all := chunks words
      let full := all.filter (!·.isEmpty)
      full.foldl
        (fun room chunk =>
          let firsts := (chunk.filterMap List.head?).eraseDups
          let room := firsts.foldl
            (fun room b =>
              let more := wordsRoom depth
                ((chunk.filter (·.head? == some b)).map List.tail)
              ⟨room.states + more.states, room.bytes + more.bytes⟩)
            room
          ⟨room.states + 1, room.bytes + (if firsts.length == 1 then 0 else 8 * firsts.length)⟩)
        ⟨1, 4 * (full.length + (all.length - 1))⟩

/-- The characters of a literal. -/
def literal? : Regex → Option (List Char)
  | .literal cs => some cs
  | _ => none

/-- A choice between literals. -/
def layoutWords (backwards : Bool) (words : List (List Char)) (room : Room) : Option Room :=
  let words := words.map fun cs =>
    let bytes := cs.flatMap fun c => encoding c.toNat
    if backwards then bytes.reverse else bytes
  let more := wordsRoom (words.foldl (fun n w => max n w.length) 0 + 1) words
  room.add (more.states + 1) more.bytes

/-! ## Expressions -/

/-- So many more copies of a part. -/
def copies (step : Room → Option Part) : (n : Nat) → Part → Option Part
  | 0, part => some part
  | n + 1, (room, fork) => do
    let (room, fork') ← step room
    let room ← room.link fork
    copies step n (room, fork')

/-- So many copies of a part, one after the other. -/
def exactly (step : Room → Option Part) : (n : Nat) → Room → Option Part
  | 0, room => (room.add 1 0).map fun room => (room, false)
  | n + 1, room => (step room).bind (copies step n)

/-- So many more copies of a part, each of which may be the first to be left out. -/
def optional (step : Room → Option Part) : (n : Nat) → Part → Option Part
  | 0, part => some part
  | n + 1, (room, fork) => do
    let room ← room.add 1 8
    let (room, fork') ← step room
    let room ← room.link fork
    optional step n (room, fork')

/-- The copies of a part that a repetition takes. `mayBeEmpty` says that the part may match the
empty stretch, which takes two forks to repeat without end. -/
def layoutRepetition (step : Room → Option Part) (mayBeEmpty : Bool) (least : Nat) :
    Option Nat → Room → Option Part
  | some most, room =>
    if least == 0 && most == 1 then do
      let room ← room.add 1 8
      let (room, fork) ← step room
      let room ← room.add 1 0
      pure (← room.link fork, false)
    else if least == most then exactly step least room
    else do
      let (room, fork) ← exactly step least room
      let room ← room.add 1 0
      let (room, fork) ← optional step (most - least) (room, fork)
      pure (← room.link fork, false)
  | none, room =>
    match least with
    | 0 =>
      if mayBeEmpty then do
        let (room, fork) ← step room
        let room ← room.link fork
        pure (← room.add 3 16, false)
      else do
        let room ← room.add 1 4
        let (room, fork) ← step room
        pure (← room.link fork, true)
    | n + 1 => do
      let (room, fork) ←
        match n with
        | 0 => step room
        | n => do
          let (room, fork) ← exactly step n room
          let (room, fork') ← step room
          pure (← room.link fork, fork')
      let room ← room.add 1 4
      pure (← room.link fork, true)

/-- Where an expression stands in a choice. -/
inductive Branch where
  /-- In none, or as its first branch. -/
  | first
  | second
  | later
  deriving DecidableEq

/-- The place of the branch after this one. -/
def Branch.next : Branch → Branch
  | .first => .second
  | _ => .later

/-- The end of a branch: its place in the fork, and its way to the end of the choice. The two states
of the choice itself are laid out after its second branch. -/
def Branch.close (branch : Branch) (part : Part) : Option Part := do
  let room ← part.1.add (if branch = .second then 2 else 0) 4
  pure (← room.link part.2, false)

/-- The room of an expression, as the last branch of a choice or alone. -/
def layout (backwards : Bool) : Regex → (branch : Branch) → Room → Option Part
  | .alt a b, branch, room =>
    match branch, (branches (.alt a b)).mapM literal? with
    | .first, some words => (layoutWords backwards words room).map fun room => (room, false)
    | branch, _ => do
      let part ← layout backwards a .first room
      let (room, _) ← branch.close part
      layout backwards b branch.next room
  | .empty, branch, room => do finish branch (← room.add 1 0, false)
  | .literal cs, branch, room => do finish branch (← room.add (utf8Length cs) 0, false)
  | .oneOf s, branch, room => do finish branch (← layoutSet backwards s room, false)
  | .look _, branch, room => do finish branch (← room.add 1 0, false)
  | .seq a b, branch, room => do
    let part ←
      if backwards then do
        let (room, fork) ← layout backwards b .first room
        let (room, fork') ← layout backwards a .first room
        pure (← room.link fork, fork')
      else do
        let (room, fork) ← layout backwards a .first room
        let (room, fork') ← layout backwards b .first room
        pure (← room.link fork, fork')
    finish branch part
  | .repetition least most a, branch, room => do
    let mayBeEmpty := !(a.minLength.any (0 < ·))
    finish branch
      (← layoutRepetition (layout backwards a .first) mayBeEmpty least most room)
  | .group a, branch, room => do
    let part ←
      if backwards then layout backwards a .first room
      else do
        let (room, fork) ← layout backwards a .first (← room.add 1 0)
        let room ← room.add 1 0
        pure (← room.link fork, false)
    finish branch part
where
  /-- Closes the last branch of a choice. -/
  finish (branch : Branch) (part : Part) : Option Part :=
    if branch = .first then some part else branch.close part

/-! ## The whole -/

/-- Whether every match starts where the text does. -/
def startsText : Regex → Bool
  | .look l => l = .textStart
  | .seq a b => startsText a || (a.maxLength == some 0 && startsText b)
  | .alt a b => startsText a && startsText b
  | .repetition least _ a => 0 < least && startsText a
  | .group a => startsText a
  | _ => false

/-- Whether every match ends where the text does. -/
def endsText : Regex → Bool
  | .look l => l = .textEnd
  | .seq a b => endsText b || (b.maxLength == some 0 && endsText a)
  | .alt a b => endsText a && endsText b
  | .repetition least _ a => 0 < least && endsText a
  | .group a => endsText a
  | _ => false

/-- The room of the whole automaton. What may start anywhere has a loop before it that skips bytes;
forwards, the whole match is remembered. -/
def wholeRoom (backwards : Bool) (r : Regex) : Option Room := do
  let fixed := if backwards then r.endsText else r.startsText
  let room ← (⟨0, 0⟩ : Room).add (if fixed then 1 else 3) (if fixed then 0 else 16)
  let (room, fork) ← layout backwards (if backwards then r else .group r) .first room
  let room ← room.add 1 0
  room.link fork

/-- Whether an expression is not too large. -/
def fits (r : Regex) : Bool := (wholeRoom false r).isSome && (wholeRoom true r).isSome

end Coordination.Text.Regex
