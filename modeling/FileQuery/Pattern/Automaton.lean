import Std.Data.HashMap
import FileQuery.Pattern.Shape

/-!
# The size of automata

The automaton of a pattern reads the bytes of a text. A pattern is refused when its automaton takes
too many bytes itself, whether it is built to read forwards or backwards. What counts is the number
of states and the number of ways between them, so the automaton is not built: its states are only
numbered and added up, in the order in which they would be made.

A repetition with a count holds its part as often as the count says. A set takes few states if all
its characters are single bytes. Otherwise it is a tree over the byte ranges of its characters:
forwards, equal ends of the tree are shared, and backwards its beginnings are. Both remember what
can be shared in a table with few slots, where a later entry may take the slot of an earlier one.

## Main definitions

* `FileQuery.CharSet.byteRanges`: the bytes that write the characters of a set.
* `FileQuery.Automaton.Tally`, `FileQuery.Automaton.Build`: states that are added up to a limit.
* `FileQuery.Automaton.build`: the automaton of a shape.
* `FileQuery.Shape.isBuildable`: whether both automata of a shape are small enough.
-/

namespace FileQuery

/-! ### Bytes of characters -/

/-- Bytes in a row, each from a range. -/
abbrev ByteRanges := List (Nat × Nat)

namespace CharSet

/-- Where a range of code points has to be cut so that the bytes of each piece are byte ranges in a
row: behind the last character with fewer bytes, or at the end of the characters with the same first
bytes. -/
def cut? (low high : Nat) : Option Nat :=
  match [0x7F, 0x7FF, 0xFFFF].find? fun n => low ≤ n ∧ n < high with
  | some n => some n
  | none =>
    if high ≤ 0x7F then none
    else [64, 64 ^ 2, 64 ^ 3].findSome? fun block =>
      if low / block = high / block then none
      else if low % block ≠ 0 then some (low / block * block + block - 1)
      else if high % block ≠ block - 1 then some (high / block * block - 1)
      else none

/-- The pieces of a range of code points. -/
def pieces (low high : Nat) : List (Nat × Nat) :=
  match cut? low high with
  | none => [(low, high)]
  | some n =>
    if _h : low ≤ n ∧ n < high then pieces low n ++ pieces (n + 1) high else [(low, high)]
termination_by high - low

/-- The bytes of a character. -/
def bytesOf (c : Char) : List Nat := (String.utf8EncodeChar c).map UInt8.toNat

/-- The bytes that write the characters of a set, in order. -/
def byteRanges (s : CharSet) : List ByteRanges :=
  let parts := s.flatMap fun (low, high) =>
    [(low, min high 0xD7FF), (max low 0xE000, high)].filter fun (low, high) => low ≤ high
  let pieces := parts.flatMap fun (low, high) => pieces low high
  pieces.map fun (low, high) => (bytesOf (Char.ofNat low)).zip (bytesOf (Char.ofNat high))

/-- Whether all characters of a set are single bytes. -/
def isAscii (s : CharSet) : Bool := s.all fun r => r.2 ≤ 0x7F

end CharSet

namespace Automaton

/-! ### Adding up -/

/-- How many states an automaton has so far, and how many bytes their ways take. -/
structure Tally where
  states : Nat
  ways : Nat

/-- The bytes of an automaton. -/
def Tally.bytes (t : Tally) : Nat := 32 * t.states + t.ways

/-- Building, which gives up beyond the limit. -/
abbrev Build := StateT Tally Option

/-- Adds states and the bytes of ways. -/
def grow (states ways : Nat) : Build Unit := fun t =>
  let t : Tally := ⟨t.states + states, t.ways + ways⟩
  if t.bytes ≤ automatonLimit then some ((), t) else none

/-- Adds a state with a number of bytes for its ways; its number is how many there were before. -/
def addState (ways : Nat) : Build Nat := do
  let t ← get
  grow 1 ways
  return t.states

/-- How the last state of a part can be left: by its one way, or by one more way of a fork. -/
inductive Exit where
  | single
  | fork

/-- Leads from the last state of a part to another state. -/
def Exit.link : Exit → Build Unit
  | .single => return ()
  | .fork => grow 0 4

/-- Adds a fork with some ways. -/
def addFork (ways : Nat) : Build Unit := grow 1 (4 * ways)

/-! ### Sets -/

/-- A byte range with the number of the state behind it. -/
abbrev Way := Nat × Nat × Nat

/-- States by what leads from or to them, in slots. -/
abbrev Slots := Std.HashMap Nat (List Way × Nat)

/-- The slot of some ways among `n`. -/
def slotOf (n : Nat) (ways : List Way) : Nat :=
  let mix (h : UInt64) (x : Nat) : UInt64 := (h ^^^ x.toUInt64) * 1099511628211
  let h := ways.foldl (fun h (a, b, c) => mix (mix (mix h a) b) c) 14695981039346656037
  h.toNat % n

/-- The state known by some ways in a table with so many slots, or else a state that is added for
them. -/
def share (slots : Nat) (ways : List Way) (bytes : Nat) : StateT Slots Build Nat := do
  let slot := slotOf slots ways
  let add : StateT Slots Build Nat := do
    let state ← addState bytes
    modify fun known => known.insert slot (ways, state)
    return state
  match (← get)[slot]? with
  | some (ways', state) => if ways' == ways then return state else add
  | none => add

/-- The tree of byte ranges in a row, read forwards: a state with a way for each range that some of
them begin with. At the end of them is the state `target`. No character has more than `n` bytes. -/
def tree (target : Nat) : Nat → List ByteRanges → StateT Slots Build Nat
  | 0, _ => return target
  | n + 1, rows => do
    let ways ← (rows.splitBy fun a b => a.head? == b.head?).filterMapM fun group => do
      match group.head?.bind List.head? with
      | none => return none
      | some (low, high) =>
        match (group.map List.tail).filter fun row => !row.isEmpty with
        | [] => return some (low, high, target)
        | rest => return some (low, high, ← tree target n rest)
    share 10000 ways (8 * ways.length)

/-- The states of byte ranges in a row, read backwards from the state `target`: each range leads to
the state of the one before it. -/
def chain (target : Nat) (row : ByteRanges) : StateT Slots Build Nat :=
  row.foldlM (fun state (low, high) => share 1000 [(state, low, high)] 0) target

/-- The automaton of a set, given with the bytes of its characters. -/
def buildSet (backwards : Bool) (s : CharSet) (rows : List ByteRanges) : Build Exit := do
  if s.isAscii then
    grow 2 (8 * s.length)
  else if backwards then
    let _ ← addState 0
    let target ← addState 0
    let _ ← (rows.forM fun row => do
      let _ ← chain target row
      grow 0 4 : StateT Slots Build Unit).run ∅
  else
    let target ← addState 0
    let _ ← (tree target 4 rows).run ∅
  return .single

/-! ### Words as alternatives -/

/-- Splits words at the empty ones. -/
def splitAtEmpty : List (List Nat) → List (List (List Nat))
  | [] => [[]]
  | [] :: ws => [] :: splitAtEmpty ws
  | w :: ws =>
    match splitAtEmpty ws with
    | [] => [[w]]
    | chunk :: chunks => (w :: chunk) :: chunks

/-- The tree of some words that are not all empty: for the words between two empty ones a state with
a way for each byte that some of them begin with, and a fork to these states. No word has more than
`n` bytes. -/
def wordTree : Nat → List (List Nat) → Build Unit
  | 0, _ => return ()
  | n + 1, words => do
    let words := match words with
      | [] :: ws => [] :: ws.dropWhile List.isEmpty
      | ws => ws
    let chunks := splitAtEmpty words
    for chunk in chunks do
      let firsts := (chunk.filterMap List.head?).eraseDups
      for b in firsts do
        let rests := (chunk.filter fun w => w.head? == some b).map List.tail
        if rests.any fun w => !w.isEmpty then wordTree n rests
      match firsts.length with
      | 0 => pure ()
      | 1 => grow 1 0
      | k => grow 1 (8 * k)
    addFork ((chunks.filter fun chunk => !chunk.isEmpty).length + (chunks.length - 1))

/-! ### Shapes -/

/-- The automaton of a part. -/
abbrev Part := Build Exit

/-- A part that takes nothing. -/
def nothing : Part := do
  grow 1 0
  return .single

/-- A part so many times more, behind a part that was left. -/
def again (part : Part) : Nat → Exit → Part
  | 0, e => return e
  | n + 1, e => do
    let e' ← part
    e.link
    again part n e'

/-- A part exactly so many times. -/
def copies (part : Part) : Nat → Part
  | 0 => nothing
  | n + 1 => do again part n (← part)

/-- A part at most so many times more, behind a part that was left, with a fork before each that may
also lead to the end. -/
def optional (part : Part) : Nat → Exit → Part
  | 0, e => do
    e.link
    return .single
  | n + 1, e => do
    addFork 2
    let e' ← part
    e.link
    optional part n e'

/-- A part at least so many times. The loop of a part that may take no characters is kept apart from
the way around it. -/
def unbounded (part : Part) (takesSome : Bool) : Nat → Part
  | 0 => do
    if takesSome then
      addFork 1
      (← part).link
      return .fork
    else
      let e ← part
      addFork 2
      e.link
      addFork 2
      nothing
  | n + 1 => do
    let before ← if n = 0 then pure Exit.single else copies part n
    let e ← part
    before.link
    addFork 1
    e.link
    return .fork

/-- A repetition of a part. -/
def repetition (part : Part) (takesSome : Bool) (least : Nat) (most : Option Nat) : Part :=
  match most with
  | none => unbounded part takesSome least
  | some most => do
    if least = 0 ∧ most = 1 then
      addFork 2
      let e ← part
      grow 1 0
      e.link
      return .single
    else
      let e ← copies part least
      if most = least then return e
      grow 1 0
      optional part (most - least) e

/-- Parts in a row. -/
def row : List Part → Part
  | [] => nothing
  | part :: parts => do
    let e ← part
    parts.foldlM (fun e part => do
      let e' ← part
      e.link
      return e') e

/-- One of several parts: a fork to them, which is made behind the second one, and their end. -/
def choice (parts : List Part) : Part := do
  let exits ← (parts.take 2).mapM id
  addFork parts.length
  grow 1 0
  exits.forM Exit.link
  (parts.drop 2).forM fun part => do (← part).link
  return .single

mutual

/-- The automaton of a shape. Backwards, parts in a row are built from the last to the first, and
groups are not remembered. -/
def build (backwards : Bool) : Shape → Part
  | .empty => nothing
  | .literal cs => do
    grow (cs.flatMap CharSet.bytesOf).length 0
    return .single
  | .set s => buildSet backwards s s.byteRanges
  | .anchor _ => nothing
  | .repetition least most _ p => repetition (build backwards p) p.takesSome least most
  | .capture _ p =>
    if backwards then build backwards p
    else do
      grow 1 0
      let e ← build backwards p
      grow 1 0
      e.link
      return .single
  | .sequence ps =>
    let parts := buildAll backwards ps
    row (if backwards then parts.reverse else parts)
  | .alternatives ps =>
    match ps.mapM Shape.literal? with
    | some words => do
      grow 1 0
      let words := words.map fun cs => cs.flatMap CharSet.bytesOf
      let longest := (words.map List.length).max?.getD 0
      wordTree (longest + 1) (if backwards then words.map List.reverse else words)
      return .single
    | none => choice (buildAll backwards ps)

def buildAll (backwards : Bool) : List Shape → List Part
  | [] => []
  | p :: ps => build backwards p :: buildAll backwards ps

end

/-- A whole automaton: unless a match is bound to the border of the text where it begins to be read,
a loop over any bytes comes first. Forwards, the whole match is remembered like a group. -/
def whole (backwards : Bool) (p : Shape) : Build Unit := do
  let e ← if p.isBoundBy backwards (if backwards then .textEnd else .textStart) then nothing
    else do
      grow 3 12
      pure Exit.fork
  let e' ← build backwards (if backwards then p else .capture 0 p)
  grow 1 0
  e'.link
  e.link

end Automaton

/-- Whether the automaton of a shape is small enough in both directions. -/
def Shape.isBuildable (p : Shape) : Bool :=
  [false, true].all fun backwards => ((Automaton.whole backwards p).run ⟨0, 0⟩).isSome

end FileQuery
