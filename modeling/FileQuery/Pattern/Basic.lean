import Std.Data.HashMap
import FileQuery.Pattern.Class
import FileQuery.Pattern.Folding

/-!
# Patterns

A pattern describes texts by character sets, anchors, sequences, alternatives and repetitions.
Matching keeps the set of all places of a text that a pattern may end at, given the set of places
where it may start; a set of places is the number whose bits they are. A greedy and a lazy
repetition end at the same places, so patterns do not distinguish them.

On one text only the places matter where a set holds the next character or an anchor holds, so a
pattern is first laid out on the text: the route of a pattern has these places in it.

## Main definitions

* `FileQuery.Anchor`, `FileQuery.Anchor.holdsBetween`.
* `FileQuery.Pattern`, `FileQuery.Pattern.route`, `FileQuery.Pattern.isMatch`.
* `FileQuery.Route`, `FileQuery.Route.ends`.
-/

namespace FileQuery

/-- A condition on a place of a text that takes no characters. -/
inductive Anchor where
  | textStart
  | textEnd
  /-- At the beginning, or after a line feed. -/
  | lineStart
  /-- At the end, or before a line feed. -/
  | lineEnd
  /-- At the beginning, or after a line break of one or two characters. -/
  | wideLineStart
  /-- At the end, or before a line break of one or two characters. -/
  | wideLineEnd
  | wordBoundary
  | notWordBoundary
  | wordStart
  | wordEnd
  /-- No word character before the place. -/
  | wordStartHalf
  /-- No word character after the place. -/
  | wordEndHalf
  deriving DecidableEq, Repr

/-- Whether an anchor holds between two characters, if there are such. -/
def Anchor.holdsBetween (before after : Option Char) : Anchor → Bool
  | .textStart => before.isNone
  | .textEnd => after.isNone
  | .lineStart => before.isNone || before == some '\n'
  | .lineEnd => after.isNone || after == some '\n'
  | .wideLineStart =>
    before.isNone || before == some '\n' || (before == some '\r' && after != some '\n')
  | .wideLineEnd =>
    after.isNone || after == some '\r' || (after == some '\n' && before != some '\r')
  | .wordBoundary => isWord before != isWord after
  | .notWordBoundary => isWord before == isWord after
  | .wordStart => !isWord before && isWord after
  | .wordEnd => isWord before && !isWord after
  | .wordStartHalf => !isWord before
  | .wordEndHalf => !isWord after
where
  isWord (c : Option Char) : Bool := c.any CharSet.word.contains

inductive Pattern where
  | empty
  | set (s : CharSet)
  | anchor (a : Anchor)
  | sequence (p q : Pattern)
  | alternative (p q : Pattern)
  /-- At least so many times, and at most so many if there is a bound. -/
  | repetition (least : Nat) (most : Option Nat) (p : Pattern)
  deriving DecidableEq, Repr

/-- A set of places of a text: place `i`, before the character `i`, belongs to it when bit `i` is
set. -/
abbrev Places := Nat

namespace Places

/-- The places with a property among the `n` from a place on, which is counted as the first. -/
def thoseFrom (p : Nat → Bool) (start n : Nat) : Places :=
  if n = 0 then 0
  else if n = 1 then (if p start then 1 else 0)
  else thoseFrom p start (n / 2) ||| (thoseFrom p (start + n / 2) (n - n / 2) <<< (n / 2))
termination_by n

/-- The places with a property among the first `n`. -/
def those (n : Nat) (p : Nat → Bool) : Places := thoseFrom p 0 n

end Places

/-- A pattern laid out on a text. -/
inductive Route where
  /-- Staying at a place. -/
  | stay
  /-- Going over one character, from any of these places. -/
  | step (places : Places)
  /-- Staying at a place, if it is one of these. -/
  | gate (places : Places)
  | sequence (r r' : Route)
  | alternative (r r' : Route)
  /-- A repetition, which has a number of its own. -/
  | repetition (number least most : Nat) (r : Route)

namespace Route

/-- Where repetitions end, by their numbers and the places where they start, as far as it is known.
Without it the time that repetitions in each other take would grow with each of them. -/
abbrev Memo := Std.HashMap (Nat × Places) Places

/-- The places reached by a step repeated exactly so many times. -/
def iterate (f : Places → StateM Memo Places) : Nat → Places → StateM Memo Places
  | 0, m => return m
  | n + 1, m => do
    let m' ← f m
    if m' = m then return m else iterate f n m'

/-- The places reached by a step repeated at most so many times. -/
def closure (f : Places → StateM Memo Places) : Nat → Places → StateM Memo Places
  | 0, m => return m
  | n + 1, m => do
    let m' := m ||| (← f m)
    if m' = m then return m else closure f n m'

/-- The places where a route may end when it starts at one of the given places. -/
def ends : Route → Places → StateM Memo Places
  | .stay, m => return m
  | .step places, m => return (m &&& places) <<< 1
  | .gate places, m => return m &&& places
  | .sequence r r', m => do r'.ends (← r.ends m)
  | .alternative r r', m => return (← r.ends m) ||| (← r'.ends m)
  | .repetition number least most r, m => do
    match (← get)[(number, m)]? with
    | some m' => return m'
    | none =>
      let m' ← closure r.ends (most - least) (← iterate r.ends least m)
      modify fun memo => memo.insert (number, m) m'
      return m'

end Route

namespace Pattern

/-- A pattern laid out on a text, with the repetitions numbered. A repetition without a bound need
not go on longer than there are places to reach. -/
def route (text : Array Char) : Pattern → StateM Nat Route
  | .empty => return .stay
  | .set s => return .step (Places.those text.size fun i => text[i]?.any s.contains)
  | .anchor a =>
    return .gate (Places.those (text.size + 1) fun i =>
      a.holdsBetween (if i = 0 then none else text[i - 1]?) text[i]?)
  | .sequence p q => return .sequence (← p.route text) (← q.route text)
  | .alternative p q => return .alternative (← p.route text) (← q.route text)
  | .repetition least most p => do
    let r ← p.route text
    let number ← get
    modify (· + 1)
    return .repetition number least (most.getD (least + text.size + 1)) r

/-- Whether a pattern matches somewhere in a text. -/
def isMatch (p : Pattern) (text : String) : Bool :=
  let cs := text.toList.toArray
  let start := Places.those (cs.size + 1) fun _ => true
  let r := ((p.route cs).run 0).1
  ((r.ends start).run ∅).1 != 0

end Pattern

end FileQuery
