import FileQuery.Pattern.Basic
import FileQuery.Pattern.Fault

/-!
# Patterns as they are written

A written pattern keeps the groups, the brackets and the marks of repetition with their places in
the text. What it means is a pattern; how deep it is nested is judged on its parts alone.

## Main definitions

* `FileQuery.Nesting`, `FileQuery.Nesting.beyond?`: the first part that lies too deep.
* `FileQuery.WrittenPattern`, `FileQuery.WrittenPattern.pattern`,
  `FileQuery.WrittenPattern.nesting`.
-/

namespace FileQuery

/-- The parts of a text and the parts inside of them. -/
inductive Nesting where
  | leaf (place : Extent)
  | node (place : Extent) (parts : List Nesting)

namespace Nesting

def place : Nesting → Extent
  | .leaf place => place
  | .node place _ => place

/-- Parts that follow each other, first one given: a part of their own, unless there is one only. -/
def joined (n : Nesting) (ns : List Nesting) : Nesting :=
  match ns.getLast? with
  | none => n
  | some last => .node ⟨n.place.fromStart, last.place.fromStop⟩ (n :: ns)

mutual

/-- The first part with parts of its own, in the order of the text and outer parts before inner
ones, that lies in more than a number of others. -/
def beyond? : Nat → Nesting → Option Extent
  | _, .leaf _ => none
  | 0, .node place _ => some place
  | n + 1, .node _ parts => beyondAny? n parts

def beyondAny? : Nat → List Nesting → Option Extent
  | _, [] => none
  | n, p :: ps => (p.beyond? n).orElse fun _ => beyondAny? n ps

end

end Nesting

/-- A pattern as it is written. -/
inductive WrittenPattern where
  /-- Nothing, such as a side of a bar. -/
  | empty (place : Extent)
  /-- A change of flags. -/
  | flags (place : Extent)
  /-- A character, a dot or a class. -/
  | set (place : Extent) (s : CharSet)
  | anchor (place : Extent) (a : Anchor)
  | bracket (parts : Nesting) (s : CharSet)
  | group (place : Extent) (captures : Bool) (w : WrittenPattern)
  | repetition (place : Extent) (least : Nat) (most : Option Nat) (greedy : Bool)
    (w : WrittenPattern)
  | sequence (place : Extent) (ws : List WrittenPattern)
  | alternatives (place : Extent) (ws : List WrittenPattern)

namespace WrittenPattern

def place : WrittenPattern → Extent
  | .empty place => place
  | .flags place => place
  | .set place _ => place
  | .anchor place _ => place
  | .bracket parts _ => parts.place
  | .group place _ _ => place
  | .repetition place _ _ _ _ => place
  | .sequence place _ => place
  | .alternatives place _ => place

mutual

/-- What a written pattern means. -/
def pattern : WrittenPattern → Pattern
  | .empty _ => .empty
  | .flags _ => .empty
  | .set _ s => .set s
  | .anchor _ a => .anchor a
  | .bracket _ s => .set s
  | .group _ _ w => w.pattern
  | .repetition _ least most _ w => .repetition least most w.pattern
  | .sequence _ ws => sequencePattern ws
  | .alternatives _ ws => alternativePattern ws

def sequencePattern : List WrittenPattern → Pattern
  | [] => .empty
  | w :: ws => .sequence w.pattern (sequencePattern ws)

def alternativePattern : List WrittenPattern → Pattern
  | [] => .set []
  | w :: ws => .alternative w.pattern (alternativePattern ws)

end

mutual

/-- The parts of a written pattern. -/
def nesting : WrittenPattern → Nesting
  | .empty place => .leaf place
  | .flags place => .leaf place
  | .set place _ => .leaf place
  | .anchor place _ => .leaf place
  | .bracket parts _ => parts
  | .group place _ w => .node place [w.nesting]
  | .repetition place _ _ _ w => .node place [w.nesting]
  | .sequence place ws => .node place (nestings ws)
  | .alternatives place ws => .node place (nestings ws)

def nestings : List WrittenPattern → List Nesting
  | [] => []
  | w :: ws => w.nesting :: nestings ws

end

end WrittenPattern

end FileQuery
