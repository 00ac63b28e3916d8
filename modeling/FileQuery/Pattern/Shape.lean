import FileQuery.Pattern.Written

/-!
# Shapes of patterns

The shape of a pattern is what its automaton is built from: characters in a row are one literal,
sequences and alternatives lie flat, a set of one character is that character, and alternatives that
are all characters or all sets are one set. A repetition of what takes no characters happens at
most once. Alternatives that begin alike share their beginning.

## Main definitions

* `FileQuery.Shape`, and the shapes in normal form `FileQuery.Shape.ofSet`,
  `FileQuery.Shape.sequenceOf`, `FileQuery.Shape.alternativesOf`, `FileQuery.Shape.repeated`.
* `FileQuery.WrittenPattern.shape`.
-/

namespace FileQuery

inductive Shape where
  | empty
  /-- Characters in a row, at least one. -/
  | literal (cs : List Char)
  /-- A set that is not one character. The empty set matches nowhere. -/
  | set (s : CharSet)
  | anchor (a : Anchor)
  | repetition (least : Nat) (most : Option Nat) (greedy : Bool) (p : Shape)
  /-- A group whose match is remembered, by the place of the group. -/
  | capture (place : Nat) (p : Shape)
  | sequence (ps : List Shape)
  | alternatives (ps : List Shape)
  deriving BEq, Inhabited

namespace Shape

mutual

/-- Whether a shape can only match without taking characters. -/
def takesNone : Shape → Bool
  | .empty => true
  | .literal _ => false
  | .set _ => false
  | .anchor _ => true
  | .repetition _ most _ p => most.isSome && p.takesNone
  | .capture _ p => p.takesNone
  | .sequence ps => allTakeNone ps
  | .alternatives ps => allTakeNone ps

def allTakeNone : List Shape → Bool
  | [] => true
  | p :: ps => p.takesNone && allTakeNone ps

end

mutual

/-- The least number of characters that a match takes. The empty set has none. -/
def fewest? : Shape → Option Nat
  | .empty => some 0
  | .literal cs => some cs.length
  | .set s => if s.isEmpty then none else some 1
  | .anchor _ => some 0
  | .repetition least _ _ p => p.fewest?.map (least * ·)
  | .capture _ p => p.fewest?
  | .sequence ps => do return (← eachFewest? ps).foldl (· + ·) 0
  | .alternatives ps => do (← eachFewest? ps).min?

def eachFewest? : List Shape → Option (List Nat)
  | [] => some []
  | p :: ps => do return (← p.fewest?) :: (← eachFewest? ps)

end

/-- Whether every match takes at least one character. -/
def takesSome (p : Shape) : Bool := p.fewest?.any (0 < ·)

mutual

/-- Whether every match begins with an anchor, or, `atEnd`, ends with it. -/
def isBoundBy (atEnd : Bool) (a : Anchor) : Shape → Bool
  | .anchor b => a == b
  | .repetition least _ _ p => 0 < least && p.isBoundBy atEnd a
  | .capture _ p => p.isBoundBy atEnd a
  | .sequence ps => anyBoundBy atEnd a ps
  | .alternatives ps => allBoundBy atEnd a ps
  | _ => false

/-- The same of shapes in a row: those that take no characters do not hide the next one. -/
def anyBoundBy (atEnd : Bool) (a : Anchor) : List Shape → Bool
  | [] => false
  | p :: ps =>
    if atEnd then anyBoundBy atEnd a ps || (allTakeNone ps && p.isBoundBy atEnd a)
    else p.isBoundBy atEnd a || (p.takesNone && anyBoundBy atEnd a ps)

def allBoundBy (atEnd : Bool) (a : Anchor) : List Shape → Bool
  | [] => true
  | p :: ps => p.isBoundBy atEnd a && allBoundBy atEnd a ps

end

/-- The shape of a set. -/
def ofSet (s : CharSet) : Shape :=
  match s with
  | [(low, high)] => if low = high then .literal [Char.ofNat low] else .set s
  | s => .set s

/-- Joins literals that follow each other. -/
def joinLiterals : List Shape → List Shape
  | [] => []
  | .literal cs :: ps =>
    match joinLiterals ps with
    | .literal ds :: qs => .literal (cs ++ ds) :: qs
    | qs => .literal cs :: qs
  | p :: ps => p :: joinLiterals ps

/-- Shapes in a row. -/
def sequenceOf (ps : List Shape) : Shape :=
  let flat := ps.flatMap fun
    | .sequence qs => qs
    | .empty => []
    | p => [p]
  match joinLiterals flat with
  | [] => .empty
  | [p] => p
  | ps => .sequence ps

/-- A repetition of a shape. -/
def repeated (least : Nat) (most : Option Nat) (greedy : Bool) (p : Shape) : Shape :=
  let (least, most) := if p.takesNone then (min least 1, some (min (most.getD 1) 1))
    else (least, most)
  if most = some 0 then .empty
  else if least = 1 ∧ most = some 1 then p
  else .repetition least most greedy p

/-- The characters of a shape that is a literal. -/
def literal? : Shape → Option (List Char)
  | .literal cs => some cs
  | _ => none

/-- The character of a shape that is one. -/
def character? : Shape → Option Char
  | .literal [c] => some c
  | _ => none

/-- The set of a shape that is one. -/
def set? : Shape → Option CharSet
  | .set s => some s
  | _ => none

/-- The parts of a sequence. -/
def parts? : Shape → Option (List Shape)
  | .sequence ps => some ps
  | _ => none

/-- What two lists begin with alike. -/
def commonStart : List Shape → List Shape → List Shape
  | p :: ps, q :: qs => if p == q then p :: commonStart ps qs else []
  | _, _ => []

/-- One of several shapes. What all of them begin with is taken out in front, and what is left of
them are alternatives again; with `n` that may happen at most so many times. -/
def alternativesOf (n : Nat) (ps : List Shape) : Shape :=
  let flat := ps.flatMap fun
    | .alternatives qs => qs
    | p => [p]
  match flat with
  | [] => .set []
  | [p] => p
  | first :: others =>
    match flat.mapM character?, flat.mapM set?, n, flat.mapM parts? with
    | some cs, _, _, _ => ofSet (.ofRanges (cs.flatMap CharSet.single))
    | _, some ss, _, _ => ofSet (.ofRanges ss.flatten)
    | _, _, n + 1, some (qs :: qss) =>
      match qss.foldl commonStart qs with
      | [] => .alternatives (first :: others)
      | start =>
        let rests := (qs :: qss).map fun qs => sequenceOf (qs.drop start.length)
        sequenceOf (start ++ [alternativesOf n rests])
    | _, _, _, _ => .alternatives (first :: others)

end Shape

namespace WrittenPattern

mutual

/-- The shape of a written pattern. -/
def shape : WrittenPattern → Shape
  | .empty _ => .empty
  | .flags _ => .empty
  | .set _ s => .ofSet s
  | .anchor _ a => .anchor a
  | .bracket _ s => .ofSet s
  | .group place captures w => if captures then .capture place.fromStart w.shape else w.shape
  | .repetition _ least most greedy w => .repeated least most greedy w.shape
  | .sequence _ ws => .sequenceOf (shapes ws)
  | .alternatives place ws => .alternativesOf (place.fromStart - place.fromStop) (shapes ws)

def shapes : List WrittenPattern → List Shape
  | [] => []
  | w :: ws => w.shape :: shapes ws

end

end WrittenPattern

end FileQuery
