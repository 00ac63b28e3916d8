import FileQuery.Number.Binary64

/-!
# The fewest decimal digits that read back

A positive count of units `u` is printed with the fewest significant digits whose value rounds to
`u` again. The reals that round to `u` form an interval around it, closed when the significand of
`u` is even; a decimal grid has a point in the interval only if one of the two grid points next to
`u` lies in it, so each grid is tested at these two.

## Main definitions

* `FileQuery.Scientific`: a decimal significand and exponent.
* `FileQuery.Shortest.Neighbourhood`: the interval of reals that round to a count of units.
* `FileQuery.Shortest.digits`: the shortest digits, the nearest among the shortest.
-/

namespace FileQuery

/-- The decimal value `significand · 10 ^ exponent`. -/
structure Scientific where
  significand : Nat
  exponent : Int
  deriving DecidableEq, Repr

namespace Scientific

/-- The significant digits, most significant first. -/
def digitList (x : Scientific) : List Char := Nat.toDigits 10 x.significand

/-- The exponent of the first digit: the value is `d.ddd · 10 ^ leading`. -/
def leading (x : Scientific) : Int := x.exponent + (x.digitList.length - 1 : Nat)

/-- The same value without final zeros in the significand, for at most `fuel` zeros. -/
def stripZeros : Nat → Scientific → Scientific
  | 0, x => x
  | fuel + 1, x =>
    if x.significand ≠ 0 ∧ x.significand % 10 = 0 then
      stripZeros fuel ⟨x.significand / 10, x.exponent + 1⟩
    else x

/-- The same value without final zeros in the significand. -/
def normalize (x : Scientific) : Scientific := stripZeros x.digitList.length x

end Scientific

namespace Shortest

open Binary64 (spacing unitsPerOne)

/-- What is done when two grid points are equally near. -/
inductive Tie where
  | up
  | even
  deriving DecidableEq, Repr

/-- The reals that round to a count of units, as bounds in half units. -/
structure Neighbourhood where
  low : Nat
  high : Nat
  closed : Bool

/-- The bounds lie half a spacing away; below a power of two the spacing is half as wide. -/
def neighbourhood (u : Nat) : Neighbourhood :=
  let step := 2 ^ spacing u
  let below := if u = 2 ^ 52 * step ∧ 1 < step then step / 2 else step
  ⟨2 * u - below, 2 * u + step, u / step % 2 == 0⟩

/-- Whether the value `num / den`, in units, lies in the neighbourhood. -/
def Neighbourhood.holds (n : Neighbourhood) (num den : Nat) : Bool :=
  if n.closed then n.low * den ≤ 2 * num && 2 * num ≤ n.high * den
  else n.low * den < 2 * num && 2 * num < n.high * den

/-- A power of ten with an integer exponent as a quotient. -/
def tenPower (k : Int) : Nat × Nat :=
  if 0 ≤ k then (10 ^ k.toNat, 1) else (1, 10 ^ (-k).toNat)

/-- The exponent of the first decimal digit of a positive count of units. -/
def magnitude (u : Nat) : Int :=
  if unitsPerOne ≤ u then ((Nat.toDigits 10 (u / unitsPerOne)).length - 1 : Nat)
  else -((Nat.toDigits 10 ((unitsPerOne - 1) / u)).length : Nat)

/-- The grid point of spacing `10 ^ k` that stands for `u`, if one next to `u` rounds to it. -/
def onGrid (tie : Tie) (u : Nat) (k : Int) : Option Scientific :=
  let near := neighbourhood u
  let (up, down) := tenPower k
  let den := unitsPerOne * up
  let num := u * down
  let below := num / den
  let twice := 2 * (num % den)
  let holds (d : Nat) : Bool := near.holds (d * den) down
  let above : Bool :=
    match Ord.compare twice den, tie with
    | .gt, _ => true
    | .lt, _ => false
    | .eq, .up => true
    | .eq, .even => below % 2 == 1
  match holds below, holds (below + 1) with
  | true, true => some ⟨if above then below + 1 else below, k⟩
  | true, false => some ⟨below, k⟩
  | false, true => some ⟨below + 1, k⟩
  | false, false => none

/-- The shortest digits of a positive count of units: the first of the grids with 1, 2, … 17
digits that has a point for it. -/
def digits (tie : Tie) (u : Nat) : Scientific :=
  let top := magnitude u
  let found := (List.range 18).findSome? fun n : Nat => onGrid tie u (top - n)
  (found.getD ⟨u, 0⟩).normalize

end Shortest

end FileQuery
