import FileQuery.Number.FloatText

/-!
# Decimals with 96 bits

A decimal is a signed whole number below `2 ^ 96` over a power of ten of at most 28 digits. Sums and
averages are kept in this type, and rounding to decimal places goes through it: integers are exact
in it, and so are the numerals that a person writes.

## Main definitions

* `FileQuery.Decimal`, `FileQuery.Decimal.ofParts?`.
* `FileQuery.Decimal.ofInt`, `FileQuery.Decimal.ofBinary?`, `FileQuery.Decimal.toBinary`.
* `FileQuery.Decimal.add?`, `FileQuery.Decimal.divNat?`, `FileQuery.Decimal.roundTo`.
* `FileQuery.Decimal.toText`, `FileQuery.Decimal.normalize`.

## Main results

* `FileQuery.Decimal.fit?_eq_some`: a whole number that fits is kept with its scale.
-/

namespace FileQuery

/-- The value `± mantissa / 10 ^ scale`. -/
structure Decimal where
  negative : Bool
  mantissa : Nat
  scale : Nat
  mantissa_lt : mantissa < 2 ^ 96
  scale_le : scale ≤ 28
  deriving DecidableEq

namespace Decimal

/-- The decimal with the given parts, if they are in range. -/
def ofParts? (negative : Bool) (mantissa scale : Nat) : Option Decimal :=
  if h : mantissa < 2 ^ 96 ∧ scale ≤ 28 then some ⟨negative, mantissa, scale, h.1, h.2⟩
  else none

def zero : Decimal := ⟨false, 0, 0, by decide, by decide⟩

instance : Inhabited Decimal := ⟨zero⟩

/-- A 64-bit integer as a decimal. -/
def ofInt64 (n : Int64) : Decimal :=
  ⟨decide (n.toInt < 0), n.toInt.natAbs, 0, by
    have h₁ := n.le_toInt
    have h₂ := n.toInt_lt
    omega, by decide⟩

/-- The signed whole number over `10 ^ scale`. -/
def signed (d : Decimal) : Int := if d.negative then -d.mantissa else d.mantissa

theorem natAbs_signed (d : Decimal) : d.signed.natAbs = d.mantissa := by
  unfold signed
  split <;> omega

/-! ### Fitting a whole number into the mantissa -/

/-- A whole number over `10 ^ scale` as a decimal. While it is too large for the mantissa, digits
are dropped from its fraction, the result being rounded once, half to even; `dropped` counts them.
There is no decimal when the whole part alone is too large. -/
def fit? (negative : Bool) (n : Nat) (dropped : Nat) : Nat → Option Decimal
  | 0 => ofParts? negative (Rounding.nearestEven n (10 ^ dropped)) 0
  | scale + 1 =>
    let m := Rounding.nearestEven n (10 ^ dropped)
    if m < 2 ^ 96 then ofParts? negative m (scale + 1)
    else fit? negative n (dropped + 1) scale

theorem fit?_eq_some (negative : Bool) {n scale : Nat} (hn : n < 2 ^ 96) (hs : scale ≤ 28) :
    fit? negative n 0 scale = some ⟨negative, n, scale, hn, hs⟩ := by
  have h1 : Rounding.nearestEven n 1 = n := by
    simpa using Rounding.nearestEven_mul_right n Nat.one_pos
  cases scale with
  | zero => rw [fit?, Nat.pow_zero, h1, ofParts?, dif_pos ⟨hn, hs⟩]
  | succ s => simp only [fit?, Nat.pow_zero, h1, if_pos hn, ofParts?, dif_pos (And.intro hn hs)]

/-- The sum at the larger of the two scales. A zero term leaves the other as it is. -/
def add? (a b : Decimal) : Option Decimal :=
  if a.mantissa = 0 then some b
  else if b.mantissa = 0 then some a
  else
    let scale := max a.scale b.scale
    let sum := a.signed * 10 ^ (scale - a.scale) + b.signed * 10 ^ (scale - b.scale)
    fit? (decide (sum < 0)) sum.natAbs 0 scale

/-! ### Scale -/

/-- Drops final zeros of the fraction. -/
def stripZeros : Nat → Nat → Nat × Nat
  | m, 0 => (m, 0)
  | m, s + 1 => if m % 10 = 0 then stripZeros (m / 10) s else (m, s + 1)

/-- The same value at its smallest scale; zero has no sign. -/
def normalize (d : Decimal) : Decimal :=
  if d.mantissa = 0 then zero
  else
    let (m, s) := stripZeros d.mantissa d.scale
    (ofParts? d.negative m s).getD d

/-! ### Division

A quotient is computed in steps of up to nine digits, as many as the mantissa holds, until nothing
remains. Where there is no room for a further digit it is rounded half to even. A quotient that
needed a step gives back final zeros in groups of four, two and one, so some of them may stay.
-/

/-- The most digits, up to a number of them, that can be put behind a whole number. -/
def roomFor (q : Nat) : Nat → Nat
  | 0 => 0
  | k + 1 => if q * 10 ^ (k + 1) < 2 ^ 96 then k + 1 else roomFor q k

/-- A rounded quotient with its scale, a digit less if it does not fit. -/
def roundQuotient (m n : Nat) (scale : Nat) : Nat × Nat :=
  let q := Rounding.nearestEven m n
  if q < 2 ^ 96 then (q, scale) else (Rounding.nearestEven m (10 * n), scale - 1)

/-- The quotient of a whole number by `n` with digits added to its fraction until it is exact or
full. -/
def quotientDigits (m n : Nat) (scale : Nat) : Nat → Nat × Nat
  | 0 => roundQuotient m n scale
  | steps + 1 =>
    if m % n = 0 ∨ 2 ^ 96 ≤ m / n then roundQuotient m n scale
    else
      match roomFor (m / n) (min 9 (28 - scale)) with
      | 0 => roundQuotient m n scale
      | k => quotientDigits (m * 10 ^ k) n (scale + k) steps

/-- Drops a group of `k` final zeros of the fraction if there is one. -/
def dropZeros (k : Nat) (q : Nat × Nat) : Nat × Nat :=
  if k ≤ q.2 ∧ q.1 % 10 ^ k = 0 then (q.1 / 10 ^ k, q.2 - k) else q

/-- Drops groups of eight final zeros as long as the low 32 bits of the mantissa are zero. -/
def dropOctets : Nat → Nat × Nat → Nat × Nat
  | 0, q => q
  | n + 1, q =>
    if q.1 % 2 ^ 32 = 0 ∧ 8 ≤ q.2 ∧ q.1 % 10 ^ 8 = 0 then
      dropOctets n (q.1 / 10 ^ 8, q.2 - 8)
    else q

/-- The quotient by a natural number. -/
def divNat? (d : Decimal) (n : Nat) : Option Decimal :=
  if n = 0 then none
  else if d.mantissa = 0 then some zero
  else if d.mantissa % n = 0 then ofParts? d.negative (d.mantissa / n) d.scale
  else
    let (q, s) := quotientDigits d.mantissa n d.scale 29
    let (q, s) := dropZeros 1 (dropZeros 2 (dropZeros 4 (dropOctets 3 (q, s))))
    ofParts? d.negative q s

/-- Rounding to at most the given number of places, a half away from zero. What is rounded to zero
loses its sign. -/
def roundTo (d : Decimal) (places : Nat) : Decimal :=
  if d.scale ≤ places then d
  else
    let m := Rounding.nearestUp d.mantissa (10 ^ (d.scale - places))
    (ofParts? (d.negative && m != 0) m places).getD d

/-! ### Binary floating point -/

/-- The significand of a count of units and the exponent of its last bit, in value. -/
def binaryParts (units : Nat) : Nat × Int :=
  (units / 2 ^ Binary64.spacing units, (Binary64.spacing units : Int) - 1074)

/-- Turns halves into tenths: `m / 2 ^ halves` becomes a number over `10 ^ tenths`. Factors of two
are cancelled first; where five times the mantissa does not fit, its last bit is dropped. -/
def halvesToTenths : Nat → Nat → Nat → Nat × Nat
  | m, 0, tenths => (m, tenths)
  | m, halves + 1, tenths =>
    if m % 2 = 0 then halvesToTenths (m / 2) halves (tenths - 1)
    else if m * 5 < 2 ^ 96 then halvesToTenths (m * 5) halves tenths
    else halvesToTenths (m / 2) halves (tenths - 1)

/-- One digit of the fraction less, a half up. -/
def dropDigit (m : Nat) : Nat := m / 10 + (if 5 ≤ m % 10 then 1 else 0)

/-- Drops the digits beyond the 28th of the fraction one by one; once none is left the value is
zero. -/
def limitScale : Nat → Nat → Nat × Nat
  | m, 0 => (m, 0)
  | m, s + 1 =>
    if s + 1 ≤ 28 then (m, s + 1)
    else if m / 10 = 0 then (0, 0)
    else limitScale (dropDigit m) s

/-- Drops digits of the fraction until the mantissa has at most 52 bits. -/
def limitMantissa : Nat → Nat → Nat × Nat
  | m, 0 => (m, 0)
  | m, s + 1 => if 2 ^ 52 ≤ m then limitMantissa (dropDigit m) s else (m, s + 1)

/-- The decimal that stands for a floating-point number: a whole number as it is if it fits, and a
fraction to the 52 bits that a numeral needs. The infinities, not-a-number and whole numbers that
do not fit have none. -/
def ofBinary? : Binary64 → Option Decimal
  | .finite negative u _ =>
    if u = 0 then ofParts? negative 0 0
    else
      let (m, e) := binaryParts u
      if 0 ≤ e then ofParts? negative (m * 2 ^ e.toNat) 0
      else
        let halves := (-e).toNat
        let (m, s) := halvesToTenths m halves halves
        let (m, s) := limitScale m s
        let (m, s) := limitMantissa m s
        let (m, s) := stripZeros m s
        ofParts? negative m s
  | _ => none

/-- The floating-point number for a decimal. Without a fraction it is the nearest one. With a
fraction the sum of the two parts, each nearest, is rounded to the scale again in floating-point
arithmetic. -/
def toBinary (d : Decimal) : Binary64 :=
  let signedBy (x : Binary64) : Binary64 := if d.negative then x.neg else x
  if d.scale = 0 then Binary64.ofInt d.signed
  else
    let ten := 10 ^ d.scale
    let whole := Binary64.ofInt (d.mantissa / ten : Nat)
    let fraction := (Binary64.ofInt (d.mantissa % ten : Nat)).div (Binary64.ofInt (ten : Nat))
    if fraction.isZero then signedBy whole
    else
      let power := Binary64.power (Binary64.ofInt 10) d.scale
      signedBy ((((whole.add fraction).mul power).roundToWhole).div power)

/-- The whole part as a 64-bit integer, if it is in range. -/
def toInt64? (d : Decimal) : Option Int64 :=
  let whole : Int := (d.mantissa / 10 ^ d.scale : Nat)
  let n := if d.negative then -whole else whole
  if -2 ^ 63 ≤ n ∧ n < 2 ^ 63 then some (Int64.ofInt n) else none

/-- The text with all the digits of the scale. -/
def toText (d : Decimal) : String :=
  (if d.negative then "-" else "") ++ String.ofList (Binary64.writePlaces d.mantissa d.scale)

end Decimal

end FileQuery
