import FileQuery.Number.Rounding

/-!
# Binary floating point with 53 bits

A finite number of this format is a whole number of units of `2 ^ -1074`, the smallest positive
value. Which counts of units exist is a divisibility condition, so the order and the exact values
of all finite numbers are those of integers, and every operation is exact arithmetic on integers
followed by one rounding.

## Main definitions

* `FileQuery.Binary64`: not-a-number, the two infinities, and signed counts of units.
* `FileQuery.Binary64.round`: the number nearest to a quotient of units.
* `FileQuery.Binary64.position`: an integer that orders all numbers, the zeros together and
  not-a-number on top.
* `add`, `sub`, `mul`, `div`, `neg`, `abs`, `power`, `roundToWhole`.
* `FileQuery.Binary64.trunc`, `FileQuery.Binary64.toInt64`: the whole part.
* `FileQuery.Binary64.compare`, `FileQuery.Binary64.compareInt`: order among numbers and against
  64-bit integers.

## Main results

* `FileQuery.Binary64.representable_mul_two_pow`: at most `2 ^ 53` times a power of two exists.
* `FileQuery.Binary64.round_representable`: rounding keeps a count that exists.
* `FileQuery.Binary64.representable_whole`: the whole part of a number exists.
-/

namespace FileQuery

namespace Binary64

/-- The number of units in the value one. -/
def unitsPerOne : Nat := 2 ^ 1074

theorem unitsPerOne_pos : 0 < unitsPerOne := by
  unfold unitsPerOne
  apply Nat.two_pow_pos

/-- The first count of units beyond the format: `2 ^ 1024` in value. -/
def overflow : Nat := 2 ^ 2098

theorem unitsPerOne_eq_two_pow : ∃ e, unitsPerOne = 2 ^ e ∧ overflow = 2 ^ (1024 + e) := by
  refine ⟨1074, ?_, ?_⟩
  · unfold unitsPerOne
    rfl
  · have h : 2098 = 1024 + 1074 := rfl
    rw [overflow, h]

/-- The exponent of the spacing of the format around a count of units. -/
def spacing (units : Nat) : Nat := units.log2 - 52

/-- A count of units exists when it is a multiple of the spacing around it and not too large. -/
def Representable (units : Nat) : Prop :=
  2 ^ spacing units ∣ units ∧ units < overflow

instance (units : Nat) : Decidable (Representable units) :=
  inferInstanceAs (Decidable (_ ∧ _))

theorem spacing_le_of_lt {k e : Nat} (hk : k < 2 ^ 53) : spacing (k * 2 ^ e) ≤ e := by
  rcases Nat.eq_zero_or_pos k with rfl | hpos
  · simp [spacing]
  · have hne : k * 2 ^ e ≠ 0 := Nat.mul_ne_zero (by omega) (by simp)
    have hlt : k * 2 ^ e < 2 ^ (53 + e) := by
      rw [Nat.pow_add]
      exact Nat.mul_lt_mul_of_pos_right hk (Nat.two_pow_pos e)
    have := (Nat.log2_lt hne).2 hlt
    unfold spacing
    omega

/-- A significand of at most `2 ^ 53` times a power of two exists unless it is too large. -/
theorem representable_mul_two_pow {k e : Nat} (hk : k ≤ 2 ^ 53) (hlt : k * 2 ^ e < overflow) :
    Representable (k * 2 ^ e) := by
  refine ⟨?_, hlt⟩
  rcases Nat.lt_or_eq_of_le hk with h | rfl
  · exact Nat.dvd_trans (Nat.pow_dvd_pow 2 (spacing_le_of_lt h)) (Nat.dvd_mul_left _ _)
  · rw [← Nat.pow_add]
    apply Nat.pow_dvd_pow
    unfold spacing
    rw [Nat.log2_two_pow]
    omega

theorem overflow_pos : 0 < overflow := by
  unfold overflow
  apply Nat.two_pow_pos

/-- A power of two below `2 ^ 1024` exists. -/
theorem representable_two_pow {k : Nat} (hk : k < 1024) : Representable (2 ^ k * unitsPerOne) := by
  obtain ⟨e, he, ho⟩ := unitsPerOne_eq_two_pow
  have hlt : 1 * 2 ^ (k + e) < overflow := by
    rw [Nat.one_mul, ho]
    exact Nat.pow_lt_pow_right Nat.one_lt_two (Nat.add_lt_add_right hk e)
  have h := representable_mul_two_pow (by decide) hlt
  rwa [Nat.one_mul, Nat.pow_add, ← he] at h

theorem representable_zero : Representable 0 := ⟨Nat.dvd_zero _, overflow_pos⟩

/-- The significand of a count of units with its exponent, at most `2 ^ 53`, after rounding. -/
theorem nearestEven_spacing_le (num den : Nat) :
    Rounding.nearestEven num (den * 2 ^ spacing (num / den)) ≤ 2 ^ 53 := by
  refine Nat.le_trans (Rounding.nearestEven_le_succ_div _ _) ?_
  rw [← Nat.div_div_eq_div_mul]
  generalize num / den = q
  rcases Nat.eq_zero_or_pos q with rfl | hpos
  · simp
  · have hlt : q < 2 ^ (q.log2 + 1) := Nat.lt_log2_self
    have hle : q.log2 + 1 ≤ 53 + spacing q := by unfold spacing; omega
    have : q < 2 ^ 53 * 2 ^ spacing q := by
      rw [← Nat.pow_add]
      exact Nat.lt_of_lt_of_le hlt (Nat.pow_le_pow_right (by decide) hle)
    exact Nat.div_lt_of_lt_mul (by rwa [Nat.mul_comm] at this)

end Binary64

/-- A binary floating-point number: not-a-number, an infinity, or a signed count of units. -/
inductive Binary64 where
  | nan
  | infinite (negative : Bool)
  | finite (negative : Bool) (units : Nat) (representable : Binary64.Representable units)
  deriving DecidableEq

namespace Binary64

/-- The zero of a sign. -/
def zero (negative : Bool) : Binary64 := .finite negative 0 representable_zero

instance : Inhabited Binary64 := ⟨zero false⟩

/-- The number nearest to `num / den` units, ties to the even significand; an infinity when that
is beyond the format. -/
def round (negative : Bool) (num den : Nat) : Binary64 :=
  let e := spacing (num / den)
  let k := Rounding.nearestEven num (den * 2 ^ e)
  if h : k * 2 ^ e < overflow then
    .finite negative (k * 2 ^ e) (representable_mul_two_pow (nearestEven_spacing_le num den) h)
  else .infinite negative

/-- Rounding keeps a count of units that exists. -/
theorem round_representable (negative : Bool) {u : Nat} (h : Representable u) :
    round negative u 1 = .finite negative u h := by
  obtain ⟨⟨k, hk⟩, hlt⟩ := id h
  have hpos : 0 < 2 ^ spacing u := Nat.two_pow_pos _
  have hn : Rounding.nearestEven u (2 ^ spacing u) * 2 ^ spacing u = u := by
    have hu : u = k * 2 ^ spacing u := by rw [Nat.mul_comm]; exact hk
    have : Rounding.nearestEven u (2 ^ spacing u) = k := by
      conv => lhs; arg 1; rw [hu]
      exact Rounding.nearestEven_mul_right k hpos
    rw [this]; exact hu.symm
  simp only [round, Nat.div_one, Nat.one_mul, hn, hlt, dite_true]

/-- The number nearest to the value `num / den`. -/
def ofRatio (negative : Bool) (num den : Nat) : Binary64 :=
  round negative (num * unitsPerOne) den

/-- The number nearest to an integer. -/
def ofInt (n : Int) : Binary64 :=
  ofRatio (decide (n < 0)) n.natAbs 1

/-! ### Order -/

/-- The place of a number in the order of all numbers, in units: the infinities lie beyond every
count of units and not-a-number beyond them. Zero has one place for both signs. -/
def position : Binary64 → Int
  | .nan => 4 * overflow
  | .infinite false => 2 * overflow
  | .infinite true => -(2 * overflow)
  | .finite false u _ => u
  | .finite true u _ => -u

/-- The place of an integer among them. -/
def positionOfInt (n : Int) : Int := n * unitsPerOne

def isNaN : Binary64 → Bool
  | .nan => true
  | _ => false

/-- Order of numbers: that of their values, with not-a-number above all others. -/
def compare (x y : Binary64) : Ordering :=
  match x.isNaN, y.isNaN with
  | true, true => .eq
  | true, false => .gt
  | false, true => .lt
  | false, false => Ord.compare x.position y.position

/-- Whether one number is below another; not-a-number is below and above nothing. -/
def below (x y : Binary64) : Bool :=
  !x.isNaN && !y.isNaN && decide (x.position < y.position)

/-! ### Arithmetic -/

def isFinite : Binary64 → Bool
  | .finite .. => true
  | _ => false

/-- Whether the number is zero of either sign. -/
def isZero : Binary64 → Bool
  | .finite _ u _ => u == 0
  | _ => false

def neg : Binary64 → Binary64
  | .nan => .nan
  | .infinite s => .infinite (!s)
  | .finite s u h => .finite (!s) u h

def abs : Binary64 → Binary64
  | .nan => .nan
  | .infinite _ => .infinite false
  | .finite _ u h => .finite false u h

/-- The signed count of units of a finite number. -/
def signedUnits (negative : Bool) (units : Nat) : Int :=
  if negative then -units else units

/-- The sum of two finite numbers is rounded once; a sum of zero is negative only if both terms
are. -/
def add : Binary64 → Binary64 → Binary64
  | .nan, _ => .nan
  | _, .nan => .nan
  | .infinite s, .infinite t => if s = t then .infinite s else .nan
  | .infinite s, _ => .infinite s
  | _, .infinite t => .infinite t
  | .finite s u _, .finite t v _ =>
    let sum := signedUnits s u + signedUnits t v
    if sum = 0 then zero (s && t) else round (decide (sum < 0)) sum.natAbs 1

def sub (x y : Binary64) : Binary64 := add x (neg y)

def mul : Binary64 → Binary64 → Binary64
  | .nan, _ => .nan
  | _, .nan => .nan
  | .infinite s, .infinite t => .infinite (s != t)
  | .infinite s, .finite t v _ => if v = 0 then .nan else .infinite (s != t)
  | .finite s u _, .infinite t => if u = 0 then .nan else .infinite (s != t)
  | .finite s u _, .finite t v _ => round (s != t) (u * v) unitsPerOne

def div : Binary64 → Binary64 → Binary64
  | .nan, _ => .nan
  | _, .nan => .nan
  | .infinite _, .infinite _ => .nan
  | .infinite s, .finite t _ _ => .infinite (s != t)
  | .finite s _ _, .infinite t => zero (s != t)
  | .finite s u _, .finite t v _ =>
    if v = 0 then (if u = 0 then .nan else .infinite (s != t))
    else round (s != t) (u * unitsPerOne) v

/-- Repeated squaring: `acc · base ^ n`, each product rounded. -/
def powerFrom (acc base : Binary64) (n : Nat) : Binary64 :=
  if n = 0 then acc
  else powerFrom (if n % 2 = 1 then mul acc base else acc) (mul base base) (n / 2)
termination_by n

/-- A power by repeated squaring, low bits of the exponent first. -/
def power (base : Binary64) (n : Nat) : Binary64 := powerFrom (ofInt 1) base n

/-- The nearest whole number, a half away from zero; the sign is kept. -/
def roundToWhole : Binary64 → Binary64
  | .finite s u _ => ofRatio s (Rounding.nearestUp u unitsPerOne) 1
  | x => x

/-! ### Whole parts -/

/-- A count of at least `2 ^ 53` steps of a power of two is a multiple of it. -/
theorem two_pow_dvd {u e : Nat} (h : Representable u) (hu : 2 ^ 53 ≤ u / 2 ^ e) : 2 ^ e ∣ u := by
  have hle : 2 ^ (53 + e) ≤ u := by
    rw [Nat.pow_add]
    exact (Nat.le_div_iff_mul_le (Nat.two_pow_pos e)).1 hu
  have hne : u ≠ 0 := Nat.pos_iff_ne_zero.1 (Nat.lt_of_lt_of_le (Nat.two_pow_pos _) hle)
  have hlog : 53 + e ≤ u.log2 := (Nat.le_log2 hne).2 hle
  have hspacing : e ≤ spacing u := by
    unfold spacing
    omega
  exact Nat.dvd_trans (Nat.pow_dvd_pow 2 hspacing) h.1

/-- Dropping what goes beyond the steps of a power of two leaves a count that exists. -/
theorem representable_div_mul {u e : Nat} (h : Representable u) :
    Representable (u / 2 ^ e * 2 ^ e) := by
  rcases Nat.lt_or_ge (u / 2 ^ e) (2 ^ 53) with hu | hu
  · exact representable_mul_two_pow (Nat.le_of_lt hu)
      (Nat.lt_of_le_of_lt (Nat.div_mul_le_self u _) h.2)
  · rwa [Nat.div_mul_cancel (two_pow_dvd h hu)]

/-- The whole part of a number exists. -/
theorem representable_whole {u : Nat} (h : Representable u) :
    Representable (u / unitsPerOne * unitsPerOne) := by
  obtain ⟨e, he, -⟩ := unitsPerOne_eq_two_pow
  rw [he]
  exact representable_div_mul h

/-- The whole part, toward zero; the sign is kept. -/
def trunc : Binary64 → Binary64
  | .finite s u h => .finite s (u / unitsPerOne * unitsPerOne) (representable_whole h)
  | x => x

/-- The whole part as a 64-bit integer, the nearest one if it is out of range. -/
def toInt64 : Binary64 → Int64
  | .nan => 0
  | .infinite s => if s then Int64.minValue else Int64.maxValue
  | .finite s u _ => Int64.ofIntClamp (signedUnits s (u / unitsPerOne))

/-- The first number above all 64-bit integers. -/
def int64Limit : Binary64 := ofInt (2 ^ 63)

theorem representable_int64Limit : Representable (2 ^ 63 * unitsPerOne) :=
  representable_two_pow (by decide)

theorem int64Limit_eq :
    int64Limit = .finite false (2 ^ 63 * unitsPerOne) representable_int64Limit := by
  have habs : ((2 : Int) ^ 63).natAbs = 2 ^ 63 := rfl
  have hsign : decide ((2 : Int) ^ 63 < 0) = false := rfl
  rw [int64Limit, ofInt, ofRatio, habs, hsign]
  exact round_representable false _

theorem position_int64Limit : int64Limit.position = positionOfInt (2 ^ 63) := by
  have hpow : ((2 ^ 63 : Nat) : Int) = 2 ^ 63 := rfl
  rw [int64Limit_eq, position, positionOfInt, Int.natCast_mul, hpow]

theorem position_int64Limit_lt : int64Limit.position < overflow := by
  rw [int64Limit_eq]
  exact Int.ofNat_lt.2 representable_int64Limit.2

/-- 64-bit integers lie between the infinities. -/
theorem natAbs_positionOfInt_lt (n : Int64) : (positionOfInt n.toInt).natAbs < overflow := by
  have hn : n.toInt.natAbs ≤ 2 ^ 63 := by
    have h₁ := n.le_toInt
    have h₂ := n.toInt_lt
    omega
  rw [positionOfInt, Int.natAbs_mul, Int.natAbs_natCast]
  exact Nat.lt_of_le_of_lt (Nat.mul_le_mul_right _ hn) representable_int64Limit.2

/-- Order of a 64-bit integer and a number. The integer is not rounded: beyond the range of the
integers the side decides, and within it the whole part and then the sign of the rest. -/
def compareInt (n : Int64) (x : Binary64) : Ordering :=
  if x.isNaN || !x.below int64Limit then .lt
  else if x.below int64Limit.neg then .gt
  else (Ord.compare n x.trunc.toInt64).then ((zero false).compare (x.sub x.trunc))

end Binary64

end FileQuery
