import FileQuery.Function.Scalar
import FileQuery.Proofs.Number.ShownNumerals

/-!
# Shown byte counts

A byte count below `2 ^ 53` is divided by 1024 without an error, so the unit is the largest one of
which there is at least one. The number is rounded afterwards, so that 1024 of a unit are shown
where the count is at most half a last place below the next unit.

## Main definitions

* `FileQuery.SizeText.Measures`: a size in a unit, without an error.
* `FileQuery.SizeText.IsShown`: the number that stands for a size.

## Main results

* `FileQuery.SizeText.scale_spec`: the unit that is chosen.
* `FileQuery.ScalarFunction.formatSize_integer`: the number that is shown.
-/

namespace FileQuery

open Binary64

variable {n j places : Nat} {x : Binary64}

namespace SizeText

/-! ### Division by the factor -/

theorem exists_unitsPerOne_eq : ∃ e, unitsPerOne = 2 ^ (e + 60) := by
  have hsum : 1074 = 1014 + 60 := rfl
  exact ⟨1014, by rw [unitsPerOne, hsum]⟩

theorem factor_eq :
    factor = .finite false (1024 * unitsPerOne) (representable_natCast (by decide)) := by
  have hfactor : factor = .ofInt (1024 : Nat) := rfl
  rw [hfactor]
  exact ofInt_natCast (n := 1024) _

/-- The number is `n` bytes in the unit behind `j` factors, without an error. -/
def Measures (n j : Nat) (x : Binary64) : Prop :=
  ∃ u h, x = .finite false u h ∧ u * 1024 ^ j = n * unitsPerOne

theorem measures_bytes (h : Representable (n * unitsPerOne)) :
    Measures n 0 (.finite false (n * unitsPerOne) h) :=
  ⟨_, h, rfl, by rw [Nat.pow_zero, Nat.mul_one]⟩

theorem Measures.isNaN (hx : Measures n j x) : x.isNaN = false := by
  obtain ⟨u, h, rfl, -⟩ := hx
  rfl

/-- A size is below the factor if the number of bytes is below that of the next unit. -/
theorem Measures.below_factor_iff (hx : Measures n j x) :
    x.below factor = true ↔ n < 1024 ^ (j + 1) := by
  obtain ⟨u, h, rfl, hu⟩ := hx
  have hpow : 0 < 1024 ^ j := Nat.pow_pos (by decide)
  rw [factor_eq, below_iff rfl rfl, position, position, Int.ofNat_lt, ← Nat.mul_lt_mul_right hpow,
    hu, Nat.mul_right_comm, ← Nat.pow_succ', Nat.mul_lt_mul_right unitsPerOne_pos]

/-- Dividing by the factor is exact: a count below `2 ^ 53` keeps its significand. -/
theorem Measures.div_factor (hx : Measures n j x) (hn : n < 2 ^ 53) (hj : j < 6) :
    Measures n (j + 1) (x.div factor) := by
  obtain ⟨u, h, rfl, hu⟩ := hx
  obtain ⟨e, he⟩ := exists_unitsPerOne_eq
  obtain ⟨r, hr⟩ := Nat.le.dest hj
  have hpow : 0 < 1024 ^ j := Nat.pow_pos (by decide)
  have hunits : unitsPerOne = 2 ^ (e + 10 * r) * 1024 ^ (j + 1) := by
    have hsum : e + 60 = e + 10 * r + 10 * (j + 1) := by omega
    rw [he, hsum, Nat.pow_add _ _ (10 * (j + 1)), Nat.pow_mul]
  have hquotient : n * 2 ^ (e + 10 * r) * 1024 ^ (j + 1) = n * unitsPerOne := by
    rw [hunits, Nat.mul_assoc]
  have hsize : u = n * 2 ^ (e + 10 * r) * 1024 := by
    refine Nat.eq_of_mul_eq_mul_right hpow ?_
    rw [hu, ← hquotient, Nat.pow_succ', Nat.mul_assoc _ 1024]
  have hrep : Representable (n * 2 ^ (e + 10 * r)) := by
    refine representable_mul_two_pow (Nat.le_of_lt hn) (Nat.lt_of_le_of_lt ?_ h.2)
    rw [hsize]
    exact Nat.le_mul_of_pos_right _ (by decide)
  subst hsize
  refine ⟨_, hrep, ?_, hquotient⟩
  rw [factor_eq, div_whole _ _ _ (by decide), round_mul_right false hrep (by decide)]

/-! ### The chosen unit -/

/-- From the unit behind `j` of the six factors on, a unit is chosen of which there is at least one,
unless it is the first, and fewer than the factor, unless it is the last. -/
theorem scale_spec (hn : n < 2 ^ 53) (us : List String) (unit : String) (hj : j + us.length ≤ 6)
    (hx : Measures n j x) :
    ∃ passed unit' rest y, unit :: us = passed ++ unit' :: rest ∧ scale x unit us = (y, unit') ∧
      Measures n (j + passed.length) y ∧ (passed ≠ [] → 1024 ^ (j + passed.length) ≤ n) ∧
      (rest ≠ [] → n < 1024 ^ (j + passed.length + 1)) := by
  induction us generalizing unit j x with
  | nil => exact ⟨[], unit, [], x, rfl, rfl, hx, fun h => absurd rfl h, fun h => absurd rfl h⟩
  | cons v us ih =>
    rw [scale, hx.isNaN, Bool.false_or]
    by_cases hlt : n < 1024 ^ (j + 1)
    · rw [if_pos (hx.below_factor_iff.2 hlt)]
      exact ⟨[], unit, v :: us, x, rfl, rfl, hx, fun h => absurd rfl h, fun _ => hlt⟩
    · rw [List.length_cons] at hj
      obtain ⟨passed, unit', rest, y, hunits, hscale, hy, hlow, hhigh⟩ :=
        ih v (by omega) (hx.div_factor hn (by omega))
      have hlength : j + (unit :: passed).length = j + 1 + passed.length := by
        rw [List.length_cons]
        omega
      rw [if_neg (mt hx.below_factor_iff.1 hlt), hunits]
      refine ⟨unit :: passed, unit', rest, y, rfl, hscale, ?_, fun _ => ?_, ?_⟩
      · rwa [hlength]
      · rw [hlength]
        rcases List.eq_nil_or_concat passed with rfl | ⟨_, _, rfl⟩
        · exact Nat.le_of_not_lt hlt
        · exact hlow (by simp)
      · rwa [hlength]

/-- A count below `2 ^ 53` is shown in one of the units up to PiB. -/
theorem scale_units (hn : n < 2 ^ 53) (hx : Measures n 0 x) :
    ∃ j unit y, j ≤ 5 ∧ ("B" :: units)[j]? = some unit ∧ scale x "B" units = (y, unit) ∧
      Measures n j y ∧ (0 < j → 1024 ^ j ≤ n) ∧ n < 1024 ^ (j + 1) := by
  obtain ⟨passed, unit, rest, y, hunits, hscale, hy, hlow, hhigh⟩ :=
    scale_spec hn units "B" (by decide) hx
  rw [Nat.zero_add] at hy hlow hhigh
  have hlength : passed.length + rest.length = 6 := by
    have hlength := congrArg List.length hunits
    rw [List.length_append, List.length_cons, List.length_cons] at hlength
    exact Nat.succ.inj hlength.symm
  have hfive : passed.length ≤ 5 := by
    refine Nat.le_of_not_lt fun hlast => ?_
    have hle := hlow (List.ne_nil_of_length_pos (by omega))
    have hpow : 1024 ^ 6 ≤ 1024 ^ passed.length := Nat.pow_le_pow_right (by decide) hlast
    exact absurd (Nat.lt_of_le_of_lt (Nat.le_trans hpow hle) hn) (by decide)
  refine ⟨passed.length, unit, y, hfive, ?_, hscale, hy, fun hpos => ?_, ?_⟩
  · rw [hunits, List.getElem?_append_right (Nat.le_refl _), Nat.sub_self]
    rfl
  · exact hlow (List.ne_nil_of_length_pos hpos)
  · exact hhigh (List.ne_nil_of_length_pos (by omega))

/-! ### The shown number -/

/-- The number of the unit behind `j` factors that is shown for a count of bytes: bytes as they are,
a larger unit rounded to the places. It is at least one, and it is 1024 where the count is at most
half a last place below the next unit. -/
structure IsShown (n j places : Nat) (q : ℚ) : Prop where
  bytes : j = 0 → q = n
  rounded : 0 < j → q = Rounding.nearestEven (n * 10 ^ places) (1024 ^ j) / 10 ^ places
  low : 0 < j → 1 ≤ q
  high : q ≤ 1024
  full_iff : q = 1024 ↔ 0 < j ∧ 2 * 10 ^ places * (1024 ^ (j + 1) - n) ≤ 1024 ^ j

theorem isShown_bytes (hn : n < 1024) (places : Nat) : IsShown n 0 places n := by
  have hlt : (n : ℚ) < 1024 := by exact_mod_cast hn
  exact ⟨fun _ => rfl, fun h => absurd h (Nat.lt_irrefl 0), fun h => absurd h (Nat.lt_irrefl 0),
    hlt.le, iff_of_false hlt.ne fun h => Nat.lt_irrefl 0 h.1⟩

theorem isShown_rounded (hj : 0 < j) (hlow : 1024 ^ j ≤ n) (hhigh : n < 1024 ^ (j + 1))
    (places : Nat) :
    IsShown n j places (Rounding.nearestEven (n * 10 ^ places) (1024 ^ j) / 10 ^ places) := by
  have hunit : 0 < 1024 ^ j := Nat.pow_pos (by decide)
  have hpow : 0 < 10 ^ places := Nat.pow_pos (by decide)
  have hpowQ : (0 : ℚ) < 10 ^ places := by exact_mod_cast hpow
  have hone : 10 ^ places ≤ Rounding.nearestEven (n * 10 ^ places) (1024 ^ j) := by
    refine Nat.le_trans ?_ (Rounding.div_le_nearestEven _ _)
    rw [Nat.le_div_iff_mul_le hunit, Nat.mul_comm]
    exact Nat.mul_le_mul_right _ hlow
  have hfull : Rounding.nearestEven (n * 10 ^ places) (1024 ^ j) ≤ 1024 * 10 ^ places := by
    refine Nat.le_trans (Rounding.nearestEven_le_succ_div _ _) ?_
    rw [Nat.succ_le_iff, Nat.div_lt_iff_lt_mul hunit, Nat.mul_right_comm, ← Nat.pow_succ']
    exact Nat.mul_lt_mul_of_pos_right hhigh hpow
  have hlt := Rounding.nearestEven_lt_iff (n * 10 ^ places) (k := 1024 * 10 ^ places) hunit
    (by omega)
  refine ⟨fun h => absurd h hj.ne', fun _ => rfl, fun _ => ?_, ?_, ?_⟩
  · rw [one_le_div₀ hpowQ]
    exact_mod_cast hone
  · rw [div_le_iff₀ hpowQ]
    exact_mod_cast hfull
  · have hcast : (Rounding.nearestEven (n * 10 ^ places) (1024 ^ j) : ℚ) = 1024 * 10 ^ places ↔
        Rounding.nearestEven (n * 10 ^ places) (1024 ^ j) = 1024 * 10 ^ places := by
      exact_mod_cast Iff.rfl
    obtain ⟨d, hd⟩ := Nat.le.dest (Nat.le_of_lt hhigh)
    have hscaled : 1024 * 10 ^ places * 1024 ^ j = n * 10 ^ places + 10 ^ places * d := by
      rw [Nat.mul_right_comm, ← Nat.pow_succ', ← hd, Nat.add_mul, Nat.mul_comm d]
    rw [div_eq_iff hpowQ.ne', and_iff_right hj, hcast, ← hd, Nat.add_sub_cancel_left,
      Nat.mul_assoc]
    rw [hscaled] at hlt
    omega

/-- Rounding a size to places is rounding the quotient of the bytes. -/
theorem Measures.toFixed (hx : Measures n j x) (places : Nat) : x.toFixed places = String.ofList
    (writePlaces (Rounding.nearestEven (n * 10 ^ places) (1024 ^ j)) places) := by
  obtain ⟨u, h, rfl, hu⟩ := hx
  have hpow : 0 < 1024 ^ j := Nat.pow_pos (by decide)
  have hnearest : Rounding.nearestEven (u * 10 ^ places) unitsPerOne =
      Rounding.nearestEven (n * 10 ^ places) (1024 ^ j) := by
    rw [← Rounding.nearestEven_mul_mul _ _ hpow, Nat.mul_right_comm, hu, Nat.mul_right_comm,
      Nat.mul_comm unitsPerOne, Rounding.nearestEven_mul_mul _ _ unitsPerOne_pos]
  rw [Binary64.toFixed, if_neg Bool.false_ne_true, String.empty_append, hnearest]

/-- The numeral in front of a unit. -/
theorem exists_numeral (hn : n < 2 ^ 53) {unit : String} (hunit : ("B" :: units)[j]? = some unit)
    (hx : Measures n j x) (hlow : 0 < j → 1024 ^ j ≤ n) (hhigh : n < 1024 ^ (j + 1))
    (places : Nat) :
    ∃ numeral q, (if unit = "B" then FloatLayout.plain.write x.roundToWhole
      else x.toFixed places) = String.ofList numeral ∧ Denotes numeral q ∧
        IsShown n j places q := by
  rcases Nat.eq_zero_or_pos j with rfl | hpos
  · obtain ⟨u, h, rfl, hu⟩ := hx
    rw [Nat.pow_zero, Nat.mul_one] at hu
    obtain ⟨numeral, hwrite, hdenotes⟩ := FloatLayout.denotes_plain h hu hn
    have hbytes : unit = "B" := (Option.some.inj hunit).symm
    rw [if_pos hbytes, roundToWhole_of_dvd _ _ (Dvd.intro_left n hu.symm)]
    exact ⟨numeral, n, hwrite, hdenotes, isShown_bytes hhigh places⟩
  · have hmem : unit ∈ units := by
      obtain ⟨i, rfl⟩ := Nat.exists_eq_add_one_of_ne_zero hpos.ne'
      exact List.mem_of_getElem? hunit
    have hlarger : unit ≠ "B" := by
      rintro rfl
      exact absurd hmem (by decide)
    rw [if_neg hlarger, hx.toFixed]
    exact ⟨_, _, rfl, denotes_writePlaces _ _, isShown_rounded hpos (hlow hpos) hhigh places⟩

/-- A count of bytes is shown as a sign, a numeral and a unit. -/
theorem format_ofInt {k : Int} (hk : k.natAbs < 2 ^ 53) (places : Nat) :
    ∃ j unit numeral q, j ≤ 5 ∧ ("B" :: units)[j]? = some unit ∧
      format (.ofInt k) places =
        (if k < 0 then "-" else "") ++ String.ofList numeral ++ " " ++ unit ∧
      Denotes numeral q ∧ IsShown k.natAbs j places q := by
  have hrep := representable_natCast (Nat.le_of_lt hk)
  have hbytes : ofInt k = .finite (decide (k < 0)) (k.natAbs * unitsPerOne) hrep :=
    ofRatio_one _ hrep
  have hnegative : (ofInt k).below (zero false) = true ↔ k < 0 := by
    have hnan : (ofInt k).isNaN = false := by
      rw [hbytes]
      rfl
    have hzero : (zero false).position = 0 := rfl
    have hunits : (0 : Int) < unitsPerOne := Int.natCast_pos.2 unitsPerOne_pos
    rw [below_iff hnan rfl, position_ofInt hrep, hzero, positionOfInt]
    exact ⟨fun h => neg_of_mul_neg_left h hunits.le, fun h => mul_neg_of_neg_of_pos h hunits⟩
  have hsize : Measures k.natAbs 0 (ofInt k).abs := by
    rw [hbytes, Binary64.abs]
    exact measures_bytes hrep
  obtain ⟨j, unit, y, hj, hunit, hscale, hy, hlow, hhigh⟩ := scale_units hk hsize
  obtain ⟨numeral, q, hnumber, hdenotes, hshown⟩ :=
    exists_numeral hk hunit hy hlow hhigh places
  refine ⟨j, unit, numeral, q, hj, hunit, ?_, hdenotes, hshown⟩
  rw [format, hscale]
  dsimp only
  rw [hnumber]
  simp only [hnegative]

end SizeText

namespace ScalarFunction

variable {k p : Int64}

theorem apply_formatSize [PatternEngine] (hlow : 0 ≤ p.toInt) (hhigh : p.toInt ≤ 12) :
    apply .formatSize [.integer k, .integer p] =
      .ok (.string (SizeText.format (.ofInt k.toInt) p.toInt.toNat)) := by
  rw [apply, sizeText, places_integer hlow hhigh]
  rfl

/-- A byte count is shown in a unit of which there is at least one, as a number of at most 1024. It
is 1024 where the count is at most half a last place below the next unit. -/
theorem formatSize_integer [PatternEngine] (hk : k.toInt.natAbs < 2 ^ 53) (hlow : 0 ≤ p.toInt)
    (hhigh : p.toInt ≤ 12) :
    ∃ j unit numeral x, j ≤ 5 ∧ ("B" :: SizeText.units)[j]? = some unit ∧
      apply .formatSize [.integer k, .integer p] = .ok (.string
        ((if k.toInt < 0 then "-" else "") ++ String.ofList numeral ++ " " ++ unit)) ∧
      Denotes numeral x ∧ SizeText.IsShown k.toInt.natAbs j p.toInt.toNat x := by
  obtain ⟨j, unit, numeral, x, hj, hunit, htext, hdenotes, hshown⟩ :=
    SizeText.format_ofInt hk p.toInt.toNat
  exact ⟨j, unit, numeral, x, hj, hunit, by rw [apply_formatSize hlow hhigh, htext], hdenotes,
    hshown⟩

theorem formatSize_integer_negative : (-1536 : Int64).toInt.natAbs < 2 ^ 53 ∧
    ∃ j unit numeral x, j ≤ 5 ∧ ("B" :: SizeText.units)[j]? = some unit ∧
      apply .formatSize [.integer (-1536), .integer 2] =
        .ok (.string ("-" ++ String.ofList numeral ++ " " ++ unit)) ∧
      Denotes numeral x ∧ SizeText.IsShown 1536 j 2 x :=
  ⟨by decide, formatSize_integer (k := -1536) (p := 2) (by decide) (by decide) (by decide)⟩

/-- The number is not always below 1024: a byte less than one MiB is shown as 1024 KiB. -/
theorem formatSize_integer_full : ∃ numeral x,
    apply .formatSize [.integer 1048575, .integer 1] =
      .ok (.string (String.ofList numeral ++ " " ++ "KiB")) ∧
    Denotes numeral x ∧ ¬x < 1024 := by
  have htext : SizeText.format (.ofInt (1048575 : Int64).toInt) (1 : Int64).toInt.toNat =
      String.ofList (writePlaces 10240 1) ++ " " ++ "KiB" := by decide +kernel
  refine ⟨writePlaces 10240 1, _, ?_, denotes_writePlaces 10240 1, by norm_num⟩
  rw [apply_formatSize (by decide) (by decide), htext]

end ScalarFunction

end FileQuery
