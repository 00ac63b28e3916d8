import FileQuery.Time.Instant

/-!
# Dates of days

The date of a day is one that exists, and it leads back to the day. The year is found from an
estimate that is never off by more than one, since the days before a year grow by the length of each
year; the month is found by walking over the lengths of the months, which are those of the year
together. So the date and time of day of an instant lead back to the instant.

## Main results

* `FileQuery.Calendar.daysBefore_succ`: the length of a year.
* `FileQuery.Calendar.daysBefore_yearOf`: a day lies in its year.
* `FileQuery.Date.isValid_ofDays`, `FileQuery.Date.toDays_ofDays`: the date of a day.
* `FileQuery.Instant.toInstant_toCivil`: the date and time of day of an instant.
-/

namespace FileQuery

namespace Calendar

/-! ### Years -/

theorem daysBefore_eq (year : Int) : daysBefore year =
    365 * (year - 1) + (year - 1) / 4 - (year - 1) / 100 + (year - 1) / 400 := rfl

/-- A year has 365 days, a leap year 366. -/
theorem daysBefore_succ (year : Int) :
    daysBefore (year + 1) = daysBefore year + if isLeap year then 366 else 365 := by
  rw [daysBefore_eq, daysBefore_eq]
  unfold isLeap
  split
  · next h =>
    simp only [Bool.and_eq_true, Bool.or_eq_true, beq_iff_eq, bne_iff_ne] at h
    omega
  · next h =>
    simp only [Bool.and_eq_true, Bool.or_eq_true, beq_iff_eq, bne_iff_ne] at h
    omega

/-- A day lies in its year. -/
theorem daysBefore_yearOf (day : Int) :
    daysBefore (yearOf day) ≤ day ∧ day < daysBefore (yearOf day + 1) := by
  unfold yearOf
  dsimp only
  split
  · next hbefore =>
    refine ⟨?_, by rwa [Int.sub_add_cancel]⟩
    rw [daysBefore_eq] at hbefore ⊢
    omega
  · next hfrom =>
    split
    · next hnext =>
      refine ⟨hnext, ?_⟩
      rw [daysBefore_eq] at hnext ⊢
      omega
    · next hnext => exact ⟨Int.not_lt.1 hfrom, Int.not_le.1 hnext⟩

/-! ### Months -/

theorem foldl_add_cons (l : Nat) (ls : List Nat) :
    (l :: ls).foldl (· + ·) 0 = l + ls.foldl (· + ·) 0 := by
  rw [List.foldl_cons, Nat.zero_add, ← Nat.add_zero l, List.foldl_assoc, Nat.add_zero]

/-- The months of a year together are the year. -/
theorem foldl_monthLengths (leap : Bool) :
    (monthLengths leap).foldl (· + ·) 0 = if leap then 366 else 365 := by
  cases leap <;> rfl

/-- A day within some months lies in one of them, behind the months before it. -/
theorem splitMonths_spec {ls : List Nat} {n : Nat} (h : n < ls.foldl (· + ·) 0) :
    ∃ l, ls[(splitMonths ls n).1]? = some l ∧ (splitMonths ls n).2 < l ∧
      (ls.take (splitMonths ls n).1).foldl (· + ·) 0 + (splitMonths ls n).2 = n := by
  induction ls generalizing n with
  | nil => exact absurd h (Nat.not_lt_zero n)
  | cons l ls ih =>
    rw [splitMonths]
    split
    · next hn => exact ⟨l, rfl, hn, Nat.zero_add n⟩
    · next hn =>
      rw [foldl_add_cons] at h
      obtain ⟨k, hk, hday, hsum⟩ := ih (n := n - l) (by omega)
      refine ⟨k, hk, hday, ?_⟩
      dsimp only
      rw [List.take_succ_cons, foldl_add_cons, Nat.add_assoc, hsum]
      omega

end Calendar

namespace Date

open Calendar

/-! ### Days -/

/-- The date of a day is in the year of the day, in a month that the year has, on a day that the
month has, and as many days of the year lie before it as should. -/
theorem ofDays_spec (days : Int) : ∃ l,
    (monthLengths (isLeap (ofDays days).year))[(ofDays days).month - 1]? = some l ∧
      1 ≤ (ofDays days).month ∧ 1 ≤ (ofDays days).day ∧ (ofDays days).day ≤ l ∧
      daysBefore (ofDays days).year + (ofDays days).ordinal = days + epoch + 1 := by
  obtain ⟨hlow, hhigh⟩ := daysBefore_yearOf (days + epoch)
  rw [daysBefore_succ] at hhigh
  have hlength : (days + epoch - daysBefore (yearOf (days + epoch))).toNat <
      (monthLengths (isLeap (yearOf (days + epoch)))).foldl (· + ·) 0 := by
    rw [foldl_monthLengths]
    split at hhigh
    · next hleap =>
      rw [if_pos hleap]
      omega
    · next hleap =>
      rw [if_neg hleap]
      omega
  obtain ⟨l, hl, hday, hsum⟩ := splitMonths_spec hlength
  refine ⟨l, hl, Nat.succ_pos _, Nat.succ_pos _, hday, ?_⟩
  unfold ofDays ordinal
  dsimp only
  rw [Nat.add_sub_cancel, ← Nat.add_assoc, hsum]
  omega

/-- The date of a day exists. -/
theorem isValid_ofDays (days : Int) : (ofDays days).isValid = true := by
  obtain ⟨l, hl, hmonth, hday, hlast, -⟩ := ofDays_spec days
  have hlength : (monthLengths (isLeap (ofDays days).year)).length = 12 := rfl
  have hindex := (List.getElem?_eq_some_iff.1 hl).1
  rw [isValid, daysInMonth, hl, Option.getD_some]
  simp only [Bool.and_eq_true, decide_eq_true_eq]
  omega

/-- The date of a day leads back to the day. -/
theorem toDays_ofDays (days : Int) : (ofDays days).toDays = days := by
  obtain ⟨-, -, -, -, -, hordinal⟩ := ofDays_spec days
  rw [toDays, hordinal]
  omega

theorem daysInMonth_le (year : Int) (month : Nat) : daysInMonth year month ≤ 31 := by
  have hall : ∀ leap : Bool, ∀ l ∈ monthLengths leap, l ≤ 31 := by decide
  rw [daysInMonth]
  cases h : (monthLengths (isLeap year))[month - 1]? with
  | none => exact Nat.zero_le 31
  | some l => exact hall _ l (List.mem_of_getElem? h)

end Date

/-! ### Instants -/

/-- The date and time of day of an instant lead back to the instant. -/
theorem Instant.toInstant_toCivil (t : Instant) : t.toCivil.toInstant = t := by
  obtain ⟨seconds, nanos⟩ := t
  unfold toCivil Civil.toInstant
  dsimp only
  rw [Date.toDays_ofDays]
  congr 1
  omega

end FileQuery
