import FileQuery.Proofs.Time.CivilDates
import FileQuery.Time.Format
import FileQuery.Value.Order

/-!
# Displayed times read back

The display form of an instant is made of fields of fixed width, four digits for the year and two
for everything else, so each field is read as the number that it shows, whatever follows it. A text
in this form has no offset, so it is not in the internet form; the display form is tried next, and
it gives the instant without its nanoseconds. So an instant compares with the display form of
another as with that instant.

## Main definitions

* `FileQuery.TimeLiteral.Shows`: digits that show a number in a field of some width.
* `FileQuery.TimeLiteral.FourDigitYear`: the dates and times of day whose fields have their widths.

## Main results

* `FileQuery.TimeLiteral.internet_written`: a displayed time is not in the internet form.
* `FileQuery.TimeLiteral.display_written`: it is in the display form.
* `FileQuery.Instant.ofLiteral?_displayed`: it is read as its instant.
* `FileQuery.Value.compare_displayed`: reading and comparing displayed times.
-/

namespace FileQuery

namespace Text

variable {cs before behind : List Char} {c : Char}

/-- White space around a text that neither begins nor ends with white space is dropped. -/
theorem trimChars_append (hbefore : before.all isWhiteSpace = true)
    (hbehind : behind.all isWhiteSpace = true) (hhead : ∀ c ∈ cs.head?, isWhiteSpace c = false)
    (hlast : ∀ c ∈ cs.getLast?, isWhiteSpace c = false) :
    trimChars (before ++ cs ++ behind) = cs := by
  have hdrop (ws ds : List Char) (hws : ws.all isWhiteSpace = true) :
      (ws ++ ds).dropWhile isWhiteSpace = ds.dropWhile isWhiteSpace :=
    List.dropWhile_append_of_pos (List.all_eq_true.1 hws)
  have hkeep (ds : List Char) (h : ∀ c ∈ ds.head?, isWhiteSpace c = false) :
      ds.dropWhile isWhiteSpace = ds := by
    cases ds with
    | nil => rfl
    | cons d ds => exact List.dropWhile_cons_of_neg (by simp [h d rfl])
  have hreverse : behind.reverse.all isWhiteSpace = true := by rwa [List.all_reverse]
  rcases List.eq_nil_or_concat cs with rfl | ⟨ds, d, rfl⟩
  · rw [List.append_nil, trimChars, hdrop _ _ hbefore, ← List.append_nil behind, hdrop _ _ hbehind]
    rfl
  · have hfront : (ds.concat d ++ behind).head? = (ds.concat d).head? := by
      cases ds <;> rfl
    rw [List.append_assoc, trimChars, hdrop _ _ hbefore, hkeep _ (by rwa [hfront]), trimEnd,
      List.reverse_append, hdrop _ _ hreverse, hkeep _ (by rwa [List.head?_reverse]),
      List.reverse_reverse]

end Text

namespace TimeLiteral

open Instant

variable {α β : Type} {cs r ds : List Char} {n width least : Nat} {c : Civil}

/-! ### Steps of scanning -/

/-- A scan goes on with what the first step has left. -/
theorem bind_apply {x : Scan α} {f : α → Scan β} {a : α} (h : x cs = some (a, r)) :
    (x >>= f) cs = f a r := by
  show (x cs).bind _ = f a r
  rw [h]
  rfl

theorem oneOf_cons {choices : List Char} {c : Char} (h : choices.contains c = true)
    (r : List Char) : oneOf choices (c :: r) = some ((), r) := by
  rw [oneOf, if_pos h]

theorem optional_of_ne {c d : Char} (h : d ≠ c) (r : List Char) :
    optional c (d :: r) = some (false, d :: r) := by
  rw [optional, if_neg h]

theorem blanks_of_head {d : Char} (h : d.isDigit = true) (r : List Char) :
    blanks (d :: r) = some ((), d :: r) := by
  rw [blanks, List.dropWhile_cons_of_neg (by simp [Text.isWhiteSpace_of_isDigit h])]

/-! ### Fields -/

/-- Digits show a number in a field of some width. -/
structure Shows (width n : Nat) (ds : List Char) : Prop where
  length : ds.length = width
  digits : ds.all Char.isDigit = true
  value : Nat.ofDigitChars 10 ds 0 = n

theorem Shows.exists_cons (h : Shows (width + 1) n ds) :
    ∃ d r, ds = d :: r ∧ d.isDigit = true := by
  cases ds with
  | nil => cases h.length
  | cons d r => exact ⟨d, r, rfl, List.all_eq_true.1 h.digits d List.mem_cons_self⟩

/-- A number filled up with zeros shows itself. -/
theorem shows_fill (hwidth : 0 < width) (hn : n < 10 ^ width) :
    Shows width n (fill .zero width false [] n) := by
  have hlength := (Nat.length_toDigits_le_iff (by decide) hwidth).2 hn
  unfold fill
  dsimp only
  refine ⟨?_, ?_, ?_⟩
  · simp
    omega
  · simp only [Bool.false_eq_true, if_false, List.nil_append, List.all_append, Bool.and_eq_true]
    exact ⟨by simp, List.all_eq_true.2 fun _ hc =>
      Nat.isDigit_of_mem_toDigits (by decide) (Nat.le_refl _) hc⟩
  · rw [if_neg (by decide), List.nil_append, Nat.ofDigitChars_append,
      Nat.ofDigitChars_replicate_zero, Nat.mul_zero, Nat.ofDigitChars_ten_toDigits]

theorem shows_showTwo (hn : n < 100) : Shows 2 n (showTwo .zero n) := by
  have hall : ∀ n < 100, (showTwo .zero n).length = 2 ∧
      (showTwo .zero n).all Char.isDigit = true ∧ Nat.ofDigitChars 10 (showTwo .zero n) 0 = n := by
    decide
  obtain ⟨hlength, hdigits, hvalue⟩ := hall n hn
  exact ⟨hlength, hdigits, hvalue⟩

theorem shows_showYear {y : Int} (hlow : 0 ≤ y) (hhigh : y ≤ 9999) :
    Shows 4 y.toNat (showYear .zero y) := by
  rw [showYear, if_pos ⟨hlow, by omega⟩]
  exact shows_fill (by decide) (by omega)

/-- A field is read up to its width, whatever stands behind it. -/
theorem Shows.number (h : Shows width n ds) (hleast : least ≤ width) (r : List Char) :
    number least width (ds ++ r) = some (n, r) := by
  have htake : ((ds ++ r).takeWhile Char.isDigit).take width = ds := by
    rw [List.takeWhile_append_of_pos (List.all_eq_true.1 h.digits), List.take_append_of_le_length
      (Nat.le_of_eq h.length.symm), List.take_of_length_le (Nat.le_of_eq h.length)]
  have hread : TimeLiteral.digits least width (ds ++ r) = some (ds, r) := by
    rw [TimeLiteral.digits, htake, if_neg (by rw [h.length]; omega), List.drop_left]
  rw [TimeLiteral.number, bind_apply hread, h.value]
  rfl

theorem Shows.field (h : Shows 2 n ds) (r : List Char) : field 2 (ds ++ r) = some (n, r) := by
  obtain ⟨d, es, rfl, hd⟩ := h.exists_cons
  rw [TimeLiteral.field, List.cons_append, bind_apply (blanks_of_head hd (es ++ r))]
  exact h.number (by decide) r

theorem Shows.year (h : Shows 4 n ds) (r : List Char) : year (ds ++ r) = some ((n : Int), r) := by
  obtain ⟨d, es, rfl, hd⟩ := h.exists_cons
  have hminus : d ≠ '-' := by
    rintro rfl
    exact absurd hd (by decide)
  have hplus : d ≠ '+' := by
    rintro rfl
    exact absurd hd (by decide)
  rw [TimeLiteral.year, List.cons_append, bind_apply (blanks_of_head hd (es ++ r)),
    bind_apply (optional_of_ne hminus (es ++ r)), if_neg (by decide),
    bind_apply (optional_of_ne hplus (es ++ r)), if_neg (by decide), ← List.cons_append,
    bind_apply (h.number (by decide) r)]
  rfl

/-! ### The display form -/

/-- The characters of a date and time of day. -/
def written (c : Civil) : List Char :=
  showYear .zero c.date.year ++ '-' :: (showTwo .zero c.date.month ++ '-' ::
    (showTwo .zero c.date.day ++ ' ' :: (showTwo .zero c.hour ++ ':' ::
      (showTwo .zero c.minute ++ ':' :: showTwo .zero c.second))))

/-- A date that exists, in a year of four digits, and a time of day. -/
structure FourDigitYear (c : Civil) : Prop where
  year_nonneg : 0 ≤ c.date.year
  year_le : c.date.year ≤ 9999
  valid : c.date.isValid = true
  hour_lt : c.hour < 24
  minute_lt : c.minute < 60
  second_lt : c.second < 60

namespace FourDigitYear

theorem month_le (h : FourDigitYear c) : c.date.month ≤ 12 := by
  have hvalid := h.valid
  simp only [Date.isValid, Bool.and_eq_true, decide_eq_true_eq] at hvalid
  omega

theorem day_le (h : FourDigitYear c) : c.date.day ≤ 31 := by
  have hvalid := h.valid
  simp only [Date.isValid, Bool.and_eq_true, decide_eq_true_eq] at hvalid
  exact Nat.le_trans hvalid.2 (Date.daysInMonth_le _ _)

theorem shows_year (h : FourDigitYear c) : Shows 4 c.date.year.toNat (showYear .zero c.date.year) :=
  shows_showYear h.year_nonneg h.year_le

theorem shows_month (h : FourDigitYear c) : Shows 2 c.date.month (showTwo .zero c.date.month) :=
  shows_showTwo (Nat.lt_of_le_of_lt h.month_le (by decide))

theorem shows_day (h : FourDigitYear c) : Shows 2 c.date.day (showTwo .zero c.date.day) :=
  shows_showTwo (Nat.lt_of_le_of_lt h.day_le (by decide))

theorem shows_hour (h : FourDigitYear c) : Shows 2 c.hour (showTwo .zero c.hour) :=
  shows_showTwo (Nat.lt_trans h.hour_lt (by decide))

theorem shows_minute (h : FourDigitYear c) : Shows 2 c.minute (showTwo .zero c.minute) :=
  shows_showTwo (Nat.lt_trans h.minute_lt (by decide))

theorem shows_second (h : FourDigitYear c) : Shows 2 c.second (showTwo .zero c.second) :=
  shows_showTwo (Nat.lt_trans h.second_lt (by decide))

end FourDigitYear

/-- Without an offset a text is not in the internet form. -/
theorem internet_written (h : FourDigitYear c) : internet (written c) = none := by
  have hend : number 2 2 (showTwo .zero c.second) = some (c.second, []) := by
    have hempty : number 2 2 (showTwo .zero c.second ++ []) = some (c.second, []) :=
      h.shows_second.number (by decide) []
    rwa [List.append_nil] at hempty
  rw [internet, written, bind_apply (h.shows_year.number (by decide) _),
    bind_apply (oneOf_cons (by decide) _), bind_apply (h.shows_month.number (by decide) _),
    bind_apply (oneOf_cons (by decide) _), bind_apply (h.shows_day.number (by decide) _),
    bind_apply (oneOf_cons (by decide) _), bind_apply (h.shows_hour.number (by decide) _),
    bind_apply (oneOf_cons (by decide) _), bind_apply (h.shows_minute.number (by decide) _),
    bind_apply (oneOf_cons (by decide) _), bind_apply hend]
  rfl

theorem date_of_valid (h : FourDigitYear c) (r : List Char) :
    date c.date.year c.date.month c.date.day r = some (c.date, r) := by
  have hlow : decide (-262143 ≤ c.date.year) = true :=
    decide_eq_true (by have := h.year_nonneg; omega)
  have hhigh : decide (c.date.year ≤ 262142) = true :=
    decide_eq_true (by have := h.year_le; omega)
  have hvalid : Date.isValid ⟨c.date.year, c.date.month, c.date.day⟩ = true := h.valid
  rw [date, hvalid, hlow, hhigh]
  rfl

theorem time_of_valid (h : FourDigitYear c) (r : List Char) :
    time c.date c.hour c.minute c.second 0 r =
      some (⟨c.date, c.hour, c.minute, c.second, 0⟩, r) := by
  have hfields : (decide (c.hour < 24) && decide (c.minute < 60) && decide (c.second ≤ 60)) =
      true := by
    simp only [Bool.and_eq_true, decide_eq_true_eq]
    exact ⟨⟨h.hour_lt, h.minute_lt⟩, Nat.le_of_lt h.second_lt⟩
  rw [time, if_pos hfields, if_neg (Nat.ne_of_lt h.second_lt)]
  rfl

/-- The date in front is read. -/
theorem yearMonthDay_written (h : FourDigitYear c) (r : List Char) :
    yearMonthDay (showYear .zero c.date.year ++ '-' :: (showTwo .zero c.date.month ++ '-' ::
      (showTwo .zero c.date.day ++ r))) = some (c.date, r) := by
  rw [yearMonthDay, bind_apply (h.shows_year.year _), bind_apply (oneOf_cons (by decide) _),
    bind_apply (h.shows_month.field _), bind_apply (oneOf_cons (by decide) _),
    bind_apply (h.shows_day.field _), Int.toNat_of_nonneg h.year_nonneg, date_of_valid h]

/-- A date and time of day are read in the display form, without nanoseconds. -/
theorem display_written (h : FourDigitYear c) : display blanks (written c) =
    some (Civil.toInstant ⟨c.date, c.hour, c.minute, c.second, 0⟩, []) := by
  have hspace (r : List Char) : blanks (' ' :: (showTwo .zero c.hour ++ r)) =
      some ((), showTwo .zero c.hour ++ r) := by
    obtain ⟨d, es, hds, hd⟩ := h.shows_hour.exists_cons
    have hblank : Text.isWhiteSpace ' ' = true := by decide
    rw [hds, blanks, List.dropWhile_cons_of_pos hblank]
    exact blanks_of_head hd (es ++ r)
  have hend : field 2 (showTwo .zero c.second) = some (c.second, []) := by
    have := h.shows_second.field []
    rwa [List.append_nil] at this
  have hatEnd : atEnd [] = some ((), []) := rfl
  rw [display, written, bind_apply (yearMonthDay_written h _), bind_apply (hspace _),
    bind_apply (h.shows_hour.field _), bind_apply (oneOf_cons (by decide) _),
    bind_apply (h.shows_minute.field _), bind_apply (oneOf_cons (by decide) _), bind_apply hend,
    bind_apply hatEnd, bind_apply (time_of_valid h [])]
  rfl

/-- White space around a date and time of day does not belong to it. -/
theorem trimChars_written (h : FourDigitYear c) {before behind : List Char}
    (hbefore : before.all Text.isWhiteSpace = true)
    (hbehind : behind.all Text.isWhiteSpace = true) :
    Text.trimChars (before ++ written c ++ behind) = written c := by
  refine Text.trimChars_append hbefore hbehind (fun d hd => ?_) (fun d hd => ?_)
  · obtain ⟨e, es, hes, he⟩ := h.shows_year.exists_cons
    rw [written, hes] at hd
    obtain rfl := Option.some.inj hd
    exact Text.isWhiteSpace_of_isDigit he
  · have hne : showTwo .zero c.second ≠ [] :=
      List.ne_nil_of_length_pos (by rw [h.shows_second.length]; decide)
    have hlast : (written c).getLast? = (showTwo .zero c.second).getLast? := by
      simp [written, List.getLast?_append, List.getLast?_cons, List.getLast?_eq_some_getLast hne]
    rw [hlast] at hd
    exact Text.isWhiteSpace_of_isDigit
      (List.all_eq_true.1 h.shows_second.digits d (List.mem_of_getLast? hd))

end TimeLiteral

namespace Instant

open TimeLiteral

variable {t u : Instant}

theorem toList_display (hnanos : t.nanos < 1000000000) : t.display.toList = written t.toCivil := by
  have hsecond : secondOf t.toCivil = t.toCivil.second := by
    have hzero : t.toCivil.nanos / 1000000000 = 0 := Nat.div_eq_of_lt hnanos
    rw [secondOf, hzero, Nat.add_zero]
  rw [display, showItems, String.toList_ofList, written, ← hsecond]
  simp [displayItems, showItem, showNumber]

theorem fourDigitYear_toCivil (hlow : 0 ≤ t.toCivil.date.year)
    (hhigh : t.toCivil.date.year ≤ 9999) : FourDigitYear t.toCivil := by
  refine ⟨hlow, hhigh, Date.isValid_ofDays _, ?_, ?_, ?_⟩
  · show (t.seconds % 86400).toNat / 3600 < 24
    omega
  · show (t.seconds % 86400).toNat / 60 % 60 < 60
    omega
  · show (t.seconds % 86400).toNat % 60 < 60
    omega

/-- What is not in the internet form, but in the display form, is read in that form. -/
theorem ofLiteral?_of_display {text : String} {cs : List Char}
    (htrim : Text.trimChars text.toList = cs) (hinternet : internet cs = none)
    (hdisplay : TimeLiteral.display blanks cs = some (t, [])) : ofLiteral? text = some t := by
  simp only [ofLiteral?, TimeLiteral.read, htrim, hinternet, hdisplay]
  rfl

/-- A displayed time is read as its instant without the nanoseconds, white space around it or
not. -/
theorem ofLiteral?_displayed (hlow : 0 ≤ t.toCivil.date.year) (hhigh : t.toCivil.date.year ≤ 9999)
    (hnanos : t.nanos < 1000000000) {before behind : List Char}
    (hbefore : before.all Text.isWhiteSpace = true)
    (hbehind : behind.all Text.isWhiteSpace = true) :
    ofLiteral? (String.ofList (before ++ t.display.toList ++ behind)) = some ⟨t.seconds, 0⟩ := by
  have hfour := fourDigitYear_toCivil hlow hhigh
  have hinstant (c : Civil) : Civil.toInstant ⟨c.date, c.hour, c.minute, c.second, 0⟩ =
      ⟨c.toInstant.seconds, 0⟩ := rfl
  refine ofLiteral?_of_display ?_ (internet_written hfour) ?_
  · rw [String.toList_ofList, toList_display hnanos, trimChars_written hfour hbefore hbehind]
  · rw [display_written hfour, hinstant, toInstant_toCivil]

end Instant

namespace Value

variable {t : Instant}

/-- A text that stands for an instant is compared with times as this instant. -/
theorem compare_of_ofLiteral? {s : String} {u : Instant} (h : Instant.ofLiteral? s = some u) :
    compare (.time t) (.string s) = .ok (some (t.compare u)) ∧
      compare (.string s) (.time t) = .ok (some (u.compare t)) := by
  have hinstant : instantOf s = .ok u := by rw [instantOf, h]
  simp only [compare, hinstant]
  exact ⟨rfl, rfl⟩

/-- A time in a year of four digits, and not in a leap second, is shown by a text that is read as
this time without its nanoseconds, white space around it or not. Without nanoseconds it compares as
equal with its own text, and another time without nanoseconds is before, at or after the text as it
is before, at or after the time. -/
theorem compare_displayed (hlow : 0 ≤ t.toCivil.date.year) (hhigh : t.toCivil.date.year ≤ 9999)
    (hnanos : t.nanos < 1000000000) :
    (∀ before behind : List Char, before.all Text.isWhiteSpace = true →
      behind.all Text.isWhiteSpace = true →
      Instant.ofLiteral? (String.ofList (before ++ (toText (.time t)).toList ++ behind)) =
        some ⟨t.seconds, 0⟩) ∧
    (t.nanos = 0 →
      compare (.time t) (.string (toText (.time t))) = .ok (some .eq) ∧
      compare (.string (toText (.time t))) (.time t) = .ok (some .eq) ∧
      ∀ u : Instant, u.nanos = 0 →
        compare (.time u) (.string (toText (.time t))) =
          .ok (some (Ord.compare u.seconds t.seconds)) ∧
        compare (.string (toText (.time t))) (.time u) =
          .ok (some (Ord.compare t.seconds u.seconds))) := by
  have hread : Instant.ofLiteral? (toText (.time t)) = some ⟨t.seconds, 0⟩ := by
    have h : Instant.ofLiteral? (String.ofList ([] ++ t.display.toList ++ [])) =
        some ⟨t.seconds, 0⟩ := Instant.ofLiteral?_displayed hlow hhigh hnanos rfl rfl
    rwa [List.nil_append, List.append_nil, String.ofList_toList] at h
  refine ⟨fun before behind hbefore hbehind =>
    Instant.ofLiteral?_displayed hlow hhigh hnanos hbefore hbehind, fun hzero => ?_⟩
  have hothers (u : Instant) (hu : u.nanos = 0) :
      compare (.time u) (.string (toText (.time t))) =
        .ok (some (Ord.compare u.seconds t.seconds)) ∧
      compare (.string (toText (.time t))) (.time u) =
        .ok (some (Ord.compare t.seconds u.seconds)) := by
    obtain ⟨hleft, hright⟩ := compare_of_ofLiteral? (t := u) hread
    rw [hleft, hright, Instant.compare, Instant.compare, hu, Nat.compare_eq_eq.2 rfl,
      Ordering.then_eq, Ordering.then_eq]
    exact ⟨rfl, rfl⟩
  have hself : Ord.compare t.seconds t.seconds = .eq := Std.ReflCmp.compare_self
  obtain ⟨hleft, hright⟩ := hothers t hzero
  rw [hself] at hleft hright
  exact ⟨hleft, hright, hothers⟩

/-- The last second of the leap day of the year 0. -/
theorem compare_displayed_yearZero :
    (0 ≤ (Instant.mk (-62162035201) 0).toCivil.date.year ∧
      (Instant.mk (-62162035201) 0).toCivil.date.year ≤ 9999) ∧
    toText (.time ⟨-62162035201, 0⟩) = "0000-02-29 23:59:59" ∧
    Instant.ofLiteral? "  0000-02-29 23:59:59\n" = some ⟨-62162035201, 0⟩ ∧
    compare (.time ⟨-62162035201, 0⟩) (.string "0000-02-29 23:59:59") = .ok (some .eq) ∧
    compare (.string "0000-02-29 23:59:59") (.time ⟨-62162035200, 0⟩) = .ok (some .lt) := by
  have hlow : 0 ≤ (Instant.mk (-62162035201) 0).toCivil.date.year := by decide +kernel
  have hhigh : (Instant.mk (-62162035201) 0).toCivil.date.year ≤ 9999 := by decide +kernel
  have htext : toText (.time ⟨-62162035201, 0⟩) = "0000-02-29 23:59:59" := by decide +kernel
  obtain ⟨hread, hcompare⟩ := compare_displayed hlow hhigh (by decide)
  obtain ⟨hself, -, hothers⟩ := hcompare rfl
  have hread := hread [' ', ' '] ['\n'] (by decide) (by decide)
  have hother := (hothers ⟨-62162035200, 0⟩ rfl).2
  rw [htext] at hread hself hother
  exact ⟨⟨hlow, hhigh⟩, htext, hread, hself, hother⟩

end Value

end FileQuery
