import Almanac.Proofs.Calendar.Date
import Mathlib.Algebra.Group.Nat.Defs
import Mathlib.Data.List.TakeWhile

/-!
# Written dates

A date is written with eight digits: four for the year and two each for the month and the day. It
stands alone or has a time of day behind it, which may be the local time, with or without a time
zone, or that of UTC. In whichever form it is written it is read back as the date that the eight
digits spell.
-/

namespace Almanac.Calendar

/-- The last digits of a number, with zeros before them if there are fewer. -/
def padded : (width : Nat) → Nat → List Char
  | 0, _ => []
  | width + 1, n => padded width (n / 10) ++ [(n % 10).digitChar]

/-- A time of day. The second 60 is there for leap seconds. -/
structure TimeOfDay where
  hour : Nat
  minute : Nat
  second : Nat
  hour_le : hour ≤ 23
  minute_le : minute ≤ 59
  second_le : second ≤ 60

/-- The six digits of a time. -/
def TimeOfDay.written (t : TimeOfDay) : List Char :=
  padded 2 t.hour ++ padded 2 t.minute ++ padded 2 t.second

namespace Date

/-- The eight digits of a date. -/
def written (date : Date) : List Char :=
  padded 4 date.year.toNat ++ padded 2 date.month ++ padded 2 date.day

/-- A day of the calendar whose year has at most four digits. -/
structure IsWritable (date : Date) : Prop where
  valid : date.IsValid
  year_nonneg : 0 ≤ date.year
  year_le : date.year ≤ 9999

end Date

/-- The forms in which a start is written. -/
inductive StartForm where
  /-- The date alone. -/
  | day
  /-- With a time that is local wherever it is read. -/
  | floating (t : TimeOfDay)
  /-- With a time in a time zone that a parameter names. -/
  | zoned (t : TimeOfDay)
  | utc (t : TimeOfDay)

namespace StartForm

/-- What is written. -/
def text (date : Date) : StartForm → List Char
  | day => date.written
  | floating t | zoned t => date.written ++ 'T' :: t.written
  | utc t => date.written ++ 'T' :: (t.written ++ ['Z'])

/-- The parameters belong to this form: with a time the value is not said to be a date, and there is
a time zone just if the form has one. A date alone may have any parameters. -/
def Fits (params : Dictionary String) : StartForm → Prop
  | day => True
  | floating _ | utc _ => params.get? "VALUE" ≠ some "DATE" ∧ params.contains "TZID" = false
  | zoned _ => params.get? "VALUE" ≠ some "DATE" ∧ params.contains "TZID" = true

end StartForm

/-- The event starts on the date, which is written in this form. -/
def Component.StartsOn (event : Component) (date : Date) (form : StartForm) : Prop :=
  ∃ p, event.single.get? "DTSTART" = some p ∧ p.value.toList = form.text date ∧
    form.Fits p.params

/-! ## Digits -/

section Digits

theorem length_padded (width n : Nat) : (padded width n).length = width := by
  induction width generalizing n with
  | zero => rfl
  | succ width ih => rw [padded, List.length_append, ih, List.length_singleton]

theorem digitChar_spec :
    ∀ d < 10, d.digitChar.isDigit = true ∧ d.digitChar.toNat - 0x30 = d := by
  decide

theorem isBlank_of_isDigit {c : Char} (hc : c.isDigit = true) : Text.isBlank c = false := by
  have hrange : 48 ≤ c.toNat ∧ c.toNat ≤ 57 := by
    simpa [Char.isDigit, UInt32.le_iff_toNat_le] using hc
  simp only [Text.isBlank, Bool.or_eq_false_iff, Bool.and_eq_false_iff, decide_eq_false_iff_not,
    beq_eq_false_iff_ne]
  omega

theorem isDigit_of_mem_padded {width n : Nat} {c : Char} (hc : c ∈ padded width n) :
    c.isDigit = true := by
  induction width generalizing n with
  | zero => cases hc
  | succ width ih =>
      rcases List.mem_append.mp hc with hc | hc
      · exact ih hc
      · rw [List.mem_singleton.mp hc]
        exact (digitChar_spec (n % 10) (Nat.mod_lt n (by decide))).1

theorem numberOfDigits_padded (width n : Nat) :
    numberOfDigits (padded width n) = n % 10 ^ width := by
  induction width generalizing n with
  | zero => rw [Nat.pow_zero, Nat.mod_one]; rfl
  | succ width ih =>
      have hdigit := (digitChar_spec (n % 10) (Nat.mod_lt n (by decide))).2
      have hrest : numberOfDigits (padded width (n / 10)) = n / 10 % 10 ^ width := ih (n / 10)
      unfold numberOfDigits at hrest ⊢
      rw [padded, List.foldl_append, hrest, List.foldl_cons, List.foldl_nil, hdigit,
        Nat.pow_succ, Nat.mul_comm (10 ^ width) 10, Nat.mod_mul]
      omega

/-- A number that is written with all digits that may be read is read as a whole. -/
theorem digits?_padded {width n : Nat} (hwidth : 0 < width) (hn : n < 10 ^ width)
    (rest : List Char) : digits? width (padded width n ++ rest) = some (n, rest) := by
  have htake : (padded width n ++ rest).take width = padded width n := by
    rw [List.take_append_of_le_length (length_padded width n).ge]
    exact List.take_of_length_le (length_padded width n).le
  have hdigits : (padded width n).takeWhile Char.isDigit = padded width n :=
    List.takeWhile_eq_self_iff.mpr fun c hc => isDigit_of_mem_padded hc
  have hne : (padded width n).isEmpty = false := by
    rw [List.isEmpty_eq_false_iff, ← List.length_pos_iff, length_padded]
    exact hwidth
  have hdrop : (padded width n ++ rest).drop width = rest := by
    rw [List.drop_append_of_le_length (length_padded width n).ge,
      List.drop_of_length_le (length_padded width n).le, List.nil_append]
  simp only [digits?, htake, hdigits, hne, Bool.false_eq_true, if_false, numberOfDigits_padded,
    Nat.mod_eq_of_lt hn, length_padded, hdrop]

/-- A written number starts with a digit. -/
theorem padded_append_eq_cons {width : Nat} (hwidth : 0 < width) (n : Nat) (rest : List Char) :
    ∃ c more, padded width n ++ rest = c :: more ∧ c.isDigit = true := by
  cases hpadded : padded width n with
  | nil =>
      have hlength := length_padded width n
      rw [hpadded] at hlength
      exact absurd hlength hwidth.ne
  | cons c more =>
      exact ⟨c, more ++ rest, rfl, isDigit_of_mem_padded (hpadded ▸ List.mem_cons_self)⟩

theorem trimStart_padded_append {width : Nat} (hwidth : 0 < width) (n : Nat) (rest : List Char) :
    Text.trimStart (padded width n ++ rest) = padded width n ++ rest := by
  obtain ⟨c, more, hcons, hdigit⟩ := padded_append_eq_cons hwidth n rest
  rw [hcons, Text.trimStart, List.dropWhile_cons_of_neg (by simp [isBlank_of_isDigit hdigit])]

theorem pair?_padded {n : Nat} (hn : n < 100) (rest : List Char) :
    pair? (padded 2 n ++ rest) = some (n, rest) := by
  rw [pair?, trimStart_padded_append (by decide), digits?_padded (by decide) hn]

/-- A year of four digits has no sign. -/
theorem year?_padded {n : Nat} (hn : n < 10000) (rest : List Char) :
    year? (padded 4 n ++ rest) = some ((n : Int), rest) := by
  have hread := digits?_padded (show 0 < 4 by decide) hn rest
  obtain ⟨c, more, hcons, hdigit⟩ := padded_append_eq_cons (show 0 < 4 by decide) n rest
  have hminus : c ≠ '-' := by
    rintro rfl
    exact absurd hdigit (by decide)
  have hplus : c ≠ '+' := by
    rintro rfl
    exact absurd hdigit (by decide)
  rw [year?, trimStart_padded_append (by decide), hcons]
  split
  next t heq => exact absurd (List.cons.inj heq).1 hminus
  next t heq => exact absurd (List.cons.inj heq).1 hplus
  next => rw [← hcons, hread]; rfl

end Digits

/-! ## Dates and times -/

section Reading

variable {date : Date}

theorem ofNumbers?_of_isWritable (hdate : date.IsWritable) :
    Date.ofNumbers? date.year date.month date.day = some date := by
  obtain ⟨⟨hmonth, hmonth', hday, hday'⟩, hyear, hyear'⟩ := hdate
  have hfirst : Date.yearRange.1 ≤ date.year :=
    Int.le_trans (show Date.yearRange.1 ≤ 0 by decide) hyear
  have hlast : date.year ≤ Date.yearRange.2 :=
    Int.le_trans hyear' (show 9999 ≤ Date.yearRange.2 by decide)
  exact if_pos ⟨hfirst, hlast, hmonth, hmonth', hday, hday'⟩

/-- The eight digits of a date are read as this date, whatever follows them. -/
theorem datePart?_written (hdate : date.IsWritable) (rest : List Char) :
    datePart? (date.written ++ rest) = some (date, rest) := by
  have hyear : date.year.toNat < 10000 := by
    have hlast := hdate.year_le
    omega
  have hmonth : date.month < 100 := lt_of_le_of_lt hdate.valid.month_le (by decide)
  have hday : date.day < 100 :=
    lt_of_le_of_lt (hdate.valid.day_le.trans (Date.daysIn_le _ _)) (by decide)
  simp only [datePart?, Date.written, List.append_assoc, year?_padded hyear, pair?_padded hmonth,
    pair?_padded hday, Int.toNat_of_nonneg hdate.year_nonneg, Option.bind_eq_bind,
    Option.bind_some, ofNumbers?_of_isWritable hdate]

theorem afterTime?_written (t : TimeOfDay) (rest : List Char) :
    afterTime? (t.written ++ rest) = some rest := by
  obtain ⟨hour, minute, second, hhour, hminute, hsecond⟩ := t
  have hhour' : hour < 100 := by omega
  have hminute' : minute < 100 := by omega
  have hsecond' : second < 100 := by omega
  simp only [afterTime?, TimeOfDay.written, List.append_assoc, pair?_padded hhour',
    pair?_padded hminute', pair?_padded hsecond', Option.bind_eq_bind, Option.bind_some, hhour,
    hminute, hsecond, and_self, if_true]

theorem wholeDate?_written (hdate : date.IsWritable) : wholeDate? date.written = some date := by
  have hread := datePart?_written hdate []
  rw [List.append_nil] at hread
  rw [wholeDate?, hread]

/-- A time behind the date is checked up to its end. -/
theorem wholeDateTime?_written (hdate : date.IsWritable) (t : TimeOfDay)
    (ending rest : List Char) :
    wholeDateTime? ending (date.written ++ 'T' :: (t.written ++ rest)) =
      if rest = ending then some date else none := by
  simp only [wholeDateTime?, datePart?_written hdate, afterTime?_written, Option.some_inj]

/-- A date alone has no time. -/
theorem wholeDateTime?_of_day (hdate : date.IsWritable) (ending : List Char) :
    wholeDateTime? ending date.written = none := by
  have hread := datePart?_written hdate []
  rw [List.append_nil] at hread
  rw [wholeDateTime?, hread]

/-- In whichever form a date is written, it is this date that is read. -/
theorem date?_of_fits (hdate : date.IsWritable) {form : StartForm} {p : Property}
    (htext : p.value.toList = form.text date) (hfits : form.Fits p.params) :
    p.date? = some date := by
  unfold Property.date?
  rw [htext]
  cases form with
  | day =>
      simp only [StartForm.text, wholeDate?_written hdate, wholeDateTime?_of_day hdate,
        Option.none_or, ite_self]
  | floating t =>
      have hlocal := wholeDateTime?_written hdate t [] []
      rw [List.append_nil, if_pos rfl] at hlocal
      simp only [StartForm.text, hlocal, hfits.1, hfits.2, Bool.false_eq_true, if_false,
        Option.some_or]
  | zoned t =>
      have hlocal := wholeDateTime?_written hdate t [] []
      rw [List.append_nil, if_pos rfl] at hlocal
      simp only [StartForm.text, hlocal, hfits.1, hfits.2, if_false, if_true, Option.some_or]
  | utc t =>
      -- The letter at the end is no part of a local time.
      have hlocal := wholeDateTime?_written hdate t [] ['Z']
      have hutc := wholeDateTime?_written hdate t ['Z'] ['Z']
      rw [if_neg (by decide)] at hlocal
      rw [if_pos rfl] at hutc
      simp only [StartForm.text, hlocal, hutc, hfits.1, hfits.2, Bool.false_eq_true, if_false,
        Option.none_or, Option.some_or]

theorem Component.StartsOn.startDay?_eq {event : Component} {form : StartForm}
    (hstarts : event.StartsOn date form) (hdate : date.IsWritable) :
    event.startDay? = some date := by
  obtain ⟨p, hp, htext, hfits⟩ := hstarts
  rw [Component.startDay?, hp]
  exact date?_of_fits hdate htext hfits

end Reading

end Almanac.Calendar
