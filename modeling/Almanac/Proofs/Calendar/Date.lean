import Almanac.Calendar.Date

/-!
# Bounds of start dates

A start date is a day of the calendar, in whichever way it has been read: its month is
one of twelve, its day one of at most 31.
-/

namespace Almanac.Calendar

namespace Date

/-- The month is one of the year, the day one of the month. -/
structure IsValid (date : Date) : Prop where
  month_pos : 1 ≤ date.month
  month_le : date.month ≤ 12
  day_pos : 1 ≤ date.day
  day_le : date.day ≤ daysIn date.year date.month

theorem daysIn_le (year : Int) (month : Nat) : daysIn year month ≤ 31 := by
  unfold daysIn
  repeat' split
  all_goals omega

theorem isValid_of_ofNumbers? {year : Int} {month day : Nat} {date : Date}
    (hdate : ofNumbers? year month day = some date) : date.IsValid := by
  unfold ofNumbers? at hdate
  split at hdate
  next hrange =>
    obtain rfl := Option.some.inj hdate
    obtain ⟨_, _, hmonth, hmonth', hday, hday'⟩ := hrange
    exact ⟨hmonth, hmonth', hday, hday'⟩
  next => cases hdate

end Date

theorem isValid_of_datePart? {s rest : List Char} {date : Date}
    (hdate : datePart? s = some (date, rest)) : date.IsValid := by
  simp only [datePart?, Option.bind_eq_bind, Option.bind_eq_some_iff] at hdate
  obtain ⟨⟨year, s₁⟩, _, ⟨month, s₂⟩, _, ⟨day, s₃⟩, _, other, hother, heq⟩ := hdate
  obtain ⟨rfl, _⟩ := Prod.mk.inj (Option.some.inj heq)
  exact Date.isValid_of_ofNumbers? hother

theorem isValid_of_wholeDate? {s : List Char} {date : Date} (hdate : wholeDate? s = some date) :
    date.IsValid := by
  unfold wholeDate? at hdate
  split at hdate
  next other hother =>
    obtain rfl := Option.some.inj hdate
    exact isValid_of_datePart? hother
  next => cases hdate

theorem isValid_of_wholeDateTime? {ending s : List Char} {date : Date}
    (hdate : wholeDateTime? ending s = some date) : date.IsValid := by
  unfold wholeDateTime? at hdate
  split at hdate
  next other t hother =>
    split at hdate
    next =>
      obtain rfl := Option.some.inj hdate
      exact isValid_of_datePart? hother
    next => cases hdate
  next => cases hdate

theorem isValid_of_date? {p : Property} {date : Date} (hdate : p.date? = some date) :
    date.IsValid := by
  simp only [Property.date?] at hdate
  split at hdate
  next => exact isValid_of_wholeDate? hdate
  next =>
    split at hdate
    next =>
      rcases Option.or_eq_some_iff.mp hdate with htime | ⟨_, hwhole⟩
      · exact isValid_of_wholeDateTime? htime
      · exact isValid_of_wholeDate? hwhole
    next =>
      rcases Option.or_eq_some_iff.mp hdate with htime | ⟨_, hwhole⟩
      · rcases Option.or_eq_some_iff.mp htime with hlocal | ⟨_, hutc⟩
        · exact isValid_of_wholeDateTime? hlocal
        · exact isValid_of_wholeDateTime? hutc
      · exact isValid_of_wholeDate? hwhole

theorem isValid_of_startDay? {event : Component} {date : Date}
    (hdate : event.startDay? = some date) : date.IsValid := by
  obtain ⟨p, _, hp⟩ := Option.bind_eq_some_iff.mp hdate
  exact isValid_of_date? hp

end Almanac.Calendar
