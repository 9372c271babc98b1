import Almanac.Calendar.Component
import Almanac.Text.Blank

/-!
# Start dates

The date on which an event starts is read from its `DTSTART` value. A value is
either a date, or a date and a time of day; the time is checked but plays no part
in the date, whatever zone it is given in.
-/

namespace Almanac.Calendar

/-- A day of the Gregorian calendar. -/
structure Date where
  year : Int
  month : Nat
  day : Nat
deriving DecidableEq

namespace Date

/-- The year has a 29th of February. -/
def isLeap (year : Int) : Bool := year % 4 == 0 && (year % 100 != 0 || year % 400 == 0)

/-- The number of days of a month. -/
def daysIn (year : Int) (month : Nat) : Nat :=
  if month == 2 then (if isLeap year then 29 else 28)
  else if month == 4 || month == 6 || month == 9 || month == 11 then 30
  else 31

/-- The first and the last year that can be written. -/
def yearRange : Int × Int := (-262143, 262142)

/-- The day with these numbers, if there is one. -/
def ofNumbers? (year : Int) (month day : Nat) : Option Date :=
  if yearRange.1 ≤ year ∧ year ≤ yearRange.2 ∧ 1 ≤ month ∧ month ≤ 12 ∧
      1 ≤ day ∧ day ≤ daysIn year month then
    some ⟨year, month, day⟩
  else none

end Date

/-- The number that decimal digits stand for. -/
def numberOfDigits (digits : List Char) : Nat :=
  digits.foldl (fun n c => n * 10 + (c.toNat - 0x30)) 0

/-- The number at the start of a text, of at least one and at most `width` digits, and what
follows it. -/
def digits? (width : Nat) (s : List Char) : Option (Nat × List Char) :=
  let ds := (s.take width).takeWhile Char.isDigit
  if ds.isEmpty then none else some (numberOfDigits ds, s.drop ds.length)

/-- A number of at most two digits, with blanks allowed before it. -/
def pair? (s : List Char) : Option (Nat × List Char) := digits? 2 (Text.trimStart s)

/-- A year, with blanks allowed before it: at most four digits, or a sign and any number of
digits. -/
def year? (s : List Char) : Option (Int × List Char) :=
  match Text.trimStart s with
  | '-' :: t => (digits? t.length t).map fun r => (-(r.1 : Int), r.2)
  | '+' :: t => (digits? t.length t).map fun r => ((r.1 : Int), r.2)
  | t => (digits? 4 t).map fun r => ((r.1 : Int), r.2)

/-- Year, month and day at the start of a text and what follows them. -/
def datePart? (s : List Char) : Option (Date × List Char) := do
  let (year, s) ← year? s
  let (month, s) ← pair? s
  let (day, s) ← pair? s
  let date ← Date.ofNumbers? year month day
  some (date, s)

/-- What follows hour, minute and second at the start of a text. The second 60 is allowed. -/
def afterTime? (s : List Char) : Option (List Char) := do
  let (hour, s) ← pair? s
  let (minute, s) ← pair? s
  let (second, s) ← pair? s
  if hour ≤ 23 ∧ minute ≤ 59 ∧ second ≤ 60 then some s else none

/-- A date and nothing else. -/
def wholeDate? (s : List Char) : Option Date :=
  match datePart? s with
  | some (date, []) => some date
  | _ => none

/-- A date and a time of day with the letter `T` between them, and `ending` behind them. -/
def wholeDateTime? (ending s : List Char) : Option Date :=
  match datePart? s with
  | some (date, 'T' :: t) => if afterTime? t = some ending then some date else none
  | _ => none

/-- The date that a value with these parameters stands for. A value of type `DATE` has no time. A
value with a time zone has a time that does not end in `Z`. Any value but the first kind may be a
date alone. -/
def Property.date? (p : Property) : Option Date :=
  let s := p.value.toList
  if p.params.get? "VALUE" = some "DATE" then wholeDate? s
  else if p.params.contains "TZID" then (wholeDateTime? [] s).or (wholeDate? s)
  else ((wholeDateTime? [] s).or (wholeDateTime? ['Z'] s)).or (wholeDate? s)

/-- The date on which an event starts. -/
def Component.startDay? (event : Component) : Option Date :=
  (event.single.get? "DTSTART").bind Property.date?

end Almanac.Calendar
