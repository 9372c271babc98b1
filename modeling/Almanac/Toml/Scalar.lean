import Almanac.Calendar.Date
import Almanac.Datum
import Almanac.Text.Affix
import Almanac.Text.Hex

/-!
# Scalars of TOML texts

A value without marks around it is a truth value, a number, or a moment: a date,
a time of day, or both. Digits of numbers may be grouped by single underscores.
-/

namespace Almanac.Toml

open Decimal (Binary64)

/-- Digits without the underscores between them; nothing if there is no digit, or an underscore
that is not between two digits. -/
def groups? (isDigit : Char → Bool) (s : List Char) : Option (List Char) :=
  let parts := Text.splitAtChar '_' s
  if parts.all (fun p => !p.isEmpty && p.all isDigit) then some parts.flatten else none

/-- The number that digits to a base stand for. -/
def numberTo (base : Nat) (digits : List Char) : Nat :=
  digits.foldl (fun n c => n * base + (Text.hexValue? c).getD 0) 0

/-- The sign at the start of a number, if there is one, and the rest. -/
def signOf : List Char → Bool × List Char
  | '-' :: s => (true, s)
  | '+' :: s => (false, s)
  | s => (false, s)

/-- Decimal digits, of which the first is no zero unless it is the only one. -/
def decimal? (s : List Char) : Option (List Char) := do
  let ds ← groups? Char.isDigit s
  if ds.head? = some '0' ∧ ds.length ≠ 1 then none else some ds

/-- A whole number; one that needs more than 128 bits cannot be read. -/
def integerDatum (n : Int) : Datum :=
  if -0x80000000000000000000000000000000 ≤ n ∧ n ≤ 0xFFFFFFFFFFFFFFFFFFFFFFFFFFFFFFFF then
    .integer n
  else .damaged

/-- A whole number. -/
def integer? (s : List Char) : Option Datum :=
  match s with
  | '0' :: 'x' :: t =>
    (groups? (fun c => (Text.hexValue? c).isSome) t).map fun ds => integerDatum (numberTo 16 ds)
  | '0' :: 'o' :: t =>
    (groups? (fun c => '0' ≤ c && c ≤ '7') t).map fun ds => integerDatum (numberTo 8 ds)
  | '0' :: 'b' :: t =>
    (groups? (fun c => c == '0' || c == '1') t).map fun ds => integerDatum (numberTo 2 ds)
  | _ =>
    let (negative, t) := signOf s
    (decimal? t).map fun ds =>
      let n : Int := numberTo 10 ds
      integerDatum (if negative then -n else n)

/-- The power of ten behind a letter `e`; zero if there is none. -/
def power? : Option (List Char) → Option Int
  | none => some 0
  | some s => do
    let (negative, t) := signOf s
    let ds ← groups? Char.isDigit t
    let n : Int := numberTo 10 ds
    some (if negative then -n else n)

/-- A number with a point or a power of ten, or one that is not finite. -/
def float? (s : List Char) : Option Datum :=
  let (negative, t) := signOf s
  if t = "inf".toList then some (.special (if negative then "-inf" else "inf"))
  else if t = "nan".toList then some (.special "NaN")
  else do
    let mark := t.find? fun c => c == 'e' || c == 'E'
    let (mantissa, power) :=
      match mark with
      | some c => Text.breakAtChar c t
      | none => (t, none)
    let (whole, fraction) := Text.breakAtChar '.' mantissa
    if fraction.isNone ∧ power.isNone then none
    else
      let ws ← decimal? whole
      let fs ← match fraction with
        | some f => groups? Char.isDigit f
        | none => some []
      let e ← power? power
      match Binary64.ofDecimal negative (numberTo 10 (ws ++ fs)) (e - fs.length) with
      | some x => some (.float x)
      | none => some .damaged

/-- The number of exactly two digits. -/
def twoDigits? : List Char → Option (Nat × List Char)
  | a :: b :: s =>
    if a.isDigit && b.isDigit then some (numberTo 10 [a, b], s) else none
  | _ => none

/-- What follows a date at the start of a text. -/
def afterDate? : List Char → Option (List Char)
  | a :: b :: c :: d :: '-' :: s => do
    if !([a, b, c, d].all Char.isDigit) then none
    else
      let (month, s) ← twoDigits? s
      match s with
      | '-' :: s =>
        let (day, s) ← twoDigits? s
        if 1 ≤ month ∧ month ≤ 12 ∧ 1 ≤ day ∧
            day ≤ Calendar.Date.daysIn (numberTo 10 [a, b, c, d]) month then some s
        else none
      | _ => none
  | _ => none

/-- What follows hour and minute at the start of a text. -/
def afterMinute? (s : List Char) : Option (List Char) := do
  let (hour, s) ← twoDigits? s
  match s with
  | ':' :: s =>
    let (minute, s) ← twoDigits? s
    if hour ≤ 23 ∧ minute ≤ 59 then some s else none
  | _ => none

/-- What follows a time of day at the start of a text. Seconds may be left out. -/
def afterTime? (s : List Char) : Option (List Char) := do
  match ← afterMinute? s with
  | ':' :: s =>
    let (second, s) ← twoDigits? s
    if 60 < second then none
    else
      match s with
      | '.' :: s =>
        if (s.takeWhile Char.isDigit).isEmpty then none else some (s.dropWhile Char.isDigit)
      | s => some s
  | s => some s

/-- What follows a distance from universal time is nothing, and so is what follows no distance. -/
def isOffset : List Char → Bool
  | [] => true
  | [c] => c == 'Z' || c == 'z'
  | c :: s => (c == '+' || c == '-') && afterMinute? s == some []

/-- A date, a time of day, or both with a distance from universal time. -/
def isMoment (s : List Char) : Bool :=
  match afterDate? s with
  | some [] => true
  | some (c :: t) =>
    (c == 'T' || c == 't' || c == ' ') &&
      match afterTime? t with
      | some rest => isOffset rest
      | none => false
  | none => afterTime? s == some []

/-- A value without marks around it. -/
def scalar? (s : List Char) : Option Datum :=
  if s = "true".toList then some (.bool true)
  else if s = "false".toList then some (.bool false)
  else if isMoment s then some .moment
  else (integer? s).or (float? s)

end Almanac.Toml
