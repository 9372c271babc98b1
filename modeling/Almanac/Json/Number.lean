import Almanac.Datum

/-!
# Numbers of JSON texts

A number is scanned into its digits. Whole numbers that fit into 64 bits are
exact. All others become binary numbers: the digits that fit into 64 bits are
taken, and the result is multiplied or divided by a power of ten, with one
rounding at each step.
-/

namespace Almanac.Json

open Decimal (Binary64)

/-- The digits of a number as they are written. -/
structure Literal where
  negative : Bool
  whole : List Nat
  fraction : List Nat
  /-- The power of ten behind the letter `e`, if there is one. -/
  power : Option Int

/-- The digits at the start of a text and what follows them. -/
def digitsOf (s : List Char) : List Nat × List Char :=
  ((s.takeWhile Char.isDigit).map (fun c => c.toNat - 0x30), s.dropWhile Char.isDigit)

/-- The number that digits stand for, which follow the digits of `n`. -/
def natOf (n : Nat) (digits : List Nat) : Nat := digits.foldl (fun n d => n * 10 + d) n

/-- The part behind the point, at least one digit, if there is a point. -/
def fractionOf : List Char → Option (List Nat × List Char)
  | '.' :: s =>
    match digitsOf s with
    | ([], _) => none
    | (ds, rest) => some (ds, rest)
  | s => some ([], s)

/-- The power of ten, at least one digit, if there is a letter `e`. -/
def powerOf : List Char → Option (Option Int × List Char)
  | [] => some (none, [])
  | c :: s =>
    if c = 'e' ∨ c = 'E' then
      let (negative, s) := match s with
        | '-' :: s => (true, s)
        | '+' :: s => (false, s)
        | s => (false, s)
      match digitsOf s with
      | ([], _) => none
      | (ds, rest) =>
        let n : Int := natOf 0 ds
        some (some (if negative then -n else n), rest)
    else some (none, c :: s)

/-- The number at the start of a text and what follows it. A number starts with a sign or a digit,
and a zero has no digit behind it. -/
def literal? (s : List Char) : Option (Literal × List Char) := do
  let (negative, s) := match s with
    | '-' :: s => (true, s)
    | s => (false, s)
  let (whole, s) := digitsOf s
  if whole.isEmpty || (whole.head? == some 0 && whole.length ≠ 1) then none
  else
    let (fraction, s) ← fractionOf s
    let (power, s) ← powerOf s
    some (⟨negative, whole, fraction, power⟩, s)

/-- The largest number of 64 bits. -/
def largest : Nat := 0xFFFFFFFFFFFFFFFF

/-- Takes digits behind those of `n` as long as the number fits into 64 bits, and says how many
were left. -/
def takeFitting (n : Nat) : List Nat → Nat × Nat
  | [] => (n, 0)
  | d :: ds => if n * 10 + d ≤ largest then takeFitting (n * 10 + d) ds else (n, ds.length + 1)

/-- The power of ten as a binary number, as a fraction. -/
def tenPower (n : Nat) : Nat × Nat :=
  match Binary64.ofDecimal false 1 n with
  | some p => p.fraction
  | none => (1, 1)

/-- Divides by powers of ten up to the 308th, one after the other. -/
def divideTen : Nat → Binary64 → Nat → Option Binary64
  | 0, x, _ => some { x with mantissa := 0 }
  | fuel + 1, x, n =>
    let (num, den) := x.fraction
    let (pnum, pden) := tenPower (min n 308)
    match Binary64.ofFraction x.negative (num * pden) (den * pnum) with
    | none => none
    | some y => if n ≤ 308 then some y else divideTen fuel y (n - 308)

/-- The value of `digits * 10 ^ exponent`, or nothing if it is too large. -/
def scale (negative : Bool) (digits : Nat) (exponent : Int) : Option Binary64 := do
  let x ← Binary64.ofFraction negative digits 1
  if x.mantissa = 0 then some x
  else if 308 < exponent then none
  else if 0 ≤ exponent then
    let (num, den) := x.fraction
    let (pnum, pden) := tenPower exponent.toNat
    Binary64.ofFraction negative (num * pnum) (den * pden)
  else divideTen 4 x (-exponent).toNat

/-- A number as datum. A number that is too large can only be passed over. -/
def Literal.datum (l : Literal) : Datum :=
  let n := natOf 0 l.whole
  if l.fraction.isEmpty ∧ l.power = none ∧ n ≤ largest ∧
      (l.negative = false ∨ (0 < n ∧ n ≤ 0x8000000000000000)) then
    .integer (if l.negative then -n else n)
  else
    let (w, left) := takeFitting 0 l.whole
    let (d, excess) := takeFitting w l.fraction
    let exponent : Int := left - (l.fraction.length - excess : Nat) + l.power.getD 0
    match scale l.negative d exponent with
    | some x => .float x
    | none => .unreadable

end Almanac.Json
