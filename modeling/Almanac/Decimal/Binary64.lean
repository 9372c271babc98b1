/-!
# Binary numbers of 64 bits

A finite number of the 64-bit binary format is a whole number times a power of
two. Fractions are rounded to the nearest such number, ties to an even one, in
exact arithmetic.
-/

namespace Almanac.Decimal

/-- The value `mantissa * 2 ^ exponent`, or its negative. A nonzero mantissa has 53 bits unless the
exponent is the least one. -/
structure Binary64 where
  negative : Bool
  mantissa : Nat
  exponent : Int
deriving DecidableEq

namespace Binary64

/-- The least exponent. -/
def leastExponent : Int := -1074

/-- The greatest exponent. -/
def greatestExponent : Int := 971

/-- The least number of 53 bits. -/
def leastFull : Nat := 0x10000000000000

/-- The number with `k` zeros behind it in base `b`. -/
def shifted (b n k : Nat) : Nat := n * Nat.pow b k

/-- The quotient rounded to the nearest whole number, a tie to the even one. -/
def roundDiv (num den : Nat) : Nat :=
  let q := num / den
  let r := num % den
  if 2 * r < den then q
  else if den < 2 * r then q + 1
  else if q % 2 = 0 then q else q + 1

/-- `num / den` in units of `2 ^ e`, rounded. -/
def scaled (num den : Nat) (e : Int) : Nat :=
  if 0 ≤ e then roundDiv num (shifted 2 den e.toNat) else roundDiv (shifted 2 num (-e).toNat) den

/-- The number nearest to `num / den`, or nothing if that lies beyond the greatest one. -/
def ofFraction (negative : Bool) (num den : Nat) : Option Binary64 :=
  if num = 0 ∨ den = 0 then some ⟨negative, 0, leastExponent⟩
  else
    let estimate : Int := (num.log2 : Int) - (den.log2 : Int) - 52
    let full := if scaled num den estimate < leastFull then estimate - 1 else estimate
    let e := max full leastExponent
    let m := scaled num den e
    let (m, e) := if m < 2 * leastFull then (m, e) else (m / 2, e + 1)
    if greatestExponent < e then none else some ⟨negative, m, e⟩

/-- The number nearest to `digits * 10 ^ exponent`, or nothing if that lies beyond the greatest
one. Exponents far outside the range are not worked out. -/
def ofDecimal (negative : Bool) (digits : Nat) (exponent : Int) : Option Binary64 :=
  if digits = 0 ∨ (digits.log2 : Int) + exponent < -1500 then
    some ⟨negative, 0, leastExponent⟩
  else if 400 < exponent then none
  else if 0 ≤ exponent then ofFraction negative (shifted 10 digits exponent.toNat) 1
  else ofFraction negative digits (shifted 10 1 (-exponent).toNat)

/-- The value without its sign, as a fraction. -/
def fraction (x : Binary64) : Nat × Nat :=
  if 0 ≤ x.exponent then (shifted 2 x.mantissa x.exponent.toNat, 1)
  else (x.mantissa, shifted 2 1 (-x.exponent).toNat)

end Binary64

end Almanac.Decimal
