import Almanac.Decimal.Binary64

/-!
# Shortest decimals

A binary number is shown by the fewest decimal digits that read back as the same
number; of the decimals with that many digits, the nearest is taken.
-/

namespace Almanac.Decimal

open Binary64 (leastFull shifted)

/-- The decimal `digits * 10 ^ exponent`. -/
structure Shown where
  digits : Nat
  exponent : Int

/-- Whether the decimal lies among the numbers that round to `x`, the borders included if the
mantissa is even. -/
def readsBack (x : Binary64) (d : Shown) : Bool :=
  let low : Nat × Int :=
    if x.mantissa = leastFull ∧ x.exponent ≠ Binary64.leastExponent then
      (4 * x.mantissa - 1, x.exponent - 2)
    else (2 * x.mantissa - 1, x.exponent - 1)
  let high : Nat × Int := (2 * x.mantissa + 1, x.exponent - 1)
  let below (a : Nat × Int) : Ordering :=
    -- compares `a.1 * 2 ^ a.2` with the decimal
    compare (shifted 10 (shifted 2 a.1 a.2.toNat) (-d.exponent).toNat)
      (shifted 2 (shifted 10 d.digits d.exponent.toNat) (-a.2).toNat)
  match below low, below high with
  | .lt, .gt => true
  | .eq, _ => x.mantissa % 2 == 0
  | _, .eq => x.mantissa % 2 == 0
  | _, _ => false

/-- The decimals with the place value `10 ^ exponent` below and above `num / den`, the nearer one
first. -/
def neighbours (num den : Nat) (exponent : Int) : List Shown :=
  let n := shifted 10 num (-exponent).toNat
  let d := shifted 10 den exponent.toNat
  let q := n / d
  if 2 * (n % d) ≤ d then [⟨q, exponent⟩, ⟨q + 1, exponent⟩] else [⟨q + 1, exponent⟩, ⟨q, exponent⟩]

/-- The number of digits before the point, for a value of at least one; for smaller values the
number of zeros after it, negated. -/
def magnitude (num den : Nat) : Int :=
  if den ≤ num then (Nat.toDigits 10 (num / den)).length
  else
    let z := (Nat.toDigits 10 (den / num)).length
    if shifted 10 num (z - 1) < den then 1 - (z : Int) else 2 - (z : Int)

/-- The first decimal that reads back, from the place value `10 ^ exponent` downwards. -/
def firstShown (x : Binary64) (num den : Nat) : Nat → Int → Shown
  | 0, exponent => ⟨shifted 10 num (-exponent).toNat / shifted 10 den exponent.toNat, exponent⟩
  | fuel + 1, exponent =>
    match (neighbours num den exponent).find? (readsBack x) with
    | some d => d
    | none => firstShown x num den fuel (exponent - 1)

/-- A decimal without zeros at its end. -/
def Shown.trim : Nat → Shown → Shown
  | 0, d => d
  | fuel + 1, d =>
    if d.digits % 10 = 0 ∧ d.digits ≠ 0 then trim fuel ⟨d.digits / 10, d.exponent + 1⟩ else d

/-- The shortest decimal of a number, without its sign. -/
def shortest (x : Binary64) : Shown :=
  if x.mantissa = 0 then ⟨0, 0⟩
  else
    let (num, den) := x.fraction
    (firstShown x num den 17 (magnitude num den - 1)).trim 20

/-- How a number is spelled: within which powers of ten it is written out. Outside of them it has an
exponent with a sign. -/
structure Spelling where
  isPlain : Int → Bool

/-- The text of a number. A number that is written out has a point. -/
def Spelling.text (s : Spelling) (x : Binary64) : String :=
  let d := shortest x
  let ds := Nat.toDigits 10 d.digits
  let power : Int := d.exponent + ds.length - 1
  let body : List Char :=
    if s.isPlain power then
      if 0 ≤ d.exponent then ds ++ List.replicate d.exponent.toNat '0' ++ ['.', '0']
      else
        let ds := List.replicate ((-d.exponent).toNat + 1 - ds.length) '0' ++ ds
        let whole := ds.length - (-d.exponent).toNat
        ds.take whole ++ '.' :: ds.drop whole
    else
      ds.take 1 ++ (if ds.length ≤ 1 then [] else '.' :: ds.drop 1) ++
        'e' :: (if power < 0 then '-' else '+') :: Nat.toDigits 10 power.natAbs
  String.ofList ((if x.negative then ['-'] else []) ++ body)

end Almanac.Decimal
