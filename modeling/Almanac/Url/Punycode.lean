/-!
# Punycode

The ASCII form of a label with other characters: its ASCII characters, and then a
run of numbers that say which characters go where. Only the decoder is needed
here, to tell whether a label is in that form.
-/

namespace Almanac.Url

/-- The value of a digit to the base 36. -/
def base36? (c : Char) : Option Nat :=
  if c.isDigit then some (c.toNat - 0x30 + 26)
  else if c.isAlpha then some (c.toLower.toNat - 0x61)
  else none

/-- The bias after a number has been read; `first` for the first number, `count` characters are
there so far. -/
def adapt (delta count : Nat) (first : Bool) : Nat :=
  let d := if first then delta / 700 else delta / 2
  let rec go : Nat → Nat → Nat → Nat
    | 0, d, k => k + 36 * d / (d + 38)
    | fuel + 1, d, k => if 455 < d then go fuel (d / 35) (k + 36) else k + 36 * d / (d + 38)
  go 64 (d + d / count) 0

/-- One number of variable length at the start of digits, added to `i`, and what follows. -/
def variableNumber? (bias : Nat) : (i w k : Nat) → List Char → Option (Nat × List Char)
  | _, _, _, [] => none
  | i, w, k, c :: s => do
    let d ← base36? c
    let i := i + d * w
    let t := if k ≤ bias then 1 else if bias + 26 ≤ k then 26 else k - bias
    if 0x100000000 ≤ i then none
    else if d < t then some (i, s)
    else variableNumber? bias i (w * (36 - t)) (k + 36) s

/-- Inserts the characters that the digits name. The fuel bounds their number. -/
def insertAll? : (fuel n i bias : Nat) → (out digits : List Char) → Option (List Char)
  | 0, _, _, _, _, _ => none
  | _ + 1, _, _, _, out, [] => some out
  | fuel + 1, n, i, bias, out, digits => do
    let (j, rest) ← variableNumber? bias i 1 36 digits
    let count := out.length + 1
    let n := n + j / count
    let place := j % count
    if n.isValidChar then
      insertAll? fuel n (place + 1) (adapt (j - i) count (i == 0))
        (out.take place ++ Char.ofNat n :: out.drop place) rest
    else none

/-- The text of a label whose first four characters have been taken off. -/
def punycodeDecode? (s : List Char) : Option (List Char) :=
  let digits := (s.reverse.takeWhile (· != '-')).reverse
  let basic := (s.take (s.length - digits.length)).dropLast
  insertAll? (digits.length + 1) 128 0 72 basic digits

end Almanac.Url
