/-!
# Bytes and characters

The bytes of a text in UTF-8, and the text of bytes. Bytes that are no text are
either refused or replaced: each longest part that could begin a character, or
else a single byte, becomes one replacement character.
-/

namespace Almanac.Text

/-- The bytes of a character. -/
def utf8Char (c : Char) : List UInt8 :=
  let n := c.toNat
  if n < 0x80 then [n.toUInt8]
  else if n < 0x800 then [(0xC0 + n / 64).toUInt8, (0x80 + n % 64).toUInt8]
  else if n < 0x10000 then
    [(0xE0 + n / 4096).toUInt8, (0x80 + n / 64 % 64).toUInt8, (0x80 + n % 64).toUInt8]
  else
    [(0xF0 + n / 262144).toUInt8, (0x80 + n / 4096 % 64).toUInt8, (0x80 + n / 64 % 64).toUInt8,
      (0x80 + n % 64).toUInt8]

/-- The bytes of a text. -/
def utf8 (s : List Char) : List UInt8 := s.flatMap utf8Char

/-- How many bytes follow the first byte of a character, and between which bounds the second one
lies. -/
def utf8Lead (b : Nat) : Option (Nat × Nat × Nat) :=
  if 0xC2 ≤ b ∧ b ≤ 0xDF then some (1, 0x80, 0xBF)
  else if b = 0xE0 then some (2, 0xA0, 0xBF)
  else if b = 0xED then some (2, 0x80, 0x9F)
  else if 0xE1 ≤ b ∧ b ≤ 0xEF then some (2, 0x80, 0xBF)
  else if b = 0xF0 then some (3, 0x90, 0xBF)
  else if 0xF1 ≤ b ∧ b ≤ 0xF3 then some (3, 0x80, 0xBF)
  else if b = 0xF4 then some (3, 0x80, 0x8F)
  else none

/-- Takes up to `n` further bytes, the first between the bounds, and says what number they make and
how many there were. -/
def utf8Tail : (n low high value : Nat) → List UInt8 → Nat × Nat
  | 0, _, _, value, _ => (value, 0)
  | _, _, _, value, [] => (value, 0)
  | n + 1, low, high, value, b :: s =>
    if low ≤ b.toNat ∧ b.toNat ≤ high then
      let r := utf8Tail n 0x80 0xBF (value * 64 + (b.toNat - 0x80)) s
      (r.1, r.2 + 1)
    else (value, 0)

/-- The first character of bytes, or nothing if they begin no character, and how many further bytes
belong to it. -/
def utf8Next (b : UInt8) (s : List UInt8) : Option Char × Nat :=
  if b < 0x80 then (some (Char.ofNat b.toNat), 0)
  else
    match utf8Lead b.toNat with
    | none => (none, 0)
    | some (n, low, high) =>
      let lead := if n = 1 then b.toNat - 0xC0 else if n = 2 then b.toNat - 0xE0 else b.toNat - 0xF0
      let (value, taken) := utf8Tail n low high lead s
      if taken = n then (some (Char.ofNat value), taken) else (none, taken)

/-- The characters of bytes, with nothing for each part that is no character; `skip` bytes belong to
the character before. -/
def utf8Parts : (skip : Nat) → List UInt8 → List (Option Char)
  | _, [] => []
  | skip + 1, _ :: s => utf8Parts skip s
  | 0, b :: s =>
    let r := utf8Next b s
    r.1 :: utf8Parts r.2 s

/-- The text of bytes, if they are a text. -/
def ofUtf8? (bytes : List UInt8) : Option (List Char) := (utf8Parts 0 bytes).mapM id

/-- The text of bytes, with replacement characters for what is no text. -/
def ofUtf8Lossy (bytes : List UInt8) : List Char :=
  (utf8Parts 0 bytes).map fun c => c.getD '\uFFFD'

end Almanac.Text
