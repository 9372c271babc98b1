import Almanac.Text.Hex

/-!
# Strings of JSON texts

Between quotation marks a character stands for itself or is written behind a
backslash. Four hexadecimal digits name a unit of 16 bits; two such units may
form one character.
-/

namespace Almanac.Json

/-- What one place of a string stands for: a character, or a unit of 16 bits. -/
inductive Piece where
  | char (c : Char)
  | unit (n : Nat)

/-- What a backslash and one letter stand for. -/
def shortEscape? (c : Char) : Option Char :=
  if c = '"' then some '"'
  else if c = '\\' then some '\\'
  else if c = '/' then some '/'
  else if c = 'b' then some (Char.ofNat 8)
  else if c = 'f' then some (Char.ofNat 12)
  else if c = 'n' then some '\n'
  else if c = 'r' then some '\r'
  else if c = 't' then some '\t'
  else none

/-- The value of four hexadecimal digits. -/
def unit? (a b c d : Char) : Option Nat := do
  let a ← Text.hexValue? a
  let b ← Text.hexValue? b
  let c ← Text.hexValue? c
  let d ← Text.hexValue? d
  some (((a * 16 + b) * 16 + c) * 16 + d)

/-- The pieces up to the closing mark and what follows the mark; nothing if there is no mark, or
before it a control character or a backslash with something else behind it. -/
def pieces? : List Char → Option (List Piece × List Char)
  | [] => none
  | '"' :: s => some ([], s)
  | '\\' :: 'u' :: a :: b :: c :: d :: s =>
    match unit? a b c d with
    | some n => (pieces? s).map fun r => (.unit n :: r.1, r.2)
    | none => none
  | '\\' :: c :: s =>
    match shortEscape? c with
    | some d => (pieces? s).map fun r => (.char d :: r.1, r.2)
    | none => none
  | c :: s =>
    if c.toNat < 0x20 ∨ c = '\\' then none
    else (pieces? s).map fun r => (.char c :: r.1, r.2)

/-- The text of pieces; nothing if half of a pair of units is missing. -/
def textOf? : List Piece → Option (List Char)
  | [] => some []
  | .char c :: ps => (textOf? ps).map (c :: ·)
  | .unit a :: .unit b :: ps =>
    if 0xD800 ≤ a ∧ a < 0xDC00 then
      if 0xDC00 ≤ b ∧ b < 0xE000 then
        (textOf? ps).map (Char.ofNat (0x10000 + (a - 0xD800) * 0x400 + (b - 0xDC00)) :: ·)
      else none
    else if 0xDC00 ≤ a ∧ a < 0xE000 then none
    else (textOf? (.unit b :: ps)).map (Char.ofNat a :: ·)
  | .unit a :: ps =>
    if 0xD800 ≤ a ∧ a < 0xE000 then none else (textOf? ps).map (Char.ofNat a :: ·)

/-- One character as it is written. -/
def writeChar (c : Char) : List Char :=
  if c = '"' then ['\\', '"']
  else if c = '\\' then ['\\', '\\']
  else if c = '\n' then ['\\', 'n']
  else if c = '\r' then ['\\', 'r']
  else if c = '\t' then ['\\', 't']
  else if c.toNat = 8 then ['\\', 'b']
  else if c.toNat = 12 then ['\\', 'f']
  else if c.toNat < 0x20 then
    ['\\', 'u', '0', '0', Text.hexDigit (c.toNat / 16), Text.hexDigit (c.toNat % 16)]
  else [c]

/-- A text in quotation marks. -/
def writeString (s : List Char) : List Char := '"' :: s.flatMap writeChar ++ ['"']

end Almanac.Json
