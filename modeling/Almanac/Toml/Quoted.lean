import Almanac.Text.Affix
import Almanac.Text.Hex

/-!
# Strings of TOML texts

A string stands between quotation marks, where a backslash has a meaning, or
between apostrophes, where it has none. Three marks on either side allow line
ends within.
-/

namespace Almanac.Toml

/-- A character that may stand in a string, besides line ends. -/
def isStringChar (c : Char) : Bool := c == '\t' || (0x20 ≤ c.toNat && c.toNat != 0x7F)

/-- An apostrophe. -/
def apostrophe : Char := Char.ofNat 0x27

/-- The character with a number, if there is one. -/
def charOf? (n : Nat) : Option Char :=
  if n.isValidChar then some (Char.ofNat n) else none

/-- The character that hexadecimal digits name. -/
def hexChar? (digits : List Char) : Option Char := do
  let values ← digits.mapM Text.hexValue?
  charOf? (values.foldl (fun n d => n * 16 + d) 0)

/-- The character behind a backslash and what follows. -/
def escape? : List Char → Option (Char × List Char)
  | [] => none
  | c :: s =>
    let coded (n : Nat) : Option (Char × List Char) :=
      if s.length < n then none else (hexChar? (s.take n)).map fun d => (d, s.drop n)
    if c = 'b' then some (Char.ofNat 8, s)
    else if c = 't' then some ('\t', s)
    else if c = 'n' then some ('\n', s)
    else if c = 'f' then some (Char.ofNat 12, s)
    else if c = 'r' then some ('\r', s)
    else if c = 'e' then some (Char.ofNat 27, s)
    else if c = '"' then some ('"', s)
    else if c = '\\' then some ('\\', s)
    else if c = 'x' then coded 2
    else if c = 'u' then coded 4
    else if c = 'U' then coded 8
    else none

/-- The text behind a line end, if the text starts with one. -/
def afterLineEnd? : List Char → Option (List Char)
  | '\n' :: s => some s
  | '\r' :: '\n' :: s => some s
  | _ => none

/-- Drops blanks and line ends. -/
def skipLines : List Char → List Char
  | ' ' :: s => skipLines s
  | '\t' :: s => skipLines s
  | '\n' :: s => skipLines s
  | '\r' :: '\n' :: s => skipLines s
  | s => s

/-- The number of times that a character stands at the start of a text. -/
def countOf (c : Char) (s : List Char) : Nat := (s.takeWhile (· == c)).length

/-- The string up to its closing mark, and what follows. `mark` closes it, three times if `long`;
a backslash has a meaning if `escaped`. The fuel bounds the number of steps. -/
def body? (mark : Char) (long escaped : Bool) : Nat → List Char → Option (List Char × List Char)
  | 0, _ => none
  | _ + 1, [] => none
  | fuel + 1, c :: s =>
    let go (out : List Char) (rest : List Char) : Option (List Char × List Char) :=
      (body? mark long escaped fuel rest).map fun r => (out ++ r.1, r.2)
    if c = mark then
      if long then
        let n := countOf mark (c :: s)
        -- up to two marks may stand in the string before the three that close it
        if n < 3 then go (List.replicate n mark) ((c :: s).drop n)
        else if n ≤ 5 then some (List.replicate (n - 3) mark, (c :: s).drop n)
        else none
      else some ([], s)
    else if escaped && c == '\\' then
      let blank := s.dropWhile fun d => d == ' ' || d == '\t'
      match (if long then afterLineEnd? blank else none) with
      | some rest => go [] (skipLines rest)
      | none =>
        match escape? s with
        | some (d, rest) => go [d] rest
        | none => none
    else if isStringChar c then go [c] s
    else if long then
      match afterLineEnd? (c :: s) with
      | some rest => go ((c :: s).take ((c :: s).length - rest.length)) rest
      | none => none
    else none

/-- The string at the start of a text and what follows it. `allowLong` says whether line ends may
be allowed. -/
def string? (allowLong : Bool) (s : List Char) : Option (List Char × List Char) :=
  match s with
  | [] => none
  | mark :: t =>
    if mark = '"' ∨ mark = apostrophe then
      let escaped := mark == '"'
      if allowLong && 3 ≤ countOf mark s then
        let t := s.drop 3
        let t := (afterLineEnd? t).getD t
        body? mark true escaped (t.length + 1) t
      else body? mark false escaped (t.length + 1) t
    else none

end Almanac.Toml
