import Almanac.Text.Blank

/-!
# Folded lines

A long line is written in parts, with a line end and one blank between them.
Reading takes the parts together again, for either kind of line end and for a
space or a tab.
-/

namespace Almanac.Calendar

/-- The number of bytes that a line may have before it is folded. -/
def lineLimit : Nat := 75

/-- What separates the parts of a folded line. -/
def foldMark : List Char := ['\r', '\n', ' ']

/-- The number of bytes of a text. -/
def byteLength (s : List Char) : Nat := s.foldl (fun n c => n + c.utf8Size) 0

/-- The text cut where the byte count `n` falls, or before the character in which it falls. -/
def splitAtByte : Nat → List Char → List Char × List Char
  | _, [] => ([], [])
  | n, c :: s =>
    if c.utf8Size ≤ n then
      let r := splitAtByte (n - c.utf8Size) s
      (c :: r.1, r.2)
    else ([], c :: s)

/-- A text can be cut behind its first `n` bytes without cutting a character in two. -/
def isBoundary : Nat → List Char → Bool
  | 0, _ => true
  | _ + 1, [] => false
  | n + 1, c :: s => c.utf8Size ≤ n + 1 && isBoundary (n + 1 - c.utf8Size) s

/-- The character with number `n` of a text is a blank. -/
def isBlankAt (text : List Char) (n : Nat) : Bool :=
  match text[n]? with
  | some c => Text.isBlank c
  | none => false

/-- How many bytes the next part takes when `n` are allowed and the part starts at byte `start`
of the line. The place after the part moves towards the start, by one byte if a blank comes next
and then byte by byte to the next boundary, where a blank is looked for at each step. What comes
next is looked up by counting characters, not bytes. -/
def partLength (line : List Char) (start : Nat) (rest : List Char) : Nat → Nat
  | 0 => 0
  | 1 => if isBlankAt line (start + 1) || !isBoundary 1 rest then 0 else 1
  | n + 2 =>
    if isBlankAt line (start + n + 2) then
      if isBoundary (n + 1) rest then n + 1 else partLength line start rest n
    else if isBoundary (n + 2) rest then n + 2 else partLength line start rest (n + 1)

/-- Folds the rest of a line that starts at byte `start`; `limit` bytes are allowed in the next
part. The fuel bounds the number of parts. -/
def foldFrom (line : List Char) : Nat → (start limit : Nat) → List Char → List Char
  | 0, _, _, rest => rest
  | fuel + 1, start, limit, rest =>
    if byteLength rest ≤ lineLimit then rest
    else
      let part := splitAtByte (partLength line start rest limit) rest
      part.1 ++ foldMark ++
        foldFrom line fuel (start + byteLength part.1) (lineLimit - 1) part.2

/-- A line in parts of at most 75 bytes, the blank at the start of a part not counted. -/
def fold (line : List Char) : List Char := foldFrom line line.length 0 lineLimit line

/-- The marks at which lines are taken together, in the order in which they are looked for. -/
def foldMarks : List (List Char) :=
  [['\r', '\n', ' '], ['\n', ' '], ['\r', '\n', '\t'], ['\n', '\t']]

/-- The parts of a text between the occurrences of `mark`, found from left to right; `skip`
characters of an occurrence are still to be dropped. -/
def splitAtMark (mark : List Char) : (skip : Nat) → List Char → List (List Char)
  | _, [] => [[]]
  | skip + 1, _ :: s => splitAtMark mark skip s
  | 0, c :: s =>
    if mark.isPrefixOf (c :: s) then [] :: splitAtMark mark (mark.length - 1) s
    else
      match splitAtMark mark 0 s with
      | [] => [[c]]
      | part :: parts => (c :: part) :: parts

/-- Takes the parts of folded lines together. Each mark is looked for inside the parts that the
marks before it leave, never across two of them. -/
def unfold (s : List Char) : List Char :=
  (foldMarks.foldl (fun parts mark => parts.flatMap (splitAtMark mark 0)) [s]).flatten

end Almanac.Calendar
