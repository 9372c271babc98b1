/-!
# Blank characters

The blanks are the characters with the Unicode property White_Space. Names,
addresses and header fields are compared after the blanks around them are cut
off.
-/

namespace Almanac.Text

/-- A character with the Unicode property White_Space. -/
def isBlank (c : Char) : Bool :=
  let n := c.toNat
  (9 ≤ n && n ≤ 13) || n == 0x20 || n == 0x85 || n == 0xA0 || n == 0x1680 ||
    (0x2000 ≤ n && n ≤ 0x200A) || n == 0x2028 || n == 0x2029 || n == 0x202F ||
    n == 0x205F || n == 0x3000

/-- The characters from the first one that is not blank. -/
def trimStart (s : List Char) : List Char := s.dropWhile isBlank

/-- The characters up to the last one that is not blank. -/
def trimEnd (s : List Char) : List Char := (s.reverse.dropWhile isBlank).reverse

/-- A text without the blanks around it. -/
def trim (s : List Char) : List Char := trimEnd (trimStart s)

/-- Nothing is left of the text once its blanks are gone. -/
def isBlankText (s : String) : Bool := s.toList.all isBlank

theorem trimStart_append_of_blank (w s : List Char) (h : ∀ c ∈ w, isBlank c) :
    trimStart (w ++ s) = trimStart s := by
  simp [trimStart, List.dropWhile_append_of_pos h]

end Almanac.Text
