/-!
# Escaped text

In a text value a backslash, a comma, a semicolon and a line feed are written
with a backslash before them. Reading also takes a colon and a capital `N` after
a backslash, and leaves any other backslash alone.
-/

namespace Almanac.Calendar

/-- The written form of a text. -/
def escape : List Char → List Char
  | [] => []
  | '\\' :: s => '\\' :: '\\' :: escape s
  | ',' :: s => '\\' :: ',' :: escape s
  | ';' :: s => '\\' :: ';' :: escape s
  | '\n' :: s => '\\' :: 'n' :: escape s
  | c :: s => c :: escape s

/-- What a backslash and the character after it stand for. -/
def escapedChar? : Char → Option Char
  | '\\' => some '\\'
  | ',' => some ','
  | ';' => some ';'
  | ':' => some ':'
  | 'n' => some '\n'
  | 'N' => some '\n'
  | _ => none

/-- The text of a written form. -/
def unescape : List Char → List Char
  | [] => []
  | ['\\'] => ['\\']
  | '\\' :: c :: s =>
    match escapedChar? c with
    | some d => d :: unescape s
    | none => '\\' :: c :: unescape s
  | c :: s => c :: unescape s

theorem unescape_escape (s : List Char) : unescape (escape s) = s := by
  fun_induction escape s with
  | case1 => rfl
  | case2 s ih => simp [unescape, escapedChar?, ih]
  | case3 s ih => simp [unescape, escapedChar?, ih]
  | case4 s ih => simp [unescape, escapedChar?, ih]
  | case5 s ih => simp [unescape, escapedChar?, ih]
  | case6 c s h _ _ _ ih =>
    rw [unescape, ih]
    · rintro rfl; exact absurd rfl h
    · rintro _ _ rfl; exact absurd rfl h

end Almanac.Calendar
