/-!
# Beginnings, endings and inner parts of a text

The three ways in which one text can lie inside another: at its start, at its
end, or anywhere. Each test comes with the remainder that the caller works on.
-/

namespace Almanac.Text

/-- What follows `p` at the start of `s`, if `s` starts with `p`. -/
def dropPrefix? : (p s : List Char) → Option (List Char)
  | [], s => some s
  | _ :: _, [] => none
  | a :: p, b :: s => if a = b then dropPrefix? p s else none

theorem dropPrefix?_eq_some_iff {p s r : List Char} : dropPrefix? p s = some r ↔ s = p ++ r := by
  induction p generalizing s with
  | nil => simp [dropPrefix?, eq_comm]
  | cons a p ih =>
    cases s with
    | nil => simp [dropPrefix?]
    | cons b s =>
      by_cases h : a = b
      · simp [dropPrefix?, h, ih]
      · simp [dropPrefix?, h, Ne.symm h]

/-- What precedes `p` at the end of `s`, if `s` ends with `p`. -/
def dropSuffix? (p s : List Char) : Option (List Char) :=
  (dropPrefix? p.reverse s.reverse).map List.reverse

theorem dropSuffix?_eq_some_iff {p s r : List Char} : dropSuffix? p s = some r ↔ s = r ++ p := by
  constructor
  · intro h
    obtain ⟨t, ht, rfl⟩ := Option.map_eq_some_iff.1 h
    have := dropPrefix?_eq_some_iff.1 ht
    simpa using congrArg List.reverse this
  · rintro rfl
    exact Option.map_eq_some_iff.2 ⟨r.reverse, dropPrefix?_eq_some_iff.2 (by simp), by simp⟩

/-- `p` occurs somewhere in the text. -/
def hasInfix (p : List Char) : List Char → Bool
  | [] => p.isEmpty
  | c :: s => p.isPrefixOf (c :: s) || hasInfix p s

theorem hasInfix_iff {p s : List Char} : hasInfix p s = true ↔ ∃ a b, s = a ++ p ++ b := by
  induction s with
  | nil => simp [hasInfix, List.isEmpty_iff]
  | cons c s ih =>
    simp only [hasInfix, Bool.or_eq_true, ih, List.isPrefixOf_iff_prefix]
    constructor
    · rintro (⟨t, ht⟩ | ⟨a, b, rfl⟩)
      · exact ⟨[], t, by simpa using ht.symm⟩
      · exact ⟨c :: a, b, rfl⟩
    · rintro ⟨a, b, h⟩
      cases a with
      | nil => exact .inl ⟨b, by simpa using h.symm⟩
      | cons d a =>
        simp only [List.cons_append, List.cons.injEq] at h
        exact .inr ⟨a, b, h.2⟩

/-- The text cut at every occurrence of `sep`: one part more than there are separators. -/
def splitAtChar (sep : Char) : List Char → List (List Char)
  | [] => [[]]
  | c :: s =>
    if c = sep then [] :: splitAtChar sep s
    else match splitAtChar sep s with
      | [] => [[c]]
      | part :: parts => (c :: part) :: parts

/-- Everything before the first `sep` and, if there is one, everything after it. -/
def breakAtChar (sep : Char) : List Char → List Char × Option (List Char)
  | [] => ([], none)
  | c :: s =>
    if c = sep then ([], some s)
    else let r := breakAtChar sep s; (c :: r.1, r.2)

end Almanac.Text
