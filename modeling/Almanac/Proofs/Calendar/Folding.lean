import Almanac.Calendar.Fold
import Mathlib.Data.List.Chain

/-!
# Unfolding folded lines

A text is folded by putting marks into it. Unfolding takes out just those marks if the
text itself has no line feed with a space or a tab behind it: a mark overlaps neither
the text around it nor another mark.
-/

namespace Almanac.Calendar

/-- The characters do not make up the end of a mark. -/
def Adjoin (c d : Char) : Prop := c = '\n' → d ≠ ' ' ∧ d ≠ '\t'

instance (c d : Char) : Decidable (Adjoin c d) := inferInstanceAs (Decidable (c = '\n' → _))

/-- The text has no line feed with a space or a tab behind it. -/
abbrev IsUnbroken (s : List Char) : Prop := s.IsChain Adjoin

/-- The first text is the second one with marks put into it. -/
inductive Folded : List Char → List Char → Prop
  | nil : Folded [] []
  | char (c : Char) {t s : List Char} : Folded t s → Folded (c :: t) (c :: s)
  | mark {t s : List Char} : Folded t s → Folded (foldMark ++ t) s

namespace Folded

theorem refl (s : List Char) : Folded s s := by
  induction s with
  | nil => exact .nil
  | cons c s ih => exact .char c ih

theorem append {t s t' s' : List Char} (h : Folded t s) (h' : Folded t' s') :
    Folded (t ++ t') (s ++ s') := by
  induction h with
  | nil => exact h'
  | char c _ ih => exact .char c ih
  | mark _ ih =>
      rw [List.append_assoc]
      exact .mark ih

end Folded

theorem splitAtByte_append (n : Nat) (s : List Char) :
    (splitAtByte n s).1 ++ (splitAtByte n s).2 = s := by
  induction s generalizing n with
  | nil => rfl
  | cons c s ih =>
      unfold splitAtByte
      split
      next => exact congrArg (c :: ·) (ih _)
      next => rfl

theorem folded_foldFrom (line : List Char) (fuel start limit : Nat) (rest : List Char) :
    Folded (foldFrom line fuel start limit rest) rest := by
  induction fuel generalizing start limit rest with
  | zero => exact .refl rest
  | succ fuel ih =>
      unfold foldFrom
      split
      next => exact .refl rest
      next =>
        -- One part, a mark, and what is left, which is folded by induction.
        have hsplit := splitAtByte_append (partLength line start rest limit) rest
        have hfolded := (Folded.refl (splitAtByte (partLength line start rest limit) rest).1).append
          (Folded.mark (ih
            (start + byteLength (splitAtByte (partLength line start rest limit) rest).1)
            (lineLimit - 1) (splitAtByte (partLength line start rest limit) rest).2))
        rw [hsplit, ← List.append_assoc] at hfolded
        exact hfolded

theorem folded_fold (line : List Char) : Folded (fold line) line := folded_foldFrom line _ _ _ line

/-! ## Taking the marks out -/

theorem splitAtMark_ne_nil (mark : List Char) (skip : Nat) (s : List Char) :
    splitAtMark mark skip s ≠ [] := by
  induction s generalizing skip with
  | nil => simp [splitAtMark]
  | cons c s ih =>
      cases skip with
      | succ skip => exact ih skip
      | zero =>
          unfold splitAtMark
          repeat' split
          all_goals simp

theorem flatten_splitAtMark_cons (mark : List Char) (c : Char) (s : List Char)
    (hmark : mark.isPrefixOf (c :: s) = false) :
    (splitAtMark mark 0 (c :: s)).flatten = c :: (splitAtMark mark 0 s).flatten := by
  rw [splitAtMark, hmark, if_neg Bool.false_ne_true]
  cases hsplit : splitAtMark mark 0 s with
  | nil => exact absurd hsplit (splitAtMark_ne_nil mark 0 s)
  | cons part parts => rfl

theorem splitAtMark_eq_singleton (mark : List Char) (s : List Char)
    (hmark : ∀ t, t <:+ s → t ≠ [] → mark.isPrefixOf t = false) : splitAtMark mark 0 s = [s] := by
  induction s with
  | nil => rfl
  | cons c s ih =>
      have hfirst := hmark (c :: s) (List.suffix_refl _) (List.cons_ne_nil c s)
      have hrest := ih fun t ht => hmark t (ht.trans (List.suffix_cons c s))
      rw [splitAtMark, hfirst, if_neg Bool.false_ne_true, hrest]

/-- A text that is unbroken has no mark in it. -/
theorem not_isPrefixOf_of_isUnbroken {mark s : List Char} (hmark : mark ∈ foldMarks)
    (hs : IsUnbroken s) : mark.isPrefixOf s = false := by
  rw [← Bool.not_eq_true, List.isPrefixOf_iff_prefix]
  rintro ⟨rest, rfl⟩
  have hunbroken : IsUnbroken mark := hs.left_of_append
  revert hunbroken
  simp only [foldMarks, List.mem_cons, List.not_mem_nil, or_false] at hmark
  rcases hmark with rfl | rfl | rfl | rfl <;> decide

/-- If there is no mark in the text itself, one begins only where it has been put. -/
theorem flatten_splitAtMark_of_folded {t s : List Char} (h : Folded t s)
    (hs : ∀ u, u <:+ s → foldMark.isPrefixOf u = false) :
    (splitAtMark foldMark 0 t).flatten = s := by
  induction h with
  | nil => rfl
  | @mark t s h ih => exact ih hs
  | @char c t s h ih =>
      have hmark : foldMark.isPrefixOf (c :: t) = false := by
        rw [← Bool.not_eq_true, List.isPrefixOf_iff_prefix]
        rintro ⟨rest, hrest⟩
        obtain ⟨rfl, rfl⟩ := List.cons.inj hrest
        -- The line feed and the space of this mark would belong to the text.
        cases h with
        | char _ h =>
            cases h with
            | char _ h => exact absurd (hs _ (List.suffix_refl _)) (by simp [foldMark])
      have hrest := ih fun u hu => hs u (hu.trans (List.suffix_cons c s))
      rw [flatten_splitAtMark_cons _ _ _ hmark, hrest]

theorem flatMap_splitAtMark_eq {mark : List Char} (hmark : mark ∈ foldMarks)
    (parts : List (List Char)) (hparts : ∀ part ∈ parts, IsUnbroken part) :
    parts.flatMap (splitAtMark mark 0) = parts := by
  induction parts with
  | nil => rfl
  | cons part parts ih =>
      have hpart := hparts part List.mem_cons_self
      rw [List.flatMap_cons, ih fun other hother => hparts other (List.mem_cons_of_mem _ hother),
        splitAtMark_eq_singleton mark part fun t ht _ =>
          not_isPrefixOf_of_isUnbroken hmark (hpart.suffix ht)]
      rfl

/-- Unfolding takes out the marks that have been put into an unbroken text. -/
theorem unfold_of_folded {t s : List Char} (h : Folded t s) (hs : IsUnbroken s) : unfold t = s := by
  have hflatten := flatten_splitAtMark_of_folded h fun u hu =>
    not_isPrefixOf_of_isUnbroken (by decide) (hs.suffix hu)
  have hparts : ∀ part ∈ splitAtMark foldMark 0 t, IsUnbroken part := fun part hpart =>
    hs.infix (hflatten ▸ List.infix_of_mem_flatten hpart)
  -- The parts between the marks are unbroken, so the other three marks are not found in them.
  have hfirst : [t].flatMap (splitAtMark foldMark 0) = splitAtMark foldMark 0 t := by simp
  simp only [Calendar.unfold, foldMarks, List.foldl_cons, List.foldl_nil]
  rw [show (['\r', '\n', ' '] : List Char) = foldMark from rfl, hfirst,
    flatMap_splitAtMark_eq (by decide) _ hparts, flatMap_splitAtMark_eq (by decide) _ hparts,
    flatMap_splitAtMark_eq (by decide) _ hparts]
  exact hflatten

end Almanac.Calendar
