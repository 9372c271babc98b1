import Almanac.Text.Affix
import Almanac.Text.LowerCase

/-!
# Lower case inside a longer text

The lower-case form of a text is made character by character, but for one letter: a capital
sigma looks at what stands around it. So a piece of a longer text has there the lower-case
form that it has on its own just if each of its capital sigmas ends a word there as it does
in the piece alone.
-/

namespace Almanac.Text

/-- A capital sigma with `before` in front of it (last character first) and `after` behind it ends a
word. -/
def endsWord (before after : List Char) : Bool := startsCased before && !startsCased after

/-- The lower-case form of a piece with `before` in front of it (last character first) and `after`
behind it. -/
def lowerWithin (before after : List Char) : List Char → List Char
  | [] => []
  | c :: s =>
    (if c = 'Σ' then [if endsWord before (s ++ after) then 'ς' else 'σ'] else lowerChar c) ++
      lowerWithin (c :: before) after s

/-- Each capital sigma of the piece ends a word between `before` (last character first) and `after`
just if it does so in the piece alone. -/
def KeepsSigmas (before after s : List Char) : Prop :=
  ∀ p q, s = p ++ 'Σ' :: q → endsWord (p.reverse ++ before) (q ++ after) = endsWord p.reverse q

/-- The piece occurs in the text at a place where it keeps its sigmas. -/
def OccursAlike (piece text : List Char) : Prop :=
  ∃ before after, text = before ++ piece ++ after ∧ KeepsSigmas before.reverse after piece

theorem lowerAfter_append (before s t : List Char) :
    lowerAfter before (s ++ t) = lowerWithin before t s ++ lowerAfter (s.reverse ++ before) t := by
  induction s generalizing before with
  | nil => rfl
  | cons c s ih =>
      rw [List.cons_append, lowerAfter, lowerWithin, ih, List.append_assoc, List.reverse_cons,
        List.append_assoc, List.singleton_append]
      congr 1
      unfold endsWord
      split
      next => split <;> rfl
      next => rfl

/-- The lower-case form of a text is that of each of its pieces, between what stands around it. -/
theorem lower_append_append (before piece after : List Char) :
    lower (before ++ piece ++ after) =
      lowerWithin [] (piece ++ after) before ++ lowerWithin before.reverse after piece ++
        lowerAfter (piece.reverse ++ before.reverse) after := by
  rw [lower, List.append_assoc, lowerAfter_append, lowerAfter_append, List.append_nil,
    List.append_assoc]

theorem lower_eq_lowerWithin (s : List Char) : lower s = lowerWithin [] [] s := by
  simpa [lowerAfter, lowerWithin] using lower_append_append [] s []

/-- A piece has the same form at two places just if its sigmas have. -/
theorem lowerWithin_eq_iff (before after before' after' s : List Char) :
    lowerWithin before after s = lowerWithin before' after' s ↔
      ∀ p q, s = p ++ 'Σ' :: q →
        endsWord (p.reverse ++ before) (q ++ after) =
          endsWord (p.reverse ++ before') (q ++ after') := by
  induction s generalizing before before' with
  | nil => simp [lowerWithin]
  | cons c s ih =>
      -- A sigma comes first, or further on behind the first character.
      have hplaces : (∀ p q, c :: s = p ++ 'Σ' :: q →
            endsWord (p.reverse ++ before) (q ++ after) =
              endsWord (p.reverse ++ before') (q ++ after')) ↔
          (c = 'Σ' → endsWord before (s ++ after) = endsWord before' (s ++ after')) ∧
            ∀ p q, s = p ++ 'Σ' :: q →
              endsWord (p.reverse ++ c :: before) (q ++ after) =
                endsWord (p.reverse ++ c :: before') (q ++ after') := by
        constructor
        · intro hall
          refine ⟨fun hc => hall [] s (by rw [hc]; rfl), fun p q hs => ?_⟩
          simpa using hall (c :: p) q (by rw [hs]; rfl)
        · rintro ⟨hfirst, hrest⟩ p q hs
          cases p with
          | nil =>
              obtain ⟨rfl, rfl⟩ := List.cons.inj hs
              exact hfirst rfl
          | cons d p =>
              obtain ⟨rfl, rfl⟩ := List.cons.inj hs
              simpa using hrest p q rfl
      rw [hplaces, ← ih, lowerWithin, lowerWithin]
      by_cases hc : c = 'Σ'
      · rw [if_pos hc, if_pos hc, List.singleton_append, List.singleton_append, List.cons.injEq]
        refine and_congr_left fun _ => ⟨fun heq _ => ?_, fun hends => by rw [hends hc]⟩
        revert heq
        cases endsWord before (s ++ after) <;> cases endsWord before' (s ++ after') <;> decide
      · rw [if_neg hc, if_neg hc, List.append_cancel_left_eq]
        exact (and_iff_right fun heq => absurd heq hc).symm

/-- A piece keeps its lower-case form just where it keeps its sigmas. -/
theorem lowerWithin_eq_lower_iff (before after piece : List Char) :
    lowerWithin before after piece = lower piece ↔ KeepsSigmas before after piece := by
  rw [lower_eq_lowerWithin, lowerWithin_eq_iff]
  simp only [KeepsSigmas, List.append_nil]

/-- What occurs in a text and keeps its sigmas there occurs in lower case as well. -/
theorem hasInfix_lower {piece text : List Char} (hoccurs : OccursAlike piece text) :
    hasInfix (lower piece) (lower text) = true := by
  obtain ⟨before, after, rfl, hsigmas⟩ := hoccurs
  rw [hasInfix_iff, lower_append_append, (lowerWithin_eq_lower_iff _ _ _).mpr hsigmas]
  exact ⟨_, _, rfl⟩

/-- A piece without capital sigmas occurs alike wherever it occurs. -/
theorem occursAlike_of_not_mem {piece text : List Char} (hsigma : 'Σ' ∉ piece)
    (hoccurs : hasInfix piece text = true) : OccursAlike piece text := by
  obtain ⟨before, after, htext⟩ := hasInfix_iff.mp hoccurs
  refine ⟨before, after, htext, fun p q hpiece => absurd ?_ hsigma⟩
  rw [hpiece]
  exact List.mem_append_right p List.mem_cons_self

end Almanac.Text
