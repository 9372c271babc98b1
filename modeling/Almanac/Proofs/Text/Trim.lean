import Almanac.Text.Blank
import Mathlib.Data.List.TakeWhile

/-!
# Texts that stay whole

Trimming leaves a text alone that has no blank at either end, and takes off just the blanks
that are put around it.
-/

namespace Almanac.Text

theorem dropWhile_of_head? {p : Char → Bool} {s : List Char}
    (hhead : ∀ c, s.head? = some c → p c = false) : s.dropWhile p = s := by
  cases s with
  | nil => rfl
  | cons c s => exact List.dropWhile_cons_of_neg (by simp [hhead c rfl])

theorem trim_of_ends {s : List Char} (hfirst : ∀ c, s.head? = some c → isBlank c = false)
    (hlast : ∀ c, s.getLast? = some c → isBlank c = false) : trim s = s := by
  unfold trim trimStart trimEnd
  rw [dropWhile_of_head? hfirst, dropWhile_of_head?, List.reverse_reverse]
  intro c hc
  rw [List.head?_reverse] at hc
  exact hlast c hc

/-- The blanks around a text are cut off, and no more if it has none at its ends. -/
theorem trim_append_of_blank {before after s : List Char} (hbefore : ∀ c ∈ before, isBlank c)
    (hafter : ∀ c ∈ after, isBlank c) (hne : s ≠ [])
    (hfirst : ∀ c, s.head? = some c → isBlank c = false)
    (hlast : ∀ c, s.getLast? = some c → isBlank c = false) :
    trim (before ++ s ++ after) = s := by
  have hstart : trimStart (before ++ s ++ after) = s ++ after := by
    rw [List.append_assoc, trimStart_append_of_blank before _ hbefore]
    apply dropWhile_of_head?
    intro c hc
    rw [List.head?_append, List.head?_eq_some_head hne, Option.some_or] at hc
    exact hfirst c ((List.head?_eq_some_head hne).trans hc)
  have hend : (s ++ after).reverse.dropWhile isBlank = s.reverse := by
    rw [List.reverse_append, List.dropWhile_append_of_pos (by simpa using hafter)]
    apply dropWhile_of_head?
    intro c hc
    rw [List.head?_reverse] at hc
    exact hlast c hc
  rw [trim, hstart, trimEnd, hend, List.reverse_reverse]

theorem isBlank_of_head?_dropWhile (s : List Char) :
    ∀ c, (s.dropWhile isBlank).head? = some c → isBlank c = false := by
  intro c hc
  have hnot := List.head?_dropWhile_not isBlank s
  rw [hc] at hnot
  simpa using hnot

/-- A trimmed text has no blank at its end. -/
theorem isBlank_of_getLast?_trim (s : List Char) :
    ∀ c, (trim s).getLast? = some c → isBlank c = false := by
  intro c hc
  rw [trim, trimEnd, List.getLast?_reverse] at hc
  exact isBlank_of_head?_dropWhile _ c hc

/-- A trimmed text has no blank at its beginning. -/
theorem isBlank_of_head?_trim (s : List Char) :
    ∀ c, (trim s).head? = some c → isBlank c = false := by
  intro c hc
  obtain ⟨after, hafter⟩ : trimEnd (trimStart s) <+: trimStart s := by
    rw [trimEnd, ← List.reverse_suffix, List.reverse_reverse]
    exact List.dropWhile_suffix _
  apply isBlank_of_head?_dropWhile s
  show (trimStart s).head? = some c
  rw [← hafter, List.head?_append]
  exact congrArg (Option.or · _) hc

/-- Only of blanks is nothing left. -/
theorem trim_eq_nil_iff (s : List Char) : trim s = [] ↔ ∀ c ∈ s, isBlank c = true := by
  rw [trim, trimEnd, List.reverse_eq_nil_iff, List.dropWhile_eq_nil_iff]
  simp only [List.mem_reverse]
  constructor
  · intro hblank
    have hnil : trimStart s = [] := by
      cases hstart : trimStart s with
      | nil => rfl
      | cons c rest =>
          have hfirst := isBlank_of_head?_dropWhile s c (congrArg List.head? hstart)
          rw [hblank c (hstart ▸ List.mem_cons_self)] at hfirst
          cases hfirst
    exact List.dropWhile_eq_nil_iff.mp hnil
  · intro hblank c hc
    exact hblank c ((List.dropWhile_suffix isBlank).subset hc)

end Almanac.Text
