import Almanac.Text.Affix

/-!
# Cutting at a separator

The parts of a text between its separators are those that `List.splitOn` gives. A text put
together from pieces is cut into the parts of its pieces, and pieces that stand around a text
without a separator of their own join its first and its last part.
-/

namespace Almanac.Text

variable {sep : Char}

theorem splitAtChar_eq_splitOn (sep : Char) (s : List Char) :
    splitAtChar sep s = s.splitOn sep := by
  induction s with
  | nil => rfl
  | cons c s ih =>
      rw [List.splitOn, List.splitOnP_cons_eq_if_modifyHead, ← List.splitOn, ← ih, splitAtChar]
      simp only [beq_iff_eq]
      split
      next => rfl
      next =>
        cases hparts : splitAtChar sep s with
        | nil => exact absurd (ih.symm.trans hparts) (List.splitOn_ne_nil sep s)
        | cons part parts => rfl

theorem splitAtChar_of_not_mem {s : List Char} (hsep : sep ∉ s) : splitAtChar sep s = [s] := by
  rw [splitAtChar_eq_splitOn, List.splitOn_eq_singleton hsep]

theorem splitAtChar_ne_nil (sep : Char) (s : List Char) : splitAtChar sep s ≠ [] := by
  rw [splitAtChar_eq_splitOn]
  exact List.splitOn_ne_nil sep s

/-- Each side of a separator is cut on its own. -/
theorem splitAtChar_append_cons (sep : Char) (s t : List Char) :
    splitAtChar sep (s ++ sep :: t) = splitAtChar sep s ++ splitAtChar sep t := by
  simp only [splitAtChar_eq_splitOn, List.splitOn_append_cons_self]

/-- Parts without the separator are what is between the separators. -/
theorem splitAtChar_intercalate {parts : List (List Char)} (hne : parts ≠ [])
    (hparts : ∀ part ∈ parts, sep ∉ part) :
    splitAtChar sep ([sep].intercalate parts) = parts := by
  rw [splitAtChar_eq_splitOn, List.splitOn_intercalate sep hparts hne]

theorem intercalate_splitAtChar (sep : Char) (s : List Char) :
    [sep].intercalate (splitAtChar sep s) = s := by
  rw [splitAtChar_eq_splitOn, List.intercalate_splitOn]

/-- Pieces with separators between them are cut one by one. -/
theorem splitAtChar_intercalate_flatMap {pieces : List (List Char)} (hne : pieces ≠ []) :
    splitAtChar sep ([sep].intercalate pieces) = pieces.flatMap (splitAtChar sep) := by
  induction pieces with
  | nil => exact absurd rfl hne
  | cons piece pieces ih =>
      cases pieces with
      | nil => simp
      | cons second pieces =>
          rw [List.intercalate_cons_cons, List.append_assoc, List.singleton_append,
            splitAtChar_append_cons, ih (List.cons_ne_nil second pieces)]
          rfl

theorem intercalate_append {first second : List (List Char)} (hfirst : first ≠ [])
    (hsecond : second ≠ []) :
    [sep].intercalate (first ++ second) =
      [sep].intercalate first ++ sep :: [sep].intercalate second := by
  induction first with
  | nil => exact absurd rfl hfirst
  | cons part parts ih =>
      cases parts with
      | nil => simp [List.intercalate_cons_of_ne_nil hsecond]
      | cons next parts =>
          have hrest := ih (List.cons_ne_nil next parts)
          rw [List.cons_append] at hrest
          rw [List.cons_append, List.cons_append, List.intercalate_cons_cons, hrest,
            List.intercalate_cons_cons]
          simp only [List.append_assoc, List.cons_append]

/-- The parts are made of the characters of the text, without the separator. -/
theorem mem_of_mem_splitAtChar {s part : List Char} (hpart : part ∈ splitAtChar sep s) {c : Char}
    (hc : c ∈ part) : c ∈ s ∧ c ≠ sep := by
  induction s generalizing part with
  | nil =>
      obtain rfl := List.mem_singleton.mp hpart
      cases hc
  | cons d s ih =>
      rw [splitAtChar_eq_splitOn, List.splitOn_cons_eq_if_modifyHead,
        ← splitAtChar_eq_splitOn] at hpart
      have hlater : ∀ {other}, other ∈ splitAtChar sep s → c ∈ other → c ∈ d :: s ∧ c ≠ sep :=
        fun hother hc => ⟨List.mem_cons_of_mem d (ih hother hc).1, (ih hother hc).2⟩
      cases hparts : splitAtChar sep s with
      | nil => exact absurd hparts (splitAtChar_ne_nil sep s)
      | cons first parts =>
          rw [hparts] at hpart hlater
          split at hpart
          next hd =>
            rcases List.mem_cons.mp hpart with rfl | hpart
            · cases hc
            · exact hlater hpart hc
          next hd =>
            rcases List.mem_cons.mp hpart with rfl | hpart
            · rcases List.mem_cons.mp hc with rfl | hc
              · exact ⟨List.mem_cons_self, fun heq => hd (beq_iff_eq.mpr heq)⟩
              · exact hlater List.mem_cons_self hc
            · exact hlater (List.mem_cons_of_mem _ hpart) hc

theorem not_mem_of_mem_splitAtChar {s part : List Char} (hpart : part ∈ splitAtChar sep s) :
    sep ∉ part :=
  fun hmem => (mem_of_mem_splitAtChar hpart hmem).2 rfl

/-- A text behind the last part joins it. -/
theorem splitAtChar_append_of_not_mem {s last post : List Char} {parts : List (List Char)}
    (hparts : splitAtChar sep s = parts ++ [last]) (hpost : sep ∉ post) :
    splitAtChar sep (s ++ post) = parts ++ [last ++ post] := by
  have htext : s ++ post = [sep].intercalate (parts ++ [last ++ post]) := by
    rw [← intercalate_splitAtChar sep s, hparts]
    cases parts with
    | nil => simp
    | cons part parts =>
        rw [intercalate_append (by simp) (by simp), intercalate_append (by simp) (by simp)]
        simp
  have hfree : ∀ part ∈ parts ++ [last], sep ∉ part := fun part hpart =>
    not_mem_of_mem_splitAtChar (hparts ▸ hpart)
  rw [htext, splitAtChar_intercalate (by simp)]
  intro part hpart
  rcases List.mem_append.mp hpart with hpart | hpart
  · exact hfree part (List.mem_append_left _ hpart)
  · rw [List.mem_singleton.mp hpart, List.mem_append, not_or]
    exact ⟨hfree last (by simp), hpost⟩

/-- Texts around one that has the separator join its first and its last part. -/
theorem exists_splitAtChar_enclosed {s pre post : List Char} (hs : sep ∈ s) (hpre : sep ∉ pre)
    (hpost : sep ∉ post) :
    ∃ first last, splitAtChar sep s = first :: ((splitAtChar sep s).tail.dropLast ++ [last]) ∧
      splitAtChar sep (pre ++ s ++ post) =
        (pre ++ first) :: ((splitAtChar sep s).tail.dropLast ++ [last ++ post]) := by
  obtain ⟨first, rest, rfl, hfirst⟩ := List.eq_append_cons_of_mem hs
  have hcut : splitAtChar sep (first ++ sep :: rest) = first :: splitAtChar sep rest := by
    rw [splitAtChar_append_cons, splitAtChar_of_not_mem hfirst, List.singleton_append]
  have houter : splitAtChar sep (pre ++ (first ++ sep :: rest) ++ post) =
      (pre ++ first) :: splitAtChar sep (rest ++ post) := by
    have hshape : pre ++ (first ++ sep :: rest) ++ post =
        pre ++ first ++ sep :: (rest ++ post) := by
      simp
    rw [hshape, splitAtChar_append_cons, splitAtChar_of_not_mem (by simp [hpre, hfirst]),
      List.singleton_append]
  have hlast := List.dropLast_concat_getLast (splitAtChar_ne_nil sep rest)
  refine ⟨first, (splitAtChar sep rest).getLast (splitAtChar_ne_nil sep rest), ?_, ?_⟩
  · rw [hcut, List.tail_cons, hlast]
  · rw [houter, hcut, List.tail_cons, splitAtChar_append_of_not_mem hlast.symm hpost]

/-- The parts that have separators on both sides. -/
theorem mem_inner_parts_iff {s part : List Char} (hpart : sep ∉ part) :
    part ∈ (splitAtChar sep s).tail.dropLast ↔ sep :: (part ++ [sep]) <:+: s := by
  constructor
  · intro hmem
    have hs : sep ∈ s := Classical.byContradiction fun hnot => by
      simp [splitAtChar_of_not_mem hnot] at hmem
    have hnone : sep ∉ ([] : List Char) := List.not_mem_nil
    obtain ⟨first, last, hcut, _⟩ := exists_splitAtChar_enclosed hs hnone hnone
    obtain ⟨before, after, hmiddle⟩ := List.append_of_mem hmem
    rw [hmiddle] at hcut
    have hshape : first :: (before ++ part :: after ++ [last]) =
        (first :: before) ++ ([part] ++ (after ++ [last])) := by simp
    refine ⟨[sep].intercalate (first :: before), [sep].intercalate (after ++ [last]), ?_⟩
    rw [← intercalate_splitAtChar sep s, hcut, hshape,
      intercalate_append (List.cons_ne_nil first before) (by simp),
      intercalate_append (List.cons_ne_nil part []) (by simp), List.intercalate_singleton]
    simp only [List.append_assoc, List.cons_append, List.nil_append]
  · rintro ⟨before, after, rfl⟩
    have hcut : splitAtChar sep (before ++ sep :: (part ++ [sep]) ++ after) =
        splitAtChar sep before ++ ([part] ++ splitAtChar sep after) := by
      have hshape : before ++ sep :: (part ++ [sep]) ++ after =
          before ++ sep :: (part ++ sep :: after) := by simp
      rw [hshape, splitAtChar_append_cons, splitAtChar_append_cons, splitAtChar_of_not_mem hpart]
    rw [hcut]
    obtain ⟨first, parts, hfirst⟩ :=
      List.exists_cons_of_ne_nil (splitAtChar_ne_nil sep before)
    rw [hfirst, List.cons_append, List.tail_cons, ← List.append_assoc,
      List.dropLast_append_of_ne_nil (splitAtChar_ne_nil sep after)]
    simp

end Almanac.Text
