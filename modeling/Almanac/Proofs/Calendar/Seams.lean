import Almanac.Proofs.Calendar.Lines

/-!
# Unfolding one text behind another

In a mark a line feed stands behind the carriage return and a blank behind the line
feed. Two texts that meet neither way are unfolded one without the other. What a text
without line ends loses when it is folded and unfolded are line feeds with a blank
behind them, so that it still has no line ends then.
-/

namespace Almanac.Calendar

/-! ## The parts of a text -/

theorem splitAtMark_found {mark s : List Char} {c : Char}
    (hmark : mark.isPrefixOf (c :: s) = true) :
    splitAtMark mark 0 (c :: s) = [] :: splitAtMark mark (mark.length - 1) s := by
  rw [splitAtMark, if_pos hmark]

theorem splitAtMark_missed {mark s part : List Char} {parts : List (List Char)} {c : Char}
    (hmark : mark.isPrefixOf (c :: s) = false) (hs : splitAtMark mark 0 s = part :: parts) :
    splitAtMark mark 0 (c :: s) = (c :: part) :: parts := by
  rw [splitAtMark, hmark, if_neg Bool.false_ne_true, hs]

theorem exists_splitAtMark_eq (mark s : List Char) :
    ∃ part parts, splitAtMark mark 0 s = part :: parts :=
  List.exists_cons_of_ne_nil (splitAtMark_ne_nil mark 0 s)

/-- The text is its parts with the mark between them. -/
theorem intercalate_splitAtMark {mark : List Char} (hne : mark ≠ []) (skip : Nat)
    (s : List Char) : mark.intercalate (splitAtMark mark skip s) = s.drop skip := by
  induction s generalizing skip with
  | nil => simp [splitAtMark]
  | cons c s ih =>
      cases skip with
      | succ skip => exact ih skip
      | zero =>
          cases hmark : mark.isPrefixOf (c :: s) with
          | true =>
              obtain ⟨rest, hrest⟩ := List.isPrefixOf_iff_prefix.mp hmark
              obtain ⟨d, mark, rfl⟩ := List.exists_cons_of_ne_nil hne
              obtain ⟨rfl, rfl⟩ := List.cons.inj hrest
              rw [splitAtMark_found hmark,
                List.intercalate_cons_of_ne_nil (splitAtMark_ne_nil _ _ _), ih]
              simp
          | false =>
              obtain ⟨part, parts, hsplit⟩ := exists_splitAtMark_eq mark s
              have hrest := ih 0
              rw [hsplit] at hrest
              rw [splitAtMark_missed hmark hsplit]
              cases parts with
              | nil => simpa using hrest
              | cons other parts =>
                  rw [List.intercalate_cons_cons] at hrest ⊢
                  simpa using hrest

theorem eq_of_splitAtMark_eq_singleton {mark s part : List Char} (hne : mark ≠ [])
    (h : splitAtMark mark 0 s = [part]) : part = s := by
  have hs := intercalate_splitAtMark hne 0 s
  rwa [h, List.intercalate_singleton] at hs

/-- The first part is the beginning of the text. -/
theorem prefix_of_splitAtMark {mark s first : List Char} {after : List (List Char)}
    (hne : mark ≠ []) (h : splitAtMark mark 0 s = first :: after) : first <+: s := by
  have hs := intercalate_splitAtMark hne 0 s
  rw [h, List.drop_zero] at hs
  cases after with
  | nil => exact ⟨[], by simpa using hs⟩
  | cons part parts =>
      rw [List.intercalate_cons_cons, List.append_assoc] at hs
      exact ⟨_, hs⟩

/-! ## Two texts -/

/-- No mark lies across the place where the two texts meet. -/
def Meets (s t : List Char) : Prop :=
  ∀ c ∈ s.getLast?, ∀ d ∈ t.head?, (c = '\r' → d ≠ '\n') ∧ Adjoin c d

/-- Where the one text ends and the other begins, parts of them meet as they do. -/
theorem Meets.of_parts {s t last first : List Char} (h : Meets s t) (hlast : last <:+ s)
    (hfirst : first <+: t) : Meets last first := by
  intro c hc d hd
  obtain ⟨before, rfl⟩ := hlast
  obtain ⟨after, rfl⟩ := hfirst
  refine h c ?_ d ?_
  · rw [List.getLast?_append, Option.mem_def.mp hc, Option.some_or]
    rfl
  · rw [List.head?_append, Option.mem_def.mp hd, Option.some_or]
    rfl

theorem ne_nil_of_mem_foldMarks {mark : List Char} (hmark : mark ∈ foldMarks) : mark ≠ [] := by
  rintro rfl
  exact absurd hmark (by decide)

/-- A mark at the start of both texts together lies in the first one. -/
theorem prefix_of_meets {mark s t : List Char} (hmark : mark ∈ foldMarks) (hs : s ≠ [])
    (hmeets : Meets s t) (h : mark <+: s ++ t) : mark <+: s := by
  rcases List.prefix_or_prefix_of_prefix h (List.prefix_append s t) with hinside | ⟨u, rfl⟩
  · exact hinside
  · cases u with
    | nil => simp
    | cons d u =>
        -- The last character of the one text and the first of the other would lie in the mark.
        have hchain : ∀ m ∈ foldMarks,
            m.IsChain fun c d => ¬((c = '\r' → d ≠ '\n') ∧ Adjoin c d) := by decide
        obtain ⟨v, rfl⟩ := (List.prefix_append_right_inj s).mp h
        have hacross := (List.isChain_append.mp (hchain _ hmark)).2.2 (s.getLast hs)
          (List.getLast?_eq_some_getLast hs) d rfl
        exact absurd (hmeets _ (List.getLast?_eq_some_getLast hs) d rfl) hacross

theorem isPrefixOf_append_of_meets {mark s t : List Char} (hmark : mark ∈ foldMarks)
    (hs : s ≠ []) (hmeets : Meets s t) : mark.isPrefixOf (s ++ t) = mark.isPrefixOf s := by
  rw [Bool.eq_iff_iff, List.isPrefixOf_iff_prefix, List.isPrefixOf_iff_prefix]
  exact ⟨prefix_of_meets hmark hs hmeets, fun h => h.trans (List.prefix_append s t)⟩

/-- Two texts together have the parts that they have alone, but that the last part of the one and
the first part of the other are one part. -/
theorem splitAtMark_append {mark : List Char} (hmark : mark ∈ foldMarks) {s t : List Char}
    (hmeets : Meets s t) {skip : Nat} (hskip : skip ≤ s.length) :
    ∃ before last first after, splitAtMark mark skip s = before ++ [last] ∧
      splitAtMark mark 0 t = first :: after ∧
      splitAtMark mark skip (s ++ t) = before ++ (last ++ first) :: after ∧ last <:+ s := by
  induction s generalizing skip with
  | nil =>
      obtain rfl : skip = 0 := Nat.le_zero.mp hskip
      obtain ⟨first, after, hsplit⟩ := exists_splitAtMark_eq mark t
      exact ⟨[], [], first, after, rfl, hsplit, hsplit, List.suffix_refl _⟩
  | cons c s ih =>
      have hrest : Meets s t := hmeets.of_parts (List.suffix_cons c s) (List.prefix_refl t)
      have hboth : mark.isPrefixOf (c :: (s ++ t)) = mark.isPrefixOf (c :: s) :=
        isPrefixOf_append_of_meets hmark (List.cons_ne_nil c s) hmeets
      cases skip with
      | succ skip =>
          obtain ⟨before, last, first, after, hs, ht, hall, hlast⟩ :=
            ih hrest (Nat.le_of_succ_le_succ hskip)
          exact ⟨before, last, first, after, hs, ht, hall, hlast.trans (List.suffix_cons c s)⟩
      | zero =>
          cases hfound : mark.isPrefixOf (c :: s) with
          | true =>
              have hlength : mark.length - 1 ≤ s.length :=
                Nat.sub_le_of_le_add (List.isPrefixOf_iff_prefix.mp hfound).length_le
              obtain ⟨before, last, first, after, hs, ht, hall, hlast⟩ := ih hrest hlength
              refine ⟨[] :: before, last, first, after, ?_, ht, ?_,
                hlast.trans (List.suffix_cons c s)⟩
              · rw [splitAtMark_found hfound, hs]
                rfl
              · rw [List.cons_append, splitAtMark_found (hboth.trans hfound), hall]
                rfl
          | false =>
              obtain ⟨before, last, first, after, hs, ht, hall, hlast⟩ :=
                ih hrest (Nat.zero_le _)
              cases before with
              | nil =>
                  obtain rfl := eq_of_splitAtMark_eq_singleton (ne_nil_of_mem_foldMarks hmark) hs
                  exact ⟨[], c :: last, first, after, splitAtMark_missed hfound hs, ht,
                    splitAtMark_missed (hboth.trans hfound) hall, List.suffix_refl _⟩
              | cons part before =>
                  exact ⟨(c :: part) :: before, last, first, after, splitAtMark_missed hfound hs,
                    ht, splitAtMark_missed (hboth.trans hfound) hall,
                    hlast.trans (List.suffix_cons c s)⟩

/-- The parts of a text after some marks have been looked for. -/
def partsAt (marks : List (List Char)) (parts : List (List Char)) : List (List Char) :=
  marks.foldl (fun parts mark => parts.flatMap (splitAtMark mark 0)) parts

theorem unfold_eq (s : List Char) : unfold s = (partsAt foldMarks [s]).flatten := rfl

theorem flatten_partsAt_append {marks : List (List Char)} (hmarks : ∀ m ∈ marks, m ∈ foldMarks)
    (before after : List (List Char)) {last first : List Char} (hmeets : Meets last first) :
    (partsAt marks (before ++ (last ++ first) :: after)).flatten =
      (partsAt marks (before ++ [last])).flatten ++ (partsAt marks (first :: after)).flatten := by
  induction marks generalizing before after last first with
  | nil => simp [partsAt]
  | cons mark marks ih =>
      have hmark := hmarks mark List.mem_cons_self
      obtain ⟨before', last', first', after', hlast, hfirst, hboth, hsuffix⟩ :=
        splitAtMark_append hmark hmeets (Nat.zero_le _)
      have hrest := ih (fun m hm => hmarks m (List.mem_cons_of_mem _ hm))
        (before.flatMap (splitAtMark mark 0) ++ before')
        (after' ++ after.flatMap (splitAtMark mark 0))
        (hmeets.of_parts hsuffix (prefix_of_splitAtMark (ne_nil_of_mem_foldMarks hmark) hfirst))
      simp only [partsAt, List.foldl_cons, List.flatMap_append, List.flatMap_cons,
        List.flatMap_nil, hlast, hfirst, hboth, List.append_nil] at hrest ⊢
      simpa only [List.append_assoc, List.cons_append] using hrest

/-- Texts that meet well are unfolded one without the other. -/
theorem unfold_append {s t : List Char} (hmeets : Meets s t) :
    unfold (s ++ t) = unfold s ++ unfold t :=
  flatten_partsAt_append (fun _ hm => hm) [] [] hmeets

/-! ## What is lost -/

/-- The first text is the second one without some of its line feeds that have a blank behind them,
and without these blanks. -/
inductive Thinned : List Char → List Char → Prop
  | nil : Thinned [] []
  | char (c : Char) {t s : List Char} : Thinned t s → Thinned (c :: t) (c :: s)
  | gap {b : Char} (hb : b = ' ' ∨ b = '\t') {t s : List Char} :
      Thinned t s → Thinned t ('\n' :: b :: s)

namespace Thinned

theorem refl (s : List Char) : Thinned s s := by
  induction s with
  | nil => exact .nil
  | cons c s ih => exact .char c ih

theorem append {t s t' s' : List Char} (h : Thinned t s) (h' : Thinned t' s') :
    Thinned (t ++ t') (s ++ s') := by
  induction h with
  | nil => exact h'
  | char c _ ih => exact .char c ih
  | gap hb _ ih => exact .gap hb ih

theorem flatMap {f : List Char → List Char} (parts : List (List Char))
    (hf : ∀ part ∈ parts, Thinned (f part) part) : Thinned (parts.flatMap f) parts.flatten := by
  induction parts with
  | nil => exact .nil
  | cons part parts ih =>
      rw [List.flatMap_cons, List.flatten_cons]
      exact (hf part List.mem_cons_self).append
        (ih fun other hother => hf other (List.mem_cons_of_mem _ hother))

/-- The gaps between the parts may go. -/
theorem intercalate {b : Char} (hb : b = ' ' ∨ b = '\t') {f : List Char → List Char}
    (parts : List (List Char)) (hf : ∀ part ∈ parts, Thinned (f part) part) :
    Thinned (parts.flatMap f) (['\n', b].intercalate parts) := by
  induction parts with
  | nil => exact .nil
  | cons part parts ih =>
      have hfirst := hf part List.mem_cons_self
      have hrest := ih fun other hother => hf other (List.mem_cons_of_mem _ hother)
      cases parts with
      | nil => simpa using hfirst
      | cons other parts =>
          rw [List.flatMap_cons, List.intercalate_cons_cons, List.append_assoc]
          exact hfirst.append (.gap hb hrest)

/-- What stands in front of all line feeds is kept. -/
theorem exists_append {t s s' : List Char} (hs : '\n' ∉ s) (h : Thinned t (s ++ s')) :
    ∃ t', t = s ++ t' ∧ Thinned t' s' := by
  induction s generalizing t with
  | nil => exact ⟨t, rfl, h⟩
  | cons c s ih =>
      rw [List.mem_cons, not_or] at hs
      generalize hwhole : c :: s ++ s' = whole at h
      cases h with
      | nil => cases hwhole
      | char _ h =>
          obtain ⟨rfl, rfl⟩ := List.cons.inj hwhole
          obtain ⟨t', rfl, ht'⟩ := ih hs.2 h
          exact ⟨t', rfl, ht'⟩
      | gap => exact absurd (List.cons.inj hwhole).1.symm hs.1

/-- Without its gaps the text has no line end that it had not before. -/
theorem isOneLine_cons {t s : List Char} (h : Thinned t s) {c : Char} (hs : IsOneLine (c :: s)) :
    IsOneLine (c :: t) := by
  induction h generalizing c with
  | nil => exact .singleton c
  | char d _ ih =>
      obtain ⟨hfirst, hrest⟩ := List.isChain_cons_cons.mp hs
      exact List.isChain_cons_cons.mpr ⟨hfirst, ih hrest⟩
  | gap hb h ih =>
      obtain ⟨hfirst, hrest⟩ := List.isChain_cons_cons.mp hs
      have hc : c ≠ '\r' := fun heq => hfirst heq rfl
      have hbehind : IsOneLine _ := hrest.tail.tail
      exact ih (hbehind.cons fun _ _ heq => absurd heq hc)

theorem isOneLine {t s : List Char} (h : Thinned t s) (hs : IsOneLine s) : IsOneLine t :=
  (h.isOneLine_cons (c := ' ') (hs.cons fun _ _ heq => absurd heq (by decide))).tail

end Thinned

theorem not_isPrefixOf_of_isOneLine (rest : List Char) {s : List Char} (hs : IsOneLine s) :
    ('\r' :: '\n' :: rest).isPrefixOf s = false := by
  rw [← Bool.not_eq_true, List.isPrefixOf_iff_prefix]
  rintro ⟨after, rfl⟩
  exact (List.isChain_cons_cons.mp hs).1 rfl rfl

theorem infix_intercalate {mark part : List Char} {parts : List (List Char)}
    (hpart : part ∈ parts) : part <:+: mark.intercalate parts := by
  induction parts with
  | nil => cases hpart
  | cons first parts ih =>
      cases parts with
      | nil =>
          obtain rfl := List.mem_singleton.mp hpart
          simp
      | cons other parts =>
          rw [List.intercalate_cons_cons]
          rcases List.mem_cons.mp hpart with rfl | hpart
          · exact ((List.prefix_append part mark).trans (List.prefix_append _ _)).isInfix
          · exact (ih hpart).trans (List.suffix_append _ _).isInfix

theorem flatten_partsAt (marks : List (List Char)) (parts : List (List Char)) :
    (partsAt marks parts).flatten = parts.flatMap fun part => (partsAt marks [part]).flatten := by
  induction marks generalizing parts with
  | nil => simp [partsAt]
  | cons mark marks ih =>
      have hstep (ps : List (List Char)) : partsAt (mark :: marks) ps =
          partsAt marks (ps.flatMap (splitAtMark mark 0)) := rfl
      simp only [hstep]
      rw [ih, List.flatMap_assoc]
      refine List.flatMap_congr fun part _ => ?_
      rw [List.flatMap_singleton, ih]

/-- Looking for marks in a text without line ends takes away no more than its gaps. -/
theorem thinned_partsAt {marks : List (List Char)} (hmarks : ∀ m ∈ marks, m ∈ foldMarks)
    {s : List Char} (hs : IsOneLine s) : Thinned (partsAt marks [s]).flatten s := by
  induction marks generalizing s with
  | nil => simpa [partsAt] using Thinned.refl s
  | cons mark marks ih =>
      have hmark := hmarks mark List.mem_cons_self
      have hrest {part : List Char} (hpart : IsOneLine part) :=
        ih (fun m hm => hmarks m (List.mem_cons_of_mem _ hm)) hpart
      have hshape : (partsAt (mark :: marks) [s]).flatten =
          (splitAtMark mark 0 s).flatMap fun part => (partsAt marks [part]).flatten := by
        rw [← flatten_partsAt]
        simp [partsAt]
      have hwhole := intercalate_splitAtMark (ne_nil_of_mem_foldMarks hmark) 0 s
      rw [List.drop_zero] at hwhole
      have hparts : ∀ part ∈ splitAtMark mark 0 s, Thinned (partsAt marks [part]).flatten part :=
        fun part hpart => hrest <| hs.infix (hwhole ▸ infix_intercalate hpart)
      have hreturn (rest : List Char) (hm : mark = '\r' :: '\n' :: rest) :
          Thinned (partsAt (mark :: marks) [s]).flatten s := by
        have hsplit : splitAtMark mark 0 s = [s] := splitAtMark_eq_singleton mark s fun u hu _ =>
          hm ▸ not_isPrefixOf_of_isOneLine rest (hs.suffix hu)
        rw [hshape, hsplit, List.flatMap_singleton]
        exact hrest hs
      have hfeed (b : Char) (hb : b = ' ' ∨ b = '\t') (hm : mark = ['\n', b]) :
          Thinned (partsAt (mark :: marks) [s]).flatten s := by
        have hthin := Thinned.intercalate hb _ hparts
        rwa [← hm, hwhole, ← hshape] at hthin
      simp only [foldMarks, List.mem_cons, List.not_mem_nil, or_false] at hmark
      rcases hmark with rfl | rfl | rfl | rfl
      · exact hreturn _ rfl
      · exact hfeed _ (.inl rfl) rfl
      · exact hreturn _ rfl
      · exact hfeed _ (.inr rfl) rfl

/-- Of a text without line ends that has been folded, unfolding takes away no more than the gaps. -/
theorem thinned_unfold {t s : List Char} (h : Folded t s) (hs : IsOneLine s) :
    Thinned (unfold t) s := by
  have hflatten : (splitAtMark foldMark 0 t).flatten = s :=
    flatten_splitAtMark_of_folded h fun u hu => not_isPrefixOf_of_isOneLine [' '] (hs.suffix hu)
  have hparts : ∀ part ∈ splitAtMark foldMark 0 t,
      Thinned (partsAt foldMarks.tail [part]).flatten part := fun part hpart =>
    thinned_partsAt (by decide) <| hs.infix (hflatten ▸ List.infix_of_mem_flatten hpart)
  have hunfold : unfold t =
      (splitAtMark foldMark 0 t).flatMap fun part => (partsAt foldMarks.tail [part]).flatten := by
    rw [← flatten_partsAt]
    simp [unfold_eq, partsAt, foldMarks, foldMark]
  rw [hunfold, ← hflatten]
  exact Thinned.flatMap _ hparts

end Almanac.Calendar
