import Almanac.Proofs.Http.TagList

/-!
# Tags that are cut

A list of tags is cut at every comma, those inside of tags too. The parts of a tag that is cut
are not mistaken for the tag of a calendar: the outer ones have one quotation mark each, the
inner ones none, and the tag of a calendar has two. But an inner part may be a star. Of a list
on several lines, only the first line is read.
-/

namespace Almanac.Http

open Merge (Merged)

/-- A tag of the list has a star between two commas. -/
def HasLoneStar (items : List ListItem) : Prop :=
  ∃ tag ∈ items.filterMap ListItem.tag?, [',', '*', ','] <:+: tag.inner

/-- The tag of a calendar as a client gives it back. -/
def EntityTag.of (weak : Bool) (calendar : String) : EntityTag := (NamedTag.of weak calendar).entity

theorem EntityTag.quoted_of (weak : Bool) (calendar : String) :
    (of weak calendar).quoted = (Merge.etagOf calendar).toList := String.toList_ofList.symm

/-- A tag with another character than hexadecimal digits is not that of a calendar. -/
theorem not_names_alone {tag : EntityTag} {c : Char} (hc : c ∈ tag.inner)
    (hhex : Text.hexValue? c = none) (calendar : String) :
    ¬Names [tag.alone] (Merge.etagOf calendar) := by
  rw [names_alone, ← EntityTag.quoted_of false]
  intro heq
  have hinner : tag.inner = (EntityTag.of false calendar).inner := by
    simpa [EntityTag.quoted] using heq
  rw [hinner] at hc
  have hdigit := (NamedTag.of false calendar).hex c hc
  rw [hhex] at hdigit
  cases hdigit

/-! ## Quotation marks of the parts -/

theorem count_dropWhile_isBlank (s : List Char) :
    (s.dropWhile Text.isBlank).count '"' = s.count '"' := by
  have hblanks : (s.takeWhile Text.isBlank).count '"' = 0 := by
    refine List.count_eq_zero.mpr fun hmem => ?_
    have hblank := List.all_eq_true.mp List.all_takeWhile _ hmem
    revert hblank
    decide
  have hsplit := congrArg (List.count '"')
    (List.takeWhile_append_dropWhile (p := Text.isBlank) (l := s))
  rw [List.count_append, hblanks, Nat.zero_add] at hsplit
  exact hsplit

/-- Trimming takes no quotation mark away. -/
theorem count_trim (s : List Char) : (Text.trim s).count '"' = s.count '"' := by
  rw [Text.trim, Text.trimEnd, Text.trimStart, List.count_reverse, count_dropWhile_isBlank,
    List.count_reverse, count_dropWhile_isBlank]

/-! ## The parts of a tag -/

/-- A tag whose text has neither quotation marks nor commas. -/
def IsSimpleTag (etag : List Char) : Prop :=
  ∃ digits, etag = '"' :: digits ++ ['"'] ∧ '"' ∉ digits ∧ ',' ∉ digits

theorem isSimpleTag_etagOf (calendar : String) : IsSimpleTag (Merge.etagOf calendar).toList := by
  have hhex := (NamedTag.of false calendar).hex
  refine ⟨_, (NamedTag.of false calendar).toList_tag, fun hmem => ?_, fun hmem => ?_⟩
  · exact absurd (hhex _ hmem) (by decide)
  · exact absurd (hhex _ hmem) (by decide)

namespace IsSimpleTag

variable {etag : List Char}

theorem count_eq (hetag : IsSimpleTag etag) : etag.count '"' = 2 := by
  obtain ⟨digits, rfl, hquote, _⟩ := hetag
  simp [List.count_eq_zero.mpr hquote]

theorem comma_not_mem (hetag : IsSimpleTag etag) : ',' ∉ etag := by
  obtain ⟨digits, rfl, _, hcomma⟩ := hetag
  simp [hcomma]

/-- A part fits the tag if it is a star or the tag, with the mark of a weak one or without. -/
theorem tagMatches_iff (hetag : IsSimpleTag etag) (seen : List Char) :
    tagMatches etag seen = true ↔ seen = ['*'] ∨ seen = etag ∨ seen = 'W' :: '/' :: etag := by
  have hstart : ∀ rest, etag ≠ 'W' :: '/' :: rest := by
    obtain ⟨digits, rfl, _⟩ := hetag
    simp
  rw [tagMatches, Bool.or_eq_true, beq_iff_eq, beq_iff_eq]
  refine or_congr_right ?_
  cases hdrop : Text.dropPrefix? ['W', '/'] seen with
  | none =>
      have hweak : seen ≠ 'W' :: '/' :: etag := fun heq => by
        rw [Text.dropPrefix?_eq_some_iff.mpr heq] at hdrop
        cases hdrop
      simp [hweak]
  | some rest =>
      obtain rfl := Text.dropPrefix?_eq_some_iff.mp hdrop
      have hstrong : 'W' :: '/' :: rest ≠ etag := (hstart rest).symm
      simp [hstrong]

/-- A part that fits has no quotation mark or two. -/
theorem count_of_tagMatches (hetag : IsSimpleTag etag) {part : List Char}
    (hmatches : tagMatches etag (Text.trim part) = true) :
    part.count '"' = 0 ∧ Text.trim part = ['*'] ∨ part.count '"' = 2 := by
  rw [← count_trim part]
  rcases (hetag.tagMatches_iff _).mp hmatches with heq | heq | heq
  · exact .inl ⟨by rw [heq]; rfl, heq⟩
  · exact .inr (heq ▸ hetag.count_eq)
  · exact .inr (by simp [heq, hetag.count_eq])

end IsSimpleTag

namespace EntityTag

variable {tag : EntityTag} {etag before after : List Char}

/-- The parts of what a tag holds have no quotation marks, and no blanks to trim. -/
theorem count_and_trim_of_mem {part : List Char} (hpart : part ∈ Text.splitAtChar ',' tag.inner) :
    part.count '"' = 0 ∧ Text.trim part = part := by
  have hmem : ∀ c ∈ part, c ∈ tag.inner := fun c hc => (Text.mem_of_mem_splitAtChar hpart hc).1
  have hvisible : ∀ c ∈ part, Text.isBlank c = false := fun c hc =>
    tag.not_isBlank_of_mem_inner (hmem c hc)
  refine ⟨List.count_eq_zero.mpr fun hquote => (tag.plain _ (hmem _ hquote)).2.2 rfl, ?_⟩
  exact Text.trim_of_ends (fun c hc => hvisible c (List.mem_of_head? hc))
    fun c hc => hvisible c (List.mem_of_getLast? hc)

/-- Of a tag with commas, only the inner parts can fit, and these only as stars. -/
theorem any_tagMatches_of_comma (hetag : IsSimpleTag etag) (hcomma : ',' ∈ tag.inner)
    (hblanks : ∀ c ∈ before ++ after, c = ' ' ∨ c = '\t') :
    ((Text.splitAtChar ',' (before ++ tag.text ++ after)).map Text.trim).any (tagMatches etag)
        = true ↔ [',', '*', ','] <:+: tag.inner := by
  have hside : ∀ side : List Char, (∀ c ∈ side, c ∈ before ++ after) →
      ',' ∉ side ∧ side.count '"' = 0 := by
    intro side hside
    have hnot : ∀ c, ¬(c = ' ' ∨ c = '\t') → c ∉ side := fun c hc hmem =>
      hc (hblanks c (hside c hmem))
    exact ⟨hnot ',' (by decide), List.count_eq_zero.mpr (hnot '"' (by decide))⟩
  obtain ⟨hbefore, hbefore'⟩ := hside before fun _ => List.mem_append_left after
  obtain ⟨hafter, hafter'⟩ := hside after fun _ => List.mem_append_right before
  have hpre : ',' ∉ before ++ tag.mark ++ ['"'] := by simp [hbefore, tag.not_mem_mark]
  have hpost : ',' ∉ '"' :: after := by simp [hafter]
  obtain ⟨first, last, hinner, houter⟩ := Text.exists_splitAtChar_enclosed hcomma hpre hpost
  have hshape : before ++ tag.text ++ after =
      before ++ tag.mark ++ ['"'] ++ tag.inner ++ '"' :: after := by
    simp [text, quoted]
  have hfirst : first.count '"' = 0 :=
    (count_and_trim_of_mem (by rw [hinner]; exact List.mem_cons_self)).1
  have hlast : last.count '"' = 0 := (count_and_trim_of_mem (by rw [hinner]; simp)).1
  have hstar : ['*'] ∈ (Text.splitAtChar ',' tag.inner).tail.dropLast ↔
      [',', '*', ','] <:+: tag.inner := Text.mem_inner_parts_iff (by decide)
  rw [hshape, houter, ← hstar, List.any_map, List.any_eq_true]
  constructor
  · rintro ⟨part, hpart, hmatches⟩
    have hfits := hetag.count_of_tagMatches hmatches
    rcases List.mem_cons.mp hpart with rfl | hpart
    · have hone : (before ++ tag.mark ++ ['"'] ++ first).count '"' = 1 := by
        simp [hbefore', List.count_eq_zero.mpr (tag.not_mem_mark (c := '"') (by decide)), hfirst]
      omega
    · rcases List.mem_append.mp hpart with hpart | hpart
      · obtain ⟨hnone, htrim⟩ :=
          count_and_trim_of_mem (List.mem_of_mem_tail (List.dropLast_subset _ hpart))
        rcases hfits with ⟨_, heq⟩ | htwo
        · rwa [← heq, htrim]
        · omega
      · obtain rfl := List.mem_singleton.mp hpart
        have hone : (last ++ '"' :: after).count '"' = 1 := by simp [hlast, hafter']
        omega
  · intro hmem
    exact ⟨['*'], List.mem_cons_of_mem _ (List.mem_append_left _ hmem),
      (hetag.tagMatches_iff _).mpr (.inl (by decide))⟩

end EntityTag

/-! ## Lists -/

/-- What fits among the parts of an item is the tag, or a star inside of it. -/
theorem any_tagMatches_item {etag : List Char} (hetag : IsSimpleTag etag) (item : ListItem) :
    ((Text.splitAtChar ',' item.text).map Text.trim).any (tagMatches etag) = true ↔
      ∃ tag ∈ item.tag?, tag.quoted = etag ∨ [',', '*', ','] <:+: tag.inner := by
  obtain ⟨before, tag?, after, hblanks⟩ := item
  cases tag? with
  | none =>
      have hcomma : ',' ∉ before ++ after := fun hmem => absurd (hblanks _ hmem) (by decide)
      have htext : ListItem.text ⟨before, none, after, hblanks⟩ = before ++ after := by
        simp [ListItem.text]
      have htrim : Text.trim (before ++ after) = [] := by
        have hstart := Text.trimStart_append_of_blank (before ++ after) []
          fun c hc => isBlank_of_blank (hblanks c hc)
        rw [List.append_nil] at hstart
        rw [Text.trim, hstart]
        rfl
      rw [htext, Text.splitAtChar_of_not_mem hcomma, List.map_singleton, htrim, List.any_cons,
        List.any_nil, Bool.or_false, hetag.tagMatches_iff]
      obtain ⟨digits, rfl, _⟩ := hetag
      simp
  | some tag =>
      have htext : ListItem.text ⟨before, some tag, after, hblanks⟩ = before ++ tag.text ++ after :=
        rfl
      rw [htext]
      simp only [Option.mem_def, Option.some.injEq, exists_eq_left']
      by_cases hinner : ',' ∈ tag.inner
      · have hother : tag.quoted ≠ etag := fun heq =>
          hetag.comma_not_mem (heq ▸ by simp [EntityTag.quoted, hinner])
        rw [EntityTag.any_tagMatches_of_comma hetag hinner hblanks, or_iff_right hother]
      · have hstar : ¬[',', '*', ','] <:+: tag.inner := fun hlone =>
          hinner (hlone.subset List.mem_cons_self)
        rw [tag.any_tagMatches_of_not_comma hinner hblanks, or_iff_left hstar]

/-- A list is taken for one with the tag of a calendar if it has this tag, or a lone star. -/
theorem coversTag_tagList {items : List ListItem} (hne : items ≠ []) (calendar : String) :
    coversTag (tagList items) (Merge.etagOf calendar) = true ↔
      Names items (Merge.etagOf calendar) ∨ HasLoneStar items := by
  rw [coversTag_iff_exists_item hne]
  simp only [any_tagMatches_item (isSimpleTag_etagOf calendar), Names, HasLoneStar,
    List.mem_filterMap]
  constructor
  · rintro ⟨item, hitem, tag, htag, hfits | hstar⟩
    · exact .inl ⟨tag, ⟨item, hitem, htag⟩, hfits⟩
    · exact .inr ⟨tag, ⟨item, hitem, htag⟩, hstar⟩
  · rintro (⟨tag, ⟨item, hitem, htag⟩, hfits⟩ | ⟨tag, ⟨item, hitem, htag⟩, hstar⟩)
    · exact ⟨item, hitem, tag, htag, .inl hfits⟩
    · exact ⟨item, hitem, tag, htag, .inr hstar⟩

/-! ## The field of a request -/

/-- The lines of the field of this name, given in lower case. -/
def Request.headerLines (r : Request) (name : String) : List String :=
  (r.headers.filter fun h => h.1.toList.map Char.toLower == name.toList).map Prod.snd

/-- The field of this name, given in lower case: its lines with commas between them. -/
def Request.field? (r : Request) (name : String) : Option String :=
  if r.headerLines name = [] then none
  else some (String.ofList ([','].intercalate ((r.headerLines name).map String.toList)))

theorem header?_eq_head? (r : Request) (name : String) :
    r.header? name = (r.headerLines name).head? := by
  rw [Request.header?, Request.headerLines, List.head?_map, List.head?_filter]

theorem tagList_append {first second : List ListItem} (hfirst : first ≠ [])
    (hsecond : second ≠ []) : (tagList (first ++ second)).toList =
      (tagList first).toList ++ ',' :: (tagList second).toList := by
  simp only [tagList, String.toList_ofList, List.map_append]
  exact Text.intercalate_append (by simpa using hfirst) (by simpa using hsecond)

/-- Lists with commas between them are one list. -/
theorem intercalate_tagList {first : List ListItem} {more : List (List ListItem)}
    (hfirst : first ≠ []) (hmore : ∀ line ∈ more, line ≠ []) :
    [','].intercalate ((first :: more).map fun line => (tagList line).toList) =
      (tagList (first ++ more.flatten)).toList := by
  induction more generalizing first with
  | nil => simp
  | cons second more ih =>
      have hsecond : second ≠ [] := hmore second List.mem_cons_self
      have hrest := ih hsecond fun line hline => hmore line (List.mem_cons_of_mem second hline)
      rw [List.map_cons] at hrest
      rw [List.map_cons, List.map_cons, List.intercalate_cons_cons, hrest, List.flatten_cons,
        tagList_append hfirst (by simp [hsecond]), List.append_assoc, List.singleton_append]

/-- Lists on several lines are one field, which is a list. -/
theorem field?_of_lists {r : Request} {name : String} {first : List ListItem}
    {more : List (List ListItem)} (hfirst : first ≠ []) (hmore : ∀ line ∈ more, line ≠ [])
    (hlines : r.headerLines name = (first :: more).map tagList) :
    r.field? name = some (tagList (first ++ more.flatten)) := by
  have hjoined := intercalate_tagList hfirst hmore
  rw [Request.field?, hlines, if_neg (by simp), List.map_map]
  exact congrArg some (String.toList_inj.mp (String.toList_ofList.trans hjoined))

/-- A field that is a star is on one line. -/
theorem headerLines_of_star {r : Request} {name : String} (hstar : r.field? name = some "*") :
    r.headerLines name = ["*"] := by
  unfold Request.field? at hstar
  split at hstar
  next => cases hstar
  next hne =>
    have htext := String.ofList_injective (Option.some.inj hstar)
    obtain ⟨first, more, hlines⟩ := List.exists_cons_of_ne_nil hne
    cases more with
    | nil =>
        rw [hlines, List.map_singleton, List.intercalate_singleton] at htext
        rw [hlines, String.toList_inj.mp (htext.trans rfl : first.toList = "*".toList)]
    | cons second more =>
        rw [hlines, List.map_cons, List.map_cons, List.intercalate_cons_cons] at htext
        have hcomma : ',' ∈ ['*'] := htext ▸ by simp
        cases List.mem_singleton.mp hcomma

/-- A star fits whatever there is. -/
theorem isNotModified_of_star {r : Request} (hstar : r.field? "if-none-match" = some "*")
    (m : Merged) : isNotModified r m = true := by
  rw [isNotModified, header?_eq_head?, headerLines_of_star hstar]
  rfl

/-- Of a list that is on several lines, what counts is the first one. -/
theorem isNotModified_of_lists {r : Request} {m : Merged}
    (hetag : m.etag = Merge.etagOf m.calendar) {first : List ListItem} (hfirst : first ≠ [])
    {more : List (List ListItem)}
    (hlines : r.headerLines "if-none-match" = (first :: more).map tagList) :
    isNotModified r m = true ↔ Names first m.etag ∨ HasLoneStar first := by
  rw [isNotModified, header?_eq_head?, hlines, List.map_cons, List.head?_cons]
  simp only [isVisible_tagList, Bool.true_and]
  rw [hetag]
  exact coversTag_tagList hfirst m.calendar

end Almanac.Http
