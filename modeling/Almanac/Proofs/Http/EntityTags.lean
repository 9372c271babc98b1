import Almanac.Proofs.Http.Tag

/-!
# Entity tags

A tag may hold any visible characters besides the quotation mark, commas and stars among them. A
client lists tags, strong or weak, with commas between them and blanks around them. A tag
without commas is one part of its list, and fits just if it is the right one.
-/

namespace Almanac.Http

/-- A tag in its quotation marks, weak or strong. -/
structure EntityTag where
  weak : Bool
  inner : List Char
  plain : ∀ c ∈ inner, 0x20 < c.toNat ∧ c.toNat < 0x7F ∧ c ≠ '"'

/-- What stands between the commas of a list: a tag or nothing, with blanks around it. -/
structure ListItem where
  before : List Char
  tag? : Option EntityTag
  after : List Char
  blanks : ∀ c ∈ before ++ after, c = ' ' ∨ c = '\t'

namespace EntityTag

/-- The tag without the mark of a weak one. -/
def quoted (tag : EntityTag) : List Char := '"' :: tag.inner ++ ['"']

/-- The mark of a weak tag. -/
def mark (tag : EntityTag) : List Char := if tag.weak then ['W', '/'] else []

/-- The tag as it is written. -/
def text (tag : EntityTag) : List Char := tag.mark ++ tag.quoted

end EntityTag

/-- What is written between two commas. -/
def ListItem.text (item : ListItem) : List Char :=
  item.before ++ (item.tag?.map EntityTag.text).getD [] ++ item.after

/-- The items with commas between them. -/
def tagList (items : List ListItem) : String :=
  String.ofList ([','].intercalate (items.map ListItem.text))

/-- A tag of the list is this one, weak or strong. -/
def Names (items : List ListItem) (etag : String) : Prop :=
  ∃ tag ∈ items.filterMap ListItem.tag?, tag.quoted = etag.toList

theorem names_append (first second : List ListItem) (etag : String) :
    Names (first ++ second) etag ↔ Names first etag ∨ Names second etag := by
  simp only [Names, List.filterMap_append, List.mem_append, or_and_right, exists_or]

theorem blank_of_mem_nil {c : Char} (hc : c ∈ ([] : List Char)) : c = ' ' ∨ c = '\t' :=
  absurd hc List.not_mem_nil

/-- The tag alone. -/
def EntityTag.alone (tag : EntityTag) : ListItem :=
  ⟨[], some tag, [], fun _ hc => blank_of_mem_nil hc⟩

theorem names_alone (tag : EntityTag) (etag : String) :
    Names [tag.alone] etag ↔ tag.quoted = etag.toList := by
  simp [Names, EntityTag.alone]

/-! ## Characters of a list -/

theorem isBlank_of_blank {c : Char} (hc : c = ' ' ∨ c = '\t') : Text.isBlank c = true := by
  rcases hc with rfl | rfl <;> decide

theorem not_isBlank_of_visible {c : Char} (hlow : 0x20 < c.toNat) (hhigh : c.toNat < 0x7F) :
    Text.isBlank c = false := by
  simp only [Text.isBlank]
  grind

namespace EntityTag

variable (tag : EntityTag)

theorem not_mem_mark {c : Char} (hc : c ≠ 'W' ∧ c ≠ '/') : c ∉ tag.mark := by
  unfold mark
  split <;> simp [hc.1, hc.2]

theorem visible_of_mem_text {c : Char} (hc : c ∈ tag.text) : 0x20 < c.toNat ∧ c.toNat < 0x7F := by
  simp only [text, mark, quoted, List.mem_append, List.mem_cons, List.not_mem_nil, or_false] at hc
  rcases hc with hc | (rfl | hc) | rfl
  · split at hc
    · simp only [List.mem_cons, List.not_mem_nil, or_false] at hc
      rcases hc with rfl | rfl <;> decide
    · cases hc
  · decide
  · exact ⟨(tag.plain c hc).1, (tag.plain c hc).2.1⟩
  · decide

theorem not_isBlank_of_mem_text {c : Char} (hc : c ∈ tag.text) : Text.isBlank c = false :=
  not_isBlank_of_visible (tag.visible_of_mem_text hc).1 (tag.visible_of_mem_text hc).2

theorem not_isBlank_of_mem_inner {c : Char} (hc : c ∈ tag.inner) : Text.isBlank c = false :=
  not_isBlank_of_visible (tag.plain c hc).1 (tag.plain c hc).2.1

end EntityTag

theorem visible_of_mem_intercalate {texts : List (List Char)}
    (htexts : ∀ text ∈ texts, isVisible (String.ofList text) = true) :
    isVisible (String.ofList ([','].intercalate texts)) = true := by
  simp only [isVisible, String.toList_ofList] at htexts ⊢
  induction texts with
  | nil => rfl
  | cons text texts ih =>
      have htext := htexts text List.mem_cons_self
      cases texts with
      | nil => simpa using htext
      | cons second texts =>
          have hrest := ih fun other hother => htexts other (List.mem_cons_of_mem text hother)
          rw [List.intercalate_cons_cons, List.all_append, List.all_append, htext, hrest]
          rfl

theorem isVisible_tagList (items : List ListItem) : isVisible (tagList items) = true := by
  apply visible_of_mem_intercalate
  intro text htext
  obtain ⟨item, _, rfl⟩ := List.mem_map.mp htext
  rw [isVisible, List.all_eq_true, String.toList_ofList]
  intro c hc
  have hblank : c ∈ item.before ++ item.after →
      (c == '\t' || (0x20 ≤ c.toNat && c.toNat < 0x7F)) := by
    intro hc
    rcases item.blanks c hc with rfl | rfl <;> decide
  rw [ListItem.text, List.append_assoc, List.mem_append, List.mem_append] at hc
  rcases hc with hc | hc | hc
  · exact hblank (List.mem_append_left _ hc)
  · cases htag : item.tag? with
    | none => simp [htag] at hc
    | some tag =>
        rw [htag] at hc
        obtain ⟨hlow, hhigh⟩ := tag.visible_of_mem_text hc
        simp [Nat.le_of_lt hlow, hhigh]
  · exact hblank (List.mem_append_right _ hc)

/-! ## Tags without commas -/

namespace EntityTag

variable (tag : EntityTag)

/-- Trimming leaves the tag. -/
theorem trim_text {before after : List Char} (hblanks : ∀ c ∈ before ++ after, c = ' ' ∨ c = '\t') :
    Text.trim (before ++ tag.text ++ after) = tag.text := by
  apply Text.trim_append_of_blank
  · exact fun c hc => isBlank_of_blank (hblanks c (List.mem_append_left after hc))
  · exact fun c hc => isBlank_of_blank (hblanks c (List.mem_append_right before hc))
  · simp [text, quoted]
  · exact fun c hc => tag.not_isBlank_of_mem_text (List.mem_of_head? hc)
  · exact fun c hc => tag.not_isBlank_of_mem_text (List.mem_of_getLast? hc)

/-- A tag fits no other tag, be it weak or strong. -/
theorem tagMatches_text (etag : List Char) :
    tagMatches etag tag.text = true ↔ tag.quoted = etag := by
  have hstar : (tag.text == ['*']) = false := by
    cases hweak : tag.weak <;> simp [text, mark, hweak, quoted]
  have hdrop : (Text.dropPrefix? ['W', '/'] tag.text).getD tag.text = tag.quoted := by
    cases hweak : tag.weak <;> simp [text, mark, hweak, quoted, Text.dropPrefix?]
  rw [tagMatches, hstar, hdrop, Bool.false_or, beq_iff_eq]

/-- A tag without commas is one part, which fits just if the tag is the right one. -/
theorem any_tagMatches_of_not_comma (hcomma : ',' ∉ tag.inner) {before after : List Char}
    (hblanks : ∀ c ∈ before ++ after, c = ' ' ∨ c = '\t') (etag : List Char) :
    ((Text.splitAtChar ',' (before ++ tag.text ++ after)).map Text.trim).any (tagMatches etag)
        = true ↔ tag.quoted = etag := by
  have hsides : ',' ∉ before ++ after := fun hmem => absurd (hblanks _ hmem) (by decide)
  have hfree : ',' ∉ before ++ tag.text ++ after := by
    simp only [List.mem_append, not_or] at hsides
    simp [text, quoted, tag.not_mem_mark, hsides, hcomma]
  rw [Text.splitAtChar_of_not_mem hfree, List.map_singleton, tag.trim_text hblanks, List.any_cons,
    List.any_nil, Bool.or_false, tag.tagMatches_text]

end EntityTag

/-- The parts of a list are those of its items. -/
theorem coversTag_iff_exists_item {items : List ListItem} (hne : items ≠ []) (etag : String) :
    coversTag (tagList items) etag = true ↔ ∃ item ∈ items,
      ((Text.splitAtChar ',' item.text).map Text.trim).any (tagMatches etag.toList) = true := by
  rw [coversTag, tagList, String.toList_ofList,
    Text.splitAtChar_intercalate_flatMap (by simpa using hne), List.flatMap_map, List.map_flatMap,
    List.any_flatMap, List.any_eq_true]

end Almanac.Http
