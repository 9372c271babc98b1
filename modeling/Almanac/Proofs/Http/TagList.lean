import Almanac.Proofs.Http.EntityTags

/-!
# Lists of tags

A client that has kept several calendars names all their tags, strong or weak, with commas
between them. It is told that nothing has changed just if the current tag is among them,
and tags are equal just if the digests that they are made from agree in their first half.
-/

namespace Almanac.Text

/-! ## Digits -/

theorem hexByte_injective : Function.Injective hexByte := by
  intro a b heq
  have ha := UInt8.toNat_lt a
  have hb := UInt8.toNat_lt b
  obtain ⟨hhigh, hlow⟩ : hexDigit (a.toNat / 16) = hexDigit (b.toNat / 16) ∧
      hexDigit (a.toNat % 16) = hexDigit (b.toNat % 16) := by simpa [hexByte] using heq
  have hdigit : ∀ {n m : Nat}, n < 16 → m < 16 → hexDigit n = hexDigit m → n = m := by
    intro n m hn hm hnm
    have hvalue := hexValue?_hexDigit hn
    rw [hnm, hexValue?_hexDigit hm] at hvalue
    exact (Option.some.inj hvalue).symm
  have hdiv := hdigit (by omega) (by omega) hhigh
  have hmod := hdigit (by omega) (by omega) hlow
  apply UInt8.toNat_inj.mp
  omega

theorem hexBytes_injective : Function.Injective hexBytes := by
  intro first
  induction first with
  | nil =>
      intro second heq
      cases second with
      | nil => rfl
      | cons b second => simp [hexBytes, hexByte] at heq
  | cons a first ih =>
      intro second heq
      cases second with
      | nil => simp [hexBytes, hexByte] at heq
      | cons b second =>
          obtain ⟨hbyte, hrest⟩ := List.append_inj heq rfl
          rw [hexByte_injective hbyte, ih hrest]

end Almanac.Text

namespace Almanac.Merge

/-- The first 128 bits of the digest of a text. -/
def fingerprint (calendar : String) : List UInt8 :=
  (Digest.Sha256.digest (Text.utf8 calendar.toList)).take 16

theorem etagOf_eq_iff (first second : String) :
    etagOf first = etagOf second ↔ fingerprint first = fingerprint second := by
  constructor
  · intro heq
    have hlist := String.ofList_injective heq
    exact Text.hexBytes_injective (by simpa [fingerprint] using hlist)
  · intro heq
    simp only [fingerprint] at heq
    simp only [etagOf, heq]

end Almanac.Merge

namespace Almanac.Http

open Merge (Merged)

/-! ## Tags in a list -/

/-- A tag as a client names it in a list: strong or weak, made of hexadecimal digits in quotation
marks, with blanks around it. -/
structure NamedTag where
  before : List Char
  weak : Bool
  digits : List Char
  after : List Char
  blanks : ∀ c ∈ before ++ after, c = ' ' ∨ c = '\t'
  hex : ∀ c ∈ digits, (Text.hexValue? c).isSome

namespace NamedTag

/-- The tag itself. -/
def tag (n : NamedTag) : String := String.ofList ('"' :: n.digits ++ ['"'])

/-- The tag with the mark of a weak one, if it is weak. -/
def bare (n : NamedTag) : List Char := (if n.weak then ['W', '/'] else []) ++ n.tag.toList

/-- What the client writes. -/
def text (n : NamedTag) : List Char := n.before ++ n.bare ++ n.after

theorem isSome_hexValue?_of_mem_hexBytes {bytes : List UInt8} {c : Char}
    (hc : c ∈ Text.hexBytes bytes) : (Text.hexValue? c).isSome := by
  obtain ⟨b, _, hc⟩ := List.mem_flatMap.mp hc
  have hb := UInt8.toNat_lt b
  rcases List.mem_cons.mp hc with rfl | hc
  · rw [Text.hexValue?_hexDigit (by omega)]
    rfl
  · rw [List.mem_singleton.mp hc, Text.hexValue?_hexDigit (by omega)]
    rfl

/-- The tag of a calendar as a client gives it back. -/
def of (weak : Bool) (calendar : String) : NamedTag where
  before := []
  weak := weak
  digits := Text.hexBytes (Merge.fingerprint calendar)
  after := []
  blanks := by simp
  hex := fun _ => isSome_hexValue?_of_mem_hexBytes

end NamedTag

/-- The field that names the tags, with commas between them. -/
def fieldOf (named : List NamedTag) : String :=
  String.ofList ([','].intercalate (named.map NamedTag.text))

/-- A field may be just the tag, with the mark of a weak one before it or without. -/
theorem fieldOf_of (weak : Bool) (calendar : String) :
    fieldOf [.of weak calendar] = (if weak then "W/" else "") ++ Merge.etagOf calendar := by
  apply String.toList_inj.mp
  rw [fieldOf, String.toList_ofList, String.toList_append]
  cases weak <;> simp [NamedTag.text, NamedTag.bare, NamedTag.of, NamedTag.tag, Merge.etagOf,
    Merge.fingerprint]

theorem isTagChar_of_hexValue? {c : Char} (hc : (Text.hexValue? c).isSome) : IsTagChar c := by
  have hcomma : c = ',' → c.toNat = 0x2C := by
    rintro rfl
    rfl
  simp only [Text.hexValue?] at hc
  refine ⟨?_, ?_, fun heq => ?_⟩
  · split at hc <;> grind
  · grind
  · grind

namespace NamedTag

variable (n : NamedTag)

theorem toList_tag : n.tag.toList = '"' :: n.digits ++ ['"'] := String.toList_ofList

/-- The tag, which may be weak. -/
def entity (n : NamedTag) : EntityTag where
  weak := n.weak
  inner := n.digits
  plain := fun c hc => by
    have hhex := n.hex c hc
    obtain ⟨hlow, hhigh, _⟩ := isTagChar_of_hexValue? hhex
    refine ⟨hlow, hhigh, ?_⟩
    rintro rfl
    cases hhex

/-- The tag in its place in a list. -/
def item (n : NamedTag) : ListItem := ⟨n.before, some n.entity, n.after, n.blanks⟩

theorem quoted_entity : n.entity.quoted = n.tag.toList := n.toList_tag.symm

theorem text_item : n.item.text = n.text := by
  rw [text, bare, ← quoted_entity]
  rfl

end NamedTag

theorem fieldOf_eq_tagList (named : List NamedTag) :
    fieldOf named = tagList (named.map NamedTag.item) := by
  have htexts : (named.map NamedTag.item).map ListItem.text = named.map NamedTag.text := by
    rw [List.map_map]
    exact List.map_congr_left fun n _ => n.text_item
  rw [fieldOf, tagList, htexts]

theorem isVisible_fieldOf (named : List NamedTag) : isVisible (fieldOf named) = true := by
  rw [fieldOf_eq_tagList]
  exact isVisible_tagList _

/-- The list covers the tags that it names, and no other. -/
theorem coversTag_fieldOf {named : List NamedTag} (hne : named ≠ []) (etag : String) :
    coversTag (fieldOf named) etag = true ↔ etag ∈ named.map NamedTag.tag := by
  have hfits : ∀ n : NamedTag, ((Text.splitAtChar ',' n.item.text).map Text.trim).any
      (tagMatches etag.toList) = true ↔ n.tag = etag := by
    intro n
    have hcomma : ',' ∉ n.entity.inner := fun hmem => absurd (n.hex _ hmem) (by decide)
    rw [← String.toList_inj, ← n.quoted_entity]
    exact n.entity.any_tagMatches_of_not_comma hcomma n.blanks etag.toList
  rw [fieldOf_eq_tagList, coversTag_iff_exists_item (by simpa using hne), List.mem_map]
  constructor
  · rintro ⟨_, hitem, hcovers⟩
    obtain ⟨n, hn, rfl⟩ := List.mem_map.mp hitem
    exact ⟨n, hn, (hfits n).mp hcovers⟩
  · rintro ⟨n, hn, htag⟩
    exact ⟨n.item, List.mem_map_of_mem hn, (hfits n).mpr htag⟩

/-- A client that names tags has the current calendar just if its tag is among them. -/
theorem isNotModified_of_field {r : Request} {named : List NamedTag} (hne : named ≠ [])
    (hfield : r.header? "if-none-match" = some (fieldOf named)) (m : Merged) :
    isNotModified r m = true ↔ m.etag ∈ named.map NamedTag.tag := by
  rw [isNotModified, hfield]
  simp only [isVisible_fieldOf, Bool.true_and]
  exact coversTag_fieldOf hne m.etag

end Almanac.Http
