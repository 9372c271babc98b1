import Almanac.Proofs.Http.Answer
import Almanac.Proofs.Text.Cutting
import Almanac.Proofs.Text.Trim

/-!
# Tags that a client knows

The tag of a calendar is visible text without commas or blanks, so a header field that holds
it alone names this tag. A client that sends it gets no calendar.
-/

namespace Almanac.Http

open Merge (Merged)

/-- A visible character that is neither blank nor a comma. -/
def IsTagChar (c : Char) : Prop := 0x20 < c.toNat ∧ c.toNat < 0x7F ∧ c ≠ ','

theorem isTagChar_hexDigit {n : Nat} (hn : n < 16) : IsTagChar (Text.hexDigit n) := by
  have hall : ∀ m : Fin 16, 0x20 < (Text.hexDigit m).toNat ∧ (Text.hexDigit m).toNat < 0x7F ∧
      Text.hexDigit m ≠ ',' := by decide
  exact hall ⟨n, hn⟩

theorem isTagChar_of_mem_hexBytes {bytes : List UInt8} {c : Char} (hc : c ∈ Text.hexBytes bytes) :
    IsTagChar c := by
  obtain ⟨b, _, hc⟩ := List.mem_flatMap.mp hc
  have hb := UInt8.toNat_lt b
  rcases List.mem_cons.mp hc with rfl | hc
  · apply isTagChar_hexDigit
    omega
  · rw [List.mem_singleton.mp hc]
    apply isTagChar_hexDigit
    omega

theorem toList_etagOf (calendar : String) :
    ∃ digits : List Char, (Merge.etagOf calendar).toList = '"' :: digits ++ ['"'] ∧
      ∀ c ∈ digits, IsTagChar c :=
  ⟨_, String.toList_ofList, fun _ => isTagChar_of_mem_hexBytes⟩

theorem isTagChar_of_mem_etagOf {calendar : String} {c : Char}
    (hc : c ∈ (Merge.etagOf calendar).toList) : IsTagChar c := by
  obtain ⟨digits, htext, hdigits⟩ := toList_etagOf calendar
  have hmark : IsTagChar '"' := by
    unfold IsTagChar
    decide
  rw [htext] at hc
  rcases List.mem_append.mp hc with hc | hc
  · rcases List.mem_cons.mp hc with rfl | hc
    · exact hmark
    · exact hdigits c hc
  · rw [List.mem_singleton.mp hc]
    exact hmark

theorem isVisible_etagOf (calendar : String) : isVisible (Merge.etagOf calendar) = true := by
  unfold isVisible
  rw [List.all_eq_true]
  intro c hc
  obtain ⟨hlow, hhigh, _⟩ := isTagChar_of_mem_etagOf hc
  simp [Nat.le_of_lt hlow, hhigh]

/-- A field with the tag alone names the tag. -/
theorem coversTag_etagOf (calendar : String) :
    coversTag (Merge.etagOf calendar) (Merge.etagOf calendar) = true := by
  obtain ⟨digits, htext, _⟩ := toList_etagOf calendar
  have hcomma : ',' ∉ (Merge.etagOf calendar).toList := by
    intro hmem
    exact (isTagChar_of_mem_etagOf hmem).2.2 rfl
  have htrim : Text.trim (Merge.etagOf calendar).toList = (Merge.etagOf calendar).toList := by
    rw [htext]
    apply Text.trim_of_ends
    · intro c hc
      obtain rfl : '"' = c := by simpa using hc
      decide
    · intro c hc
      obtain rfl : '"' = c := by simpa [List.getLast?_cons, List.getLast?_append] using hc
      decide
  have hmatches : tagMatches (Merge.etagOf calendar).toList (Merge.etagOf calendar).toList := by
    rw [htext]
    simp [tagMatches, Text.dropPrefix?]
  simp only [coversTag, Text.splitAtChar_of_not_mem hcomma, List.map_cons, List.map_nil, htrim,
    List.any_cons, hmatches, Bool.true_or]

/-- The answer to a client that names the tag of the calendar. -/
theorem calendarResponse_of_tag {r : Request} {m : Merged} (file : List Char)
    (hetag : m.etag = Merge.etagOf m.calendar) (hknown : r.header? "if-none-match" = some m.etag) :
    calendarResponse r file m = ⟨304, calendarHeaders file m, ""⟩ := by
  have hsame : isNotModified r m = true := by
    simp only [isNotModified, hknown]
    rw [hetag, isVisible_etagOf, coversTag_etagOf]
    rfl
  rw [calendarResponse, if_pos hsame]

end Almanac.Http
