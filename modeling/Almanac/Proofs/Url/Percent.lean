import Almanac.Proofs.Text.Utf8
import Almanac.Text.Percent
import Almanac.Url.Target

/-!
# Percent signs and what they stand for

Resolving the percent signs of a text leaves it as it is just if no two hexadecimal digits stand
behind one of them; otherwise it becomes shorter. A text that has been escaped is given back,
provided that the percent sign is among the characters that are escaped.
-/

namespace Almanac.Text

/-- The bytes start with a percent sign and two hexadecimal digits. -/
def startsEscape : List UInt8 → Bool
  | b :: h :: l :: _ =>
    b == 0x25 && (hexValue? (Char.ofNat h.toNat)).isSome && (hexValue? (Char.ofNat l.toNat)).isSome
  | _ => false

/-- Two hexadecimal digits stand behind one of the percent signs. -/
def hasEscape : List UInt8 → Bool
  | [] => false
  | b :: s => startsEscape (b :: s) || hasEscape s

/-! ## Resolving -/

theorem startsEscape_of_ne {b : UInt8} (hb : b ≠ 0x25) (s : List UInt8) :
    startsEscape (b :: s) = false := by
  match s with
  | [] | [_] => rfl
  | h :: l :: rest => simp only [startsEscape, beq_eq_false_iff_ne.mpr hb, Bool.false_and]

theorem percentDecode_of_startsEscape {bytes : List UInt8} (hstarts : startsEscape bytes = true) :
    ∃ h l rest b, bytes = 0x25 :: h :: l :: rest ∧
      percentDecode bytes = b :: percentDecode rest := by
  match bytes with
  | [] | [_] | [_, _] => cases hstarts
  | b :: h :: l :: rest =>
      simp only [startsEscape, Bool.and_eq_true, beq_iff_eq, Option.isSome_iff_exists] at hstarts
      obtain ⟨⟨rfl, x, hx⟩, y, hy⟩ := hstarts
      refine ⟨h, l, rest, (x * 16 + y).toUInt8, rfl, ?_⟩
      rw [percentDecode, if_pos rfl, hx, hy]

theorem percentDecode_cons {b : UInt8} {s : List UInt8} (hstarts : startsEscape (b :: s) = false) :
    percentDecode (b :: s) = b :: percentDecode s := by
  match s with
  | [] | [_] => simp [percentDecode]
  | h :: l :: rest =>
      rw [percentDecode]
      split
      next hb =>
        split
        next x y hx hy => simp [startsEscape, hb, hx, hy] at hstarts
        next => rfl
      next => rfl

theorem percentDecode_of_not_hasEscape {bytes : List UInt8} (hnone : hasEscape bytes = false) :
    percentDecode bytes = bytes := by
  induction bytes with
  | nil => rw [percentDecode]
  | cons b s ih =>
      obtain ⟨hstarts, hrest⟩ := Bool.or_eq_false_iff.mp hnone
      rw [percentDecode_cons hstarts, ih hrest]

theorem length_percentDecode_le (bytes : List UInt8) :
    (percentDecode bytes).length ≤ bytes.length := by
  fun_induction percentDecode bytes <;> grind

theorem length_percentDecode_lt {bytes : List UInt8} (hescape : hasEscape bytes = true) :
    (percentDecode bytes).length < bytes.length := by
  induction bytes with
  | nil => cases hescape
  | cons b s ih =>
      cases hstarts : startsEscape (b :: s) with
      | true =>
          obtain ⟨h, l, rest, c, hbytes, hdecoded⟩ := percentDecode_of_startsEscape hstarts
          have hle := length_percentDecode_le rest
          rw [hdecoded, hbytes]
          simp only [List.length_cons]
          omega
      | false =>
          rw [hasEscape, hstarts, Bool.false_or] at hescape
          rw [percentDecode_cons hstarts]
          exact Nat.succ_lt_succ (ih hescape)

/-! ## Escaping -/

theorem ne_percent_of_mem_utf8Char {c : Char} (hc : c ≠ '%') {b : UInt8} (hb : b ∈ utf8Char c) :
    b ≠ 0x25 := by
  rintro rfl
  exact hc (Char.toNat_inj.mp (toNat_of_mem_utf8Char hb (by decide)))

theorem percentDecode_append {front : List UInt8} (hfront : ∀ b ∈ front, b ≠ 0x25)
    (s : List UInt8) : percentDecode (front ++ s) = front ++ percentDecode s := by
  induction front with
  | nil => rfl
  | cons b front ih =>
      rw [List.cons_append, percentDecode_cons (startsEscape_of_ne (hfront b List.mem_cons_self) _),
        ih fun c hc => hfront c (List.mem_cons_of_mem _ hc), List.cons_append]

end Almanac.Text

namespace Almanac.Url

open Text

/-- A digit of an escaped byte is read as its number. -/
theorem hexValue?_toUpper_hexDigit {n : Nat} (hn : n < 16) :
    hexValue? (hexDigit n).toUpper = some n ∧ (hexDigit n).toUpper.toNat < 0x80 := by
  have all : ∀ m : Fin 16, hexValue? (hexDigit m).toUpper = some m.val ∧
      (hexDigit m).toUpper.toNat < 0x80 := by decide +kernel
  exact all ⟨n, hn⟩

theorem percentByte_eq (b : UInt8) : percentByte b =
    ['%', (hexDigit (b.toNat / 16)).toUpper, (hexDigit (b.toNat % 16)).toUpper] := rfl

theorem percentDecode_percentByte (b : UInt8) (s : List UInt8) :
    percentDecode (utf8 (percentByte b) ++ s) = b :: percentDecode s := by
  have hb := b.toNat_lt
  obtain ⟨hhigh, hhighAscii⟩ := hexValue?_toUpper_hexDigit (n := b.toNat / 16) (by omega)
  obtain ⟨hlow, hlowAscii⟩ := hexValue?_toUpper_hexDigit (n := b.toNat % 16) (by omega)
  have hascii {c : Char} (hc : c.toNat < 0x80) :
      utf8Char c = [c.toNat.toUInt8] ∧ Char.ofNat c.toNat.toUInt8.toNat = c := by
    rw [toNat_toUInt8 (by omega), Char.ofNat_toNat, utf8Char, if_pos hc]
    exact ⟨rfl, rfl⟩
  have hbytes := percentByte_eq b
  generalize (hexDigit (b.toNat / 16)).toUpper = h at *
  generalize (hexDigit (b.toNat % 16)).toUpper = l at *
  rw [hbytes, utf8_cons, utf8_cons, utf8_cons, (hascii hhighAscii).1, (hascii hlowAscii).1]
  have hvalue : b.toNat / 16 * 16 + b.toNat % 16 = b.toNat := by omega
  rw [show utf8 [] = [] from rfl, show utf8Char '%' = [0x25] from rfl]
  simp only [List.cons_append, List.nil_append]
  rw [percentDecode, if_pos rfl, (hascii hhighAscii).2, (hascii hlowAscii).2, hhigh, hlow]
  simp only [hvalue, ← eq_toUInt8 rfl]

theorem escape_cons (escaped : Char → Bool) (c : Char) (s : List Char) :
    escape escaped (c :: s) =
      (if escaped c then (utf8Char c).flatMap percentByte else [c]) ++ escape escaped s :=
  List.flatMap_cons

theorem percentDecode_flatMap_percentByte (bytes s : List UInt8) :
    percentDecode (utf8 (bytes.flatMap percentByte) ++ s) = bytes ++ percentDecode s := by
  induction bytes with
  | nil => rfl
  | cons b bytes ih =>
      rw [List.flatMap_cons, utf8_append, List.append_assoc, percentDecode_percentByte, ih,
        List.cons_append]

/-- A text is given back by its escaped form. -/
theorem percentDecode_escape {escaped : Char → Bool} (hpercent : escaped '%' = true)
    (s : List Char) : percentDecode (utf8 (escape escaped s)) = utf8 s := by
  induction s with
  | nil => simp [escape, utf8, percentDecode]
  | cons c s ih =>
      rw [escape_cons, utf8_append, utf8_cons]
      split
      next => rw [percentDecode_flatMap_percentByte, ih]
      next hc =>
        have hne : c ≠ '%' := by
          rintro rfl
          exact hc hpercent
        have hplain : ∀ b ∈ utf8Char c, b ≠ 0x25 := fun b hb => ne_percent_of_mem_utf8Char hne hb
        rw [utf8_cons, show utf8 [] = [] from rfl, List.append_nil, percentDecode_append hplain, ih]

/-- Escaped characters are gone, except for those that the escaped form is made of. -/
theorem notMem_escape {escaped : Char → Bool} {c : Char} (hescaped : escaped c = true)
    (hc : c ≠ '%') (hdigit : hexValue? c = none) (s : List Char) : c ∉ escape escaped s := by
  intro hmem
  obtain ⟨d, _, hd⟩ := List.mem_flatMap.mp hmem
  split at hd
  next =>
    obtain ⟨b, _, hb⟩ := List.mem_flatMap.mp hd
    have hlt := b.toNat_lt
    rw [percentByte_eq, List.mem_cons, List.mem_cons, List.mem_singleton] at hb
    have hsome {n : Nat} (hn : n < 16) : c ≠ (hexDigit n).toUpper := by
      rintro rfl
      rw [(hexValue?_toUpper_hexDigit hn).1] at hdigit
      cases hdigit
    rcases hb with hb | hb | hb
    · exact hc hb
    · exact hsome (by omega) hb
    · exact hsome (by omega) hb
  next hplain =>
    obtain rfl := List.mem_singleton.mp hd
    exact hplain hescaped

end Almanac.Url
