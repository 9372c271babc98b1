import Almanac.Json.Reader
import Almanac.Json.Writer
import Almanac.Proofs.Text.Trim

/-!
# Strings and numbers of JSON texts

A string or a whole number that has been written is read back, whatever stands behind it. A
string ends at its mark. A number ends where no digit, point or power follows, so what stands
behind it has to be what stands behind a value.
-/

namespace Almanac.Json

/-- What stands behind a value: nothing, or the next mark of a sequence or a mapping. -/
def Follows (rest : List Char) : Prop :=
  ∀ c, rest.head? = some c → c = ',' ∨ c = ']' ∨ c = '}'

/-! ## Strings -/

/-- A control character without a letter of its own is written by its number. -/
def isNumbered (c : Char) : Bool :=
  c.toNat < 0x20 && c.toNat != 8 && c.toNat != 9 && c.toNat != 10 && c.toNat != 12 && c.toNat != 13

/-- The piece that a written character is read as. -/
def pieceOf (c : Char) : Piece := if isNumbered c then .unit c.toNat else .char c

theorem unit?_writeChar {n : Nat} (hn : n < 0x20) :
    unit? '0' '0' (Text.hexDigit (n / 16)) (Text.hexDigit (n % 16)) = some n := by
  have hhigh := Text.hexValue?_hexDigit (n := n / 16) (by omega)
  have hlow := Text.hexValue?_hexDigit (n := n % 16) (by omega)
  have hzero : Text.hexValue? '0' = some 0 := by decide
  simp only [unit?, hzero, hhigh, hlow, Option.bind_eq_bind, Option.bind_some]
  congr 1
  omega

/-- A letter behind a backslash is one piece. -/
theorem pieces?_shortEscape (letter c : Char) (hletter : letter ≠ 'u')
    (hescape : shortEscape? letter = some c) (s : List Char) :
    pieces? ('\\' :: letter :: s) = (pieces? s).map fun r => (.char c :: r.1, r.2) := by
  simp [pieces?, hletter, hescape]

/-- A written character is one piece. -/
theorem pieces?_writeChar (c : Char) (s : List Char) :
    pieces? (writeChar c ++ s) = (pieces? s).map fun r => (pieceOf c :: r.1, r.2) := by
  unfold writeChar
  split_ifs with hquote hslash hline hreturn htab hback hfeed hcontrol
  · subst hquote
    exact pieces?_shortEscape '"' '"' (by decide) (by decide) s
  · subst hslash
    exact pieces?_shortEscape '\\' '\\' (by decide) (by decide) s
  · subst hline
    exact pieces?_shortEscape 'n' '\n' (by decide) (by decide) s
  · subst hreturn
    exact pieces?_shortEscape 'r' '\r' (by decide) (by decide) s
  · subst htab
    exact pieces?_shortEscape 't' '\t' (by decide) (by decide) s
  · obtain rfl : c = Char.ofNat 8 := Char.toNat_inj.mp hback
    exact pieces?_shortEscape 'b' (Char.ofNat 8) (by decide) (by decide) s
  · obtain rfl : c = Char.ofNat 12 := Char.toNat_inj.mp hfeed
    exact pieces?_shortEscape 'f' (Char.ofNat 12) (by decide) (by decide) s
  · have hnumbered : isNumbered c = true := by
      simp_all [isNumbered, ← Char.toNat_inj]
    simp [pieces?, unit?_writeChar hcontrol, pieceOf, hnumbered]
  · have hplain : isNumbered c = false := by simp [isNumbered, hcontrol]
    simp [pieces?, hslash, hcontrol, pieceOf, hplain]

theorem pieces?_flatMap_writeChar (s rest : List Char) :
    pieces? (s.flatMap writeChar ++ '"' :: rest) = some (s.map pieceOf, rest) := by
  induction s with
  | nil => simp [pieces?]
  | cons c s ih =>
      rw [List.flatMap_cons, List.append_assoc, pieces?_writeChar, ih]
      rfl

/-- A unit below the halves of pairs is a character, whatever comes next. -/
theorem textOf?_unit {n : Nat} (hn : n < 0xD800) (ps : List Piece) :
    textOf? (.unit n :: ps) = (textOf? ps).map (Char.ofNat n :: ·) := by
  have hhigh : ¬(0xD800 ≤ n ∧ n < 0xDC00) := by omega
  have hlow : ¬(0xDC00 ≤ n ∧ n < 0xE000) := by omega
  have hpair : ¬(0xD800 ≤ n ∧ n < 0xE000) := by omega
  rcases ps with _ | ⟨_ | m, ps⟩
  · simp [textOf?, hpair]
  · simp [textOf?, hpair]
  · rw [textOf?, if_neg hhigh, if_neg hlow]

theorem textOf?_map_pieceOf (s : List Char) : textOf? (s.map pieceOf) = some s := by
  induction s with
  | nil => rfl
  | cons c s ih =>
      rw [List.map_cons, pieceOf]
      split
      next hnumbered =>
        have hcontrol : c.toNat < 0x20 := by simp_all [isNumbered]
        rw [textOf?_unit (by omega), ih, Char.ofNat_toNat]
        rfl
      next => rw [textOf?, ih]; rfl

/-- A written string is read back, once its opening mark has been read. -/
theorem stringDatum_writeString (s : String) (rest : List Char) :
    ∃ body, writeString s.toList ++ rest = '"' :: body ∧
      stringDatum body = (.string s, some rest) := by
  refine ⟨s.toList.flatMap writeChar ++ '"' :: rest, by simp [writeString], ?_⟩
  rw [stringDatum, pieces?_flatMap_writeChar]
  simp only [textOf?_map_pieceOf, String.ofList_toList]

/-! ## Whole numbers -/

/-- The digits of a number by their values. -/
def digitValues (n : Nat) : List Nat := (Nat.toDigits 10 n).map fun c => c.toNat - 0x30

theorem exists_toDigits_eq_cons (n : Nat) :
    ∃ c s, Nat.toDigits 10 n = c :: s ∧ c.isDigit = true := by
  obtain ⟨c, s, hdigits⟩ := List.exists_cons_of_ne_nil (Nat.toDigits_ne_nil (n := n) (b := 10))
  have hc : c ∈ Nat.toDigits 10 n := hdigits ▸ List.mem_cons_self
  exact ⟨c, s, hdigits, Nat.isDigit_of_mem_toDigits (by decide) (by decide) hc⟩

theorem natOf_digitValues (n : Nat) : natOf 0 (digitValues n) = n := by
  rw [natOf, digitValues, List.foldl_map]
  calc (Nat.toDigits 10 n).foldl (fun m c => m * 10 + (c.toNat - 0x30)) 0
      = Nat.ofDigitChars 10 (Nat.toDigits 10 n) 0 := by
        simp only [Nat.ofDigitChars_eq_foldl, Nat.mul_comm]
        rfl
    _ = n := Nat.ofDigitChars_ten_toDigits

theorem digitValues_ne_nil (n : Nat) : digitValues n ≠ [] := by
  rw [digitValues, Ne, List.map_eq_nil_iff]
  exact Nat.toDigits_ne_nil

/-- Only zero begins with a zero. -/
theorem head?_digitValues {n : Nat} (hn : 0 < n) : (digitValues n).head? ≠ some 0 := by
  induction n using Nat.strong_induction_on with
  | _ n ih =>
      by_cases hsmall : n < 10
      · rw [digitValues, Nat.toDigits_of_lt_base hsmall, List.map_singleton, List.head?_cons,
          Nat.toNat_digitChar_sub_48_of_lt_ten hsmall, Ne, Option.some_inj]
        omega
      · -- The last digit is put behind the others, which keep their beginning.
        have hothers := ih (n / 10) (by omega) (by omega)
        rw [List.head?_eq_some_head (digitValues_ne_nil _)] at hothers
        rw [digitValues, Nat.toDigits_of_base_le (by decide) (by omega), List.map_append,
          List.head?_append, ← digitValues, List.head?_eq_some_head (digitValues_ne_nil _),
          Option.some_or]
        exact hothers

/-- No number is written with a zero too many. -/
theorem digitValues_has_no_leading_zero (n : Nat) :
    ((digitValues n).isEmpty ||
      ((digitValues n).head? == some 0 && decide ((digitValues n).length ≠ 1))) = false := by
  rw [List.isEmpty_eq_false_iff.mpr (digitValues_ne_nil n), Bool.false_or]
  cases n with
  | zero => decide
  | succ n => simp [head?_digitValues (Nat.succ_pos n)]

theorem digitsOf_toDigits (n : Nat) {rest : List Char}
    (hrest : ∀ c, rest.head? = some c → c.isDigit = false) :
    digitsOf (Nat.toDigits 10 n ++ rest) = (digitValues n, rest) := by
  have hdigits : ∀ c ∈ Nat.toDigits 10 n, c.isDigit = true := fun c hc =>
    Nat.isDigit_of_mem_toDigits (by decide) (by decide) hc
  have hstop : rest.takeWhile Char.isDigit = [] := by
    cases rest with
    | nil => rfl
    | cons c rest => exact List.takeWhile_cons_of_neg (by simp [hrest c rfl])
  rw [digitsOf, List.takeWhile_append_of_pos hdigits, List.dropWhile_append_of_pos hdigits, hstop,
    Text.dropWhile_of_head? hrest, List.append_nil, digitValues]

section Follows

variable {rest : List Char} (hrest : Follows rest)

include hrest

theorem Follows.isDigit_eq_false : ∀ c, rest.head? = some c → c.isDigit = false := by
  intro c hc
  rcases hrest c hc with rfl | rfl | rfl <;> decide

theorem fractionOf_of_follows : fractionOf rest = some ([], rest) := by
  unfold fractionOf
  split
  next s => simpa using hrest '.' rfl
  next => rfl

theorem powerOf_of_follows : powerOf rest = some (none, rest) := by
  unfold powerOf
  split
  next => rfl
  next c s =>
    rw [if_neg]
    rintro (rfl | rfl)
    · simpa using hrest 'e' rfl
    · simpa using hrest 'E' rfl

/-- A written number is taken apart into its sign and its digits. -/
theorem literal?_writeInt (n : Int) :
    literal? (writeInt n ++ rest) =
      some (⟨decide (n < 0), digitValues n.natAbs, [], none⟩, rest) := by
  unfold literal?
  split
  next negative s hsign =>
    obtain ⟨rfl, rfl⟩ : negative = decide (n < 0) ∧ s = Nat.toDigits 10 n.natAbs ++ rest := by
      obtain ⟨c, digits, hdigits, hdigit⟩ := exists_toDigits_eq_cons n.natAbs
      have hc : c ≠ '-' := by
        rintro rfl
        simp at hdigit
      by_cases hneg : n < 0
      · simpa [writeInt, hneg, eq_comm] using hsign
      · simpa [writeInt, hneg, hdigits, hc, eq_comm] using hsign
    simp only [digitsOf_toDigits n.natAbs hrest.isDigit_eq_false, digitValues_has_no_leading_zero,
      Bool.false_eq_true, if_false, fractionOf_of_follows hrest, powerOf_of_follows hrest,
      Option.bind_eq_bind, Option.bind_some]

end Follows

/-- The whole numbers that 64 bits hold, with a sign or without. -/
def IsWord (n : Int) : Prop := -0x8000000000000000 ≤ n ∧ n ≤ 0xFFFFFFFFFFFFFFFF

theorem datum_digitValues {n : Int} (hn : IsWord n) :
    Literal.datum ⟨decide (n < 0), digitValues n.natAbs, [], none⟩ = .integer n := by
  obtain ⟨hlow, hhigh⟩ := hn
  have hsigned : (if decide (n < 0) then -(n.natAbs : Int) else n.natAbs) = n := by
    by_cases hneg : n < 0
    · rw [decide_eq_true hneg, if_pos rfl]
      omega
    · rw [decide_eq_false hneg, if_neg (by decide)]
      omega
  have hfits : n.natAbs ≤ largest := by
    unfold largest
    omega
  have hsign : decide (n < 0) = false ∨ 0 < n.natAbs ∧ n.natAbs ≤ 0x8000000000000000 := by
    rw [decide_eq_false_iff_not]
    omega
  simp only [Literal.datum, natOf_digitValues, hsigned]
  exact if_pos ⟨rfl, trivial, hfits, hsign⟩

/-- A written number is read back. -/
theorem numberDatum_writeInt {n : Int} (hn : IsWord n) {rest : List Char} (hrest : Follows rest) :
    numberDatum (writeInt n ++ rest) = (.integer n, some rest) := by
  rw [numberDatum, literal?_writeInt hrest]
  exact congrArg (·, some rest) (datum_digitValues hn)

end Almanac.Json
