import Almanac.Text.Blank
import Mathlib.Data.List.Basic

/-!
# Capitals

Only the small letters from `a` to `z` have capitals. Bringing a text into capitals once more
changes nothing, and makes nothing blank that was not.
-/

namespace Almanac.Text

/-- A character in capitals: a small letter moves to its place among the capitals, and any other
character stays as it is. -/
theorem toUpper_cases (c : Char) :
    (97 ≤ c.toNat ∧ c.toNat ≤ 122 ∧ c.toUpper.toNat = c.toNat - 32) ∨
      (¬(97 ≤ c.toNat ∧ c.toNat ≤ 122) ∧ c.toUpper = c) := by
  unfold Char.toUpper
  split
  next hsmall =>
    have hlow : 97 ≤ c.toNat := UInt32.le_iff_toNat_le.mp hsmall.1
    have hhigh : c.toNat ≤ 122 := UInt32.le_iff_toNat_le.mp hsmall.2
    -- The way to the capitals is an addition that wraps around.
    have hshift : ('A'.val - 'a'.val).toNat = 4294967264 := by decide
    refine .inl ⟨hlow, hhigh, ?_⟩
    show (c.val + ('A'.val - 'a'.val)).toNat = c.toNat - 32
    rw [UInt32.toNat_add, hshift]
    show (c.toNat + 4294967264) % 2 ^ 32 = c.toNat - 32
    omega
  next hother =>
    refine .inr ⟨fun hsmall => hother ?_, rfl⟩
    exact ⟨UInt32.le_iff_toNat_le.mpr hsmall.1, UInt32.le_iff_toNat_le.mpr hsmall.2⟩

theorem toUpper_toUpper (c : Char) : c.toUpper.toUpper = c.toUpper := by
  rcases toUpper_cases c with ⟨hlow, hhigh, hupper⟩ | ⟨_, hsame⟩
  · rcases toUpper_cases c.toUpper with ⟨hlow', _, _⟩ | ⟨_, hsame⟩
    · omega
    · exact hsame
  · rw [hsame, hsame]

/-- A blank lies outside of the range of letters. -/
theorem toNat_of_isBlank {c : Char} (hc : isBlank c = true) : c.toNat < 65 ∨ 122 < c.toNat := by
  simp [isBlank] at hc
  omega

theorem toNat_of_isAlpha {c : Char} (hc : c.isAlpha = true) : 65 ≤ c.toNat ∧ c.toNat ≤ 122 := by
  rcases Bool.or_eq_true_iff.mp hc with hupper | hlower
  · obtain ⟨hlow, hhigh⟩ := of_decide_eq_true hupper
    have hlow' : 65 ≤ c.toNat := UInt32.le_iff_toNat_le.mp hlow
    have hhigh' : c.toNat ≤ 90 := UInt32.le_iff_toNat_le.mp hhigh
    omega
  · obtain ⟨hlow, hhigh⟩ := Bool.and_eq_true_iff.mp hlower
    have hlow' : 97 ≤ c.toNat := UInt32.le_iff_toNat_le.mp (of_decide_eq_true hlow)
    have hhigh' : c.toNat ≤ 122 := UInt32.le_iff_toNat_le.mp (of_decide_eq_true hhigh)
    omega

theorem isAlpha_of_isBlank {c : Char} (hc : isBlank c = true) : c.isAlpha = false := by
  by_contra hletter
  have hrange := toNat_of_isBlank hc
  have hrange' := toNat_of_isAlpha (Bool.not_eq_false _ ▸ hletter)
  omega

@[simp] theorem isBlank_toUpper (c : Char) : isBlank c.toUpper = isBlank c := by
  rcases toUpper_cases c with ⟨hlow, hhigh, hupper⟩ | ⟨_, hsame⟩
  · have hletter : ∀ d : Char, 65 ≤ d.toNat → d.toNat ≤ 122 → isBlank d = false := by
      intro d hd hd'
      by_contra hblank
      have hrange := toNat_of_isBlank (Bool.not_eq_false _ ▸ hblank)
      omega
    rw [hletter c (by omega) hhigh, hletter c.toUpper (by omega) (by omega)]
  · rw [hsame]

end Almanac.Text
