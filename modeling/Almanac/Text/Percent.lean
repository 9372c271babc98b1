import Almanac.Text.Hex

/-!
# Percent signs

In addresses a percent sign and two hexadecimal digits stand for one byte. A
percent sign with anything else behind it stands for itself.
-/

namespace Almanac.Text

/-- The bytes of a text in which percent signs have been resolved. -/
def percentDecode : List UInt8 → List UInt8
  | [] => []
  | b :: s =>
    match s with
    | h :: l :: rest =>
      if b = 0x25 then
        match hexValue? (Char.ofNat h.toNat), hexValue? (Char.ofNat l.toNat) with
        | some x, some y => (x * 16 + y).toUInt8 :: percentDecode rest
        | _, _ => b :: percentDecode (h :: l :: rest)
      else b :: percentDecode (h :: l :: rest)
    | s => b :: percentDecode s
termination_by s => s.length

end Almanac.Text
