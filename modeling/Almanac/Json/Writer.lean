import Almanac.Datum
import Almanac.Json.Quoted

/-!
# Writing JSON texts

Data are written on one line without blanks. Only what a configuration consists
of is written: nothing, truth values, whole numbers, strings, sequences and
mappings.
-/

namespace Almanac.Json

/-- A whole number in decimal digits. -/
def writeInt (n : Int) : List Char :=
  if n < 0 then '-' :: Nat.toDigits 10 n.natAbs else Nat.toDigits 10 n.natAbs

mutual

/-- The text of data. -/
def writeDatum : Datum → List Char
  | .bool true => "true".toList
  | .bool false => "false".toList
  | .integer n => writeInt n
  | .string s => writeString s.toList
  | .sequence items _ => '[' :: writeItems items ++ [']']
  | .mapping entries _ => '{' :: writeEntries entries ++ ['}']
  | .null | .float _ | .special _ | .moment | .unnamed _ | .unreadable | .damaged => "null".toList

/-- Items with commas between them. -/
def writeItems : List Datum → List Char
  | [] => []
  | [d] => writeDatum d
  | d :: ds => writeDatum d ++ ',' :: writeItems ds

/-- Entries with commas between them. -/
def writeEntries : List (String × Datum) → List Char
  | [] => []
  | [(name, d)] => writeString name.toList ++ ':' :: writeDatum d
  | (name, d) :: es => writeString name.toList ++ ':' :: writeDatum d ++ ',' :: writeEntries es

end

/-- The text of data. -/
def write (d : Datum) : String := String.ofList (writeDatum d)

end Almanac.Json
