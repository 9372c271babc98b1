import Almanac.Text.CodePage
import Almanac.Text.Utf8

/-!
# Character sets

How the bytes of a body are read as a text. The mark that some texts begin with
decides by itself; otherwise the name that comes with the body does, and without a
known name the bytes are UTF-8.
-/

namespace Almanac.Text

/-- The order of the two bytes of a unit. -/
inductive ByteOrder where
  | little | big
deriving DecidableEq

/-- The character sets that can be named. -/
inductive Charset where
  | utf8
  | utf16 (order : ByteOrder)
  | page (p : CodePage)
  /-- A set in which the same bytes can stand for several texts. It is not read. -/
  | ambiguous
deriving DecidableEq

/-- The names of the character sets without pages, in lower case. -/
def charsetNames : List (String × Charset) :=
  [("unicode-1-1-utf-8", .utf8), ("unicode11utf8", .utf8), ("unicode20utf8", .utf8),
   ("utf-8", .utf8), ("utf8", .utf8), ("x-unicode20utf8", .utf8),
   ("unicodefffe", .utf16 .big), ("utf-16be", .utf16 .big),
   ("csunicode", .utf16 .little), ("iso-10646-ucs-2", .utf16 .little), ("ucs-2", .utf16 .little),
   ("unicode", .utf16 .little), ("unicodefeff", .utf16 .little), ("utf-16", .utf16 .little),
   ("utf-16le", .utf16 .little),
   ("csiso2022kr", .ambiguous), ("hz-gb-2312", .ambiguous), ("iso-2022-cn", .ambiguous),
   ("iso-2022-cn-ext", .ambiguous), ("iso-2022-kr", .ambiguous), ("replacement", .ambiguous)]

/-- A blank that may stand around the name of a character set. -/
def isNameBlank (c : Char) : Bool :=
  c == ' ' || c == '\t' || c == '\n' || c == '\r' || c.toNat == 12

/-- The character set of a name of any case. -/
def charset? (name : String) : Option Charset :=
  let trimmed := ((name.toList.dropWhile isNameBlank).reverse.dropWhile isNameBlank).reverse
  let key := String.ofList (trimmed.map Char.toLower)
  match charsetNames.find? fun e => e.1 == key with
  | some e => some e.2
  | none => (codePages.find? fun p => p.names.contains key).map .page

/-- The units of bytes, two bytes each; a byte that is left over is no unit. -/
def units (order : ByteOrder) : List UInt8 → List (Option Nat)
  | [] => []
  | [_] => [none]
  | a :: b :: s =>
    some (match order with
      | .little => b.toNat * 256 + a.toNat
      | .big => a.toNat * 256 + b.toNat) :: units order s

/-- The first half of a pair of units. -/
def isHighHalf (n : Nat) : Bool := 0xD800 ≤ n && n < 0xDC00

/-- The second half of a pair of units. -/
def isLowHalf (n : Nat) : Bool := 0xDC00 ≤ n && n < 0xE000

/-- The text of units, with replacement characters for halves without their other halves. A byte
that is left over behind such a half adds none. -/
def ofUnits : List (Option Nat) → List Char
  | [] => []
  | none :: s => '\uFFFD' :: ofUnits s
  | some n :: some m :: s =>
    if isHighHalf n && isLowHalf m then
      Char.ofNat (0x10000 + (n - 0xD800) * 0x400 + (m - 0xDC00)) :: ofUnits s
    else (if isHighHalf n || isLowHalf n then '\uFFFD' else Char.ofNat n) :: ofUnits (some m :: s)
  | some n :: none :: s =>
    if isHighHalf n then '\uFFFD' :: ofUnits s
    else (if isLowHalf n then '\uFFFD' else Char.ofNat n) :: '\uFFFD' :: ofUnits s
  | [some n] => [if isHighHalf n || isLowHalf n then '\uFFFD' else Char.ofNat n]

/-- The text of bytes in a character set. -/
def Charset.read : Charset → List UInt8 → List Char
  | .utf8, bytes => ofUtf8Lossy bytes
  | .utf16 order, bytes => ofUnits (units order bytes)
  | .page p, bytes => p.read bytes
  | .ambiguous, bytes => if bytes.isEmpty then [] else ['\uFFFD']

/-- The text of a body that came with the name of a character set, or without one. -/
def readBody (name : Option String) (bytes : List UInt8) : List Char :=
  match bytes with
  | 0xEF :: 0xBB :: 0xBF :: rest => Charset.read .utf8 rest
  | 0xFF :: 0xFE :: rest => Charset.read (.utf16 .little) rest
  | 0xFE :: 0xFF :: rest => Charset.read (.utf16 .big) rest
  | bytes => ((name.bind charset?).getD .utf8).read bytes

end Almanac.Text
