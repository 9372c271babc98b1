import Almanac.Url.HostCharacter

/-!
# Writing direction of labels

Some scripts are written from right to left. As soon as a host name holds such a
script, or the digits that go with it, every label of the name has to have one
direction from its first to its last character, so that labels can be told apart
however they are shown. A character that stands for others has their direction.
-/

namespace Almanac.Url

/-- The direction that a character is written in. -/
inductive Direction where
  | left
  | right
  | europeanNumber
  | arabicNumber
  /-- A sign that goes with what is around it. -/
  | neutral
  /-- A mark that goes with the character before it. -/
  | mark
deriving DecidableEq

/-- Runs of characters beyond ASCII that are no marks and are not written from left to right. -/
def directionRuns : List (Nat × Nat × Direction) :=
  [(0x00A1, 0x00B1, .neutral), (0x00B6, 0x00BF, .neutral), (0x00D7, 0x00D7, .neutral),
   (0x00F7, 0x00F7, .neutral), (0x02B9, 0x02BA, .neutral), (0x02C2, 0x02CF, .neutral),
   (0x02D2, 0x02DF, .neutral), (0x02E5, 0x02ED, .neutral), (0x02EF, 0x02FF, .neutral),
   (0x0374, 0x0375, .neutral), (0x0387, 0x0387, .neutral), (0x03F6, 0x03F6, .neutral),
   (0x058A, 0x058F, .neutral), (0x05BE, 0x05F4, .right), (0x0606, 0x0607, .neutral),
   (0x0608, 0x0608, .right), (0x0609, 0x060A, .neutral), (0x060B, 0x060B, .right),
   (0x060C, 0x060C, .neutral), (0x060D, 0x060D, .right), (0x060E, 0x060F, .neutral),
   (0x061B, 0x064A, .right), (0x0660, 0x0669, .arabicNumber), (0x066A, 0x066A, .neutral),
   (0x066B, 0x066C, .arabicNumber), (0x066D, 0x06D5, .right), (0x06DE, 0x06DE, .neutral),
   (0x06E5, 0x06E6, .right), (0x06E9, 0x06E9, .neutral), (0x06EE, 0x06EF, .right),
   (0x06F0, 0x06F9, .europeanNumber), (0x06FA, 0x07F5, .right), (0x07F6, 0x07F9, .neutral),
   (0x07FA, 0x08C9, .right), (0x09F2, 0x09F3, .neutral), (0x09FB, 0x09FB, .neutral),
   (0x0AF1, 0x0AF1, .neutral), (0x0BF3, 0x0BFA, .neutral), (0x0C78, 0x0C7E, .neutral),
   (0x0E3F, 0x0E3F, .neutral), (0x0F3A, 0x0F3D, .neutral), (0x1390, 0x1399, .neutral),
   (0x1400, 0x1400, .neutral), (0x169B, 0x169C, .neutral), (0x17DB, 0x17DB, .neutral),
   (0x17F0, 0x180A, .neutral), (0x1940, 0x1945, .neutral), (0x19DE, 0x19FF, .neutral),
   (0x200C, 0x208B, .neutral), (0x20A0, 0x2104, .neutral), (0x2108, 0x2108, .neutral),
   (0x2114, 0x2125, .neutral), (0x2127, 0x2129, .neutral), (0x212E, 0x212E, .neutral),
   (0x2135, 0x2138, .right), (0x213A, 0x213A, .neutral), (0x2140, 0x214D, .neutral),
   (0x218A, 0x2335, .neutral), (0x237B, 0x2394, .neutral), (0x2396, 0x26AB, .neutral),
   (0x26AD, 0x27FF, .neutral), (0x2900, 0x2BFF, .neutral), (0x2CE5, 0x2CEA, .neutral),
   (0x2CF9, 0x2CFF, .neutral), (0x2E00, 0x2E9E, .neutral), (0x2EA0, 0x2EF2, .neutral),
   (0x3001, 0x3004, .neutral), (0x3008, 0x3020, .neutral), (0x3030, 0x3030, .neutral),
   (0x3036, 0x3037, .neutral), (0x303D, 0x303F, .neutral), (0x30A0, 0x30A0, .neutral),
   (0x30FB, 0x30FB, .neutral), (0x31C0, 0x31E5, .neutral), (0x4DC0, 0x4DFF, .neutral),
   (0xA490, 0xA4C6, .neutral), (0xA60D, 0xA60F, .neutral), (0xA673, 0xA67F, .neutral),
   (0xA700, 0xA721, .neutral), (0xA788, 0xA788, .neutral), (0xA828, 0xA82B, .neutral),
   (0xA838, 0xA839, .neutral), (0xA874, 0xA877, .neutral), (0xAB6A, 0xAB6B, .neutral),
   (0xFB1D, 0xFBC2, .right), (0xFBC3, 0xFBD2, .neutral), (0xFBD3, 0xFD3D, .right),
   (0xFD3E, 0xFD4F, .neutral), (0xFD50, 0xFD8F, .right), (0xFD90, 0xFD91, .neutral),
   (0xFD92, 0xFDC7, .right), (0xFDC8, 0xFDCF, .neutral), (0xFDF0, 0xFDFC, .right),
   (0xFDFD, 0xFE5E, .neutral), (0xFE71, 0xFEFC, .right), (0xFF5F, 0xFF65, .neutral),
   (0xFFE0, 0xFFEE, .neutral), (0x10101, 0x10101, .neutral), (0x10140, 0x1018C, .neutral),
   (0x10190, 0x101A0, .neutral), (0x102E1, 0x102FB, .europeanNumber), (0x10800, 0x1091B, .right),
   (0x1091F, 0x1091F, .neutral), (0x10920, 0x10B35, .right), (0x10B39, 0x10B3F, .neutral),
   (0x10B40, 0x10D23, .right), (0x10D30, 0x10D49, .arabicNumber), (0x10D4A, 0x10D65, .right),
   (0x10D6E, 0x10D6E, .neutral), (0x10D6F, 0x10D8F, .right), (0x10E60, 0x10E7E, .arabicNumber),
   (0x10E80, 0x10EC7, .right), (0x10ED0, 0x10ED8, .neutral), (0x10F00, 0x10FF6, .right),
   (0x11052, 0x11065, .neutral), (0x11660, 0x1166C, .neutral), (0x11FD5, 0x11FF1, .neutral),
   (0x16FE2, 0x16FE2, .neutral), (0x1CC00, 0x1CEF0, .neutral), (0x1D1E9, 0x1D245, .neutral),
   (0x1D300, 0x1D356, .neutral), (0x1D6C1, 0x1D6C1, .neutral), (0x1D6DB, 0x1D6DB, .neutral),
   (0x1D6FB, 0x1D6FB, .neutral), (0x1D715, 0x1D715, .neutral), (0x1D735, 0x1D735, .neutral),
   (0x1D74F, 0x1D74F, .neutral), (0x1D76F, 0x1D76F, .neutral), (0x1D789, 0x1D789, .neutral),
   (0x1D7A9, 0x1D7A9, .neutral), (0x1D7C3, 0x1D7C3, .neutral), (0x1DB00, 0x1DBFF, .neutral),
   (0x1E2FF, 0x1E2FF, .neutral), (0x1E800, 0x1EEBB, .right), (0x1EEF0, 0x1F12F, .neutral),
   (0x1F16D, 0x1F16F, .neutral), (0x1F1AD, 0x1F1AD, .neutral), (0x1F240, 0x1F248, .neutral),
   (0x1F260, 0x1FBFA, .neutral)]

/-- The direction of a character. -/
def direction (c : Char) : Direction :=
  if c.toNat < 128 then
    if c.isAlpha then .left else if c.isDigit then .europeanNumber else .neutral
  else if isNonspacing c then .mark
  else match directionRuns.find? fun r => r.1 ≤ c.toNat && c.toNat ≤ r.2.1 with
    | some r => r.2.2
    | none => .left

/-- A text that makes its name one in which directions count. -/
def hasRight (s : List Char) : Bool :=
  s.any fun c => direction c == .right || direction c == .arabicNumber

/-- The directions of a text without the marks at its end. -/
def shownDirections (s : List Char) : List Direction :=
  ((s.map direction).reverse.dropWhile (· == .mark)).reverse

/-- A label from left to right: it ends in a letter or digit, and nothing in it goes from right to
left. -/
def isLeftToRight (ds : List Direction) : Bool :=
  (ds.getLast? == some .left || ds.getLast? == some .europeanNumber) &&
    ds.all fun d => d != .right && d != .arabicNumber

/-- A label from right to left: it ends in a letter or digit, nothing in it goes from left to right,
and its digits are of one kind. -/
def isRightToLeft (ds : List Direction) : Bool :=
  (match ds.getLast? with
    | some .right | some .europeanNumber | some .arabicNumber => true
    | _ => false) &&
    ds.all (· != .left) && !(ds.contains .europeanNumber && ds.contains .arabicNumber)

/-- A label of a name in which directions count has one direction, which its first character, a
letter, decides. -/
def hasOneDirection (s : List Char) : Bool :=
  match shownDirections s with
  | [] => true
  | .left :: ds => isLeftToRight (.left :: ds)
  | .right :: ds => isRightToLeft (.right :: ds)
  | _ => false

end Almanac.Url
