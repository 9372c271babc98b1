import Almanac.Text.Affix
import Almanac.Text.Percent
import Almanac.Text.Utf8
import Almanac.Url.Composition
import Almanac.Url.Direction
import Almanac.Url.HostCharacter
import Almanac.Url.Joining
import Almanac.Url.Punycode

/-!
# Hosts

The host of an address is a name or a number. A name may be international; it is
checked label by label. A name whose last label is a number has to be an address
of four bytes, and a text in brackets one of sixteen.
-/

namespace Almanac.Url

/-- Why a text is no address. -/
inductive UrlError where
  | emptyHost
  | invalidName
  | invalidPort
  | invalidIpv4
  | invalidIpv6
  | invalidCharacter
  | relative
deriving DecidableEq

/-- The wording of a reason. -/
def UrlError.message : UrlError → String
  | .emptyHost => "empty host"
  | .invalidName => "invalid international domain name"
  | .invalidPort => "invalid port number"
  | .invalidIpv4 => "invalid IPv4 address"
  | .invalidIpv6 => "invalid IPv6 address"
  | .invalidCharacter => "invalid domain character"
  | .relative => "relative URL without a base"

/-- What a host is. -/
inductive Host where
  | name (s : String)
  | ipv4
  | ipv6
deriving DecidableEq

/-- The value of a part of an address of four bytes: decimal, octal behind a zero, or hexadecimal
behind `0x`. -/
def ipv4Part? (s : List Char) : Option Nat :=
  let value (base : Nat) (digits : List Char) : Option Nat := do
    let ds ← digits.mapM Text.hexValue?
    if ds.all (· < base) then some (ds.foldl (fun n d => n * base + d) 0) else none
  match s with
  | [] => none
  | ['0'] => some 0
  | '0' :: c :: t => if c = 'x' ∨ c = 'X' then value 16 t else value 8 (c :: t)
  | s => value 10 s

/-- The parts of a name between its dots; a dot at the end closes the last part. -/
def ipv4Parts (s : List Char) : List (List Char) :=
  let parts := Text.splitAtChar '.' s
  if parts.getLast? = some [] then parts.dropLast else parts

/-- The last part of a name is a number. -/
def endsInNumber (s : List Char) : Bool :=
  match (ipv4Parts s).getLast? with
  | none => false
  | some last => (!last.isEmpty && last.all Char.isDigit) || (ipv4Part? last).isSome

/-- An address of four bytes: at most four numbers, of which the last one fills what the others
leave. -/
def isIpv4 (s : List Char) : Bool :=
  let parts := ipv4Parts s
  match parts.mapM ipv4Part? with
  | none => false
  | some numbers =>
    match numbers.getLast? with
    | none => false
    | some last =>
      numbers.length ≤ 4 && numbers.dropLast.all (· ≤ 255) &&
        last < Nat.pow 256 (5 - numbers.length)

/-- The group of one to four hexadecimal digits at the start of a text, and what follows it. -/
def ipv6Group? (s : List Char) : Option (List Char) :=
  let digits := (s.take 4).takeWhile fun c => (Text.hexValue? c).isSome
  if digits.isEmpty then none else some (s.drop digits.length)

/-- Four decimal numbers up to 255, without leading zeros, with dots between them. -/
def isDottedQuad (s : List Char) : Bool :=
  let parts := Text.splitAtChar '.' s
  parts.length == 4 && parts.all fun p =>
    !p.isEmpty && p.length ≤ 3 && p.all Char.isDigit && (p.length == 1 || p.head? != some '0') &&
      p.foldl (fun n c => n * 10 + (c.toNat - 0x30)) 0 ≤ 255

/-- Groups with colons between them: how many there are, a dotted ending counting twice. Nothing if
something else is among them. The fuel bounds their number. -/
def ipv6Groups? : Nat → List Char → Option Nat
  | 0, _ => none
  | fuel + 1, s =>
    if isDottedQuad s then some 2
    else do
      match ← ipv6Group? s with
      | [] => some 1
      | ':' :: t => (ipv6Groups? fuel t).map (· + 1)
      | _ => none

/-- The text before the first pair of colons and the text after it. -/
def cutAtColons : List Char → Option (List Char × List Char)
  | [] => none
  | ':' :: ':' :: s => some ([], s)
  | c :: s => (cutAtColons s).map fun r => (c :: r.1, r.2)

/-- A dotted ending stands behind everything else. -/
def hasNoDot (s : List Char) : Bool := s.all (· != '.')

/-- An address of sixteen bytes: eight groups, or fewer with one pair of colons for the rest. -/
def isIpv6 (s : List Char) : Bool :=
  match cutAtColons s with
  | none => ipv6Groups? 9 s == some 8
  | some (before, after) =>
    let count (t : List Char) : Option Nat := if t.isEmpty then some 0 else ipv6Groups? 9 t
    match count before, count after with
    | some m, some n => hasNoDot before && m + n ≤ 7
    | _, _ => false

/-- An ASCII character that a name may not hold. -/
def isForbidden (c : Char) : Bool :=
  c.toNat ≤ 0x20 || c.toNat == 0x7F || "%#/:<>?@[\\]^|".toList.contains c

/-- How many characters a label may have unless all of them are ASCII characters. -/
def labelLimit : Nat := 1000

/-- How many characters the ASCII form of such a label may have behind its first four. -/
def asciiFormLimit : Nat := 2000

/-- The characters that a label in the ASCII form stands for. One at least is no ASCII character,
all of them stand for nothing but themselves, and they are in the composed form. -/
def decodedLabel? (s : List Char) : Option (List Char) :=
  if asciiFormLimit < s.length || s.any fun c => 128 ≤ c.toNat then none
  else (punycodeDecode? s).filter fun u =>
    u.any (fun c => 128 ≤ c.toNat) && u.all isPlain && composed u == u

/-- The characters of a label; nothing if it is not allowed. It does not begin with a mark. -/
def label? (s : List Char) : Option (List Char) :=
  let shown? := match Text.dropPrefix? "xn--".toList s with
    | none => some s
    | some t => decodedLabel? t
  shown?.filter fun u =>
    (match u with
      | [] => true
      | c :: _ => !isMark c) && joinersFit u &&
    (u.length ≤ labelLimit || u.all fun c => c.toNat < 128)

/-- A name in the form that it is looked up in; nothing if it is not allowed. -/
def hostName? (s : List Char) : Option (List Char) := do
  let name := composed (← s.mapM hostText?).flatten
  let labels ← (Text.splitAtChar '.' name).mapM label?
  if name.any isForbidden || (labels.any hasRight && !labels.all hasOneDirection) then none
  else some name

/-- The host of an address whose scheme is one of the known ones. -/
def specialHost? (s : List Char) : Except UrlError Host :=
  match s with
  | '[' :: t =>
    if t.getLast? = some ']' then
      if isIpv6 t.dropLast then .ok .ipv6 else .error .invalidIpv6
    else .error .invalidIpv6
  | s =>
    match (Text.ofUtf8? (Text.percentDecode (Text.utf8 s))).bind hostName? with
    | none => .error .invalidName
    | some [] => .error .emptyHost
    | some name =>
      if endsInNumber name then if isIpv4 name then .ok .ipv4 else .error .invalidIpv4
      else .ok (.name (String.ofList name))

/-- The host of an address with any other scheme. -/
def opaqueHost? (s : List Char) : Except UrlError Host :=
  match s with
  | '[' :: t =>
    if t.getLast? = some ']' then
      if isIpv6 t.dropLast then .ok .ipv6 else .error .invalidIpv6
    else .error .invalidIpv6
  | s =>
    if s.any fun c => c.toNat == 0 || "\t\n\r #/:<>?@[\\]^|".toList.contains c then
      .error .invalidCharacter
    else .ok (.name (String.ofList s))

end Almanac.Url
