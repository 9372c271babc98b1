import Almanac.Url.Host

/-!
# Addresses

The part of an address that has to be right before anything is fetched: its
scheme, and the host and port behind two slashes. Path, query and fragment can
hold anything.
-/

namespace Almanac.Url

/-- The scheme decides how the rest is read. -/
inductive SchemeKind where
  | file | special | other
deriving DecidableEq

/-- The kind of a scheme in lower case. -/
def SchemeKind.of (scheme : String) : SchemeKind :=
  if scheme = "file" then .file
  else if scheme ∈ ["http", "https", "ws", "wss", "ftp"] then .special
  else .other

/-- The characters that count: blanks and control characters around the address and line ends and
tabs within it do not. -/
def significant (s : List Char) : List Char :=
  let isSpace (c : Char) : Bool := c.toNat ≤ 0x20
  (((s.dropWhile isSpace).reverse.dropWhile isSpace).reverse).filter fun c =>
    c != '\t' && c != '\n' && c != '\r'

/-- The scheme in lower case and what follows its colon. -/
def scheme? (s : List Char) : Option (String × List Char) :=
  match s with
  | [] => none
  | c :: _ =>
    if c.isAlpha then
      let isSchemeChar (c : Char) : Bool := c.isAlphanum || c == '+' || c == '-' || c == '.'
      match s.dropWhile isSchemeChar with
      | ':' :: rest => some (String.ofList ((s.takeWhile isSchemeChar).map Char.toLower), rest)
      | _ => none
    else none

/-- A character that ends the authority. -/
def endsAuthority (kind : SchemeKind) (c : Char) : Bool :=
  c == '/' || c == '?' || c == '#' || (kind != .other && c == '\\')

/-- The text up to the last `c`, if there is one, and the text behind it. -/
def cutAtLast (c : Char) (s : List Char) : Option (List Char) × List Char :=
  if s.contains c then
    let tail := (s.reverse.takeWhile (· != c)).reverse
    (some ((s.take (s.length - tail.length)).dropLast), tail)
  else (none, s)

/-- A name or a password before the host. A colon alone is neither. -/
def hasCredentials (s : List Char) : Bool := !s.isEmpty && s != [':']

/-- The text of the host and, if there is a colon outside of brackets, the text behind it. -/
def cutPort : (inBrackets : Bool) → List Char → List Char × Option (List Char)
  | _, [] => ([], none)
  | inBrackets, c :: s =>
    if c = ':' ∧ inBrackets = false then ([], some s)
    else
      let r := cutPort (if c = '[' then true else if c = ']' then false else inBrackets) s
      (c :: r.1, r.2)

/-- A port number; no digits at all are one too. A backslash behind it begins the path, whatever the
scheme. -/
def isPort (s : List Char) : Bool :=
  let digits := s.takeWhile (· != '\\')
  digits.all Char.isDigit && digits.foldl (fun n c => n * 10 + (c.toNat - 0x30)) 0 ≤ 65535

/-- The host behind the two slashes. -/
def authorityHost? (kind : SchemeKind) (s : List Char) : Except UrlError Host := do
  let authority := s.takeWhile fun c => !endsAuthority kind c
  let behind := s.drop authority.length
  let (credentials, hostAndPort) := cutAtLast '@' authority
  if credentials = some [] ∧ hostAndPort.isEmpty ∧ !behind.isEmpty then .error .emptyHost
  else
    let (hostText, port) := cutPort false hostAndPort
    let host ←
      if kind = .special then
        if hostText.isEmpty then .error .emptyHost else specialHost? hostText
      else opaqueHost? hostText
    let isEmpty := host == .name ""
    if isEmpty && port.isSome then .error .emptyHost
    else if (port.map isPort).getD true then
      if isEmpty && (credentials.map hasCredentials).getD false then .error .emptyHost
      else .ok host
    else .error .invalidPort

/-- The letter of a drive and the mark behind it. -/
def isDrive : List Char → Bool
  | [a, b] => a.isAlpha && (b == ':' || b == '|')
  | _ => false

/-- A step of a path in lower case with points in place of their bytes. -/
def plainPoints (step : List Char) : List Char :=
  match step.map Char.toLower with
  | ['%', '2', 'e'] => ['.']
  | ['%', '2', 'e', '.'] | ['.', '%', '2', 'e'] | ['%', '2', 'e', '%', '2', 'e'] => ['.', '.']
  | s => s

/-- A path begins with a drive, also after steps that lead back to its beginning. `depth` steps have
been taken. -/
def beginsWithDrive : (depth : Nat) → (steps : List (List Char)) → Bool
  | _, [] => false
  | depth, step :: steps =>
    if plainPoints step == ['.', '.'] then beginsWithDrive (depth - 1) steps
    else if plainPoints step == ['.'] then beginsWithDrive depth steps
    else (depth == 0 && isDrive step) || beginsWithDrive (depth + 1) steps

/-- The steps of the path behind the host of a file. -/
def fileSteps (s : List Char) : List (List Char) :=
  let path := (s.takeWhile fun c => c != '?' && c != '#').map fun c => if c = '\\' then '/' else c
  Text.splitAtChar '/' (path.drop 1)

/-- The host of a file. A drive has none, whether it stands in the place of the host or begins the
path, and the own machine is not named. -/
def fileHost? (s : List Char) : Except UrlError (Option Host) := do
  let text := s.takeWhile fun c => !endsAuthority .file c
  if text.isEmpty || isDrive text then .ok none
  else
    let host ← specialHost? text
    if host = .name "localhost" || beginsWithDrive 0 (fileSteps (s.drop text.length)) then .ok none
    else .ok (some host)

/-- The host of an address, if it has one. -/
def host? (url : String) : Except UrlError (Option Host) :=
  match scheme? (significant url.toList) with
  | none => .error .relative
  | some (scheme, rest) =>
    match SchemeKind.of scheme with
    | .special =>
      some <$> authorityHost? .special (rest.dropWhile fun c => c == '/' || c == '\\')
    | .file =>
      match rest with
      | a :: b :: rest =>
        if (a == '/' || a == '\\') && (b == '/' || b == '\\') then fileHost? rest else .ok none
      | _ => .ok none
    | .other =>
      match rest with
      | '/' :: '/' :: rest => some <$> authorityHost? .other rest
      | _ => .ok none

/-- The address has a host with a name or number. -/
def hasHost : Option Host → Bool
  | none => false
  | some host => host != .name ""

end Almanac.Url
