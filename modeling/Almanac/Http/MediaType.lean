import Almanac.Text.Affix

/-!
# Media types

A media type is two names with a slash between them, and parameters behind
semicolons. Here only the parameter that names a character set counts.
-/

namespace Almanac.Http

/-- A character of a name. -/
def isNameChar (c : Char) : Bool := c.isAlphanum || "!#$&-^_.+%*|~".toList.contains c ||
  c.toNat == 0x27 || c.toNat == 0x60

/-- A blank around a parameter. -/
def isBlankChar (c : Char) : Bool := c == ' ' || c == '\t'

/-- The text without blanks in front. -/
def skipBlanks (s : List Char) : List Char := s.dropWhile isBlankChar

/-- A value in quotation marks, behind the first of them, and what follows the last one. -/
def quotedValue? : List Char → Option (List Char × List Char)
  | [] => none
  | '"' :: s => some ([], s)
  | '\\' :: c :: s => (quotedValue? s).map fun r => (c :: r.1, r.2)
  | c :: s => (quotedValue? s).map fun r => (c :: r.1, r.2)

/-- A value and what follows it. -/
def value? : List Char → Option (List Char × List Char)
  | '"' :: s => quotedValue? s
  | s =>
    let v := s.takeWhile isNameChar
    if v.isEmpty then none else some (v, s.drop v.length)

/-- The parameters of a media type, names in lower case; nothing if they are malformed. The fuel
bounds their number. -/
def parameters? : (fuel : Nat) → List Char → Option (List (List Char × List Char))
  | 0, _ => none
  | fuel + 1, s =>
    match skipBlanks s with
    | [] => some []
    | ';' :: s =>
      let s := skipBlanks s
      let name := s.takeWhile isNameChar
      if s.isEmpty then some []
      else if name.isEmpty then none
      else
        match s.drop name.length with
        | '=' :: s =>
          match value? s with
          | none => none
          | some (v, rest) => (parameters? fuel rest).map ((name.map Char.toLower, v) :: ·)
        | _ => none
    | _ => none

/-- The character set that a media type names. -/
def charsetName? (mediaType : String) : Option String :=
  let s := mediaType.toList
  let first := s.takeWhile isNameChar
  match s.drop first.length with
  | '/' :: s =>
    let second := s.takeWhile isNameChar
    if first.isEmpty || second.isEmpty then none
    else
      ((parameters? (s.length + 1) (s.drop second.length)).bind fun ps =>
        ps.find? fun p => p.1 == "charset".toList).map fun p => String.ofList p.2
  | _ => none

end Almanac.Http
