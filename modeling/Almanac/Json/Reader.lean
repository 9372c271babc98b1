import Almanac.Json.Number
import Almanac.Json.Quoted

/-!
# Reading JSON texts

A text is read into data from left to right. Reading stops at the first place
where the text is damaged; what was read before is kept.
-/

namespace Almanac.Json

/-- A blank between the parts of a text. -/
def isSpace (c : Char) : Bool := c == ' ' || c == '\n' || c == '\t' || c == '\r'

/-- The text from the first character that is no blank. -/
def skipSpace (s : List Char) : List Char := s.dropWhile isSpace

/-- The text behind a word at its start. -/
def afterWord (word : List Char) (d : Datum) (s : List Char) : Datum × Option (List Char) :=
  if word.isPrefixOf s then (d, some (s.drop word.length)) else (.damaged, none)

/-- The string whose opening mark has been read, and what follows it. -/
def stringDatum (s : List Char) : Datum × Option (List Char) :=
  match pieces? s with
  | none => (.damaged, none)
  | some (ps, rest) =>
    match textOf? ps with
    | some text => (.string (String.ofList text), some rest)
    | none => (.unreadable, some rest)

/-- The number at the start of a text, and what follows it. -/
def numberDatum (s : List Char) : Datum × Option (List Char) :=
  match literal? s with
  | some (l, rest) => (l.datum, some rest)
  | none => (.damaged, none)

/-- Puts an entry before others. If its name cannot be read, the mapping ends for its readers
there. -/
def before (name d : Datum) (more : List (String × Datum) × Ending × Option (List Char)) :
    List (String × Datum) × Ending × Option (List Char) :=
  match name with
  | .string name => ((name, d) :: more.1, more.2)
  | _ => ([], if more.2.1 = .damaged then .damaged else .nameless, more.2.2)

mutual

/-- The value at the start of a text, and what follows it, or nothing if the text is damaged. Every
call has less fuel than the one before. -/
def value : Nat → List Char → Datum × Option (List Char)
  | 0, _ => (.damaged, none)
  | fuel + 1, s =>
    match skipSpace s with
    | '"' :: s => stringDatum s
    | '[' :: s =>
      match skipSpace s with
      | ']' :: rest => (.sequence [] true, some rest)
      | s =>
        let (items, rest) := items fuel s
        (.sequence items rest.isSome, rest)
    | '{' :: s =>
      match skipSpace s with
      | '}' :: rest => (.mapping [] .closed, some rest)
      | '"' :: s =>
        let (entries, ending, rest) := entries fuel ('"' :: s)
        (.mapping entries ending, rest)
      | s => (.unnamed (value fuel s).1, none)
    | 'n' :: s => afterWord "ull".toList .null s
    | 't' :: s => afterWord "rue".toList (.bool true) s
    | 'f' :: s => afterWord "alse".toList (.bool false) s
    | s => numberDatum s

/-- One item and those behind it, and what follows the closing bracket. -/
def items : Nat → List Char → List Datum × Option (List Char)
  | 0, _ => ([], none)
  | fuel + 1, s =>
    match value fuel s with
    | (d, none) => ([d], none)
    | (d, some s) =>
      match skipSpace s with
      | ']' :: rest => ([d], some rest)
      | ',' :: s =>
        match skipSpace s with
        | ']' :: _ => ([d], none)
        | s =>
          let (ds, rest) := items fuel s
          (d :: ds, rest)
      | _ => ([d], none)

/-- One entry and those behind it up to the ending of the mapping, and what follows the closing
brace. -/
def entries : Nat → List Char → List (String × Datum) × Ending × Option (List Char)
  | 0, _ => ([], .damaged, none)
  | fuel + 1, s =>
    match skipSpace s with
    | '"' :: s =>
      match stringDatum s with
      | (_, none) => ([], .damaged, none)
      | (name, some s) =>
        match skipSpace s with
        | ':' :: s =>
          match value fuel s with
          | (d, none) => before name d ([], .damaged, none)
          | (d, some s) =>
            match skipSpace s with
            | '}' :: rest => before name d ([], .closed, some rest)
            | ',' :: s => before name d (entries fuel s)
            | _ => before name d ([], .damaged, none)
        | _ => before name .damaged ([], .damaged, none)
    | _ => ([], .damaged, none)

end

/-- The data of a text, and whether nothing but blanks follows them. -/
def read (text : String) : Datum × Bool :=
  let s := text.toList
  match value (2 * s.length + 2) s with
  | (d, some rest) => (d, (skipSpace rest).isEmpty)
  | (d, none) => (d, false)

end Almanac.Json
