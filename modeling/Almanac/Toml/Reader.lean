import Almanac.Toml.Quoted
import Almanac.Toml.Scalar
import Almanac.Toml.Table

/-!
# Reading TOML texts

A text is a sequence of lines: headings, which name the table that the following
lines go into, and entries. The text is read whole or not at all; its data are in
the order of their names.
-/

namespace Almanac.Toml

/-- Drops spaces and tabs. -/
def skipSpace (s : List Char) : List Char := s.dropWhile fun c => c == ' ' || c == '\t'

/-- What follows a comment, if there is one; nothing if it holds a character that it may not. -/
def skipComment? : List Char → Option (List Char)
  | '#' :: s =>
    let rest := s.dropWhile isStringChar
    if rest.isEmpty || (afterLineEnd? rest).isSome then some rest else none
  | s => some s

/-- What follows blanks, comments and line ends. The fuel bounds the number of lines. -/
def skipLayout? : Nat → List Char → Option (List Char)
  | 0, _ => none
  | fuel + 1, s => do
    let rest ← skipComment? (skipSpace s)
    match afterLineEnd? rest with
    | some t => skipLayout? fuel t
    | none => some rest

/-- What follows the rest of a line: blanks, a comment, and a line end or the end of the text. -/
def endLine? (s : List Char) : Option (List Char) := do
  let rest ← skipComment? (skipSpace s)
  if rest.isEmpty then some [] else afterLineEnd? rest

/-- A character of a name without marks around it. -/
def isBareChar (c : Char) : Bool := c.isAlphanum || c == '_' || c == '-'

/-- One part of a name and what follows it. -/
def namePart? (s : List Char) : Option (String × List Char) :=
  match s with
  | [] => none
  | c :: _ =>
    if c = '"' ∨ c = apostrophe then
      (string? false s).map fun r => (String.ofList r.1, r.2)
    else
      let name := s.takeWhile isBareChar
      if name.isEmpty then none else some (String.ofList name, s.dropWhile isBareChar)

/-- How many parts a name may have. -/
def partLimit : Nat := 80

/-- A name with dots between its parts, as the parts before the last one and the last one, and what
follows it and the blanks behind it. A name with more parts than are allowed is none. -/
def path? : (allowed : Nat) → List Char → Option ((List String × String) × List Char)
  | 0, _ => none
  | allowed + 1, s => do
    let (part, s) ← namePart? (skipSpace s)
    match skipSpace s with
    | '.' :: s =>
      let ((parts, last), s) ← path? allowed s
      some ((part :: parts, last), s)
    | s => some (([], part), s)

/-- A character that ends a value without marks around it. -/
def endsScalar (c : Char) : Bool :=
  c == ' ' || c == '\t' || c == '\n' || c == '\r' || c == ',' || c == ']' || c == Char.ofNat 0x7D ||
    c == '#'

/-- A value without marks around it and what follows it. A date may be followed by one space and a
time. -/
def bareValue? (s : List Char) : Option (Datum × List Char) :=
  let first := s.takeWhile (fun c => !endsScalar c)
  let rest := s.drop first.length
  match afterDate? first, rest with
  | some [], ' ' :: d :: t =>
    if d.isDigit then
      let second := (d :: t).takeWhile (fun c => !endsScalar c)
      (scalar? (first ++ ' ' :: second)).map fun x => (x, (d :: t).drop second.length)
    else (scalar? first).map fun x => (x, rest)
  | _, _ => (scalar? first).map fun x => (x, rest)

/-- How deep values may lie in each other. -/
def depthLimit : Nat := 80

mutual

/-- The value at the start of a text and what follows it. Every call has less fuel than the one
before. -/
def value? : (fuel depth : Nat) → List Char → Option (Datum × List Char)
  | 0, _, _ => none
  | fuel + 1, depth, s =>
    match s with
    | [] => none
    | c :: t =>
      if c = '"' ∨ c = apostrophe then
        (string? true s).map fun r => (.string (String.ofList r.1), r.2)
      else if c = '[' then
        if depth = 0 then none
        else do
          let t ← skipLayout? (t.length + 1) t
          let (items, rest) ← items? fuel (depth - 1) t
          some (.sequence items true, rest)
      else if c.toNat = 0x7B then
        if depth = 0 then none
        else do
          let t ← skipLayout? (t.length + 1) t
          let (table, rest) ← entries? fuel (depth - 1) (.table .headed []) t
          some (table.datum, rest)
      else bareValue? s

/-- The items up to the closing bracket and what follows it. -/
def items? : (fuel depth : Nat) → List Char → Option (List Datum × List Char)
  | 0, _, _ => none
  | fuel + 1, depth, s =>
    match s with
    | ']' :: rest => some ([], rest)
    | s => do
      let (d, s) ← value? fuel depth s
      let s ← skipLayout? (s.length + 1) s
      match s with
      | ']' :: rest => some ([d], rest)
      | ',' :: s =>
        let s ← skipLayout? (s.length + 1) s
        let (ds, rest) ← items? fuel depth s
        some (d :: ds, rest)
      | _ => none

/-- Adds the entries up to the closing brace to a table, and says what follows the brace. -/
def entries? : (fuel depth : Nat) → Node → List Char → Option (Node × List Char)
  | 0, _, _, _ => none
  | fuel + 1, depth, table, s =>
    match s with
    | [] => none
    | c :: rest =>
      if c.toNat = 0x7D then some (table, rest)
      else do
        let ((parts, last), s) ← path? partLimit s
        match s with
        | '=' :: s =>
          let (d, s) ← value? fuel depth (skipSpace s)
          let table ← table.addAt parts last d
          let s ← skipLayout? (s.length + 1) s
          match s with
          | [] => none
          | c :: rest =>
            if c.toNat = 0x7D then some (table, rest)
            else if c = ',' then do
              let s ← skipLayout? (rest.length + 1) rest
              entries? fuel depth table s
            else none
        | _ => none

end

/-- A line of a text that says something. -/
inductive Statement where
  /-- The following entries go into this table. -/
  | table (path : List String) (name : String)
  /-- The following entries go into a new table of this list. -/
  | item (path : List String) (name : String)
  | entry (path : List String) (name : String) (d : Datum)

/-- The statement at the start of a text and what follows its line. -/
def statement? (s : List Char) : Option (Statement × List Char) :=
  match s with
  | '[' :: '[' :: s => do
    let ((path, name), s) ← path? partLimit s
    match s with
    | ']' :: ']' :: s => (endLine? s).map fun rest => (.item path name, rest)
    | _ => none
  | '[' :: s => do
    let ((path, name), s) ← path? partLimit s
    match s with
    | ']' :: s => (endLine? s).map fun rest => (.table path name, rest)
    | _ => none
  | s => do
    let ((path, name), s) ← path? partLimit s
    match s with
    | '=' :: s =>
      let (d, s) ← value? (2 * s.length + 2) depthLimit (skipSpace s)
      (endLine? s).map fun rest => (.entry path name d, rest)
    | _ => none

/-- Follows one statement. `here` is the path of the table that entries go into. -/
def follow (root : Node) (here : List String) : Statement → Option (Node × List String)
  | .table path name =>
    (Node.within false (Node.addTable name) path root).map fun r => (r, path ++ [name])
  | .item path name =>
    (Node.within false (Node.addItem name) path root).map fun r => (r, path ++ [name])
  | .entry path name d =>
    (Node.within false (Node.addAt path name d) here root).map fun r => (r, here)

/-- Follows the statements of a text one after the other. The fuel bounds their number. -/
def build? : Nat → Node → List String → List Char → Option Node
  | 0, _, _, _ => none
  | fuel + 1, root, here, s => do
    let s ← skipLayout? (s.length + 1) s
    if s.isEmpty then some root
    else
      let (statement, rest) ← statement? s
      let (root, here) ← follow root here statement
      build? fuel root here rest

/-- The data of a text, which may begin with a byte order mark. -/
def read? (text : String) : Option Datum :=
  let s := match text.toList with
    | c :: t => if c.toNat = 0xFEFF then t else c :: t
    | [] => []
  (build? (s.length + 1) (.table .headed []) [] s).map Node.datum

end Almanac.Toml
