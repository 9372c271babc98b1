import Almanac.Config.Decode
import Almanac.Config.Validation
import Almanac.Json.Reader
import Almanac.Journal
import Almanac.Text.Utf8
import Almanac.Toml.Reader

/-!
# Loading a configuration

A configuration is loaded from a text of one of two kinds, or from a file whose
name tells the kind. It is decoded and then checked.
-/

namespace Almanac.Config

/-- Why a file cannot be read. -/
inductive FileFault where
  | notFound
  | notADirectory
  | isADirectory
  | nameTooLong
  | holdsNul
  | notText
deriving DecidableEq

/-- The wording of a reason. -/
def FileFault.message : FileFault → String
  | .notFound => "No such file or directory (os error 2)"
  | .notADirectory => "Not a directory (os error 20)"
  | .isADirectory => "Is a directory (os error 21)"
  | .nameTooLong => "File name too long (os error 36)"
  | .holdsNul => "file name contained an unexpected NUL byte"
  | .notText => "stream did not contain valid UTF-8"

/-- Why there is no configuration. -/
inductive LoadError where
  | file (path : String) (fault : FileFault)
  | decode (dialect : Dialect) (e : DecodeError)
  | invalid (e : Invalid)
deriving DecidableEq

/-- A text is decoded and checked. A text with something behind its data is damaged, but a fault
within the data comes first. -/
def ofJson (text : String) : Except LoadError Config :=
  let (d, complete) := Json.read text
  match ofDatum .json d with
  | .error e => .error (.decode .json e)
  | .ok c =>
    if complete then
      match c.validate with
      | .ok c => .ok c
      | .error e => .error (.invalid e)
    else .error (.decode .json .unreadable)

/-- A text is read as a whole, decoded and checked. -/
def ofToml (text : String) : Except LoadError Config :=
  match Toml.read? text with
  | none => .error (.decode .toml .unreadable)
  | some d =>
    match ofDatum .toml d with
    | .error e => .error (.decode .toml e)
    | .ok c =>
      match c.validate with
      | .ok c => .ok c
      | .error e => .error (.invalid e)

/-- What lies under a path. -/
inductive File where
  | bytes (content : List UInt8)
  | directory
  | missing (fault : FileFault)
deriving DecidableEq

/-- The last part of a path: behind the last slash, slashes and single dots at the end not
counted. -/
def fileName (path : List Char) : List Char :=
  let parts := (Text.splitAtChar '/' path).filter fun p => !p.isEmpty && p != ['.']
  parts.getLast?.getD []

/-- The text behind the last dot of a file name, unless the name begins with that dot. -/
def extension (path : List Char) : List Char :=
  let name := fileName path
  let tail := (name.reverse.takeWhile (· != '.')).reverse
  if name.length ≤ tail.length + 1 || name == ['.', '.'] then [] else tail

/-- A file name that ends in `.json`, in letters of any case, holds JSON; any other holds TOML. -/
def dialectOf (path : String) : Dialect :=
  if (extension path.toList).map Char.toLower = "json".toList then .json else .toml

/-- The configuration in a file. -/
def ofFile (path : String) : File → Except LoadError Config
  | .missing fault => .error (.file path fault)
  | .directory => .error (.file path .isADirectory)
  | .bytes content =>
    match Text.ofUtf8? content with
    | none => .error (.file path .notText)
    | some text =>
      match dialectOf path with
      | .json => ofJson (String.ofList text)
      | .toml => ofToml (String.ofList text)

/-- What is reported when a file has been loaded. -/
def loadReport (path : String) (c : Config) : Journal.Record :=
  ⟨.info, "config", "config loaded", [("path", path), ("sources", toString c.sources.length)]⟩

end Almanac.Config
