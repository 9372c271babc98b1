import Almanac.Config.Load

/-!
# Files under a directory

A directory with the files in it, by their paths. Looking up a path goes from
part to part; a file on the way is no directory. Of what lies outside of the
directory only the places that every system has are known.
-/

namespace Almanac.Config

/-- Files and directories by the parts of their paths. -/
structure Directory where
  entries : List (List (List Char) × File)

/-- How many bytes one part of a path may have. -/
def partLimit : Nat := 255

/-- How many bytes a path may have. -/
def pathLimit : Nat := 4095

/-- The number of bytes that the path of the directory itself takes, with a slash behind it. -/
def directoryLength : Nat := 16

/-- A path begins at the root of the system. -/
def isAbsolute (path : String) : Bool := path.toList.head? == some '/'

/-- The path of what lies under a directory. An absolute path stands for itself. -/
def pathUnder (directory path : String) : String :=
  if isAbsolute path then path else directory ++ "/" ++ path

namespace Directory

/-- The parts of a path. -/
def parts (path : String) : List (List Char) :=
  (Text.splitAtChar '/' path.toList).filter fun p => !p.isEmpty

/-- Files and directories given by their paths. -/
def ofList (entries : List (String × File)) : Directory :=
  ⟨entries.map fun e => (parts e.1, e.2)⟩

/-- The places that every system has. -/
def system : Directory :=
  ofList [("bin", .directory), ("dev", .directory), ("dev/null", .bytes []), ("etc", .directory),
    ("home", .directory), ("proc", .directory), ("root", .directory), ("tmp", .directory),
    ("usr", .directory), ("var", .directory)]

/-- What lies at a place. Directories on the way to a file are there too. -/
def at? (d : Directory) (place : List (List Char)) : Option File :=
  match d.entries.find? (fun e => e.1 == place) with
  | some e => some e.2
  | none => if place.isEmpty || d.entries.any (fun e => place.isPrefixOf e.1) then some .directory
    else none

/-- Follows the remaining parts of a path from a place. No place stands for one outside of the
directory. -/
def follow (d : Directory) : (place : Option (List (List Char))) → (rest : List (List Char)) → File
  | none, [] => .directory
  | none, part :: rest =>
    if part = [] ∨ part = ['.'] ∨ part = ['.', '.'] then follow d none rest
    else if partLimit < (Text.utf8 part).length then .missing .nameTooLong
    else .missing .notFound
  | some place, [] => (d.at? place).getD (.missing .notFound)
  | some place, part :: rest =>
    match d.at? place with
    | none => .missing .notFound
    | some .directory =>
      if part = [] ∨ part = ['.'] then follow d (some place) rest
      else if part = ['.', '.'] then
        follow d (if place.isEmpty then none else some place.dropLast) rest
      else if partLimit < (Text.utf8 part).length then .missing .nameTooLong
      else follow d (some (place ++ [part])) rest
    | some (.missing fault) => .missing fault
    | some (.bytes _) => .missing .notADirectory

/-- What lies under a path. -/
def lookup (d : Directory) (path : String) : File :=
  let length := (Text.utf8 path.toList).length
  if path.toList.contains (Char.ofNat 0) then .missing .holdsNul
  else if isAbsolute path then
    if pathLimit < length then .missing .nameTooLong
    else system.follow (some []) (Text.splitAtChar '/' path.toList)
  else if pathLimit < directoryLength + length then .missing .nameTooLong
  else d.follow (some []) (Text.splitAtChar '/' path.toList)

end Directory

end Almanac.Config
