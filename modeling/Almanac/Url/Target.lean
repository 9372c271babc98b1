import Almanac.Text.Affix
import Almanac.Text.Hex
import Almanac.Text.Utf8
import Almanac.Url.Address

/-!
# What is asked of a host

The path of an address and the query behind it, as they are sent, and where a
reference in an answer leads to. Steps such as `.` and `..` are gone from a path.
-/

namespace Almanac.Url

/-- A path, which begins with a slash, and a query, if there is one. -/
structure Target where
  path : List Char
  query : Option (List Char)
deriving DecidableEq

/-- Characters that are sent as their bytes in a path. -/
def escapedInPath (c : Char) : Bool :=
  c.toNat ≤ 0x20 || 0x7F ≤ c.toNat || "\"#<>?`\x7b\x7d".toList.contains c

/-- Characters that are sent as their bytes in a query. -/
def escapedInQuery (c : Char) : Bool :=
  c.toNat ≤ 0x20 || 0x7F ≤ c.toNat || c.toNat == 0x27 || "\"#<>".toList.contains c

/-- A byte behind a percent sign, in upper case. -/
def percentByte (b : UInt8) : List Char := '%' :: (Text.hexByte b).map Char.toUpper

/-- A text with some characters sent as their bytes. -/
def escape (escaped : Char → Bool) (s : List Char) : List Char :=
  s.flatMap fun c => if escaped c then (Text.utf8Char c).flatMap percentByte else [c]

/-- The steps with the points in them resolved; those already taken are in reverse order. A step
that goes up or stays at the end of a path leaves a slash there. -/
def resolveSteps (up stay : List Char → Bool) : (taken steps : List (List Char)) →
    List (List Char)
  | taken, [] => taken.reverse
  | taken, [step] =>
    if up step then ([] :: taken.drop 1).reverse
    else if stay step then ([] :: taken).reverse
    else (step :: taken).reverse
  | taken, step :: steps =>
    if up step then resolveSteps up stay (taken.drop 1) steps
    else if stay step then resolveSteps up stay taken steps
    else resolveSteps up stay (step :: taken) steps

/-- A path made of steps. -/
def joinSteps (steps : List (List Char)) : List Char := steps.flatMap fun step => '/' :: step

/-- The target that is written behind the host of a web address, up to the mark `#`. Backslashes
count as slashes in its path. -/
def Target.ofText (s : List Char) : Target :=
  let (whole, _) := Text.breakAtChar '#' s
  let (path, query) := Text.breakAtChar '?' whole
  let slashed := path.map fun c => if c = '\\' then '/' else c
  let steps := (Text.splitAtChar '/' ((Text.dropPrefix? ['/'] slashed).getD slashed)).map
    (escape escapedInPath)
  ⟨joinSteps (resolveSteps (fun s => plainPoints s == ['.', '.']) (fun s => plainPoints s == ['.'])
      [] steps),
    query.map (escape escapedInQuery)⟩

/-- The text of a target. -/
def Target.write (t : Target) : String :=
  String.ofList (t.path ++ match t.query with
    | some q => '?' :: q
    | none => [])

/-- A character of a reference: letters, digits and some signs. All others are given by bytes. -/
def isReferenceChar (c : Char) : Bool :=
  c.isAlphanum || "-._~:/?#[]@!$&()*+,;=%".toList.contains c || c.toNat == 0x27

/-- A percent sign has two digits behind it. -/
def percentsComplete : List Char → Bool
  | [] => true
  | '%' :: a :: b :: s =>
    (Text.hexValue? a).isSome && (Text.hexValue? b).isSome && percentsComplete (a :: b :: s)
  | '%' :: _ => false
  | _ :: s => percentsComplete s

/-- The path of a reference, seen from another path: it takes the place of the last step. -/
def joinPath (base reference : List Char) : List Char :=
  match reference with
  | '/' :: _ => reference
  | _ =>
    let parts := Text.splitAtChar '/' base
    (parts.dropLast.flatMap fun step => step ++ ['/']) ++ reference

/-- A path with its points resolved. -/
def resolvePath (path : List Char) : List Char :=
  joinSteps (resolveSteps (· == ['.', '.']) (· == ['.']) []
    (Text.splitAtChar '/' ((Text.dropPrefix? ['/'] path).getD path)))

/-- Where a reference within a host leads to. -/
def Target.resolve (base : Target) (reference : List Char) : Target :=
  let (whole, _) := Text.breakAtChar '#' reference
  let (path, query) := Text.breakAtChar '?' whole
  if path.isEmpty then ⟨base.path, query.or base.query⟩
  else ⟨resolvePath (joinPath base.path path), query⟩

/-- Where a reference leads to. -/
inductive Destination where
  /-- To the same host. -/
  | here (t : Target)
  /-- To some other host. -/
  | elsewhere
deriving DecidableEq

/-- Where a reference leads to from a target of the host whose address, with its scheme, is
`origin`; nothing if it is no reference. -/
def Target.follow? (origin : String) (base : Target) (reference : String) : Option Destination :=
  let s := reference.toList
  if s.all isReferenceChar && percentsComplete s then
    let hosted (rest : List Char) : Destination :=
      match rest with
      | [] => .here (base.resolve ['/'])
      | c :: _ =>
        if c = '/' then .here (base.resolve rest)
        else if c = '?' ∨ c = '#' then .here (base.resolve ('/' :: rest))
        else .elsewhere
    match Text.dropPrefix? origin.toList s with
    | some rest => some (hosted rest)
    | none =>
      match s with
      | '/' :: '/' :: _ =>
        match Text.dropPrefix? (origin.toList.dropWhile (· != '/')) s with
        | some rest => some (hosted rest)
        | none => some .elsewhere
      | _ =>
        match scheme? s with
        | some _ => some .elsewhere
        | none => some (.here (base.resolve s))
  else none

end Almanac.Url
