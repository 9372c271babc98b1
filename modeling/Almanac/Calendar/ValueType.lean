import Almanac.Calendar.Component
import Almanac.Text.LowerCase

/-!
# Types of property values

A value is read and written according to its type. Only text values are escaped;
which values are text follows from a `VALUE` parameter that names a type, and
otherwise from the name of the property.
-/

namespace Almanac.Calendar

/-- The types of values that a `VALUE` parameter can name. -/
inductive ValueType where
  | binary | boolean | calAddress | date | dateTime | duration | float | integer | period
  | recur | text | time | uri | utcOffset
deriving DecidableEq

namespace ValueType

/-- The type that a `VALUE` parameter names. -/
def ofParameter? : String → Option ValueType
  | "BINARY" => some .binary
  | "BOOLEAN" => some .boolean
  | "CAL-ADDRESS" => some .calAddress
  | "DATE" => some .date
  | "DATE-TIME" => some .dateTime
  | "DURATION" => some .duration
  | "FLOAT" => some .float
  | "INTEGER" => some .integer
  | "PERIOD" => some .period
  | "RECUR" => some .recur
  | "TEXT" => some .text
  | "TIME" => some .time
  | "URI" => some .uri
  | "UTC-OFFSET" => some .utcOffset
  | _ => none

/-- The names whose values are text unless a parameter says otherwise. -/
def textNames : List String :=
  ["ACTION", "CALSCALE", "CATEGORIES", "CLASS", "COMMENT", "CONTACT", "DESCRIPTION", "LOCATION",
   "METHOD", "PRODID", "RELATED-TO", "REQUEST-STATUS", "RESOURCES", "STATUS", "SUMMARY",
   "TRANSP", "TZID", "TZNAME", "UID", "VERSION"]

/-- A name that stands for text: a known name, or one of the extensions that start with `X-`.
Names with lower-case letters are not recognised. -/
def isTextName (name : String) : Bool :=
  !name.toList.any Text.isLowerCase && (name ∈ textNames || name.startsWith "X-")

/-- Names whose text is a list of items, which is kept as it is written. -/
def isRawList (name : String) : Bool :=
  let n := name.toList.map Char.toUpper
  n == "CATEGORIES".toList || n == "RESOURCES".toList

/-- The value of a property with this `VALUE` parameter is text in escaped form. -/
def isEscaped (name : String) (type? : Option String) : Bool :=
  !isRawList name &&
    match type?.bind ofParameter? with
    | some type => type == .text
    | none => isTextName name

end ValueType

end Almanac.Calendar
