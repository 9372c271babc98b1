import Almanac.Decimal.Binary64

/-!
# Data

A configuration text holds data: scalars, sequences and mappings. The data of a
text that is damaged somewhere are kept up to that place. What comes after it is
lost, so that whoever goes through the data in order meets the damage exactly
where it is in the text.
-/

namespace Almanac

/-- What is behind the entries of a mapping that are kept. -/
inductive Ending where
  /-- The end of the mapping. -/
  | closed
  /-- An entry whose name can be passed over but not read, and further entries, all sound. -/
  | nameless
  /-- A place where the text is damaged. -/
  | damaged
deriving DecidableEq, Inhabited

/-- The data of a text, in the order of the text. -/
inductive Datum where
  | null
  | bool (b : Bool)
  | integer (n : Int)
  | float (x : Decimal.Binary64)
  /-- A number that is not finite, by its name. -/
  | special (name : String)
  | string (s : String)
  /-- A date or a time, which no configuration makes use of. -/
  | moment
  /-- The items up to the end of the sequence, or up to where the text is damaged. -/
  | sequence (items : List Datum) (complete : Bool)
  /-- The entries of a mapping up to its ending. -/
  | mapping (entries : List (String × Datum)) (ending : Ending)
  /-- A mapping that begins with this datum in place of a name, where the text is damaged. -/
  | unnamed (d : Datum)
  /-- A scalar that can be passed over but not read. -/
  | unreadable
  /-- The text is damaged here. -/
  | damaged
deriving Inhabited

namespace Datum

mutual

/-- The data can be passed over: no part is damaged. -/
def isSound : Datum → Bool
  | .sequence items complete => areSound items && complete
  | .mapping entries ending => entriesAreSound entries && ending != .damaged
  | .unnamed _ | .damaged => false
  | .null | .bool _ | .integer _ | .float _ | .special _ | .string _ | .moment | .unreadable => true

/-- All of the items can be passed over. -/
def areSound : List Datum → Bool
  | [] => true
  | d :: ds => isSound d && areSound ds

/-- All of the entries can be passed over. -/
def entriesAreSound : List (String × Datum) → Bool
  | [] => true
  | (_, d) :: es => isSound d && entriesAreSound es

end

end Datum

end Almanac
