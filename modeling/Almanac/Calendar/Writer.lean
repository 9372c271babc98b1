import Almanac.Calendar.Component
import Almanac.Calendar.ValueType
import Almanac.Calendar.Escape
import Almanac.Calendar.Fold
import Almanac.Text.Affix

/-!
# Writing a calendar

The written form of a calendar: fixed lines at the top, then its names and
descriptions, then its events. Every line ends in a carriage return and a line
feed, and long property lines are folded.

A component without an identifier or without a time stamp is given one when it is
written. Where these come from is not decided here: `Issue` holds them.
-/

namespace Almanac.Calendar

/-- The values handed out while one calendar is written: the time stamp, and identifiers by
number. -/
structure Issue where
  stamp : String
  identifier : Nat → String

/-- The end of a line. -/
def lineEnd : List Char := ['\r', '\n']

/-- A line as it stands. -/
def plainLine (s : List Char) : List Char := s ++ lineEnd

/-- A parameter value needs quotation marks: it holds a character that ends a value, and has no
marks of its own around it. -/
def needsQuotes (value : List Char) : Bool :=
  value.any (fun c => c == ':' || c == ';' || c == ',') &&
    !(value.head? == some '"' && value.getLast? == some '"')

/-- A parameter behind its semicolon. -/
def writeParameter (name value : String) : List Char :=
  let v := value.toList
  ';' :: name.toList ++ '=' :: (if needsQuotes v then '"' :: v ++ ['"'] else v)

/-- The value of a property as it is written. -/
def writeValue (name : String) (p : Property) : List Char :=
  if ValueType.isEscaped name (p.params.get? "VALUE") then escape p.value.toList else p.value.toList

/-- The line of a property, folded. -/
def writeProperty (name : String) (p : Property) : List Char :=
  plainLine (fold (name.toList ++ p.params.entries.flatMap (fun e => writeParameter e.1 e.2) ++
    ':' :: writeValue name p))

/-- The line of a property without parameters. -/
def writePlain (name value : String) : List Char := writeProperty name ⟨∅, value⟩

mutual

/-- A component from its first to its last line, and the number of the next identifier. Without a
time stamp it is given one before all other properties; without an identifier it is given one
behind its single properties. -/
def writeComponent (issue : Issue) (next : Nat) : Component → List Char × Nat
  | ⟨kind, single, repeated, children⟩ =>
    let stamp := if single.contains "DTSTAMP" then [] else writePlain "DTSTAMP" issue.stamp
    let singles := single.entries.flatMap fun e => writeProperty e.1 e.2
    let named := single.contains "UID"
    let identifier := if named then [] else writePlain "UID" (issue.identifier next)
    let repeats := repeated.entries.flatMap fun e => e.2.flatMap (writeProperty e.1)
    let inner := writeComponents issue (if named then next else next + 1) children
    (plainLine ("BEGIN:".toList ++ kind.toList) ++ stamp ++ singles ++ identifier ++ repeats ++
      inner.1 ++ plainLine ("END:".toList ++ kind.toList), inner.2)

/-- Components one after the other, and the number of the next identifier. -/
def writeComponents (issue : Issue) (next : Nat) : List Component → List Char × Nat
  | [] => ([], next)
  | c :: rest =>
    let first := writeComponent issue next c
    let others := writeComponents issue first.2 rest
    (first.1 ++ others.1, others.2)

end

/-- The lines above the events: those that every calendar has, and the name and the description
under two names each. -/
def writeHeading (name description : String) : List Char :=
  writePlain "VERSION" "2.0" ++ writePlain "PRODID" "ICALENDAR-RS" ++
    writePlain "CALSCALE" "GREGORIAN" ++ writePlain "NAME" name ++
    writePlain "X-WR-CALNAME" name ++ writePlain "DESCRIPTION" description ++
    writePlain "X-WR-CALDESC" description

/-- The text of a calendar with this name, description and events. -/
def write (issue : Issue) (name description : String) (events : List Component) : String :=
  String.ofList (plainLine "BEGIN:VCALENDAR".toList ++ writeHeading name description ++
    (writeComponents issue 0 events).1 ++ plainLine "END:VCALENDAR".toList)

end Almanac.Calendar
