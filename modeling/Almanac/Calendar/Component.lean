import Almanac.Dictionary

/-!
# Calendar components

A component has a kind such as `VEVENT` or `VALARM`, properties, and further
components inside it. A property name occurs at most once among the single
properties; the names that may be given several times are kept apart, with their
properties in the order in which they came.
-/

namespace Almanac.Calendar

/-- What a property line says about its name: parameters and a value in plain text. -/
structure Property where
  params : Dictionary String
  value : String
deriving DecidableEq

/-- A component with its properties and the components inside it. -/
structure Component where
  kind : String
  single : Dictionary Property
  repeated : Dictionary (List Property)
  children : List Component

/-- The kind of an event. -/
def eventKind : String := "VEVENT"

/-- The kind of an alarm. -/
def alarmKind : String := "VALARM"

/-- The kind of a whole calendar. -/
def calendarKind : String := "VCALENDAR"

/-- The names that may be given several times in one component. -/
def repeatableNames : List String :=
  ["ATTACH", "ATTENDEE", "CATEGORIES", "COMMENT", "CONTACT", "EXDATE", "FREEBUSY", "IANA-PROP",
   "RDATE", "RELATED", "RESOURCES", "RSTATUS", "X-PROP"]

namespace Component

/-- A component with nothing in it. -/
def ofKind (kind : String) : Component := ⟨kind, ∅, ∅, []⟩

/-- The value of the single property with this name. -/
def value? (c : Component) (name : String) : Option String := (c.single.get? name).map (·.value)

/-- Sets a single property, in place of the one with this name. -/
def set (c : Component) (name : String) (p : Property) : Component :=
  { c with single := c.single.set name p }

/-- Sets a single property to a value without parameters. -/
def setValue (c : Component) (name value : String) : Component := c.set name ⟨∅, value⟩

/-- Adds a property that may be given several times, after the others of its name. -/
def addRepeated (c : Component) (name : String) (p : Property) : Component :=
  { c with repeated := c.repeated.set name ((c.repeated.get? name).getD [] ++ [p]) }

/-- Adds a property as a line of a calendar text does: a repeatable name collects its
properties, any other name keeps the last one. -/
def add (c : Component) (name : String) (p : Property) : Component :=
  if name ∈ repeatableNames then c.addRepeated name p else c.set name p

/-- Adds a component inside, after the others. -/
def addChild (c child : Component) : Component :=
  { c with children := c.children ++ [child] }

/-- An alarm that shows `description` at the time given by the raw trigger value. -/
def reminder (description trigger : String) : Component :=
  (((ofKind alarmKind).setValue "ACTION" "DISPLAY").setValue "DESCRIPTION" description).setValue
    "TRIGGER" trigger

end Component

end Almanac.Calendar
