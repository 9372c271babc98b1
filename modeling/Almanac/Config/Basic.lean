import Almanac.Text.Affix
import Almanac.Text.Blank
import Almanac.Text.LowerCase

/-!
# Configuration

What the service is configured with: calendars to publish, the feeds that each is
merged from, and for each feed the rules that choose its events and the modifiers
that change them.
-/

namespace Almanac.Config

/-- What a rule looks at. The first four compare a property with values; the others ask whether an
event is the first of its day, month or year. -/
inductive Check where
  | contains | notContains | equals | notEquals | firstOfDay | firstOfMonth | firstOfYear
deriving DecidableEq

/-- The check reads the start date of an event and what was seen before it. -/
def Check.isFirstOf : Check → Bool
  | .firstOfDay | .firstOfMonth | .firstOfYear => true
  | _ => false

/-- A test of one event. -/
structure Rule where
  name : String
  /-- The name of the property that a comparing check reads. -/
  field : String
  check : Check
  caseSensitive : Bool
  values : List String
deriving DecidableEq

/-- How a text enters a comparison: as it is, or in lower case if case does not count. -/
def Rule.transform (rule : Rule) (s : String) : String :=
  if rule.caseSensitive then s else Text.lowerString s

/-- What a modifier does. -/
inductive Action where
  | append | prepend | replace | addAlarm
deriving DecidableEq

/-- A change to one event. -/
structure Modifier where
  name : String
  /-- The name of the property that is changed. -/
  field : String
  action : Action
  data : String
  /-- All of these have to hold for the modifier to apply. -/
  guards : List Rule
deriving DecidableEq

/-- One calendar that is fetched. -/
structure Feed where
  name : String
  url : String
  /-- One of these has to hold for an event to be kept, unless there are none. -/
  rules : List Rule
  modifiers : List Modifier
deriving DecidableEq

/-- One calendar that is published. -/
structure Output where
  name : String
  /-- Where the calendar is published, as it was configured. -/
  endpoint : String
  /-- Minutes between refreshes. -/
  heartbeat : UInt64
  feeds : List Feed
deriving DecidableEq

namespace Output

/-- The endpoint without blanks around it, slashes before it and one ending `.ics`. -/
def keyChars (endpoint : List Char) : List Char :=
  let s := (Text.trim endpoint).dropWhile (· == '/')
  (Text.dropSuffix? ".ics".toList s).getD s

/-- The name under which the calendar is published. -/
def key (o : Output) : String := String.ofList (keyChars o.endpoint.toList)

/-- The path under which the calendar is published. -/
def servedPath (o : Output) : String := "/" ++ o.key ++ ".ics"

/-- The largest number of a 64-bit word. -/
def largestWord : Nat := 0xFFFFFFFFFFFFFFFF

/-- Seconds between refreshes, at most the largest number of a 64-bit word. -/
def refreshSeconds (o : Output) : Nat := min (o.heartbeat.toNat * 60) largestWord

end Output

/-- A service that notifications go to. -/
inductive Channel where
  | none | discord | slack
deriving DecidableEq

/-- Where notifications go. -/
structure Notification where
  service : Channel
  url : Option String
deriving DecidableEq

end Almanac.Config

namespace Almanac

/-- A whole configuration. -/
structure Config where
  notification : Config.Notification
  logLevel : Option String
  /-- Seconds that fetching one feed may take. -/
  fetchTimeout : UInt64
  sources : List Config.Output
deriving DecidableEq

namespace Config

/-- Seconds that fetching one feed may take, at least one. -/
def fetchSeconds (c : Config) : Nat := max c.fetchTimeout.toNat 1

/-- The path of the configuration: what the variable `ICAL_MERGER_CONFIG` holds, or a file in the
working directory. -/
def pathOfSetting (setting : Option String) : String := setting.getD "config.toml"

end Config

end Almanac
