/-!
# Journal

What the service reports about its work, one record per report. Records are kept
apart from the work itself: a function that does the work has a second one beside
it that says what is reported.
-/

namespace Almanac.Journal

/-- How much a record matters. -/
inductive Level where
  | debug | info | warn | error
deriving DecidableEq

/-- The name of a level. -/
def Level.name : Level → String
  | .debug => "DEBUG"
  | .info => "INFO"
  | .warn => "WARN"
  | .error => "ERROR"

/-- One report: who makes it, what it says, and details by name. -/
structure Record where
  level : Level
  topic : String
  message : String
  details : List (String × String)
deriving DecidableEq

end Almanac.Journal
