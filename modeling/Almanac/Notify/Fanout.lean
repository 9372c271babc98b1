import Almanac.Config.Basic
import Almanac.Journal
import Almanac.Text.Quoted

/-!
# Fan-out of notifications

Messages go to every sink. A configuration names at most one service, which makes
at most one sink.
-/

namespace Almanac.Notify

open Config (Notification Channel)

/-- The sinks that messages go to, by their names. -/
structure Fanout where
  sinks : List String
deriving DecidableEq

namespace Fanout

/-- The name of the sink of a service. -/
def sinkName? : Channel → Option String
  | .none => none
  | .discord => some "discord"
  | .slack => some "slack"

/-- The sinks of a configuration. -/
def ofConfig (n : Notification) : Fanout := ⟨(sinkName? n.service).toList⟩

/-- There is a sink. -/
def hasSinks (m : Fanout) : Bool := !m.sinks.isEmpty

/-- The sinks in one line. -/
def describe (m : Fanout) : String :=
  "NotifierMux \x7b sinks: [" ++ ", ".intercalate (m.sinks.map Text.quote) ++ "] \x7d"

end Fanout

/-- The name of a service in a report. -/
def serviceLabel : Channel → String
  | .none => "None"
  | .discord => "Discord"
  | .slack => "Slack"

/-- What is reported when the sinks of a configuration are made. -/
def setupReport (n : Notification) : Journal.Record :=
  if (Fanout.ofConfig n).hasSinks then
    ⟨.info, "notify", "notifications enabled", [("service", serviceLabel n.service)]⟩
  else ⟨.info, "notify", "notifications disabled", []⟩

/-- What is reported when a message is handed to the sinks. -/
def sendReport (text : String) : Journal.Record :=
  ⟨.debug, "notify", "sending notification", [("text", text)]⟩

/-- What is reported when a sink fails to deliver. -/
def failureReport (sink : String) : Journal.Record :=
  ⟨.warn, "notify", "notification failed", [("sink", sink)]⟩

end Almanac.Notify
