import Almanac.Config.Decode
import Almanac.Json.Writer

/-!
# Encoding a configuration

A configuration is written with all of its fields, the defaults included, and
every name is written in its first form.
-/

namespace Almanac.Config

/-- The name of a value among named ones; of several names the last. -/
def nameIn {α : Type} [DecidableEq α] (names : List (String × α)) (x : α) : String :=
  ((names.reverse.find? (fun p => p.2 = x)).map Prod.fst).getD ""

/-- Strings as a sequence. -/
def stringsDatum (xs : List String) : Datum := .sequence (xs.map .string) true

/-- A string, or nothing. -/
def optionDatum : Option String → Datum
  | some s => .string s
  | none => .null

/-- The data of a rule. -/
def Rule.toDatum (r : Rule) : Datum :=
  .mapping [("name", .string r.name), ("component", .string r.field),
    ("check", .string (nameIn checkNames r.check)), ("case", .bool r.caseSensitive),
    ("data", stringsDatum r.values)] .closed

/-- The data of a modifier. -/
def Modifier.toDatum (m : Modifier) : Datum :=
  .mapping [("name", .string m.name), ("component", .string m.field),
    ("action", .string (nameIn actionNames m.action)), ("data", .string m.data),
    ("rules", .sequence (m.guards.map Rule.toDatum) true)] .closed

/-- The data of a feed. -/
def Feed.toDatum (f : Feed) : Datum :=
  .mapping [("name", .string f.name), ("url", .string f.url),
    ("rules", .sequence (f.rules.map Rule.toDatum) true),
    ("modifiers", .sequence (f.modifiers.map Modifier.toDatum) true)] .closed

/-- The data of an output. -/
def Output.toDatum (o : Output) : Datum :=
  .mapping [("name", .string o.name), ("end_point", .string o.endpoint),
    ("heartbeat", .integer o.heartbeat.toNat),
    ("feeds", .sequence (o.feeds.map Feed.toDatum) true)] .closed

/-- The data of a notification. -/
def Notification.toDatum (n : Notification) : Datum :=
  .mapping [
    ("service", .string (nameIn serviceNames n.service)),
    ("url", optionDatum n.url)] .closed

/-- The data of a configuration. -/
def toDatum (c : Config) : Datum :=
  .mapping [("notification", c.notification.toDatum), ("log_level", optionDatum c.logLevel),
    ("fetch_timeout_secs", .integer c.fetchTimeout.toNat),
    ("sources", .sequence (c.sources.map Output.toDatum) true)] .closed

/-- The text of a configuration. -/
def toJson (c : Config) : String := Json.write c.toDatum

end Almanac.Config
