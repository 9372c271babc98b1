import Almanac.Config.Basic
import Almanac.Datum
import Almanac.Decimal.Shortest
import Almanac.Text.Quoted

/-!
# Decoding a configuration

The data of a configuration text are decoded in their order, so that of several
faults the first one in the data is reported. A record is given by a mapping, or
by a sequence that holds its fields in a fixed order. Names that are not known
are passed over; a field that is given twice is a fault.
-/

namespace Almanac.Config

open Decimal (Binary64 Spelling)

/-- The two kinds of configuration texts. They differ in how numbers are shown, in how a choice is
given by a mapping, and in whether a record may be followed by further items. -/
inductive Dialect where
  | json | toml
deriving DecidableEq

/-- How binary numbers are shown in messages. -/
def Dialect.spelling : Dialect → Spelling
  | .json => ⟨fun power => -5 ≤ power ∧ power ≤ 15⟩
  | .toml => ⟨fun _ => true⟩

/-- Why data are no configuration. -/
inductive DecodeError where
  | missingField (name : String)
  | duplicateField (name : String)
  | unknownVariant (name : String) (known : List String)
  | invalidType (found expected : String)
  | invalidValue (found expected : String)
  | invalidLength (length : Nat) (expected : String)
  /-- The text is damaged, or holds what no datum can be made of. -/
  | unreadable
deriving DecidableEq

/-- The wording of a reason; none for a text that is damaged. -/
def DecodeError.message? : DecodeError → Option String
  | .missingField name => some ("missing field `" ++ name ++ "`")
  | .duplicateField name => some ("duplicate field `" ++ name ++ "`")
  | .unknownVariant name known =>
    some ("unknown variant `" ++ name ++ "`, expected one of " ++
      ", ".intercalate (known.map fun k => "`" ++ k ++ "`"))
  | .invalidType found expected => some ("invalid type: " ++ found ++ ", expected " ++ expected)
  | .invalidValue found expected => some ("invalid value: " ++ found ++ ", expected " ++ expected)
  | .invalidLength n expected =>
    some ("invalid length " ++ toString n ++ ", expected " ++ expected)
  | .unreadable => none

/-- The outcome of decoding. -/
abbrev Decoded (α : Type) := Except DecodeError α

/-- Whole numbers beyond 64 bits are shown with the width that they need. -/
def describeInteger (n : Int) : String :=
  let width :=
    if -0x8000000000000000 ≤ n ∧ n ≤ 0xFFFFFFFFFFFFFFFF then ""
    else if n < 0x80000000000000000000000000000000 then " as i128"
    else " as u128"
  "integer `" ++ toString n ++ "`" ++ width

/-- What a datum is, for a message; nothing if it cannot be read. -/
def describe (dialect : Dialect) : Datum → Option String
  | .null => some "null"
  | .bool b => some ("boolean `" ++ (if b then "true" else "false") ++ "`")
  | .integer n => some (describeInteger n)
  | .float x => some ("floating point `" ++ dialect.spelling.text x ++ "`")
  | .special name => some ("floating point `" ++ name ++ "`")
  | .string s => some ("string " ++ Text.quote s)
  | .moment => some "map"
  | .sequence _ _ => some "sequence"
  | .mapping _ _ | .unnamed _ => some "map"
  | .unreadable => none
  | .damaged => none

/-- The fault of a datum that is not of the expected type. -/
def mismatch {α : Type} (dialect : Dialect) (d : Datum) (expected : String) : Decoded α :=
  match describe dialect d with
  | some found => .error (.invalidType found expected)
  | none => .error .unreadable

/-- A string. -/
def string (dialect : Dialect) : Datum → Decoded String
  | .string s => .ok s
  | d => mismatch dialect d "a string"

/-- A string, or nothing. -/
def stringOrNull (dialect : Dialect) : Datum → Decoded (Option String)
  | .null => .ok none
  | d => some <$> string dialect d

/-- A truth value. -/
def truth (dialect : Dialect) : Datum → Decoded Bool
  | .bool b => .ok b
  | d => mismatch dialect d "a boolean"

/-- A whole number of 64 bits that is not negative. -/
def word (dialect : Dialect) : Datum → Decoded UInt64
  | .integer n =>
    if 0 ≤ n ∧ n ≤ 0xFFFFFFFFFFFFFFFF then .ok n.toNat.toUInt64
    else if -0x8000000000000000 ≤ n ∧ n < 0 then .error (.invalidValue (describeInteger n) "u64")
    else mismatch dialect (.integer n) "u64"
  | d => mismatch dialect d "u64"

/-- A sequence whose items are decoded in order. -/
def listOf {α : Type} (dialect : Dialect) (item : Datum → Decoded α) : Datum → Decoded (List α)
  | .sequence items complete => do
    let xs ← items.mapM item
    if complete then .ok xs else .error .unreadable
  | d => mismatch dialect d "a sequence"

/-- The choice with this name. -/
def variant {α : Type} (choices : List (String × α)) (known : List String) (name : String) :
    Decoded α :=
  match choices.find? (fun c => c.1 == name) with
  | some c => .ok c.2
  | none => .error (.unknownVariant name known)

/-- A choice by its name, or by a mapping from the name to an empty value. `known` are the names
that a message lists. -/
def choice {α : Type} (dialect : Dialect) (choices : List (String × α)) (known : List String) :
    Datum → Decoded α
  | .string name => variant choices known name
  | .mapping ((name, d) :: more) ending =>
    match dialect with
    | .json => do
      let x ← variant choices known name
      match d with
      | .null => if more.isEmpty && ending == .closed then .ok x else .error .unreadable
      | d => mismatch dialect d "unit"
    | .toml =>
      if more.isEmpty then do
        let x ← variant choices known name
        match d with
        | .mapping [] _ => .ok x
        | .sequence [] _ => .ok x
        | _ => .error .unreadable
      else .error .unreadable
  | .unnamed d => mismatch dialect d "variant identifier"
  | _ => .error .unreadable

/-- Passes over the value of an unknown name. -/
def pass {σ : Type} (part : σ) (d : Datum) : Decoded σ :=
  if d.isSound then .ok part else .error .unreadable

/-- The value of a field that has not been given before. -/
def once {α : Type} (name : String) (before : Option α) (value : Decoded α) :
    Decoded (Option α) :=
  match before with
  | some _ => .error (.duplicateField name)
  | none => some <$> value

/-- The value of a field that has to be given. -/
def required {α : Type} (name : String) : Option α → Decoded α
  | some x => .ok x
  | none => .error (.missingField name)

/-- The item at a place of a sequence, if the sequence is that long. -/
def itemAt {α : Type} (items : List Datum) (complete : Bool) (i : Nat) (item : Datum → Decoded α) :
    Decoded (Option α) :=
  match items[i]? with
  | some d => some <$> item d
  | none => if complete then .ok none else .error .unreadable

/-- The item at a place where there has to be one. -/
def itemNeeded {α : Type} (items : List Datum) (complete : Bool) (expected : String) (i : Nat)
    (item : Datum → Decoded α) : Decoded α := do
  match ← itemAt items complete i item with
  | some x => .ok x
  | none => .error (.invalidLength i expected)

/-- A record in a sequence has been decoded, and nothing may follow it. -/
def finish {α : Type} (dialect : Dialect) (items : List Datum) (complete : Bool) (size : Nat)
    (x : α) : Decoded α :=
  match dialect with
  | .json => if items.length ≤ size && complete then .ok x else .error .unreadable
  | .toml => .ok x

/-- A record: `put` takes one entry of a mapping after the other, beginning with `empty`, and
`build` makes the record of them; `ofItems` makes it of the items of a sequence. -/
def record {σ α : Type} (dialect : Dialect) (name : String) (empty : σ)
    (put : σ → String → Datum → Decoded σ) (build : σ → Decoded α)
    (ofItems : List Datum → Bool → Decoded α) : Datum → Decoded α
  | .mapping entries ending => do
    let part ← entries.foldlM (fun part e => put part e.1 e.2) empty
    if ending = .closed then build part else .error .unreadable
  | .sequence items complete => ofItems items complete
  | .moment => build empty
  | .unnamed _ => .error .unreadable
  | d => mismatch dialect d ("struct " ++ name)

/-- The names of the checks. -/
def checkNames : List (String × Check) :=
  [("CONTAINS", .contains), ("NOT_CONTAINS", .notContains), ("EQUALS", .equals),
   ("NOT_EQUALS", .notEquals), ("FIRST_OF_DAY", .firstOfDay), ("FIRST_OF_MONTH", .firstOfMonth),
   ("FIRST_OF_YEAR", .firstOfYear)]

/-- The names of the actions. The last one has two; the second is the one that is written. -/
def actionNames : List (String × Action) :=
  [("APPEND", .append), ("PREPEND", .prepend), ("REPLACE", .replace), ("ADD_ALARM", .addAlarm),
   ("ALARM", .addAlarm)]

/-- The names of the services. -/
def serviceNames : List (String × Channel) :=
  [("none", .none), ("discord", .discord), ("slack", .slack)]

/-- A choice among named values. -/
def named {α : Type} (dialect : Dialect) (names : List (String × α)) : Datum → Decoded α :=
  choice dialect names (names.map Prod.fst)

/-- The fields of a rule that have been given. -/
structure RulePart where
  name : Option String
  field : Option String
  check : Option Check
  caseSensitive : Option Bool
  values : Option (List String)

/-- A rule with its defaults. -/
def RulePart.build (p : RulePart) : Decoded Rule := do
  let check ← required "check" p.check
  return ⟨p.name.getD "", p.field.getD "", check, p.caseSensitive.getD false, p.values.getD []⟩

/-- Takes one entry of a rule. -/
def RulePart.put (dialect : Dialect) (p : RulePart) (name : String) (d : Datum) :
    Decoded RulePart :=
  match name with
  | "name" => return { p with name := ← once "name" p.name (string dialect d) }
  | "component" => return { p with field := ← once "component" p.field (string dialect d) }
  | "check" => return { p with check := ← once "check" p.check (named dialect checkNames d) }
  | "case" => return { p with caseSensitive := ← once "case" p.caseSensitive (truth dialect d) }
  | "data" =>
    return { p with values := ← once "data" p.values (listOf dialect (string dialect) d) }
  | _ => pass p d

/-- A rule. -/
def Rule.ofDatum (dialect : Dialect) : Datum → Decoded Rule :=
  record dialect "Rule" ⟨none, none, none, none, none⟩ (RulePart.put dialect) RulePart.build
    fun items complete => do
      let size := "struct Rule with 5 elements"
      let name ← itemAt items complete 0 (string dialect)
      let field ← itemAt items complete 1 (string dialect)
      let check ← itemNeeded items complete size 2 (named dialect checkNames)
      let caseSensitive ← itemAt items complete 3 (truth dialect)
      let values ← itemAt items complete 4 (listOf dialect (string dialect))
      finish dialect items complete 5
        ⟨name.getD "", field.getD "", check, caseSensitive.getD false, values.getD []⟩

/-- The fields of a modifier that have been given. -/
structure ModifierPart where
  name : Option String
  field : Option String
  action : Option Action
  data : Option String
  guards : Option (List Rule)

/-- A modifier with its defaults. -/
def ModifierPart.build (p : ModifierPart) : Decoded Modifier := do
  let name ← required "name" p.name
  let action ← required "action" p.action
  return ⟨name, p.field.getD "", action, p.data.getD "", p.guards.getD []⟩

/-- Takes one entry of a modifier. -/
def ModifierPart.put (dialect : Dialect) (p : ModifierPart) (name : String) (d : Datum) :
    Decoded ModifierPart :=
  match name with
  | "name" => return { p with name := ← once "name" p.name (string dialect d) }
  | "component" => return { p with field := ← once "component" p.field (string dialect d) }
  | "action" => return { p with action := ← once "action" p.action (named dialect actionNames d) }
  | "data" => return { p with data := ← once "data" p.data (string dialect d) }
  | "rules" =>
    return { p with guards := ← once "rules" p.guards (listOf dialect (Rule.ofDatum dialect) d) }
  | _ => pass p d

/-- A modifier. -/
def Modifier.ofDatum (dialect : Dialect) : Datum → Decoded Modifier :=
  record dialect "Modifier" ⟨none, none, none, none, none⟩ (ModifierPart.put dialect)
    ModifierPart.build
    fun items complete => do
      let size := "struct Modifier with 5 elements"
      let name ← itemNeeded items complete size 0 (string dialect)
      let field ← itemAt items complete 1 (string dialect)
      let action ← itemNeeded items complete size 2 (named dialect actionNames)
      let data ← itemAt items complete 3 (string dialect)
      let guards ← itemAt items complete 4 (listOf dialect (Rule.ofDatum dialect))
      finish dialect items complete 5
        ⟨name, field.getD "", action, data.getD "", guards.getD []⟩

/-- The fields of a feed that have been given. -/
structure FeedPart where
  name : Option String
  url : Option String
  rules : Option (List Rule)
  modifiers : Option (List Modifier)

/-- A feed with its defaults. -/
def FeedPart.build (p : FeedPart) : Decoded Feed := do
  let name ← required "name" p.name
  let url ← required "url" p.url
  return ⟨name, url, p.rules.getD [], p.modifiers.getD []⟩

/-- Takes one entry of a feed. -/
def FeedPart.put (dialect : Dialect) (p : FeedPart) (name : String) (d : Datum) :
    Decoded FeedPart :=
  match name with
  | "name" => return { p with name := ← once "name" p.name (string dialect d) }
  | "url" => return { p with url := ← once "url" p.url (string dialect d) }
  | "rules" =>
    return { p with rules := ← once "rules" p.rules (listOf dialect (Rule.ofDatum dialect) d) }
  | "modifiers" =>
    return { p with
      modifiers := ← once "modifiers" p.modifiers (listOf dialect (Modifier.ofDatum dialect) d) }
  | _ => pass p d

/-- A feed. -/
def Feed.ofDatum (dialect : Dialect) : Datum → Decoded Feed :=
  record dialect "SourceFeed" ⟨none, none, none, none⟩ (FeedPart.put dialect) FeedPart.build
    fun items complete => do
      let size := "struct SourceFeed with 4 elements"
      let name ← itemNeeded items complete size 0 (string dialect)
      let url ← itemNeeded items complete size 1 (string dialect)
      let rules ← itemAt items complete 2 (listOf dialect (Rule.ofDatum dialect))
      let modifiers ← itemAt items complete 3 (listOf dialect (Modifier.ofDatum dialect))
      finish dialect items complete 4 ⟨name, url, rules.getD [], modifiers.getD []⟩

/-- The fields of an output that have been given. -/
structure OutputPart where
  name : Option String
  endpoint : Option String
  heartbeat : Option UInt64
  feeds : Option (List Feed)

/-- An output, which has no defaults. -/
def OutputPart.build (p : OutputPart) : Decoded Output := do
  let name ← required "name" p.name
  let endpoint ← required "end_point" p.endpoint
  let heartbeat ← required "heartbeat" p.heartbeat
  let feeds ← required "feeds" p.feeds
  return ⟨name, endpoint, heartbeat, feeds⟩

/-- Takes one entry of an output. Two of its fields have a second name. -/
def OutputPart.put (dialect : Dialect) (p : OutputPart) (name : String) (d : Datum) :
    Decoded OutputPart :=
  match name with
  | "name" | "xwr_name" => return { p with name := ← once "name" p.name (string dialect d) }
  | "end_point" => return { p with endpoint := ← once "end_point" p.endpoint (string dialect d) }
  | "heartbeat" => return { p with heartbeat := ← once "heartbeat" p.heartbeat (word dialect d) }
  | "feeds" | "info" =>
    return { p with feeds := ← once "feeds" p.feeds (listOf dialect (Feed.ofDatum dialect) d) }
  | _ => pass p d

/-- An output. -/
def Output.ofDatum (dialect : Dialect) : Datum → Decoded Output :=
  record dialect "OutputSource" ⟨none, none, none, none⟩ (OutputPart.put dialect) OutputPart.build
    fun items complete => do
      let size := "struct OutputSource with 4 elements"
      let name ← itemNeeded items complete size 0 (string dialect)
      let endpoint ← itemNeeded items complete size 1 (string dialect)
      let heartbeat ← itemNeeded items complete size 2 (word dialect)
      let feeds ← itemNeeded items complete size 3 (listOf dialect (Feed.ofDatum dialect))
      finish dialect items complete 4 ⟨name, endpoint, heartbeat, feeds⟩

/-- The fields of a notification that have been given. -/
structure NotificationPart where
  service : Option Channel
  url : Option (Option String)

/-- A notification with its defaults. -/
def NotificationPart.build (p : NotificationPart) : Notification :=
  ⟨p.service.getD .none, p.url.getD none⟩

/-- Takes one entry of a notification. -/
def NotificationPart.put (dialect : Dialect) (p : NotificationPart) (name : String) (d : Datum) :
    Decoded NotificationPart :=
  match name with
  | "service" =>
    return { p with service := ← once "service" p.service (named dialect serviceNames d) }
  | "url" => return { p with url := ← once "url" p.url (stringOrNull dialect d) }
  | _ => pass p d

/-- A notification. -/
def Notification.ofDatum (dialect : Dialect) : Datum → Decoded Notification :=
  record dialect "NotificationConfig" ⟨none, none⟩ (NotificationPart.put dialect)
    (fun p => .ok p.build)
    fun items complete => do
      let service ← itemAt items complete 0 (named dialect serviceNames)
      let url ← itemAt items complete 1 (stringOrNull dialect)
      finish dialect items complete 2 (NotificationPart.build ⟨service, url⟩)

/-- The fields of a configuration that have been given. -/
structure Part where
  notification : Option Notification
  logLevel : Option (Option String)
  fetchTimeout : Option UInt64
  sources : Option (List Output)

/-- A configuration with its defaults: no notifications, 30 seconds, no outputs. -/
def Part.build (p : Part) : Config :=
  ⟨p.notification.getD ⟨.none, none⟩, p.logLevel.getD none, p.fetchTimeout.getD 30,
    p.sources.getD []⟩

/-- Takes one entry of a configuration. -/
def Part.put (dialect : Dialect) (p : Part) (name : String) (d : Datum) : Decoded Part :=
  match name with
  | "notification" =>
    return { p with
      notification := ← once "notification" p.notification (Notification.ofDatum dialect d) }
  | "log_level" =>
    return { p with logLevel := ← once "log_level" p.logLevel (stringOrNull dialect d) }
  | "fetch_timeout_secs" =>
    return { p with
      fetchTimeout := ← once "fetch_timeout_secs" p.fetchTimeout (word dialect d) }
  | "sources" =>
    return { p with
      sources := ← once "sources" p.sources (listOf dialect (Output.ofDatum dialect) d) }
  | _ => pass p d

/-- A configuration. -/
def ofDatum (dialect : Dialect) : Datum → Decoded Config :=
  record dialect "Config" ⟨none, none, none, none⟩ (Part.put dialect) (fun p => .ok p.build)
    fun items complete => do
      let notification ← itemAt items complete 0 (Notification.ofDatum dialect)
      let logLevel ← itemAt items complete 1 (stringOrNull dialect)
      let fetchTimeout ← itemAt items complete 2 (word dialect)
      let sources ← itemAt items complete 3 (listOf dialect (Output.ofDatum dialect))
      finish dialect items complete 4
        (Part.build ⟨notification, logLevel, fetchTimeout, sources⟩)

end Almanac.Config
