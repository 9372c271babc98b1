import Almanac.Config.Basic
import Almanac.Url.Address

/-!
# Validation

A configuration is checked entry by entry, in order, up to the first fault. A
fault names the entry that it lies in. On the way the property names of rules and
modifiers are brought into the form in which events hold them.
-/

namespace Almanac.Config

open Url (UrlError)

/-- What can be wrong with an entry. -/
inductive Fault where
  | notificationUrlMissing
  | endpointMissing
  | endpointNotUnique
  | heartbeatZero
  | noFeeds
  | nameMissing
  | urlMissing
  | urlInvalid (e : UrlError)
  | hostMissing
  | componentMissing
deriving DecidableEq

/-- The wording of a fault. -/
def Fault.message : Fault → String
  | .notificationUrlMissing => "url is required when a service is set"
  | .endpointMissing => "end_point is missing"
  | .endpointNotUnique => "end_point is not unique"
  | .heartbeatZero => "heartbeat must be greater than 0"
  | .noFeeds => "at least one feed is required"
  | .nameMissing => "name is missing"
  | .urlMissing => "URL is missing"
  | .urlInvalid e => "URL is invalid: " ++ e.message
  | .hostMissing => "URL is invalid (hostname)"
  | .componentMissing => "component is missing"

/-- A fault and the entry that it lies in. -/
structure Invalid where
  path : String
  fault : Fault
deriving DecidableEq

/-- The outcome of a check. -/
abbrev Checked (α : Type) := Except Invalid α

/-- The place of an entry in a list. -/
def entryPath (base list : String) (i : Nat) : String :=
  base ++ list ++ "[" ++ toString i ++ "]"

/-- Checks the entries of a list in order; the first has the number `i`. -/
def checkEach {α : Type} (check : String → α → Checked α) (base list : String) :
    Nat → List α → Checked (List α)
  | _, [] => .ok []
  | i, x :: xs => do
    let y ← check (entryPath base list i) x
    let ys ← checkEach check base list (i + 1) xs
    .ok (y :: ys)

/-- A property name without blanks around it and in capitals. -/
def normalField (field : String) : String :=
  String.ofList ((Text.trim field.toList).map Char.toUpper)

/-- Checks a rule. A comparing check reads a property and has to name it. -/
def checkRule (path : String) (r : Rule) : Checked Rule :=
  let field := normalField r.field
  if r.check.isFirstOf = false ∧ field = "" then .error ⟨path, .componentMissing⟩
  else .ok { r with field := field }

/-- Checks a modifier and then its guards. Only an alarm needs no property. -/
def checkModifier (path : String) (m : Modifier) : Checked Modifier :=
  let field := normalField m.field
  if m.action ≠ .addAlarm ∧ field = "" then .error ⟨path, .componentMissing⟩
  else do
    let guards ← checkEach checkRule path ".rules" 0 m.guards
    .ok { m with field := field, guards := guards }

/-- Checks that an address has a host. -/
def checkUrl (path url : String) : Checked Unit :=
  if Text.isBlankText url then .error ⟨path, .urlMissing⟩
  else
    match Url.host? url with
    | .error e => .error ⟨path, .urlInvalid e⟩
    | .ok host => if Url.hasHost host then .ok () else .error ⟨path, .hostMissing⟩

/-- Checks a feed, then its rules, then its modifiers. -/
def checkFeed (path : String) (f : Feed) : Checked Feed :=
  if Text.isBlankText f.name then .error ⟨path, .nameMissing⟩
  else do
    checkUrl path f.url
    let rules ← checkEach checkRule path ".rules" 0 f.rules
    let modifiers ← checkEach checkModifier path ".modifiers" 0 f.modifiers
    .ok { f with rules := rules, modifiers := modifiers }

/-- Checks an output whose predecessors have the endpoints `taken`. -/
def checkOutput (taken : List String) (path : String) (o : Output) : Checked Output :=
  if o.key = "" then .error ⟨path, .endpointMissing⟩
  else if o.key ∈ taken then .error ⟨path, .endpointNotUnique⟩
  else if o.heartbeat = 0 then .error ⟨path, .heartbeatZero⟩
  else if o.feeds.isEmpty then .error ⟨path, .noFeeds⟩
  else do
    let feeds ← checkEach checkFeed path ".feeds" 0 o.feeds
    .ok { o with feeds := feeds }

/-- Checks outputs in order; the first has the number `i`. -/
def checkOutputs (taken : List String) : Nat → List Output → Checked (List Output)
  | _, [] => .ok []
  | i, o :: os => do
    let p ← checkOutput taken (entryPath "" "sources" i) o
    let ps ← checkOutputs (o.key :: taken) (i + 1) os
    .ok (p :: ps)

/-- Checks where notifications go. -/
def checkNotification (n : Notification) : Checked Unit :=
  if n.service ≠ .none ∧ ((n.url.map Text.isBlankText).getD true) = true then
    .error ⟨"notification", .notificationUrlMissing⟩
  else .ok ()

/-- The configuration with its property names in their normal form, or the first fault. -/
def validate (c : Config) : Checked Config := do
  checkNotification c.notification
  let sources ← checkOutputs [] 0 c.sources
  .ok { c with sources := sources }

end Almanac.Config
