import Almanac.Filter.Pass
import Almanac.Journal

/-!
# Reports of the filter

What the filter reports: each rule that could not be evaluated, each event whose
modifiers were cut short, and one line for each pass over a feed.
-/

namespace Almanac.Filter

open Config (Check Rule Modifier Feed)
open Calendar (Component)
open Journal (Record)

/-- The name of a check in a report. -/
def checkName : Check → String
  | .contains => "Contains"
  | .notContains => "NotContains"
  | .equals => "Equals"
  | .notEquals => "NotEquals"
  | .firstOfDay => "FirstOfDay"
  | .firstOfMonth => "FirstOfMonth"
  | .firstOfYear => "FirstOfYear"

/-- What is reported when a rule is tried: its failure, if it cannot be evaluated. -/
def hitsReport (rule : Rule) (event : Component) (w : Watermark) : List Record :=
  match evaluate rule event w with
  | .ok _ => []
  | .error e =>
    [⟨.warn, "filter", "could not complete check",
      [("rule", rule.name), ("check", checkName rule.check),
       ("uid", (event.value? "UID").getD ""), ("error", e.message)]⟩]

/-- What is reported while rules are tried up to the first whose outcome is `last`. -/
def untilReport (last : Bool) : List Rule → Component → Watermark → List Record
  | [], _, _ => []
  | rule :: rules, event, w =>
    let r := hits rule event w
    hitsReport rule event w ++
      if r.1 == last then [] else untilReport last rules event r.2

/-- What is reported while it is decided whether an event is kept. -/
def keepsReport (rules : List Rule) (event : Component) (w : Watermark) : List Record :=
  untilReport true rules event w

/-- What is reported while modifiers are applied, of which `applied` have been before. -/
def modifiersReport (applied : Nat) : List Modifier → Component → Watermark → List Record
  | [], _, _ => []
  | m :: ms, event, w =>
    let guards := untilReport false m.guards event w
    match allHit m.guards event w with
    | (true, w) => guards ++ modifiersReport (applied + 1) ms (modify m event) w
    | (false, _) =>
      guards ++ [⟨.debug, "filter", "guard failed, skipping remaining modifiers",
        [("modifier", m.name), ("applied", toString applied)]⟩]

/-- What is reported about one event of a feed. -/
def eventReport (feed : Feed) (event : Component) (w : Watermark) : List Record :=
  keepsReport feed.rules event w ++
    match keeps feed.rules event w with
    | (true, w) => modifiersReport 0 feed.modifiers event w
    | (false, _) => []

/-- What is reported about the events of a feed, one after the other. -/
def eventsReport (feed : Feed) : List Component → Watermark → List Record
  | [], _ => []
  | event :: events, w =>
    eventReport feed event w ++ eventsReport feed events (passEvent feed event w).2

/-- What is reported about a pass over a feed. -/
def passReport (feed : Feed) (events : List Component) : List Record :=
  eventsReport feed events ∅ ++
    [⟨.debug, "filter", "feed filtered",
      [("feed", feed.name), ("total", toString events.length),
       ("kept", toString (pass feed events).length)]⟩]

end Almanac.Filter
