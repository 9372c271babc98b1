import Almanac.Filter.Evaluation

/-!
# Modifiers

The modifiers of a feed are applied to an event in order. A modifier applies if
all of its guards hit, and each guard sees the event as the modifiers before have
left it. The first modifier that does not apply ends the work on the event.
-/

namespace Almanac.Filter

open Config (Action Modifier)
open Calendar (Component)

/-- The event after one modifier. A property that is changed keeps none of its parameters. -/
def modify (m : Modifier) (event : Component) : Component :=
  match m.action with
  | .append => event.setValue m.field ((event.value? m.field).getD "" ++ m.data)
  | .prepend => event.setValue m.field (m.data ++ (event.value? m.field).getD "")
  | .replace => event.setValue m.field m.data
  | .addAlarm => event.addChild (.reminder m.name m.data)

/-- How the modifiers of an event ended. -/
structure Modified where
  /-- The number of modifiers that applied. -/
  applied : Nat
  event : Component
  watermark : Watermark

/-- Applies modifiers in order up to the first whose guards do not all hit. -/
def modifyAll : List Modifier → Component → Watermark → Modified
  | [], event, w => ⟨0, event, w⟩
  | m :: ms, event, w =>
    match allHit m.guards event w with
    | (true, w) =>
      let rest := modifyAll ms (modify m event) w
      { rest with applied := rest.applied + 1 }
    | (false, w) => ⟨0, event, w⟩

end Almanac.Filter
