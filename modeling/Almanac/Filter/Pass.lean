import Almanac.Filter.Modification

/-!
# The pass over a feed

The events of a feed are visited in order, with one watermark for all of them.
An event that no rule keeps is dropped; one that is kept is rewritten by the
modifiers. The kept events stay in order.
-/

namespace Almanac.Filter

open Config (Feed)
open Calendar (Component)

/-- What becomes of one event, and the watermark afterwards. -/
def passEvent (feed : Feed) (event : Component) (w : Watermark) : Option Component × Watermark :=
  match keeps feed.rules event w with
  | (false, w) => (none, w)
  | (true, w) =>
    let m := modifyAll feed.modifiers event w
    (some m.event, m.watermark)

/-- The events that are kept, and the watermark afterwards. -/
def passFrom (feed : Feed) : List Component → Watermark → List Component × Watermark
  | [], w => ([], w)
  | event :: events, w =>
    let first := passEvent feed event w
    let rest := passFrom feed events first.2
    (first.1.toList ++ rest.1, rest.2)

/-- The events of a feed that are kept, as its modifiers leave them. -/
def pass (feed : Feed) (events : List Component) : List Component := (passFrom feed events ∅).1

end Almanac.Filter
