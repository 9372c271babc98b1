import Almanac.Http.Client
import Almanac.Merge.Basic
import Almanac.Service.Effect

/-!
# Fetching feeds

A feed is fetched as a text and read as a calendar. Each fetch is measured, and its
events or its failure are counted.
-/

namespace Almanac.Merge

open Http (FetchFault)

/-- The outcome for what was fetched. -/
def outcomeOf : Except FetchFault String → Outcome
  | .error (.status code) => .error (.status code)
  | .error .transport => .error .transport
  | .ok body =>
    match Calendar.events? body with
    | .ok events => .ok events
    | .error e => .error (.parse e)

/-- The effects of fetching a feed. -/
def fetchEffects (feed : String) : Outcome → List Service.Effect
  | .ok events => [.measure "ingest_fetch_ms", .count "feed_events_total" events.length]
  | .error _ =>
    [.measure "ingest_fetch_ms",
     .report ⟨.warn, "ingest", "feed fetch failed", [("feed", feed)]⟩,
     .count "ingest_feed_errors_total" 1]

end Almanac.Merge
