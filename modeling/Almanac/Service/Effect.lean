import Almanac.Journal
import Almanac.Dictionary

/-!
# Effects

What work does besides its result: it counts, measures, reports, and sends
messages. Effects are listed in the order in which they happen.
-/

namespace Almanac.Service

/-- One effect. -/
inductive Effect where
  /-- Adds to a counter. -/
  | count (name : String) (n : Nat)
  /-- Writes a measurement. Its value depends on the clock and is not kept. -/
  | measure (name : String)
  | report (r : Journal.Record)
  /-- Sends a message to every sink. -/
  | notify (text : String)
deriving DecidableEq

/-- Counters hold their sum, measurements the number of times that they were written. A counter to
which nothing was added is there all the same. -/
abbrev Metrics := Dictionary Nat

/-- The metrics after an addition. -/
def addMetric (m : Metrics) (name : String) (n : Nat) : Metrics :=
  m.set name ((m.get? name).getD 0 + n)

/-- The metrics after an effect. -/
def Effect.toMetrics (m : Metrics) : Effect → Metrics
  | .count name n => addMetric m name n
  | .measure name => addMetric m name 1
  | .report _ | .notify _ => m

/-- The kinds of metrics. -/
inductive MetricKind where
  | counter | gauge | histogram
deriving DecidableEq

/-- The metrics of the service: name, kind and meaning. -/
def metricTable : List (String × MetricKind × String) :=
  [("merge_runs_total", .counter, "Merges started, bootstrap included."),
   ("merge_failures_total", .counter, "Merges aborted by a feed fetch error."),
   ("merge_duration_ms", .histogram, "Wall time of successful merges in milliseconds."),
   ("feed_events_total", .counter, "Events parsed from upstream feeds."),
   ("feed_events_kept_total", .counter,
    "Events surviving feed rules and added to a merged calendar."),
   ("ingest_feed_errors_total", .counter, "Upstream fetch/parse errors."),
   ("ingest_fetch_ms", .histogram, "Upstream fetch + parse time in milliseconds."),
   ("cache_refresh_failures_total", .counter,
    "Scheduled refreshes that kept the previous calendar."),
   ("cache_refresh_ms", .histogram, "Wall time of successful scheduled refreshes."),
   ("cache_last_refresh_ts", .gauge, "Unix ts of the last successful merge."),
   ("calendar_requests_total", .counter, "Calendar requests served from cache.")]

end Almanac.Service
