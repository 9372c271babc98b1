import Almanac.Filter.Report
import Almanac.Merge.Basic
import Almanac.Service.Effect

/-!
# Cycles

A cycle is one merge as the service runs it: it waits for one feed after the
other, and ends with a calendar or with the failure of a feed. A cycle is run for
its own sake, to start serving an output, or to refresh what is served; that
decides what is reported around the merge.

`begin` and `Cycle.resume` are the only steps. Nothing happens between them, so
any interleaving of cycles is a sequence of these steps.
-/

namespace Almanac.Service

open Calendar (Issue)
open Config (Feed Output)
open Merge (Loaded Merged MergeFailure Outcome)

/-- What a cycle is run for. -/
inductive Purpose where
  | merge
  | bootstrap
  | refresh
deriving DecidableEq

/-- A cycle that waits for a feed. -/
structure Cycle where
  purpose : Purpose
  output : Output
  /-- The feeds that have been fetched, in order. -/
  loaded : List Loaded
  /-- The feed that is being fetched. -/
  current : Feed
  /-- The feeds after it. -/
  rest : List Feed

/-- Where a cycle stands after a step. -/
inductive Progress where
  | waiting (c : Cycle)
  | finished (r : Except MergeFailure Merged)

/-- What a step needs besides: what is handed out when a calendar is written, and the time that the
merge has taken, in words. -/
structure Tools where
  issue : Issue
  elapsed : String

/-- The report of a loaded feed. -/
def loadedReport (o : Output) (l : Loaded) : Journal.Record :=
  let n := toString l.events.length
  ⟨.info, "merge", "loaded " ++ n ++ " events from " ++ l.feed.name,
    [("output", o.name), ("feed", l.feed.name), ("events", n)]⟩

/-- The effects of filtering a loaded feed. -/
def filterEffects (o : Output) (l : Loaded) : List Effect :=
  let n := toString l.kept.length
  (Filter.passReport l.feed l.events).map .report ++
    [.report ⟨.info, "merge", "adding " ++ n ++ " events from " ++ l.feed.name,
      [("output", o.name), ("feed", l.feed.name), ("kept", n)]⟩,
     .count "feed_events_kept_total" l.kept.length]

/-- A message under the name of its output. -/
def message (o : Output) (text : String) : Effect := .notify (Merge.tag o text)

/-- The effects of a merge that succeeds. -/
def successEffects (elapsed : String) (o : Output) (loaded : List Loaded) (m : Merged) :
    List Effect :=
  loaded.flatMap (filterEffects o) ++
    [.measure "merge_duration_ms",
     .report ⟨.info, "merge", "merge complete",
      [("output", o.name), ("events", toString m.eventCount)]⟩,
     message o ("Merged ical files in " ++ elapsed)]

/-- The effects of a merge that a feed has stopped. -/
def failureEffects (o : Output) (e : MergeFailure) : List Effect :=
  [.report ⟨.error, "merge", "merge aborted", [("output", o.name), ("error", e.message)]⟩,
   .count "merge_failures_total" 1,
   message o ("Could not complete request, " ++ e.message)]

/-- The effects before a merge begins. -/
def openingEffects (o : Output) : Purpose → List Effect
  | .merge => []
  | .bootstrap => [.report ⟨.info, "cache", "bootstrapping calendar", [("output", o.name)]⟩]
  | .refresh =>
    [.report ⟨.info, "cache", "cache invalidated, remerging ics files", [("output", o.name)]⟩,
     message o "Invalidated cache, remerging ics files"]

/-- The effects after a merge has ended. -/
def closingEffects (o : Output) : Purpose → Except MergeFailure Merged → List Effect
  | .merge, _ => []
  | .bootstrap, .ok _ => [.measure "cache_last_refresh_ts"]
  | .bootstrap, .error _ => []
  | .refresh, .ok _ =>
    [.measure "cache_refresh_ms", .measure "cache_last_refresh_ts",
     .report ⟨.info, "cache", "cache refreshed", [("output", o.name)]⟩]
  | .refresh, .error e =>
    [.count "cache_refresh_failures_total" 1,
     .report ⟨.error, "cache", "refresh failed, keeping previous calendar",
      [("output", o.name), ("error", e.message)]⟩,
     message o ("Error merging ical files: " ++ e.message)]

/-- The cycle goes on with the next feed, or ends if there is none. -/
def proceed (tools : Tools) (purpose : Purpose) (o : Output) (loaded : List Loaded) :
    List Feed → Progress × List Effect
  | feed :: feeds => (.waiting ⟨purpose, o, loaded, feed, feeds⟩, [])
  | [] =>
    let m := Merge.assemble tools.issue o loaded
    (.finished (.ok m),
      successEffects tools.elapsed o loaded m ++ closingEffects o purpose (.ok m))

/-- Begins a cycle. -/
def begin (tools : Tools) (purpose : Purpose) (o : Output) : Progress × List Effect :=
  let (p, effects) := proceed tools purpose o [] o.feeds
  (p, openingEffects o purpose ++ .count "merge_runs_total" 1 :: effects)

/-- The feed that a cycle waits for has been fetched, or has failed. -/
def Cycle.resume (c : Cycle) (tools : Tools) : Outcome → Progress × List Effect
  | .ok events =>
    let l : Loaded := ⟨c.current, events⟩
    let (p, effects) := proceed tools c.purpose c.output (c.loaded ++ [l]) c.rest
    (p, .report (loadedReport c.output l) :: effects)
  | .error e =>
    let err : MergeFailure := ⟨c.current.name, e⟩
    (.finished (.error err),
      failureEffects c.output err ++ closingEffects c.output c.purpose (.error err))

end Almanac.Service
