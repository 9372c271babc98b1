import Almanac.Http.Router
import Almanac.Service.Startup

/-!
# Sessions

What can be asked of a service while it works. A session holds the outputs that it
knows, what has been started for each of them, the calendars that are served, and
how much of the calls and messages has been read already. Each question or command
gives an answer and the session after it.

A command on an output for which nothing has been started yet has no answer.
-/

namespace Almanac.Service

open Config (Output)
open Http (Request Response)
open Merge (Merged MergeFailure)

/-- An output with what has been started for it. -/
structure Station where
  output : Output
  /-- The number of its cache. -/
  cache : Option Nat
  /-- The number of its ticker. -/
  ticker : Option Nat
  /-- A calendar that was put aside. -/
  held : Option Edition

/-- A service at work. -/
structure Session where
  world : World
  stations : List Station
  served : List Served
  /-- The measurements have a path of their own. -/
  hasMetrics : Bool
  /-- The refreshes in the background that nobody has waited for, by number. -/
  pending : List Nat
  /-- The number of calls that have been read. -/
  callsRead : Nat
  /-- The number of messages that have been read. -/
  messagesRead : Nat

/-- A world at the start of time in which nothing has happened. -/
def World.quiet (tools : Nat → Tools) (plans : Dictionary Plan) (sinks : List Sink) : World :=
  ⟨0, tools, plans, sinks, [], ∅, [], 0, [], [], [], [], [], []⟩

namespace Session

/-- A session that knows some outputs and has started none of them. -/
def ofOutputs (outputs : List Output) (w : World) : Session :=
  ⟨w, outputs.map fun o => ⟨o, none, none, none⟩, [], false, [], 0, 0⟩

/-- The output of a number. -/
def output? (s : Session) (i : Nat) : Option Output := s.stations[i]?.map Station.output

/-- The number of the cache of an output. -/
def cacheOf? (s : Session) (i : Nat) : Option Nat := s.stations[i]?.bind Station.cache

/-- The cache of an output. -/
def cache? (s : Session) (i : Nat) : Option Cache :=
  (s.cacheOf? i).bind fun c => s.world.caches[c]?

/-- Changes what has been started for an output. -/
def updateStation (s : Session) (i : Nat) (f : Station → Station) : Session :=
  { s with stations := s.stations.modify i f }

/-- Tasks run until all of them wait. -/
def settle (s : Session) : Session := { s with world := s.world.settle }

/-- Merges an output once, beside its cache. -/
def merge (s : Session) (o : Output) : Except MergeFailure Merged × Session :=
  let (r, w) := s.world.runCycle .merge o
  (r, { s with world := w })

/-- Hands a message to the sinks. -/
def emit (s : Session) (text : String) : Session := { s with world := s.world.emit text }

/-- The sinks that messages go to. -/
def fanout (s : Session) : Notify.Fanout := ⟨s.world.sinks.map Sink.name⟩

/-- Starts an output. A cache that it had is given up only if the start succeeds. -/
def bootstrap (s : Session) (i : Nat) (o : Output) : Except StartError Unit × Session :=
  match s.world.bootstrap o with
  | (.error e, w) => (.error e, { s with world := w })
  | (.ok cache, w) =>
    (.ok (), { s with world := w }.updateStation i fun st => { st with cache := some cache })

/-- Refreshes a cache and waits for the end. -/
def refresh (s : Session) (cache : Nat) (o : Output) : Except MergeFailure Unit × Session :=
  let (r, w) := (s.world.updateCache cache Cache.opened).runCycle .refresh o
  (r.map fun _ => (), { s with world := w.closeRefresh cache r })

/-- Begins to refresh a cache in the background. -/
def refreshInBackground (s : Session) (cache : Nat) (o : Output) : Session :=
  let slot := s.world.results.length
  let w : World := { s.world with
    results := s.world.results ++ [none]
    ready := s.world.ready ++ [.refresh (.background slot) cache o] }
  { s with world := w.settle, pending := s.pending ++ [slot] }

/-- Waits for one refresh in the background. -/
def joinOne (w : World) (slot : Nat) : World :=
  let w := w.settle
  w.joinSlot slot (w.horizon + 1)

/-- Waits for all refreshes in the background; their results stand in the order of their starts. -/
def join (s : Session) : List (Except MergeFailure Unit) × Session :=
  let w := s.pending.foldl joinOne s.world
  (s.pending.filterMap fun slot => w.results[slot]?.bind id, { s with world := w, pending := [] })

/-- Starts the ticker of an output. -/
def startTicker (s : Session) (i cache : Nat) (o : Output) : Session :=
  let (ticker, w) := s.world.addTicker cache o
  { s with world := w.settle }.updateStation i fun st => { st with ticker := some ticker }

/-- Whether the ticker of an output has ended; nothing if it was never started. -/
def hasEnded (s : Session) (i : Nat) : Option Bool :=
  (s.stations[i]?.bind Station.ticker).bind fun t => s.world.ended[t]?

/-- Puts the calendar of an output aside. -/
def hold (s : Session) (i : Nat) : Session :=
  let edition := (s.cache? i).map Cache.current
  s.updateStation i fun st => { st with held := edition }

/-- The calendar that was put aside, and whether it is the current one. -/
def held? (s : Session) (i : Nat) : Option (Merged × Bool) :=
  (s.stations[i]?.bind Station.held).map fun e =>
    (e.merged, (s.cache? i).any fun c => c.current.number == e.number)

/-- Starts all outputs; what was served before is served no longer. -/
def startOutputs (s : Session) (hasMetrics : Bool) : Except StartError (List Served) × Session :=
  match s.world.startOutputs (s.stations.map Station.output) with
  | (.error e, w) => (.error e, { s with world := w })
  | (.ok served, w) =>
    (.ok served, { s with world := w, served := served, hasMetrics := hasMetrics })

/-- The calendars that are served, with their names, in the order in which they were started. -/
def servedCalendars (s : Session) : List (String × Merged) :=
  s.served.filterMap fun sv =>
    s.world.caches[sv.cache]?.map fun c => (sv.endpoint, c.current.merged)

/-- The report of a request that was answered from a calendar. -/
def servedReport (file : List Char) (m : Merged) (notModified : Bool) : Journal.Record :=
  ⟨.info, "api", "served calendar",
    [("file", String.ofList file), ("events", toString m.eventCount),
     ("not_modified", if notModified then "true" else "false")]⟩

/-- The effects of answering a request. -/
def requestEffects (calendars : Http.Calendars) (hasMetrics : Bool) (r : Request) : List Effect :=
  match Http.served? calendars hasMetrics r with
  | none => []
  | some (file, m) =>
    [.count "calendar_requests_total" 1,
     .report (servedReport file m (Http.isNotModified r m))]

/-- Answers a request. -/
def request (s : Session) (r : Request) : Response × Session :=
  let calendars := Dictionary.ofList s.servedCalendars
  (Http.respond calendars s.hasMetrics r,
    { s with world := s.world.applyAll (requestEffects calendars s.hasMetrics r) })

/-- Changes what fetching an address gives from now on. -/
def setPlan (s : Session) (url : String) (plan : Plan) : Session :=
  { s with world := { s.world with plans := s.world.plans.set url plan } }

/-- Waits for some seconds. -/
def sleep (s : Session) (seconds : Nat) : Session := { s with world := s.world.sleep seconds }

/-- The part of a record, whose latest entry comes first, behind the first `n` entries, in order. -/
def unread {α : Type} (n : Nat) (latestFirst : List α) : List α :=
  (latestFirst.take (latestFirst.length - n)).reverse

/-- The names of the feeds that were fetched since the last question, and the number of all of
them. -/
def calls (s : Session) : (List String × Nat) × Session :=
  ((unread s.callsRead (s.world.calls.map fun c => c.feed.name), s.world.calls.length),
    { s with callsRead := s.world.calls.length })

/-- The messages that were kept since the last question. -/
def drain (s : Session) : List String × Session :=
  let s := s.settle
  (unread s.messagesRead (s.world.delivered.map Receipt.text),
    { s with messagesRead := s.world.delivered.length })

/-- All that has been reported, in order. -/
def journal (s : Session) : List Journal.Record := s.world.journal.reverse

end Session

end Almanac.Service
