import Almanac.Notify.Fanout
import Almanac.Service.Cache
import Almanac.Service.Timetable

/-!
# The clock

The service at work in whole seconds of time. There is one main flow, which
carries out commands, and there are tasks beside it: deliveries of messages,
refreshes in the background, and the tickers that refresh the outputs by their
timetables. A task runs until it waits. Tasks run only while the main flow waits,
in the order in which they became ready; when all of them wait, time moves on to
the next moment at which something is due.
-/

namespace Almanac.Service

open Config (Feed Output)
open Merge (Merged MergeFailure Outcome)

/-- What fetching an address gives, and the seconds that it takes. -/
structure Plan where
  delay : Nat
  outcome : Outcome

/-- Where messages end up. -/
inductive Sink where
  /-- Keeps every message. -/
  | recording
  /-- Fails to deliver any. -/
  | broken
deriving DecidableEq

/-- The name of a sink. -/
def Sink.name : Sink → String
  | .recording => "recording"
  | .broken => "broken"

/-- Who a refresh is run for. -/
inductive Owner where
  /-- A refresh in the background, by its number. -/
  | background (slot : Nat)
  /-- A ticker, by its number, with the next due time and the interval. -/
  | ticker (slot due interval : Nat)

/-- A feed that is fetched for an output. -/
structure Call where
  output : Output
  feed : Feed
deriving DecidableEq

/-- A message that the sink at a place has kept. -/
structure Receipt where
  place : Nat
  text : String
deriving DecidableEq

/-- What a task does when it runs next. -/
inductive Task where
  /-- Delivers a message to the sink at a place. -/
  | deliver (place : Nat) (sink : Sink) (text : String)
  /-- Begins a refresh. -/
  | refresh (owner : Owner) (cache : Nat) (output : Output)
  /-- Goes on with a refresh whose feed has arrived. -/
  | resume (owner : Owner) (cache : Nat) (cycle : Cycle) (outcome : Outcome)
  /-- Starts a ticker. -/
  | ticker (slot cache : Nat) (output : Output)

/-- A task that waits for its time. -/
structure Timer where
  due : Nat
  task : Task

/-- The service and the world around it. -/
structure World where
  now : Nat
  /-- What is handed out to the merge of each number. -/
  tools : Nat → Tools
  plans : Dictionary Plan
  sinks : List Sink
  caches : List Cache
  metrics : Metrics
  /-- What has been reported, the latest first. -/
  journal : List Journal.Record
  /-- The number of calendars merged so far. -/
  merges : Nat
  /-- The feeds that were fetched, the latest first. -/
  calls : List Call
  /-- The messages that sinks have kept, the latest first. -/
  delivered : List Receipt
  /-- The tasks that can run, the first one next. -/
  ready : List Task
  /-- The tasks that wait for their time, in the order in which they began to wait. -/
  timers : List Timer
  /-- The results of the refreshes in the background, by number. -/
  results : List (Option (Except MergeFailure Unit))
  /-- Whether each ticker has ended. -/
  ended : List Bool

namespace World

/-- The plan of an address; an unknown one is answered with the status 404. -/
def planOf (w : World) (url : String) : Plan :=
  (w.plans.get? url).getD ⟨0, .error (.status 404)⟩

/-- The deliveries of a message to sinks, each at its place. -/
def postings (sinks : List Sink) (text : String) : List Task :=
  sinks.zipIdx.map fun e => .deliver e.2 e.1 text

/-- Hands a message to the sinks. -/
def emit (w : World) (text : String) : World :=
  { w with
    journal := Notify.sendReport text :: w.journal
    ready := w.ready ++ postings w.sinks text }

/-- Carries out one effect. -/
def apply (w : World) : Effect → World
  | .report r => { w with journal := r :: w.journal }
  | .notify text => w.emit text
  | .count name n => { w with metrics := addMetric w.metrics name n }
  | .measure name => { w with metrics := addMetric w.metrics name 1 }

/-- Carries out effects in order. -/
def applyAll (w : World) (effects : List Effect) : World := effects.foldl apply w

/-- What is handed out to the next merge. -/
def nextTools (w : World) : Tools := w.tools w.merges

/-- Changes one cache. -/
def updateCache (w : World) (i : Nat) (f : Cache → Cache) : World :=
  { w with caches := w.caches.modify i f }

/-- Counts the calendar of a step that has finished. -/
def countMerge (w : World) : Progress → World
  | .finished (.ok _) => { w with merges := w.merges + 1 }
  | _ => w

/-- Carries out a step of a cycle. -/
def settleStep (w : World) (step : Progress × List Effect) : Progress × World :=
  (step.1, (w.applyAll step.2).countMerge step.1)

/-- How a run of a cycle pauses: it waits for a feed until some time, or it has ended. -/
inductive Pause where
  | waits (due : Nat) (cycle : Cycle) (outcome : Outcome)
  | ended (r : Except MergeFailure Merged)

/-- Runs a cycle until it waits. Feeds that take no time are fetched at once. The fuel bounds the
number of feeds. -/
def drive : Nat → Progress → World → Pause × World
  | _, .finished r, w => (.ended r, w)
  | 0, .waiting c, w => (.ended (.error ⟨c.current.name, .transport⟩), w)
  | fuel + 1, .waiting c, w =>
    let plan := w.planOf c.current.url
    let w := { w with calls := ⟨c.output, c.current⟩ :: w.calls }
    if plan.delay = 0 then
      let (p, w) := w.settleStep (c.resume w.nextTools plan.outcome)
      drive fuel p w
    else (.waits (w.now + plan.delay) c plan.outcome, w)

/-- The number of feeds that a cycle still has to fetch. -/
def feedsLeft : Progress → Nat
  | .finished _ => 0
  | .waiting c => c.rest.length + 1

/-- Runs a cycle from where it stands. -/
def driveAll (w : World) (p : Progress) : Pause × World := drive (feedsLeft p) p w

/-- Begins a cycle and runs it until it waits. -/
def beginCycle (w : World) (purpose : Purpose) (o : Output) : Pause × World :=
  let (p, w) := w.settleStep (begin w.nextTools purpose o)
  w.driveAll p

/-- Goes on with a cycle whose feed has arrived, until it waits again. -/
def resumeCycle (w : World) (c : Cycle) (outcome : Outcome) : Pause × World :=
  let (p, w) := w.settleStep (c.resume w.nextTools outcome)
  w.driveAll p

/-- A task begins to wait. -/
def wait (w : World) (due : Nat) (task : Task) : World :=
  { w with timers := w.timers ++ [⟨due, task⟩] }

/-- A refresh has ended: its cache is updated. The calendar that has just been merged has the last
number. -/
def closeRefresh (w : World) (cache : Nat) (r : Except MergeFailure Merged) : World :=
  w.updateCache cache fun c => c.closed w.merges r

/-- A refresh pauses: it waits for a feed, or it ends. After a refresh in the background its result
is kept; after one of a ticker the next one is waited for, or begun at once if it is due and `again`
allows it. -/
def pauseRefresh (again : Owner → World → World) (owner : Owner) (cache : Nat) (output : Output) :
    Pause × World → World
  | (.waits due c outcome, w) => w.wait due (.resume owner cache c outcome)
  | (.ended r, w) =>
    let w := w.closeRefresh cache r
    match owner with
    | .background slot => { w with results := w.results.set slot (some (r.map fun _ => ())) }
    | .ticker slot due interval =>
      if due ≤ w.now then again (.ticker slot (nextDue due w.now interval) interval) w
      else w.wait due (.refresh (.ticker slot (due + interval) interval) cache output)

/-- Begins a refresh and runs it until it waits. -/
def runRefresh (again : Owner → World → World) (owner : Owner) (cache : Nat) (output : Output)
    (w : World) : World :=
  pauseRefresh again owner cache output
    ((w.updateCache cache Cache.opened).beginCycle .refresh output)

/-- Begins a refresh that is already late, after which the next one cannot be due. -/
def runLate (cache : Nat) (output : Output) (owner : Owner) (w : World) : World :=
  runRefresh (fun owner w =>
    match owner with
    | .ticker _ due _ => w.wait due (.refresh owner cache output)
    | .background _ => w) owner cache output w

/-- Runs a task until it waits. -/
def runTask (w : World) : Task → World
  | .deliver place .recording text => { w with delivered := ⟨place, text⟩ :: w.delivered }
  | .deliver _ .broken _ => { w with journal := Notify.failureReport "broken" :: w.journal }
  | .refresh owner cache output => runRefresh (runLate cache output) owner cache output w
  | .resume owner cache cycle outcome =>
    pauseRefresh (runLate cache cycle.output) owner cache cycle.output
      (w.resumeCycle cycle outcome)
  | .ticker slot cache output =>
    match firstDue? w.now output.refreshSeconds with
    | none => { w with ended := w.ended.set slot true }
    | some due =>
      w.wait due (.refresh
        (.ticker slot (due + output.refreshSeconds) output.refreshSeconds) cache output)

/-- Runs the tasks that are ready now, and leaves those that become ready meanwhile. -/
def runRound (w : World) : World := w.ready.foldl runTask { w with ready := [] }

/-- Runs tasks until none is ready. The first round leaves nothing but deliveries, which make no
task ready. -/
def settle (w : World) : World := w.runRound.runRound

/-- The next time at which a task is due. -/
def nextTime? (w : World) : Option Nat := (w.timers.map Timer.due).min?

/-- Moves time on; the tasks that are due become ready. -/
def moveTo (w : World) (time : Nat) : World :=
  { w with
    now := time
    ready := w.ready ++ (w.timers.filter (·.due ≤ time)).map Timer.task
    timers := w.timers.filter fun t => !(t.due ≤ time) }

/-- The main flow waits until a time. The fuel bounds the number of moments on the way. -/
def waitUntil : Nat → Nat → World → World
  | 0, time, w => w.settle.moveTo time
  | fuel + 1, time, w =>
    let w := w.settle
    match w.nextTime? with
    | some t => if t < time then waitUntil fuel time (w.moveTo t) else w.moveTo time
    | none => w.moveTo time

/-- The main flow waits for some seconds. -/
def sleep (w : World) (seconds : Nat) : World :=
  if seconds = 0 then w else waitUntil seconds (w.now + seconds) w

/-- The main flow runs a cycle to its end. The fuel bounds the number of feeds. -/
def finishCycle : Nat → Pause × World → Except MergeFailure Merged × World
  | _, (.ended r, w) => (r, w)
  | 0, (.waits _ c _, w) => (.error ⟨c.current.name, .transport⟩, w)
  | fuel + 1, (.waits due c outcome, w) =>
    finishCycle fuel ((w.sleep (due - w.now)).resumeCycle c outcome)

/-- The main flow begins a cycle and runs it to its end. -/
def runCycle (w : World) (purpose : Purpose) (o : Output) : Except MergeFailure Merged × World :=
  finishCycle (o.feeds.length + 1) (w.beginCycle purpose o)

/-- The seconds that it takes to fetch some feeds one after the other. -/
def fetchTime (w : World) (feeds : List Feed) : Nat :=
  feeds.foldl (fun n f => n + (w.planOf f.url).delay) 0

/-- The seconds that the waiting refreshes may still take. -/
def horizon (w : World) : Nat :=
  w.timers.foldl (fun n t =>
    match t.task with
    | .resume _ _ c _ => n + (t.due - w.now) + w.fetchTime c.rest + 1
    | _ => n) 0

/-- The main flow waits for a refresh in the background. The fuel bounds the number of moments on
the way. -/
def joinSlot (slot : Nat) : Nat → World → World
  | 0, w => w
  | fuel + 1, w =>
    match w.results[slot]? with
    | some none =>
      let w := w.settle
      match w.results[slot]? with
      | some none =>
        match w.nextTime? with
        | some t => joinSlot slot fuel (w.moveTo t)
        | none => w
      | _ => w
    | _ => w

end World

end Almanac.Service
