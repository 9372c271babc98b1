import Almanac.Service.Session
import Almanac.Proofs.Service.MergeRun

/-!
# Traffic

Outputs are started and refreshed, calendars are read and requests answered, in
whatever order. A merge under way is a flight: it waits for one feed, and it goes on
when that feed arrives, which may be before or after anything else that happens. A
traffic is a session with its flights and the log of what has happened.

A flight takes the steps that a task or the main flow of the service takes,
`begin`, `Cycle.resume` and `Cache.closed` among them. The clock plays no part: every
order of arrivals is a run here, that of the service by its clock among them.
-/

namespace Almanac.Service

open Config (Output)
open Http (Request Response)
open Merge (Merged MergeFailure Outcome)

/-- A merge that waits for a feed, for the start of an output or for the refresh of a station. -/
structure Flight where
  /-- The station that is refreshed; a start has none yet. -/
  station : Option Nat
  cycle : Cycle

/-- What happens in a traffic. Flights and stations are numbered in the order of their beginning. -/
inductive Happening where
  /-- A flight has begun. -/
  | launched (flight : Nat) (station : Option Nat) (o : Output)
  /-- The fetch that a flight waits for has ended. -/
  | fetched (flight : Nat) (outcome : Outcome)
  /-- An output has been started and has a station from now on. -/
  | started (flight station : Nat) (o : Output) (e : Edition)
  /-- An output could not be started. -/
  | failed (flight : Nat) (o : Output) (failure : MergeFailure)
  /-- A refresh has ended. -/
  | refreshed (flight station : Nat) (r : Except MergeFailure Edition)
  /-- The calendar of a station has been read. -/
  | served (station : Nat) (e : Edition)
  | answered (r : Request) (a : Response)

/-- A session, the flights by number, those that have ended left out, and the log, the earliest
happening first. -/
structure Traffic where
  session : Session
  flights : List (Option Flight)
  log : List Happening

/-- What may happen next. -/
inductive Move where
  | start (o : Output)
  | refresh (station : Nat)
  | arrive (flight : Nat) (outcome : Outcome)
  | serve (station : Nat)
  | get (r : Request)

namespace Session

/-- A refresh of a station has begun. -/
def openRefresh (s : Session) (station : Nat) : Session :=
  match s.cacheOf? station with
  | some c => { s with world := s.world.updateCache c Cache.opened }
  | none => s

/-- A refresh of a station has ended. -/
def closeRefresh (s : Session) (station : Nat) (r : Except MergeFailure Merged) : Session :=
  match s.cacheOf? station with
  | some c => { s with world := s.world.closeRefresh c r }
  | none => s

/-- An output has got its first calendar: it has a station with a cache of its own, and is
served. -/
def openStation (s : Session) (o : Output) (m : Merged) : Session :=
  { s with
    world := { s.world with caches := s.world.caches ++ [.ofEdition ⟨s.world.merges, m⟩] }
    stations := s.stations ++ [⟨o, some s.world.caches.length, none, none⟩]
    served := s.served ++ [⟨o.key, s.world.caches.length⟩] }

/-- The calendar that a station serves. -/
def edition? (s : Session) (station : Nat) : Option Edition := (s.cache? station).map Cache.current

end Session

namespace Traffic

/-- Nothing has been started. -/
def quiet (tools : Nat → Tools) (sinks : List Sink) (hasMetrics : Bool) : Traffic :=
  ⟨{ Session.ofOutputs [] (.quiet tools ∅ sinks) with hasMetrics := hasMetrics }, [], []⟩

/-- Something happens. -/
def note (t : Traffic) (h : Happening) : Traffic := { t with log := t.log ++ [h] }

/-- A flight has ended. The calendar that has just been merged has the last number. -/
def conclude (t : Traffic) (flight : Nat) (station : Option Nat) (o : Output) :
    Except MergeFailure Merged → Traffic
  | .ok m =>
    let e : Edition := ⟨t.session.world.merges, m⟩
    match station with
    | none => { t with session := t.session.openStation o m }.note
        (.started flight t.session.stations.length o e)
    | some i => { t with session := t.session.closeRefresh i (.ok m) }.note
        (.refreshed flight i (.ok e))
  | .error failure =>
    match station with
    | none => t.note (.failed flight o failure)
    | some i => { t with session := t.session.closeRefresh i (.error failure) }.note
        (.refreshed flight i (.error failure))

/-- A flight that nobody waits for takes a step, after which it waits or has ended. -/
def advance (t : Traffic) (flight : Nat) (station : Option Nat) (o : Output)
    (step : Progress × List Effect) : Traffic :=
  let next := t.session.world.settleStep step
  let t := { t with session := { t.session with world := next.2 } }
  match next.1 with
  | .waiting c => { t with flights := t.flights.set flight (some ⟨station, c⟩) }
  | .finished r => t.conclude flight station o r

/-- A flight begins. -/
def launch (t : Traffic) (station : Option Nat) (purpose : Purpose) (o : Output) : Traffic :=
  let flight := t.flights.length
  ({ t with flights := t.flights ++ [none] }.note (.launched flight station o)).advance flight
    station o (begin t.session.world.nextTools purpose o)

/-- The traffic after a move. A move on what is not there changes nothing. -/
def move (t : Traffic) : Move → Traffic
  | .start o => t.launch none .bootstrap o
  | .refresh i =>
    match t.session.output? i with
    | some o => { t with session := t.session.openRefresh i }.launch (some i) .refresh o
    | none => t
  | .arrive k outcome =>
    match t.flights[k]? with
    | some (some f) =>
      ({ t with flights := t.flights.set k none }.note (.fetched k outcome)).advance k f.station
        f.cycle.output (f.cycle.resume t.session.world.nextTools outcome)
    | _ => t
  | .serve i =>
    match t.session.edition? i with
    | some e => t.note (.served i e)
    | none => t
  | .get r =>
    let answer := t.session.request r
    { t with session := answer.2 }.note (.answered r answer.1)

/-- The traffic after moves in order. -/
def play (t : Traffic) (moves : List Move) : Traffic := moves.foldl move t

end Traffic

/-! ## Reading the log -/

namespace Happening

/-- The calendar that is put into the cache of a station. -/
def put? (station : Nat) : Happening → Option Edition
  | .started _ i _ e => if i = station then some e else none
  | .refreshed _ i (.ok e) => if i = station then some e else none
  | _ => none

/-- The outcome that a flight has been given. -/
def arrival? (flight : Nat) : Happening → Option Outcome
  | .fetched k outcome => if k = flight then some outcome else none
  | _ => none

/-- The output of a station that is started. -/
def output? (station : Nat) : Happening → Option Output
  | .started _ i o _ => if i = station then some o else none
  | _ => none

end Happening

/-- The calendar that was last put into the cache of a station. -/
def lastPut? (station : Nat) (log : List Happening) : Option Edition :=
  (log.filterMap (Happening.put? station)).getLast?

/-- What the fetches of a flight have returned, in order. -/
def arrivals (flight : Nat) (log : List Happening) : List Outcome :=
  log.filterMap (Happening.arrival? flight)

/-- The output of a station. -/
def outputOf? (station : Nat) (log : List Happening) : Option Output :=
  log.findSome? (Happening.output? station)

end Almanac.Service
