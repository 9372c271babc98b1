import Almanac.Service.Clock

/-!
# Starting outputs

An output starts with a first calendar; without one there is nothing to serve.
A service starts its outputs one after the other, each with a ticker of its own,
and stops at the first that cannot start. The tickers of those before it go on.
-/

namespace Almanac.Service

open Config (Output)
open Merge (MergeFailure)

/-- The output that could not be started, and why. -/
structure StartError where
  output : String
  cause : MergeFailure
deriving DecidableEq

/-- The wording of a failed start. -/
def StartError.message (e : StartError) : String :=
  "bootstrap of `" ++ e.output ++ "` failed: " ++ e.cause.message

/-- An output that is served: its name in paths, and the number of its cache. -/
structure Served where
  endpoint : String
  cache : Nat
deriving DecidableEq

/-- The report of an output that is served from now on. -/
def servingReport (o : Output) : Journal.Record :=
  ⟨.info, "cache", "serving calendar",
    [("output", o.name), ("route", o.servedPath), ("every_min", toString o.heartbeat.toNat)]⟩

namespace World

/-- Merges the first calendar of an output and opens a cache for it, whose number is returned. -/
def bootstrap (w : World) (o : Output) : Except StartError Nat × World :=
  match w.runCycle .bootstrap o with
  | (.error e, w) => (.error ⟨o.name, e⟩, w)
  | (.ok m, w) =>
    (.ok w.caches.length, { w with caches := w.caches ++ [.ofEdition ⟨w.merges, m⟩] })

/-- Makes a ticker for a cache, whose number is returned. It starts when the main flow waits. -/
def addTicker (w : World) (cache : Nat) (o : Output) : Nat × World :=
  (w.ended.length,
    { w with
      ended := w.ended ++ [false]
      ready := w.ready ++ [.ticker w.ended.length cache o] })

/-- Starts one output of a service. -/
def startOne (w : World) (o : Output) : Except StartError Served × World :=
  match w.bootstrap o with
  | (.error e, w) => (.error e, w)
  | (.ok cache, w) =>
    (.ok ⟨o.key, cache⟩, ((w.apply (.report (servingReport o))).addTicker cache o).2)

/-- Starts outputs in order up to the first that cannot start. -/
def startOutputs : List Output → World → Except StartError (List Served) × World
  | [], w => (.ok [], w)
  | o :: os, w =>
    match w.startOne o with
    | (.error e, w) => (.error e, w)
    | (.ok s, w) =>
      let (r, w) := startOutputs os w
      (r.map (s :: ·), w)

end World

end Almanac.Service
