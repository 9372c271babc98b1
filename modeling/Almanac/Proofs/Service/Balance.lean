import Mathlib.Algebra.GroupWithZero.Nat
import Almanac.Proofs.Service.Lifetimes
import Almanac.Proofs.Service.Running

/-!
# Metrics in balance

The metrics of merges are written at the beginning of a merge, at its end, and when a start
or a refresh closes. What a step adds to them is told by the happenings that it leaves in
the log, so the metrics can be reckoned from the log: after every move they balance, with
the merges that are still under way.
-/

namespace Almanac.Service

open Config (Output)
open Merge (Loaded Merged MergeFailure Outcome)

/-! ## Readings -/

/-- What the metric of a name shows; nothing was ever added to one that is not there. -/
def Metrics.reading (m : Metrics) (name : String) : Nat := (m.get? name).getD 0

/-- What an effect adds to the metric of a name. -/
def Effect.adds (name : String) : Effect → Nat
  | .count other n => if other = name then n else 0
  | .measure other => if other = name then 1 else 0
  | .report _ | .notify _ => 0

/-- What effects add to the metric of a name. -/
def added (name : String) (effects : List Effect) : Nat := (effects.map (Effect.adds name)).sum

@[simp] theorem added_nil (name : String) : added name [] = 0 := rfl

@[simp] theorem added_cons (name : String) (effect : Effect) (effects : List Effect) :
    added name (effect :: effects) = effect.adds name + added name effects :=
  List.sum_cons

@[simp] theorem added_append (name : String) (first second : List Effect) :
    added name (first ++ second) = added name first + added name second := by
  simp [added]

theorem reading_toMetrics (m : Metrics) (effect : Effect) (name : String) :
    Metrics.reading (effect.toMetrics m) name = m.reading name + effect.adds name := by
  cases effect with
  | report | notify => rfl
  | count other n | measure other =>
      simp only [Metrics.reading, Effect.toMetrics, addMetric, Dictionary.get?_set, Effect.adds]
      split
      next heq =>
        subst heq
        rfl
      next => rfl

theorem reading_foldl (m : Metrics) (effects : List Effect) (name : String) :
    Metrics.reading (effects.foldl Effect.toMetrics m) name =
      m.reading name + added name effects := by
  induction effects generalizing m with
  | nil => rfl
  | cons effect effects ih =>
      rw [List.foldl_cons, ih, reading_toMetrics, added_cons, Nat.add_assoc]

/-! ## Entries -/

/-- What the end of a merge adds to the metrics. -/
def endEntries : Purpose → Except MergeFailure Merged → List Effect
  | purpose, .ok m =>
    [.count "feed_events_kept_total" m.eventCount, .measure "merge_duration_ms"] ++
      match purpose with
      | .merge => []
      | .bootstrap => [.measure "cache_last_refresh_ts"]
      | .refresh => [.measure "cache_refresh_ms", .measure "cache_last_refresh_ts"]
  | purpose, .error _ =>
    .count "merge_failures_total" 1 ::
      match purpose with
      | .merge | .bootstrap => []
      | .refresh => [.count "cache_refresh_failures_total" 1]

/-- What a step adds to the metrics after which a merge stands here. -/
def Progress.entries (purpose : Purpose) : Progress → List Effect
  | .waiting _ => []
  | .finished r => endEntries purpose r

namespace Happening

/-- What a happening tells of the metrics of merges. -/
def entries : Happening → List Effect
  | .launched .. => [.count "merge_runs_total" 1]
  | .started _ _ _ e => endEntries .bootstrap (.ok e.merged)
  | .failed _ _ failure => endEntries .bootstrap (.error failure)
  | .refreshed _ _ r => endEntries .refresh (r.map Edition.merged)
  | _ => []

/-- A refresh has ended. -/
def endsRefresh : Happening → Bool
  | .refreshed .. => true
  | _ => false

/-- A start has failed. -/
def failsStart : Happening → Bool
  | .failed .. => true
  | _ => false

/-- A merge has ended. -/
def endsMerge : Happening → Bool
  | .started .. | .failed .. | .refreshed .. => true
  | _ => false

end Happening

/-! ## What a step adds -/

theorem added_reports (name : String) (records : List Journal.Record) :
    added name (records.map .report) = 0 := by
  induction records with
  | nil => rfl
  | cons record records ih => exact (Nat.zero_add _).trans ih

theorem added_filterEffects (name : String) (o : Output) (l : Loaded) :
    added name (filterEffects o l) =
      (Effect.count "feed_events_kept_total" l.kept.length).adds name := by
  simp [filterEffects, added_reports, Effect.adds]

/-- The events of all feeds are counted one feed after the other. -/
theorem added_flatMap_filterEffects (name : String) (o : Output) (loaded : List Loaded) :
    added name (loaded.flatMap (filterEffects o)) =
      (Effect.count "feed_events_kept_total" (loaded.flatMap Loaded.kept).length).adds name := by
  induction loaded with
  | nil => simp [Effect.adds]
  | cons l loaded ih =>
      rw [List.flatMap_cons, added_append, ih, added_filterEffects, List.flatMap_cons,
        List.length_append]
      simp only [Effect.adds]
      split <;> rfl

theorem added_proceed (name : String) (tools : Tools) (purpose : Purpose) (o : Output)
    (loaded : List Loaded) (feeds : List Config.Feed) :
    let step := proceed tools purpose o loaded feeds
    added name step.2 = added name (step.1.entries purpose) := by
  cases feeds with
  | cons feed feeds => rfl
  | nil =>
      simp only [proceed, successEffects, Progress.entries, endEntries, added_append,
        added_flatMap_filterEffects, Merge.assemble, added_cons, added_nil]
      cases purpose <;> simp [closingEffects, message, Effect.adds, Nat.add_assoc]

/-- A merge is counted when it begins. -/
theorem added_begin (name : String) (tools : Tools) (purpose : Purpose) (o : Output) :
    let step := begin tools purpose o
    added name step.2 =
      (Effect.count "merge_runs_total" 1).adds name + added name (step.1.entries purpose) := by
  have hopening : added name (openingEffects o purpose) = 0 := by cases purpose <;> rfl
  simp only [begin, added_append, added_cons, hopening, added_proceed, Nat.zero_add]

theorem added_resume (name : String) (c : Cycle) (tools : Tools) (outcome : Outcome) :
    let step := c.resume tools outcome
    added name step.2 = added name (step.1.entries c.purpose) := by
  cases outcome with
  | ok events => exact (Nat.zero_add _).trans (added_proceed name tools c.purpose c.output _ c.rest)
  | error e =>
      cases hpurpose : c.purpose <;>
        simp [Cycle.resume, failureEffects, closingEffects, message, Progress.entries, endEntries,
          hpurpose, Effect.adds]

/-! ## Balance -/

namespace Traffic

/-- The metrics of merges are those that the log tells of, and every merge that has begun has ended
or is under way. -/
structure Balanced (t : Traffic) : Prop where
  reading_eq : ∀ name, name ≠ "calendar_requests_total" →
    t.session.world.metrics.reading name = added name (t.log.flatMap Happening.entries)
  launches_eq : (launches t.log).length = t.log.countP Happening.endsMerge + t.live.length

namespace Balanced

variable {t : Traffic}

theorem quiet (tools : Nat → Tools) (sinks : List Sink) (hasMetrics : Bool) :
    (Traffic.quiet tools sinks hasMetrics).Balanced :=
  ⟨fun _ _ => rfl, rfl⟩

/-- Something happens that is no part of a merge. -/
theorem note (ht : t.Balanced) (h : Happening) (hentries : h.entries = [])
    (hlaunch : h.launch? = none) (hends : h.endsMerge = false) : (t.note h).Balanced where
  reading_eq name hname := by
    simpa [Traffic.note, hentries] using ht.reading_eq name hname
  launches_eq := by
    simpa [Traffic.note, hlaunch, hends, live] using ht.launches_eq

theorem world_closeRefresh (s : Session) (i : Nat) (r : Except MergeFailure Merged) :
    (s.closeRefresh i r).world.metrics = s.world.metrics := by
  simp only [Session.closeRefresh]
  split <;> rfl

/-- A merge ends. Its entries are in the metrics already. -/
theorem conclude {k : Nat} {station : Option Nat} {o : Output} {r : Except MergeFailure Merged}
    (hreading : ∀ name, name ≠ "calendar_requests_total" →
      t.session.world.metrics.reading name = added name (t.log.flatMap Happening.entries) +
        added name (endEntries (Flight.purposeFor station) r))
    (hlaunches : (launches t.log).length =
      t.log.countP Happening.endsMerge + t.live.length + 1) :
    (t.conclude k station o r).Balanced := by
  -- Which happening it is does not matter, but that it ends a merge and has its entries.
  have hended : ∀ (s : Session) (h : Happening), s.world.metrics = t.session.world.metrics →
      h.entries = endEntries (Flight.purposeFor station) r → h.launch? = none →
      h.endsMerge = true → (Traffic.note { t with session := s } h).Balanced := by
    intro s h hmetrics hentries hlaunch hends
    constructor
    · intro name hname
      simp [Traffic.note, hmetrics, hreading name hname, hentries]
    · simp only [Traffic.note, launches_append, hlaunch, Option.toList_none, List.append_nil,
        List.countP_append, List.countP_singleton, hends, if_true, live] at hlaunches ⊢
      omega
  cases station with
  | none =>
      cases r with
      | ok m => exact hended _ _ rfl rfl rfl rfl
      | error failure => exact hended t.session _ rfl rfl rfl rfl
  | some i =>
      cases r with
      | ok m => exact hended _ _ (world_closeRefresh _ i _) rfl rfl rfl
      | error failure => exact hended _ _ (world_closeRefresh _ i _) rfl rfl rfl

/-- A merge that nobody waits for takes a step, of which the log does not tell yet. -/
theorem advance {k : Nat} {station : Option Nat} {o : Output} {step : Progress × List Effect}
    (hk : t.flights[k]? = some none)
    (hreading : ∀ name, name ≠ "calendar_requests_total" →
      t.session.world.metrics.reading name + added name step.2 =
        added name (t.log.flatMap Happening.entries) +
          added name (step.1.entries (Flight.purposeFor station)))
    (hlaunches : (launches t.log).length =
      t.log.countP Happening.endsMerge + t.live.length + 1) :
    (t.advance k station o step).Balanced := by
  have hsettled : ∀ name, name ≠ "calendar_requests_total" →
      (t.session.world.settleStep step).2.metrics.reading name =
        added name (t.log.flatMap Happening.entries) +
          added name (step.1.entries (Flight.purposeFor station)) := by
    intro name hname
    rw [World.settleStep_metrics, reading_foldl]
    exact hreading name hname
  obtain ⟨p, effects⟩ := step
  cases p with
  | finished r => exact conclude hsettled hlaunches
  | waiting c =>
      refine ⟨hsettled, hlaunches.trans ?_⟩
      have hlive := (live_setSome ⟨station, c⟩ hk).length_eq
      rw [List.length_cons] at hlive
      exact congrArg (t.log.countP Happening.endsMerge + ·) hlive.symm

theorem launch (ht : t.Balanced) (station : Option Nat) (o : Output) :
    (t.launch station (Flight.purposeFor station) o).Balanced := by
  apply advance
  · simp [Traffic.note]
  · intro name hname
    rw [added_begin]
    simp [Traffic.note, Happening.entries, ht.reading_eq name hname, Nat.add_assoc]
  · have hlive := ht.launches_eq
    simp only [Traffic.note, live, launches_append, Happening.launch?, Option.toList_some,
      List.length_append, List.length_singleton, List.countP_append, List.countP_singleton,
      Happening.endsMerge, Bool.false_eq_true, if_false, List.filterMap_append] at hlive ⊢
    simpa using hlive

theorem arrive (ht : t.Balanced) {tools : Nat → Tools} {hasMetrics : Bool}
    (hsound : t.Sound tools hasMetrics) (k : Nat) (outcome : Outcome) :
    (t.move (.arrive k outcome)).Balanced := by
  simp only [Traffic.move]
  split
  next f hf =>
    have hlt : k < t.flights.length := (List.getElem?_eq_some_iff.mp hf).1
    apply advance
    · simp [Traffic.note, hlt]
    · intro name hname
      rw [added_resume, (hsound.underWay k f hf).purpose_eq]
      simp [Traffic.note, Happening.entries, ht.reading_eq name hname]
    · have hlive := (live_setNone hf).length_eq
      rw [List.length_cons] at hlive
      have hlaunches := ht.launches_eq
      rw [hlive] at hlaunches
      simpa [Traffic.note, Happening.launch?, Happening.endsMerge, live, Nat.add_assoc]
        using hlaunches
  next => exact ht

/-- A request changes no metric but its own. -/
theorem get (ht : t.Balanced) (r : Http.Request) : (t.move (.get r)).Balanced := by
  have hrequests : ∀ name, name ≠ "calendar_requests_total" →
      (t.session.request r).2.world.metrics.reading name =
        t.session.world.metrics.reading name := by
    intro name hname
    simp only [Session.request, (World.sameWork_applyAll _ _).metrics_eq, reading_foldl,
      Session.requestEffects]
    split
    next => rfl
    next => simp [Effect.adds, hname.symm]
  have hanswered : ({ t with session := (t.session.request r).2 } : Traffic).Balanced :=
    ⟨fun name hname => (hrequests name hname).trans (ht.reading_eq name hname), ht.launches_eq⟩
  exact hanswered.note _ rfl rfl rfl

theorem move (ht : t.Balanced) {tools : Nat → Tools} {hasMetrics : Bool}
    (hsound : t.Sound tools hasMetrics) (m : Move) : (t.move m).Balanced := by
  cases m with
  | start o => exact ht.launch none o
  | refresh i =>
      simp only [Traffic.move]
      split
      next o _ =>
        refine launch (t := { t with session := t.session.openRefresh i }) ?_ (some i) o
        refine ⟨fun name hname => ?_, ht.launches_eq⟩
        rw [← ht.reading_eq name hname]
        simp only [Session.openRefresh]
        split <;> rfl
      next => exact ht
  | arrive k outcome => exact ht.arrive hsound k outcome
  | serve i =>
      simp only [Traffic.move]
      split
      next => exact ht.note _ rfl rfl rfl
      next => exact ht
  | get r => exact ht.get r

theorem play (ht : t.Balanced) {tools : Nat → Tools} {hasMetrics : Bool}
    (hsound : t.Sound tools hasMetrics) (moves : List Move) : (t.play moves).Balanced := by
  induction moves generalizing t with
  | nil => exact ht
  | cons m moves ih => exact ih (ht.move hsound m) (hsound.move m)

end Balanced

end Traffic

/-! ## The reckoning -/

/-- A happening enters a merge once when it begins and once when it ends, and what its calendar has
only if there is one. -/
theorem added_entries_happening (h : Happening) :
    let total := fun name => added name h.entries
    total "merge_runs_total" = h.launch?.toList.length ∧
      total "merge_failures_total" + total "merge_duration_ms" =
        [h].countP Happening.endsMerge ∧
      total "feed_events_kept_total" =
        (h.edition?.toList.map fun e => e.merged.eventCount).sum ∧
      total "cache_refresh_ms" + total "cache_refresh_failures_total" =
        [h].countP Happening.endsRefresh ∧
      total "cache_last_refresh_ts" = h.edition?.toList.length ∧
      total "merge_failures_total" =
        total "cache_refresh_failures_total" + [h].countP Happening.failsStart := by
  cases h with
  | refreshed k i r =>
      cases r <;> simp [Happening.entries, endEntries, Effect.adds, Happening.launch?, Except.map,
        Happening.edition?, Happening.endsMerge, Happening.endsRefresh, Happening.failsStart]
  | _ =>
      simp [Happening.entries, endEntries, Effect.adds, Happening.launch?, Happening.edition?,
        Happening.endsMerge, Happening.endsRefresh, Happening.failsStart]

theorem added_entries_log (log : List Happening) :
    let total := fun name => added name (log.flatMap Happening.entries)
    total "merge_runs_total" = (launches log).length ∧
      total "merge_failures_total" + total "merge_duration_ms" =
        log.countP Happening.endsMerge ∧
      total "feed_events_kept_total" =
        ((editions log).map fun e => e.merged.eventCount).sum ∧
      total "cache_refresh_ms" + total "cache_refresh_failures_total" =
        log.countP Happening.endsRefresh ∧
      total "cache_last_refresh_ts" = (editions log).length ∧
      total "merge_failures_total" =
        total "cache_refresh_failures_total" + log.countP Happening.failsStart := by
  intro total
  simp only [total]
  induction log using List.reverseRecOn with
  | nil => exact ⟨rfl, rfl, rfl, rfl, rfl, rfl⟩
  | append_singleton log h ih =>
      have hlast := added_entries_happening h
      simp only [List.flatMap_append, List.flatMap_singleton, added_append, List.countP_append,
        launches_append, editions_append, List.length_append, List.map_append,
        List.sum_append] at hlast ⊢
      omega

/-- The merges that were begun have failed, have written their duration or are under way. -/
theorem Traffic.Balanced.runs_eq {t : Traffic} (ht : t.Balanced) :
    let reading := t.session.world.metrics.reading
    reading "merge_runs_total" =
      reading "merge_failures_total" + reading "merge_duration_ms" + t.live.length := by
  have hruns := (added_entries_log t.log).1
  have hends := (added_entries_log t.log).2.1
  simp only [← ht.reading_eq _ (show "merge_runs_total" ≠ "calendar_requests_total" by decide),
    ← ht.reading_eq _ (show "merge_failures_total" ≠ "calendar_requests_total" by decide),
    ← ht.reading_eq _ (show "merge_duration_ms" ≠ "calendar_requests_total" by decide)]
    at hruns hends
  intro reading
  simp only [reading]
  rw [hruns, hends, ht.launches_eq]

/-- In whatever order outputs are started and refreshed and their feeds arrive, the metrics of
merges balance after every move. The merges that were begun are those that failed, those of which a
duration was written, and those that are still under way. The events that were kept are those of
the calendars that came of successful merges, so a merge that fails adds none. Each refresh that has
ended wrote its duration or counted as a failure. The time of the last refresh was written once for
each successful merge. A merge that failed was a refresh that failed or a start that failed. -/
theorem metrics_of_merges_balance (tools : Nat → Tools) (sinks : List Sink) (hasMetrics : Bool)
    (moves : List Move) :
    let t := (Traffic.quiet tools sinks hasMetrics).play moves
    let reading := t.session.world.metrics.reading
    reading "merge_runs_total" =
        reading "merge_failures_total" + reading "merge_duration_ms" + t.live.length ∧
      reading "feed_events_kept_total" =
        ((editions t.log).map fun e => e.merged.eventCount).sum ∧
      reading "cache_refresh_ms" + reading "cache_refresh_failures_total" =
        t.log.countP Happening.endsRefresh ∧
      reading "cache_last_refresh_ts" = (editions t.log).length ∧
      reading "merge_failures_total" =
        reading "cache_refresh_failures_total" + t.log.countP Happening.failsStart := by
  intro t reading
  have ht : t.Balanced := (Traffic.Balanced.quiet tools sinks hasMetrics).play
    (Traffic.Sound.quiet tools sinks hasMetrics) moves
  obtain ⟨-, -, hkept, hrefreshes, htimes, hfailures⟩ := added_entries_log t.log
  have hreading := ht.reading_eq
  refine ⟨ht.runs_eq, ?_, ?_, ?_, ?_⟩
  · exact (hreading "feed_events_kept_total" (by decide)).trans hkept
  · simp only [reading, hreading "cache_refresh_ms" (by decide),
      hreading "cache_refresh_failures_total" (by decide)]
    exact hrefreshes
  · exact (hreading "cache_last_refresh_ts" (by decide)).trans htimes
  · simp only [reading, hreading "merge_failures_total" (by decide),
      hreading "cache_refresh_failures_total" (by decide)]
    exact hfailures

/-- In the service by the clock the merges that were begun balance with those that ended and those
that tasks go on with. -/
theorem running_merges_balance (tools : Nat → Tools) (plans : Dictionary Plan) (sinks : List Sink)
    (outputs : List Output) (hasMetrics : Bool) {served : List Served} {s : Session}
    (hstarted : (Session.ofOutputs outputs (.quiet tools plans sinks)).startOutputs hasMetrics =
      (.ok served, s)) (commands : List Command) :
    let w := (s.performAll commands).world
    w.metrics.reading "merge_runs_total" = w.metrics.reading "merge_failures_total" +
      w.metrics.reading "merge_duration_ms" + w.flights.length := by
  intro w
  obtain ⟨moves, hmirrored⟩ :=
    (Session.mirroredBy_of_startOutputs tools plans sinks outputs hasMetrics hstarted).andThen
      fun _ hs => hs.performAll commands
  have ht : ((Traffic.quiet tools sinks hasMetrics).play moves).Balanced :=
    (Traffic.Balanced.quiet tools sinks hasMetrics).play (.quiet tools sinks hasMetrics) moves
  have hruns := ht.runs_eq
  have hlive := hmirrored.mirrors.live_perm.length_eq
  rw [hmirrored.mirrors.metrics_eq, hlive] at hruns
  exact hruns

end Almanac.Service
