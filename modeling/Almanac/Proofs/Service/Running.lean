import Almanac.Proofs.Service.Clockwork

/-!
# The running service

The main flow starts the outputs and carries out commands, while tickers and refreshes in
the background go on beside it. Whatever it is asked, a traffic mirrors it, so that what
holds of every order of arrivals holds of the service by the clock: its answers are made
from whole merges.
-/

namespace Almanac.Service

open Calendar (Component)
open Config (Output)
open Http (Request)
open Merge (Loaded Merged MergeFailure)

namespace Traffic

/-! ## Merges of the main flow -/

section MainFlow

variable {t : Traffic} {held : List Flight} {served : List Served} {w : World}
  {station : Option Nat} {o : Output}

/-- A merge that waits after a step has fewer feeds before it. -/
theorem length_rest_lt (w : World) (step : Progress × List Effect) {due : Nat} {c : Cycle}
    {outcome : Merge.Outcome}
    (hwaits : (World.driveAll (w.settleStep step).2 step.1).1 = .waits due c outcome) :
    c.rest.length < World.feedsLeft step.1 := by
  have hpauses := w.pausesFrom_driveAll step
  rw [hwaits] at hpauses
  exact hpauses.2.1

/-- The main flow runs a merge to its end; all else goes on while it sleeps. -/
theorem canReach_finishCycle (fuel : Nat) (paused : World.Pause × World)
    (ht : t.MirrorsPause held served station o paused)
    (hfuel : ∀ due c outcome, paused.1 = .waits due c outcome → c.rest.length < fuel) :
    t.CanReach fun u => u.MirrorsEnd held served station o (World.finishCycle fuel paused).2
      (World.finishCycle fuel paused).1 := by
  induction fuel generalizing t paused with
  | zero =>
      obtain ⟨pause, w⟩ := paused
      cases pause with
      | ended r => exact .now ht
      | waits due c outcome => exact absurd (hfuel due c outcome rfl) (Nat.not_lt_zero _)
  | succ fuel ih =>
      obtain ⟨pause, w⟩ := paused
      cases pause with
      | ended r => exact .now ht
      | waits due c outcome =>
          obtain ⟨rfl, hmirrors⟩ := ht
          -- Every pause but the last is followed by one with fewer feeds to come.
          have hrest := Nat.le_of_lt_succ (hfuel due c outcome rfl)
          refine (canReach_sleep (due - w.now) hmirrors).andThen fun _ hslept => ?_
          refine (canReach_resumeCycle hslept outcome).andThen fun _ hresumed => ?_
          refine ih _ hresumed fun due' c' outcome' hwaits => ?_
          have hlt := length_rest_lt _ _ hwaits
          exact Nat.lt_of_lt_of_le hlt (Nat.le_trans (World.feedsLeft_resume c _ _) hrest)

theorem length_rest_lt_begin (w : World) (purpose : Purpose) (o : Output) {due : Nat} {c : Cycle}
    {outcome : Merge.Outcome} (hwaits : (w.beginCycle purpose o).1 = .waits due c outcome) :
    c.rest.length < o.feeds.length + 1 := by
  have hlt := length_rest_lt w (begin w.nextTools purpose o) hwaits
  have hleft : World.feedsLeft (begin w.nextTools purpose o).1 ≤ o.feeds.length + 1 := by
    simp only [begin]
    cases o.feeds with
    | nil => exact Nat.zero_le _
    | cons first rest => exact Nat.le_succ _
  exact Nat.lt_of_lt_of_le hlt hleft

theorem canReach_runStart (ht : t.Mirrors held served w) (o : Output) :
    t.CanReach fun u => u.MirrorsEnd held served none o (w.runCycle .bootstrap o).2
      (w.runCycle .bootstrap o).1 :=
  (canReach_beginStart ht o).andThen fun _ hbegun =>
    canReach_finishCycle _ _ hbegun fun _ _ _ hwaits => length_rest_lt_begin w .bootstrap o hwaits

theorem canReach_runRefresh (ht : t.Mirrors held served w) {cache : Nat}
    (ho : outputOf? cache t.log = some o) :
    t.CanReach fun u => u.MirrorsEnd held served (some cache) o
      ((w.updateCache cache Cache.opened).runCycle .refresh o).2
      ((w.updateCache cache Cache.opened).runCycle .refresh o).1 :=
  (canReach_beginRefresh ht ho).andThen fun _ hbegun =>
    canReach_finishCycle _ _ hbegun fun _ _ _ hwaits => length_rest_lt_begin _ .refresh o hwaits

end MainFlow

/-! ## Starts -/

section Starts

variable {t : Traffic} {held : List Flight} {served : List Served} {w : World}

/-- An output that has been started is served, from the cache of its station. -/
def MirrorsStart (t : Traffic) (held : List Flight) (served : List Served) (o : Output) :
    Except StartError Served × World → Prop
  | (.ok sv, w) => outputOf? sv.cache t.log = some o ∧ t.Mirrors held (served ++ [sv]) w
  | (.error _, w) => t.Mirrors held served w

/-- Outputs that have been started are served in order. -/
def MirrorsStarts (t : Traffic) (held : List Flight) (served : List Served)
    (outputs : List Output) : Except StartError (List Served) × World → Prop
  | (.ok list, w) =>
    List.Forall₂ (fun sv o => outputOf? sv.cache t.log = some o) list outputs ∧
      t.Mirrors held (served ++ list) w
  | (.error _, w) => ∃ list, t.Mirrors held (served ++ list) w

/-- A task without a merge becomes ready. -/
theorem Mirrors.enqueue (ht : t.Mirrors held served w) (task : Task) (hflight : task.flight? = none)
    (htarget : ∀ i o, task.target? = some (i, o) → outputOf? i t.log = some o) :
    t.Mirrors held served { w with ready := w.ready ++ [task] } := by
  have hflights : ({ w with ready := w.ready ++ [task] } : World).flights = w.flights := by
    simp [World.flights, World.tasks, hflight]
  refine { ht with live_perm := hflights.symm ▸ ht.live_perm, output_eq := fun i o hmem => ?_ }
  obtain ⟨other, hother, hi⟩ := List.mem_filterMap.mp hmem
  rw [World.tasks, List.append_assoc, List.mem_append, List.singleton_append,
    List.mem_cons] at hother
  rcases hother with hready | rfl | htimers
  · exact ht.output_eq i o (List.mem_filterMap.mpr ⟨other, List.mem_append_left _ hready, hi⟩)
  · exact htarget i o hi
  · exact ht.output_eq i o (List.mem_filterMap.mpr ⟨other, List.mem_append_right _ htimers, hi⟩)

/-- A ticker is made for a cache of its output. -/
theorem Mirrors.addTicker (ht : t.Mirrors held served w) {cache : Nat} {o : Output}
    (ho : outputOf? cache t.log = some o) : t.Mirrors held served (w.addTicker cache o).2 := by
  have hqueued := ht.enqueue (.ticker w.ended.length cache o) rfl fun i o' hi => by
    obtain ⟨rfl, rfl⟩ := Prod.mk.inj (Option.some.inj hi)
    exact ho
  exact hqueued.of_sameWork ⟨rfl, rfl, rfl, rfl, rfl, rfl⟩

theorem canReach_startOne (ht : t.Mirrors held served w) (o : Output) :
    t.CanReach fun u => u.MirrorsStart held served o (w.startOne o) := by
  refine (canReach_runStart ht o).mono fun u hu => ?_
  unfold World.startOne World.bootstrap
  generalize w.runCycle .bootstrap o = ran at hu
  obtain ⟨r, w'⟩ := ran
  cases r with
  | error e => exact hu
  | ok m =>
      obtain ⟨ho, hopened⟩ := hu
      have hreported : u.Mirrors held (served ++ [⟨o.key, w'.caches.length⟩])
          (({ w' with caches := w'.caches ++ [.ofEdition ⟨w'.merges, m⟩] } : World).apply
            (.report (servingReport o))) :=
        hopened.of_sameWork ⟨rfl, rfl, rfl, rfl, rfl, rfl⟩
      exact ⟨ho, hreported.addTicker ho⟩

theorem canReach_startOutputs (outputs : List Output) (ht : t.Mirrors held served w) :
    t.CanReach fun u => u.MirrorsStarts held served outputs (World.startOutputs outputs w) := by
  induction outputs generalizing t served w with
  | nil => exact .now ⟨.nil, by simpa using ht⟩
  | cons o outputs ih =>
      refine (canReach_startOne ht o).andThen fun moves hstarted => ?_
      simp only [World.startOutputs]
      generalize w.startOne o = one at hstarted
      obtain ⟨r, w'⟩ := one
      cases r with
      | error e => exact .now ⟨[], (List.append_nil served).symm ▸ hstarted⟩
      | ok sv =>
          obtain ⟨ho, hserved⟩ := hstarted
          refine (ih hserved).andThen fun later hmore => .now ?_
          dsimp only
          generalize World.startOutputs outputs w' = rest at hmore ⊢
          obtain ⟨r, w''⟩ := rest
          cases r with
          | error e =>
              obtain ⟨list, hlist⟩ := hmore
              rw [List.append_assoc] at hlist
              exact ⟨sv :: list, hlist⟩
          | ok list =>
              obtain ⟨hcaches, hlist⟩ := hmore
              rw [List.append_assoc] at hlist
              exact ⟨.cons (outputOf?_play later ho) hcaches, hlist⟩

theorem canReach_joinOne (slot : Nat) (ht : t.Mirrors held served w) :
    t.CanReach fun u => u.Mirrors held served (Session.joinOne w slot) :=
  (canReach_settle ht).andThen fun _ hsettled => canReach_joinSlot slot _ hsettled

theorem canReach_join (slots : List Nat) (ht : t.Mirrors held served w) :
    t.CanReach fun u => u.Mirrors held served (slots.foldl Session.joinOne w) := by
  induction slots generalizing t w with
  | nil => exact .now ht
  | cons slot slots ih => exact (canReach_joinOne slot ht).andThen fun _ hjoined => ih hjoined

end Starts

end Traffic

/-! ## Commands -/

/-- What is asked of a service that has started its outputs. -/
inductive Command where
  | sleep (seconds : Nat)
  | get (r : Request)
  /-- Refreshes the output of a number and waits for the end. -/
  | refresh (i : Nat)
  | refreshInBackground (i : Nat)
  | join
  | emit (text : String)
  /-- Changes what fetching an address gives from now on. -/
  | setPlan (url : String) (plan : Plan)

namespace Session

/-- The cache from which the output of a number is served, and the output. -/
def servedOutput? (s : Session) (i : Nat) : Option (Nat × Output) :=
  s.served[i]?.bind fun sv => (s.output? i).map fun o => (sv.cache, o)

/-- The session after a command. A command on an output that is not served changes nothing. -/
def perform (s : Session) : Command → Session
  | .sleep seconds => s.sleep seconds
  | .get r => (s.request r).2
  | .refresh i =>
    match s.servedOutput? i with
    | some (cache, o) => (s.refresh cache o).2
    | none => s
  | .refreshInBackground i =>
    match s.servedOutput? i with
    | some (cache, o) => s.refreshInBackground cache o
    | none => s
  | .join => s.join.2
  | .emit text => s.emit text
  | .setPlan url plan => s.setPlan url plan

/-- The session after commands in order. -/
def performAll (s : Session) (commands : List Command) : Session := commands.foldl perform s

/-- The traffic mirrors the world of the session, and serves the same outputs from the same
caches. -/
structure MirroredBy (s : Session) (t : Traffic) : Prop where
  mirrors : t.Mirrors [] s.served s.world
  hasMetrics_eq : t.session.hasMetrics = s.hasMetrics
  outputs : List.Forall₂ (fun sv o => outputOf? sv.cache t.log = some o) s.served
    (s.stations.map Station.output)

namespace MirroredBy

variable {s : Session} {t : Traffic}

/-- The world goes on while the outputs and what is served stay. -/
theorem after (hs : s.MirroredBy t) {w : World}
    (hreach : t.CanReach fun u => u.Mirrors [] s.served w) {s' : Session} (hworld : s'.world = w)
    (hserved : s'.served = s.served) (hstations : s'.stations = s.stations)
    (hmetrics : s'.hasMetrics = s.hasMetrics) : t.CanReach s'.MirroredBy := by
  subst hworld
  obtain ⟨moves, hmirrors⟩ := hreach
  refine ⟨moves, hserved.symm ▸ hmirrors, ?_, ?_⟩
  · rw [(hs.mirrors.sound.play moves).reflects.hasMetrics_eq, hs.hasMetrics_eq, hmetrics]
  · rw [hserved, hstations]
    exact hs.outputs.imp fun _ _ ho => Traffic.outputOf?_play moves ho

theorem outputOf?_of_servedOutput (hs : s.MirroredBy t) {i cache : Nat} {o : Output}
    (ho : s.servedOutput? i = some (cache, o)) : outputOf? cache t.log = some o := by
  obtain ⟨sv, hsv, hpair⟩ := Option.bind_eq_some_iff.mp ho
  obtain ⟨o', ho', heq⟩ := Option.map_eq_some_iff.mp hpair
  obtain ⟨rfl, rfl⟩ := Prod.mk.inj heq
  obtain ⟨hi, rfl⟩ := List.getElem?_eq_some_iff.mp hsv
  rw [output?, ← List.getElem?_map] at ho'
  obtain ⟨hi', rfl⟩ := List.getElem?_eq_some_iff.mp ho'
  exact (List.forall₂_iff_get.mp hs.outputs).2 i hi hi'

theorem servedCalendars_eq (hs : s.MirroredBy t) :
    t.session.servedCalendars = s.servedCalendars := by
  rw [servedCalendars, servedCalendars, hs.mirrors.served_eq, hs.mirrors.caches_eq]

theorem request_eq (hs : s.MirroredBy t) (r : Request) :
    (t.session.request r).1 = (s.request r).1 := by
  simp only [request, hs.servedCalendars_eq, hs.hasMetrics_eq]

/-- A request is answered in both alike. -/
theorem get (hs : s.MirroredBy t) (r : Request) :
    t.CanReach fun u => u.Mirrors [] s.served (s.request r).2.world := by
  refine .by_move (.get r) (.now ?_)
  let effects := requestEffects (Dictionary.ofList s.servedCalendars) s.hasMetrics r
  have hworld : (t.session.request r).2.world = t.session.world.applyAll effects := by
    simp only [request, hs.servedCalendars_eq, hs.hasMetrics_eq, effects]
  have hours := s.world.sameWork_applyAll effects
  have htheirs := t.session.world.sameWork_applyAll effects
  have hsound := (hs.mirrors.sound.get r).own
  rw [← hours.tools_eq] at hsound
  exact
    { sound := hsound
      served_eq := hs.mirrors.served_eq
      caches_eq := by
        refine Eq.trans ?_ (hs.mirrors.caches_eq.trans hours.caches_eq.symm)
        simp only [Traffic.move, Traffic.note, hworld, htheirs.caches_eq]
      merges_eq := by
        refine Eq.trans ?_ (hs.mirrors.merges_eq.trans hours.merges_eq.symm)
        simp only [Traffic.move, Traffic.note, hworld, htheirs.merges_eq]
      metrics_eq := by
        refine Eq.trans ?_ hours.metrics_eq.symm
        simp only [Traffic.move, Traffic.note, hworld, htheirs.metrics_eq, hs.mirrors.metrics_eq]
      live_perm := hours.flights_eq.symm ▸ hs.mirrors.live_perm
      output_eq := fun i o hmem => Traffic.outputOf?_move (.get r)
        (hs.mirrors.output_eq i o (hours.targets_eq ▸ hmem)) }

theorem refresh (hs : s.MirroredBy t) {cache : Nat} {o : Output}
    (ho : outputOf? cache t.log = some o) :
    t.CanReach fun u => u.Mirrors [] s.served (s.refresh cache o).2.world := by
  refine (Traffic.canReach_runRefresh hs.mirrors ho).mono fun u hu => ?_
  simp only [Session.refresh]
  generalize (s.world.updateCache cache Cache.opened).runCycle .refresh o = ran at hu ⊢
  obtain ⟨r, w⟩ := ran
  cases r <;> exact hu

theorem refreshInBackground (hs : s.MirroredBy t) {cache : Nat} {o : Output}
    (ho : outputOf? cache t.log = some o) :
    t.CanReach fun u => u.Mirrors [] s.served (s.refreshInBackground cache o).world := by
  have hqueued := hs.mirrors.enqueue (.refresh (.background s.world.results.length) cache o) rfl
    fun i o' hi => by
      obtain ⟨rfl, rfl⟩ := Prod.mk.inj (Option.some.inj hi)
      exact ho
  exact Traffic.canReach_settle (hqueued.of_sameWork ⟨rfl, rfl, rfl, rfl, rfl, rfl⟩)

/-- The outputs of the session are those of the stations. -/
theorem exists_outputOf?_iff (hs : s.MirroredBy t) (o : Output) :
    (∃ i, outputOf? i t.log = some o) ↔ o ∈ s.stations.map Station.output := by
  obtain ⟨hlength, hget⟩ := List.forall₂_iff_get.mp hs.outputs
  constructor
  · rintro ⟨i, ho⟩
    have hi := hs.mirrors.sound.reflects.lt_length_of_output ho
    -- In a traffic stations and caches have the same numbers.
    have hserved := hs.mirrors.sound.reflects.served_eq
    rw [hs.mirrors.served_eq] at hserved
    have hi' : i < s.served.length := by
      rw [hserved, List.length_mapIdx]
      exact hi
    have hcache : s.served[i].cache = i := by simp [hserved]
    have houtput := hget i hi' (hlength ▸ hi')
    rw [List.get_eq_getElem, List.get_eq_getElem, hcache] at houtput
    obtain rfl := Option.some.inj (ho.symm.trans houtput)
    exact List.getElem_mem _
  · intro hmem
    obtain ⟨i, hi, rfl⟩ := List.mem_iff_getElem.mp hmem
    exact ⟨_, hget i (hlength.symm ▸ hi) hi⟩

/-- Every command leads on to a session that is mirrored. -/
theorem perform (hs : s.MirroredBy t) (command : Command) :
    t.CanReach (s.perform command).MirroredBy := by
  cases command with
  | sleep seconds => exact hs.after (Traffic.canReach_sleep seconds hs.mirrors) rfl rfl rfl rfl
  | get r => exact hs.after (hs.get r) rfl rfl rfl rfl
  | refresh i =>
      simp only [Session.perform]
      split
      next ho => exact hs.after (hs.refresh (hs.outputOf?_of_servedOutput ho)) rfl rfl rfl rfl
      next => exact .now hs
  | refreshInBackground i =>
      simp only [Session.perform]
      split
      next ho =>
        exact hs.after (hs.refreshInBackground (hs.outputOf?_of_servedOutput ho)) rfl rfl rfl rfl
      next => exact .now hs
  | join => exact hs.after (Traffic.canReach_join s.pending hs.mirrors) rfl rfl rfl rfl
  | emit text =>
      exact hs.after (.now (hs.mirrors.of_sameWork (s.world.sameWork_emit text))) rfl rfl rfl rfl
  | setPlan url plan =>
      have hplanned : t.Mirrors [] s.served (s.setPlan url plan).world :=
        hs.mirrors.of_sameWork ⟨rfl, rfl, rfl, rfl, rfl, rfl⟩
      exact hs.after (.now hplanned) rfl rfl rfl rfl

theorem performAll (hs : s.MirroredBy t) (commands : List Command) :
    t.CanReach (s.performAll commands).MirroredBy := by
  induction commands generalizing s t with
  | nil => exact .now hs
  | cons command commands ih => exact (hs.perform command).andThen fun _ hdone => ih hdone

end MirroredBy

/-- A service that has started its outputs is mirrored. -/
theorem mirroredBy_of_startOutputs (tools : Nat → Tools) (plans : Dictionary Plan)
    (sinks : List Sink) (outputs : List Output) (hasMetrics : Bool) {served : List Served}
    {s : Session}
    (hstarted : (ofOutputs outputs (.quiet tools plans sinks)).startOutputs hasMetrics =
      (.ok served, s)) :
    (Traffic.quiet tools sinks hasMetrics).CanReach s.MirroredBy := by
  have hquiet : (Traffic.quiet tools sinks hasMetrics).Mirrors [] []
      (World.quiet tools plans sinks) :=
    { sound := .quiet tools sinks hasMetrics
      served_eq := rfl
      caches_eq := rfl
      merges_eq := rfl
      metrics_eq := rfl
      live_perm := .nil
      output_eq := fun i o hmem => by cases hmem }
  have hstations : (ofOutputs outputs (.quiet tools plans sinks)).stations.map Station.output =
      outputs := by
    simp [ofOutputs, Function.comp_def]
  obtain ⟨moves, hmoves⟩ := Traffic.canReach_startOutputs outputs hquiet
  refine ⟨moves, ?_⟩
  simp only [Session.startOutputs, hstations] at hstarted
  have hworld : (ofOutputs outputs (.quiet tools plans sinks)).world =
      .quiet tools plans sinks := rfl
  rw [hworld] at hstarted
  generalize World.startOutputs outputs (.quiet tools plans sinks) = ran at hmoves hstarted
  obtain ⟨r, w⟩ := ran
  cases r with
  | error e => cases hstarted
  | ok list =>
      obtain ⟨hcaches, hmirrors⟩ := hmoves
      cases hstarted
      refine ⟨hmirrors, ?_, ?_⟩
      · exact ((Traffic.Sound.quiet tools sinks hasMetrics).play moves).reflects.hasMetrics_eq
      · rw [hstations]
        exact hcaches

@[simp] theorem perform_stations (s : Session) (command : Command) :
    (s.perform command).stations = s.stations := by
  cases command <;> simp only [perform] <;> first | rfl | (split <;> rfl)

@[simp] theorem performAll_stations (s : Session) (commands : List Command) :
    (s.performAll commands).stations = s.stations := by
  induction commands generalizing s with
  | nil => rfl
  | cons command commands ih => exact (ih (s.perform command)).trans (s.perform_stations command)

/-- A service knows the outputs that it has started. -/
theorem stations_of_startOutputs {outputs : List Output} {w : World} {hasMetrics : Bool}
    {served : List Served} {s : Session}
    (hstarted : (ofOutputs outputs w).startOutputs hasMetrics = (.ok served, s)) :
    s.stations.map Station.output = outputs := by
  simp only [Session.startOutputs] at hstarted
  split at hstarted
  next => cases hstarted
  next =>
    cases hstarted
    simp [ofOutputs, Function.comp_def]

/-- A service that has started its outputs and has carried out commands is mirrored by a sound
traffic, and its outputs are still those that it has started. -/
theorem exists_mirroredBy (tools : Nat → Tools) (plans : Dictionary Plan) (sinks : List Sink)
    (outputs : List Output) (hasMetrics : Bool) {served : List Served} {s : Session}
    (hstarted : (ofOutputs outputs (.quiet tools plans sinks)).startOutputs hasMetrics =
      (.ok served, s)) (commands : List Command) :
    ∃ t : Traffic, t.Sound tools hasMetrics ∧ (s.performAll commands).MirroredBy t ∧
      (s.performAll commands).stations.map Station.output = outputs := by
  obtain ⟨moves, hmirrored⟩ :=
    (mirroredBy_of_startOutputs tools plans sinks outputs hasMetrics hstarted).andThen
      fun _ hs => hs.performAll commands
  refine ⟨_, (Traffic.Sound.quiet tools sinks hasMetrics).play moves, hmirrored, ?_⟩
  rw [performAll_stations]
  exact stations_of_startOutputs hstarted

end Session

/-! ## Answers -/

/-- The calendar is the whole result of merging the output, with events for each of its feeds. -/
def IsWholeMerge (tools : Nat → Tools) (o : Output) (m : Merged) : Prop :=
  ∃ (n : Nat) (events : List (List Component)), events.length = o.feeds.length ∧
    m = Merge.assemble (tools n).issue o (List.zipWith Loaded.mk o.feeds events)

theorem Edition.IsMergeOf.isWholeMerge {e : Edition} {tools : Nat → Tools} {log : List Happening}
    {o : Output} (he : e.IsMergeOf tools log o) : IsWholeMerge tools o e.merged := by
  obtain ⟨⟨flight, purpose, n, hends⟩, _⟩ := he
  obtain ⟨events, _, _, hlength, hmerged⟩ := mergeRun_finished_ok _ _ _ _ _ hends
  exact ⟨n, events, hlength, hmerged⟩

/-- The service has started its outputs and has carried out any commands. A request for a calendar
is answered from the whole result of one merge of an output of that name, or with the status 404 if
there is no such output. -/
theorem answers_from_whole_merges (tools : Nat → Tools) (plans : Dictionary Plan)
    (sinks : List Sink) (outputs : List Output) (hasMetrics : Bool) {served : List Served}
    {s : Session}
    (hstarted : (Session.ofOutputs outputs (.quiet tools plans sinks)).startOutputs hasMetrics =
      (.ok served, s))
    (commands : List Command) {r : Request} (hmethod : r.method = "GET") {file : List Char}
    (hroute : r.route hasMetrics = .file (some file)) {key : String}
    (hkey : Http.calendarKey? file = some key) :
    let answer := ((s.performAll commands).request r).1
    (∃ o ∈ outputs, o.key = key ∧ ∃ m, IsWholeMerge tools o m ∧ AnsweredFrom m answer) ∨
      (∀ o ∈ outputs, o.key ≠ key) ∧ answer.status = 404 ∧ answer.body = "" := by
  intro answer
  obtain ⟨t, ht, hmirrored, hstations⟩ :=
    Session.exists_mirroredBy tools plans sinks outputs hasMetrics hstarted commands
  have hjustified := (ht.get r).justified t.log _ [] rfl file key hmethod hroute hkey
  rw [hmirrored.request_eq] at hjustified
  rcases hjustified with ⟨i, o, e, ho, rfl, hput, hanswer⟩ | ⟨hother, hmissing⟩
  · left
    obtain ⟨o', ho', hmerge⟩ := ht.isMergeOf_of_lastPut (List.append_nil t.log).symm hput
    obtain rfl := Option.some.inj (ho'.symm.trans ho)
    have hmem := (hmirrored.exists_outputOf?_iff o').mp ⟨i, ho⟩
    rw [hstations] at hmem
    exact ⟨o', hmem, rfl, e.merged, hmerge.isWholeMerge, hanswer⟩
  · right
    refine ⟨fun o hmem => ?_, hmissing⟩
    rw [← hstations] at hmem
    obtain ⟨i, ho⟩ := (hmirrored.exists_outputOf?_iff o).mpr hmem
    exact hother i o ho

end Almanac.Service
