import Almanac.Proofs.Service.Running

/-!
# Messages disturb nothing

Messages are delivered by tasks of their own, which run among the others. Nothing that the
service does depends on them. Two worlds that differ only in their sinks, in what these were
told and in what was reported stay alike, whatever runs in them: what is merged, served and
answered is the same with any sinks, working or not, as with none.
-/

namespace Almanac.Service

open Config (Feed Output)
open Http (Request)
open Merge (Merged MergeFailure Outcome)

/-- The tasks that deliver no message. -/
def work (tasks : List Task) : List Task :=
  tasks.filter fun
    | .deliver .. => false
    | _ => true

@[simp] theorem work_append (first second : List Task) :
    work (first ++ second) = work first ++ work second :=
  List.filter_append first second

@[simp] theorem work_postings (sinks : List Sink) (text : String) :
    work (World.postings sinks text) = [] := by
  apply List.filter_eq_nil_iff.mpr
  intro task htask
  obtain ⟨e, _, rfl⟩ := List.mem_map.mp htask
  exact Bool.false_ne_true

/-- The work is the same when a delivery is taken out. -/
theorem work_eraseIdx {tasks : List Task} {i place : Nat} {sink : Sink} {text : String}
    (hi : tasks[i]? = some (.deliver place sink text)) :
    work (tasks.eraseIdx i) = work tasks := by
  obtain ⟨hlt, hget⟩ := List.getElem?_eq_some_iff.mp hi
  calc work (tasks.eraseIdx i)
      = work (tasks.take i) ++ work (tasks.drop (i + 1)) := by
        rw [List.eraseIdx_eq_take_drop_succ, work_append]
    _ = work (tasks.take i) ++ work (.deliver place sink text :: tasks.drop (i + 1)) := rfl
    _ = work tasks := by
        rw [← hget, ← List.drop_eq_getElem_cons hlt, ← work_append, List.take_append_drop]

namespace World

/-- The same goes on in both worlds, whatever sinks there are and whatever they were told. -/
structure Alike (w v : World) : Prop where
  now_eq : v.now = w.now
  tools_eq : v.tools = w.tools
  plans_eq : v.plans = w.plans
  caches_eq : v.caches = w.caches
  metrics_eq : v.metrics = w.metrics
  merges_eq : v.merges = w.merges
  calls_eq : v.calls = w.calls
  work_eq : work v.ready = work w.ready
  timers_eq : v.timers = w.timers
  results_eq : v.results = w.results
  ended_eq : v.ended = w.ended

/-- Two runs give the same and leave worlds alike. -/
def EndAlike {α : Type} (a b : α × World) : Prop := b.1 = a.1 ∧ Alike a.2 b.2

/-- What is to be shown of two runs is shown of any result with any worlds alike. -/
@[elab_as_elim]
theorem EndAlike.elim {α : Type} {motive : α × World → α × World → Prop} {a b : α × World}
    (h : EndAlike a b) (hends : ∀ r w v, Alike w v → motive (r, w) (r, v)) : motive a b := by
  obtain ⟨r, w⟩ := a
  obtain ⟨r', v⟩ := b
  obtain ⟨rfl, hworlds⟩ : r' = r ∧ Alike w v := h
  exact hends r' w v hworlds

namespace Alike

variable {w v : World}

theorem refl (w : World) : Alike w w := ⟨rfl, rfl, rfl, rfl, rfl, rfl, rfl, rfl, rfl, rfl, rfl⟩

/-- Before anything has happened the sinks make no difference. -/
theorem quiet (tools : Nat → Tools) (plans : Dictionary Plan) (sinks sinks' : List Sink) :
    Alike (.quiet tools plans sinks) (.quiet tools plans sinks') :=
  ⟨rfl, rfl, rfl, rfl, rfl, rfl, rfl, rfl, rfl, rfl, rfl⟩

theorem symm (h : Alike w v) : Alike v w :=
  ⟨h.now_eq.symm, h.tools_eq.symm, h.plans_eq.symm, h.caches_eq.symm, h.metrics_eq.symm,
    h.merges_eq.symm, h.calls_eq.symm, h.work_eq.symm, h.timers_eq.symm, h.results_eq.symm,
    h.ended_eq.symm⟩

theorem trans {u : World} (h : Alike w v) (h' : Alike v u) : Alike w u :=
  ⟨h'.now_eq.trans h.now_eq, h'.tools_eq.trans h.tools_eq, h'.plans_eq.trans h.plans_eq,
    h'.caches_eq.trans h.caches_eq, h'.metrics_eq.trans h.metrics_eq,
    h'.merges_eq.trans h.merges_eq, h'.calls_eq.trans h.calls_eq, h'.work_eq.trans h.work_eq,
    h'.timers_eq.trans h.timers_eq, h'.results_eq.trans h.results_eq, h'.ended_eq.trans h.ended_eq⟩

theorem planOf_eq (h : Alike w v) (url : String) : v.planOf url = w.planOf url := by
  rw [planOf, planOf, h.plans_eq]

theorem nextTools_eq (h : Alike w v) : v.nextTools = w.nextTools := by
  rw [nextTools, nextTools, h.tools_eq, h.merges_eq]

theorem nextTime?_eq (h : Alike w v) : v.nextTime? = w.nextTime? := by
  rw [nextTime?, nextTime?, h.timers_eq]

theorem horizon_eq (h : Alike w v) : v.horizon = w.horizon := by
  simp only [horizon, fetchTime, h.timers_eq, h.now_eq, h.planOf_eq]

/-! ## Steps of a merge -/

/-- A message makes deliveries ready and nothing else. -/
theorem apply (h : Alike w v) (effect : Effect) : Alike (w.apply effect) (v.apply effect) := by
  cases effect with
  | report r => exact { h with }
  | notify text => exact { h with work_eq := by simp [World.apply, emit, h.work_eq] }
  | count name n => exact { h with metrics_eq := congrArg (addMetric · name n) h.metrics_eq }
  | measure name => exact { h with metrics_eq := congrArg (addMetric · name 1) h.metrics_eq }

theorem applyAll (h : Alike w v) (effects : List Effect) :
    Alike (w.applyAll effects) (v.applyAll effects) := by
  induction effects generalizing w v with
  | nil => exact h
  | cons effect effects ih => exact ih (h.apply effect)

theorem countMerge (h : Alike w v) (p : Progress) : Alike (w.countMerge p) (v.countMerge p) := by
  unfold World.countMerge
  split
  next => exact { h with merges_eq := congrArg (· + 1) h.merges_eq }
  next => exact h

theorem settleStep (h : Alike w v) (step : Progress × List Effect) :
    EndAlike (w.settleStep step) (v.settleStep step) :=
  ⟨rfl, (h.applyAll step.2).countMerge step.1⟩

theorem updateCache (h : Alike w v) (i : Nat) (f : Cache → Cache) :
    Alike (w.updateCache i f) (v.updateCache i f) :=
  { h with caches_eq := congrArg (List.modify · i f) h.caches_eq }

theorem closeRefresh (h : Alike w v) (cache : Nat) (r : Except MergeFailure Merged) :
    Alike (w.closeRefresh cache r) (v.closeRefresh cache r) := by
  rw [World.closeRefresh, World.closeRefresh, h.merges_eq]
  exact h.updateCache cache _

theorem drive (h : Alike w v) (fuel : Nat) (p : Progress) :
    EndAlike (drive fuel p w) (drive fuel p v) := by
  induction fuel generalizing p w v with
  | zero => cases p <;> exact ⟨rfl, h⟩
  | succ fuel ih =>
      cases p with
      | finished r => exact ⟨rfl, h⟩
      | waiting c =>
          have hcalled : Alike { w with calls := ⟨c.output, c.current⟩ :: w.calls }
              { v with calls := ⟨c.output, c.current⟩ :: v.calls } :=
            { h with calls_eq := congrArg (⟨c.output, c.current⟩ :: ·) h.calls_eq }
          simp only [World.drive, h.planOf_eq]
          split
          next =>
            rw [hcalled.nextTools_eq]
            exact ih (hcalled.settleStep _).2 _
          next => exact ⟨by rw [h.now_eq], hcalled⟩

theorem beginCycle (h : Alike w v) (purpose : Purpose) (o : Output) :
    EndAlike (w.beginCycle purpose o) (v.beginCycle purpose o) := by
  simp only [World.beginCycle, h.nextTools_eq]
  exact (h.settleStep _).2.drive _ _

theorem resumeCycle (h : Alike w v) (c : Cycle) (outcome : Outcome) :
    EndAlike (w.resumeCycle c outcome) (v.resumeCycle c outcome) := by
  simp only [World.resumeCycle, h.nextTools_eq]
  exact (h.settleStep _).2.drive _ _

/-! ## Tasks -/

theorem wait (h : Alike w v) (due : Nat) (task : Task) :
    Alike (w.wait due task) (v.wait due task) :=
  { h with timers_eq := congrArg (· ++ [Timer.mk due task]) h.timers_eq }

theorem pauseRefresh {again : Owner → World → World}
    (hagain : ∀ owner {w v : World}, Alike w v → Alike (again owner w) (again owner v))
    (owner : Owner) (cache : Nat) (output : Output) {a b : Pause × World} (h : EndAlike a b) :
    Alike (pauseRefresh again owner cache output a) (pauseRefresh again owner cache output b) := by
  refine h.elim fun pause w v hworlds => ?_
  cases pause with
  | waits due c outcome => exact hworlds.wait due _
  | ended r =>
      have hclosed := hworlds.closeRefresh cache r
      cases owner with
      | background slot =>
          exact { hclosed with results_eq := congrArg (List.set · slot _) hclosed.results_eq }
      | ticker slot due interval =>
          simp only [World.pauseRefresh, hclosed.now_eq]
          split
          next => exact hagain _ hclosed
          next => exact hclosed.wait due _

theorem runRefresh {again : Owner → World → World}
    (hagain : ∀ owner {w v : World}, Alike w v → Alike (again owner w) (again owner v))
    (h : Alike w v) (owner : Owner) (cache : Nat) (output : Output) :
    Alike (runRefresh again owner cache output w) (runRefresh again owner cache output v) :=
  pauseRefresh hagain owner cache output ((h.updateCache cache _).beginCycle .refresh output)

theorem runLate (cache : Nat) (output : Output) (owner : Owner) {w v : World} (h : Alike w v) :
    Alike (runLate cache output owner w) (runLate cache output owner v) := by
  refine runRefresh (fun owner {w v} h => ?_) h owner cache output
  cases owner with
  | background slot => exact h
  | ticker slot due interval => exact h.wait due _

/-- The run of a delivery disturbs nothing, whether the sink works or not. -/
theorem deliver (h : Alike w v) (place : Nat) (sink : Sink) (text : String) :
    Alike (w.runTask (.deliver place sink text)) v := by
  cases sink <;> exact { h with }

theorem runTask (h : Alike w v) (task : Task) : Alike (w.runTask task) (v.runTask task) := by
  cases task with
  | deliver place sink text =>
      exact ((h.deliver place sink text).symm.deliver place sink text).symm
  | refresh owner cache output => exact h.runRefresh (runLate cache output) owner cache output
  | resume owner cache cycle outcome =>
      exact pauseRefresh (runLate cache cycle.output) owner cache cycle.output
        (h.resumeCycle cycle outcome)
  | ticker slot cache output =>
      have hdue : firstDue? v.now output.refreshSeconds =
          firstDue? w.now output.refreshSeconds := by
        rw [h.now_eq]
      simp only [World.runTask, hdue]
      split
      next => exact { h with ended_eq := congrArg (List.set · slot true) h.ended_eq }
      next => exact h.wait _ _

/-- Of the tasks only those count that deliver no message. -/
theorem runTasks_work (h : Alike w v) (tasks : List Task) :
    Alike (tasks.foldl World.runTask w) ((work tasks).foldl World.runTask v) := by
  induction tasks generalizing w v with
  | nil => exact h
  | cons task tasks ih =>
      cases task with
      | deliver place sink text => exact ih (h.deliver place sink text)
      | _ => exact ih (h.runTask _)

theorem runRound (h : Alike w v) : Alike w.runRound v.runRound := by
  have hemptied : Alike { w with ready := [] } { v with ready := [] } := { h with work_eq := rfl }
  have hfirst := hemptied.runTasks_work w.ready
  have hsecond := (refl { v with ready := [] }).runTasks_work v.ready
  rw [h.work_eq] at hsecond
  exact hfirst.trans hsecond.symm

theorem settle (h : Alike w v) : Alike w.settle v.settle := h.runRound.runRound

/-! ## The main flow -/

theorem moveTo (h : Alike w v) (time : Nat) : Alike (w.moveTo time) (v.moveTo time) :=
  { h with
    now_eq := rfl
    work_eq := by simp only [World.moveTo, work_append, h.work_eq, h.timers_eq]
    timers_eq := congrArg (List.filter _) h.timers_eq }

theorem waitUntil (h : Alike w v) (fuel time : Nat) :
    Alike (waitUntil fuel time w) (waitUntil fuel time v) := by
  induction fuel generalizing w v with
  | zero => exact h.settle.moveTo time
  | succ fuel ih =>
      simp only [World.waitUntil, h.settle.nextTime?_eq]
      split
      next t _ =>
        split
        next => exact ih (h.settle.moveTo t)
        next => exact h.settle.moveTo time
      next => exact h.settle.moveTo time

theorem sleep (h : Alike w v) (seconds : Nat) : Alike (w.sleep seconds) (v.sleep seconds) := by
  unfold World.sleep
  split
  next => exact h
  next =>
    rw [h.now_eq]
    exact h.waitUntil _ _

theorem finishCycle (fuel : Nat) {a b : Pause × World} (h : EndAlike a b) :
    EndAlike (finishCycle fuel a) (finishCycle fuel b) := by
  induction fuel generalizing a b with
  | zero =>
      refine h.elim fun pause w v hworlds => ?_
      cases pause <;> exact ⟨rfl, hworlds⟩
  | succ fuel ih =>
      refine h.elim fun pause w v hworlds => ?_
      cases pause with
      | ended r => exact ⟨rfl, hworlds⟩
      | waits due c outcome =>
          simp only [World.finishCycle, hworlds.now_eq]
          exact ih ((hworlds.sleep _).resumeCycle c outcome)

theorem runCycle (h : Alike w v) (purpose : Purpose) (o : Output) :
    EndAlike (w.runCycle purpose o) (v.runCycle purpose o) :=
  finishCycle _ (h.beginCycle purpose o)

theorem joinSlot (h : Alike w v) (slot fuel : Nat) :
    Alike (joinSlot slot fuel w) (joinSlot slot fuel v) := by
  induction fuel generalizing w v with
  | zero => exact h
  | succ fuel ih =>
      simp only [World.joinSlot, h.results_eq]
      split
      next =>
        simp only [h.settle.results_eq, h.settle.nextTime?_eq]
        split
        next =>
          split
          next t _ => exact ih (h.settle.moveTo t)
          next => exact h.settle
        next => exact h.settle
      next => exact h

/-! ## Starts -/

theorem bootstrap (h : Alike w v) (o : Output) : EndAlike (w.bootstrap o) (v.bootstrap o) := by
  simp only [World.bootstrap]
  refine (h.runCycle .bootstrap o).elim fun r w v hworlds => ?_
  cases r with
  | error e => exact ⟨rfl, hworlds⟩
  | ok m =>
      dsimp only
      rw [hworlds.caches_eq, hworlds.merges_eq]
      exact ⟨rfl, { hworlds with caches_eq := rfl, merges_eq := rfl }⟩

theorem addTicker (h : Alike w v) (cache : Nat) (o : Output) :
    EndAlike (w.addTicker cache o) (v.addTicker cache o) := by
  refine ⟨congrArg List.length h.ended_eq, { h with work_eq := ?_, ended_eq := ?_ }⟩
  · simp only [World.addTicker, work_append, h.work_eq, h.ended_eq]
  · exact congrArg (· ++ [false]) h.ended_eq

theorem startOne (h : Alike w v) (o : Output) : EndAlike (w.startOne o) (v.startOne o) := by
  simp only [World.startOne]
  refine (h.bootstrap o).elim fun r w v hworlds => ?_
  cases r with
  | error e => exact ⟨rfl, hworlds⟩
  | ok cache => exact ⟨rfl, ((hworlds.apply _).addTicker cache o).2⟩

theorem startOutputs (h : Alike w v) (outputs : List Output) :
    EndAlike (startOutputs outputs w) (startOutputs outputs v) := by
  induction outputs generalizing w v with
  | nil => exact ⟨rfl, h⟩
  | cons o outputs ih =>
      simp only [World.startOutputs]
      refine (h.startOne o).elim fun r w v hworlds => ?_
      cases r with
      | error e => exact ⟨rfl, hworlds⟩
      | ok served =>
          dsimp only
          exact (ih hworlds).elim fun _ _ _ hrest => ⟨rfl, hrest⟩

end Alike

end World

/-! ## Sessions -/

/-- The sessions know and serve the same, and the same goes on in their worlds. How many messages
were read may differ. -/
structure Session.Alike (s s' : Session) : Prop where
  world : World.Alike s.world s'.world
  stations_eq : s'.stations = s.stations
  served_eq : s'.served = s.served
  hasMetrics_eq : s'.hasMetrics = s.hasMetrics
  pending_eq : s'.pending = s.pending
  callsRead_eq : s'.callsRead = s.callsRead

namespace Session.Alike

variable {s s' : Session}

theorem servedCalendars_eq (h : s.Alike s') : s'.servedCalendars = s.servedCalendars := by
  rw [servedCalendars, servedCalendars, h.served_eq, h.world.caches_eq]

theorem request_eq (h : s.Alike s') (r : Request) : (s'.request r).1 = (s.request r).1 := by
  simp only [request, h.servedCalendars_eq, h.hasMetrics_eq]

theorem get (h : s.Alike s') (r : Request) : (s.request r).2.Alike (s'.request r).2 := by
  simp only [request, h.servedCalendars_eq, h.hasMetrics_eq]
  exact { h with world := h.world.applyAll _, hasMetrics_eq := rfl }

theorem refresh (h : s.Alike s') (cache : Nat) (o : Output) :
    (s.refresh cache o).2.Alike (s'.refresh cache o).2 := by
  simp only [Session.refresh]
  refine ((h.world.updateCache cache Cache.opened).runCycle .refresh o).elim
    fun r w v hworlds => ?_
  exact { h with world := hworlds.closeRefresh cache r }

theorem refreshInBackground (h : s.Alike s') (cache : Nat) (o : Output) :
    (s.refreshInBackground cache o).Alike (s'.refreshInBackground cache o) := by
  simp only [Session.refreshInBackground, h.world.results_eq, h.pending_eq]
  have hqueued : World.Alike
      { s.world with
        results := s.world.results ++ [none]
        ready := s.world.ready ++ [.refresh (.background s.world.results.length) cache o] }
      { s'.world with
        results := s.world.results ++ [none]
        ready := s'.world.ready ++ [.refresh (.background s.world.results.length) cache o] } :=
    { h.world with
      work_eq := by simp only [work_append, h.world.work_eq]
      results_eq := rfl }
  exact { h with world := hqueued.settle, pending_eq := rfl }

theorem joinOne {w v : World} (h : World.Alike w v) (slot : Nat) :
    World.Alike (joinOne w slot) (joinOne v slot) := by
  simp only [Session.joinOne, h.settle.horizon_eq]
  exact h.settle.joinSlot slot _

theorem join (h : s.Alike s') : s'.join.1 = s.join.1 ∧ s.join.2.Alike s'.join.2 := by
  have hjoined : ∀ (slots : List Nat) {w v : World}, World.Alike w v →
      World.Alike (slots.foldl Session.joinOne w) (slots.foldl Session.joinOne v) := by
    intro slots
    induction slots with
    | nil => exact fun hworlds => hworlds
    | cons slot slots ih => exact fun hworlds => ih (joinOne hworlds slot)
  have hworlds := hjoined s.pending h.world
  rw [Session.join, Session.join, h.pending_eq, hworlds.results_eq]
  exact ⟨rfl, { h with world := hworlds, pending_eq := rfl }⟩

theorem perform (h : s.Alike s') (command : Command) :
    (s.perform command).Alike (s'.perform command) := by
  have hserved : ∀ i, s'.servedOutput? i = s.servedOutput? i := by
    intro i
    rw [servedOutput?, servedOutput?, output?, output?, h.served_eq, h.stations_eq]
  cases command with
  | sleep seconds => exact { h with world := h.world.sleep seconds }
  | get r => exact h.get r
  | refresh i =>
      simp only [Session.perform, hserved]
      split
      next => exact h.refresh _ _
      next => exact h
  | refreshInBackground i =>
      simp only [Session.perform, hserved]
      split
      next => exact h.refreshInBackground _ _
      next => exact h
  | join => exact h.join.2
  | emit text => exact { h with world := h.world.apply (.notify text) }
  | setPlan url plan =>
      have hplanned : World.Alike (s.setPlan url plan).world (s'.setPlan url plan).world :=
        { h.world with plans_eq := congrArg (Dictionary.set · url plan) h.world.plans_eq }
      exact { h with world := hplanned }

theorem performAll (h : s.Alike s') (commands : List Command) :
    (s.performAll commands).Alike (s'.performAll commands) := by
  induction commands generalizing s s' with
  | nil => exact h
  | cons command commands ih => exact ih (h.perform command)

theorem startOutputs (h : s.Alike s') (hasMetrics : Bool) :
    (s'.startOutputs hasMetrics).1 = (s.startOutputs hasMetrics).1 ∧
      (s.startOutputs hasMetrics).2.Alike (s'.startOutputs hasMetrics).2 := by
  simp only [Session.startOutputs, h.stations_eq]
  refine (h.world.startOutputs (s.stations.map Station.output)).elim fun r w v hworlds => ?_
  cases r with
  | error e => exact ⟨rfl, { h with world := hworlds, stations_eq := rfl }⟩
  | ok served =>
      exact ⟨rfl, { h with
        world := hworlds, stations_eq := rfl, served_eq := rfl, hasMetrics_eq := rfl }⟩

end Session.Alike

/-! ## Traffics -/

namespace Session.Alike

variable {s s' : Session}

theorem cacheOf?_eq (h : s.Alike s') (i : Nat) : s'.cacheOf? i = s.cacheOf? i := by
  rw [cacheOf?, cacheOf?, h.stations_eq]

theorem output?_eq (h : s.Alike s') (i : Nat) : s'.output? i = s.output? i := by
  rw [output?, output?, h.stations_eq]

theorem edition?_eq (h : s.Alike s') (i : Nat) : s'.edition? i = s.edition? i := by
  simp only [edition?, cache?, h.cacheOf?_eq, h.world.caches_eq]

theorem openRefresh (h : s.Alike s') (i : Nat) : (s.openRefresh i).Alike (s'.openRefresh i) := by
  simp only [Session.openRefresh, h.cacheOf?_eq]
  split
  next c _ => exact { h with world := h.world.updateCache c Cache.opened }
  next => exact h

theorem closeRefresh (h : s.Alike s') (i : Nat) (r : Except MergeFailure Merged) :
    (s.closeRefresh i r).Alike (s'.closeRefresh i r) := by
  simp only [Session.closeRefresh, h.cacheOf?_eq]
  split
  next c _ => exact { h with world := h.world.closeRefresh c r }
  next => exact h

theorem openStation (h : s.Alike s') (o : Output) (m : Merged) :
    (s.openStation o m).Alike (s'.openStation o m) where
  world := { h.world with
    caches_eq := by simp only [Session.openStation, h.world.caches_eq, h.world.merges_eq] }
  stations_eq := by simp only [Session.openStation, h.stations_eq, h.world.caches_eq]
  served_eq := by simp only [Session.openStation, h.served_eq, h.world.caches_eq]
  hasMetrics_eq := h.hasMetrics_eq
  pending_eq := h.pending_eq
  callsRead_eq := h.callsRead_eq

end Session.Alike

/-- The sessions are alike, and the same has happened and is under way. -/
structure Traffic.Alike (t u : Traffic) : Prop where
  session : t.session.Alike u.session
  flights_eq : u.flights = t.flights
  log_eq : u.log = t.log

namespace Traffic.Alike

variable {t u : Traffic}

theorem quiet (tools : Nat → Tools) (sinks sinks' : List Sink) (hasMetrics : Bool) :
    (Traffic.quiet tools sinks hasMetrics).Alike (Traffic.quiet tools sinks' hasMetrics) :=
  ⟨⟨.quiet tools ∅ sinks sinks', rfl, rfl, rfl, rfl, rfl⟩, rfl, rfl⟩

theorem note (h : t.Alike u) {s s' : Session} (hs : s.Alike s') (g : Happening) :
    ({ t with session := s }.note g).Alike ({ u with session := s' }.note g) :=
  ⟨hs, h.flights_eq, congrArg (· ++ [g]) h.log_eq⟩

theorem conclude (h : t.Alike u) (k : Nat) (station : Option Nat) (o : Output)
    (r : Except MergeFailure Merged) :
    (t.conclude k station o r).Alike (u.conclude k station o r) := by
  cases r with
  | ok m =>
      simp only [Traffic.conclude]
      rw [h.session.world.merges_eq, h.session.stations_eq]
      cases station with
      | none => exact h.note (h.session.openStation o m) _
      | some i => exact h.note (h.session.closeRefresh i (.ok m)) _
  | error failure =>
      cases station with
      | none => exact h.note h.session _
      | some i => exact h.note (h.session.closeRefresh i (.error failure)) _

theorem advance (h : t.Alike u) (k : Nat) (station : Option Nat) (o : Output)
    (step : Progress × List Effect) :
    (t.advance k station o step).Alike (u.advance k station o step) := by
  have hsettled : ({ t with session := { t.session with
      world := (t.session.world.settleStep step).2 } } : Traffic).Alike
        { u with session := { u.session with world := (u.session.world.settleStep step).2 } } :=
    { h with session := { h.session with world := (h.session.world.settleStep step).2 } }
  obtain ⟨p, effects⟩ := step
  cases p with
  | waiting c => exact { hsettled with flights_eq := congrArg (List.set · k _) h.flights_eq }
  | finished r => exact hsettled.conclude k station o r

theorem launch (h : t.Alike u) (station : Option Nat) (purpose : Purpose) (o : Output) :
    (t.launch station purpose o).Alike (u.launch station purpose o) := by
  simp only [Traffic.launch]
  rw [h.flights_eq, h.session.world.nextTools_eq]
  have hboarded : ({ t with flights := t.flights ++ [none] } : Traffic).Alike
      { u with flights := t.flights ++ [none] } := { h with flights_eq := rfl }
  exact (hboarded.note h.session _).advance _ station o _

/-- The same move has the same consequences in traffics that are alike. -/
theorem move (h : t.Alike u) (m : Move) : (t.move m).Alike (u.move m) := by
  cases m with
  | start o => exact h.launch none .bootstrap o
  | refresh i =>
      simp only [Traffic.move, h.session.output?_eq]
      split
      next o _ =>
        have hopened : ({ t with session := t.session.openRefresh i } : Traffic).Alike
            { u with session := u.session.openRefresh i } :=
          { h with session := h.session.openRefresh i }
        exact hopened.launch (some i) .refresh o
      next => exact h
  | arrive k outcome =>
      simp only [Traffic.move, h.flights_eq, h.session.world.nextTools_eq]
      split
      next f _ =>
        have hfetched : ({ t with flights := t.flights.set k none } : Traffic).Alike
            { u with flights := t.flights.set k none } := { h with flights_eq := rfl }
        exact (hfetched.note h.session _).advance k f.station f.cycle.output _
      next => exact h
  | serve i =>
      simp only [Traffic.move, h.session.edition?_eq]
      split
      next => exact h.note h.session _
      next => exact h
  | get r =>
      simp only [Traffic.move, h.session.request_eq]
      exact h.note (h.session.get r) _

end Traffic.Alike

/-! ## The service by the clock -/

/-- The service by the clock, with any sinks, does the same as with none: it starts or fails to
start the same outputs, and whatever it is asked then, its caches, its metrics and the results of
its refreshes are the same at the same time, and so is its answer to a request. -/
theorem sinks_disturb_nothing (tools : Nat → Tools) (plans : Dictionary Plan) (sinks : List Sink)
    (outputs : List Output) (hasMetrics : Bool) (commands : List Command) :
    let started := fun sinks =>
      (Session.ofOutputs outputs (.quiet tools plans sinks)).startOutputs hasMetrics
    let s := (started sinks).2.performAll commands
    let alone := (started []).2.performAll commands
    (started sinks).1 = (started []).1 ∧ alone.Alike s ∧
      ∀ r, (s.request r).1 = (alone.request r).1 := by
  intro started s alone
  have hquiet : (Session.ofOutputs outputs (.quiet tools plans [])).Alike
      (Session.ofOutputs outputs (.quiet tools plans sinks)) :=
    ⟨.quiet tools plans [] sinks, rfl, rfl, rfl, rfl, rfl⟩
  obtain ⟨hresult, hstarted⟩ := hquiet.startOutputs hasMetrics
  have hdone := hstarted.performAll commands
  exact ⟨hresult, hdone, hdone.request_eq⟩

end Almanac.Service
