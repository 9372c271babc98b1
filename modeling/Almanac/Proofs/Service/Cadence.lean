import Almanac.Proofs.Service.Punctual
import Almanac.Service.Session

/-!
# The cadence of a ticker

While the main flow waits, time moves on from one timer to the next, and a timer that is due
becomes a task at that very moment. So no act of the main flow, no other ticker and no refresh in
the background comes between a ticker and its timetable.
-/

namespace Almanac.Service

open Config (Output)
open Merge (Merged MergeFailure Outcome)

namespace World

/-! ## Between rounds -/

/-- A world between rounds of tasks. What ticker `n` is to do fits its phase; it may be ready
now. -/
structure Awaits (w : World) (n interval tickers : Nat) (φ : Phase) : Prop where
  punctual : ({ w with ready := [] } : World).Punctual n interval w.now tickers
    (w.ready.flatMap (Task.appointments n w.now)) φ
  regular : ∀ task ∈ w.ready, task.Regular

section Time

variable {n interval tickers : Nat} {φ : Phase} {w : World}

theorem flatMap_deliveries {tasks : List Task} (htasks : ∀ task ∈ tasks, task.IsDelivery)
    (n time : Nat) : tasks.flatMap (Task.appointments n time) = [] := by
  rw [List.flatMap_eq_nil_iff]
  exact fun task htask => Task.appointments_of_isDelivery (htasks task htask) n time

theorem runTasks_deliveries {tasks : List Task} (htasks : ∀ task ∈ tasks, task.IsDelivery)
    (w : World) : (tasks.foldl runTask w).ready = w.ready := by
  induction tasks generalizing w with
  | nil => rfl
  | cons task tasks ih =>
      have hfirst : (w.runTask task).ready = w.ready := by
        cases task with
        | deliver place sink text => cases sink <;> rfl
        | _ => exact absurd (htasks _ List.mem_cons_self) id
      rw [List.foldl_cons, ih (fun other hother => htasks other (List.mem_cons_of_mem _ hother)),
        hfirst]

/-- When all tasks wait, none is ready. -/
theorem Awaits.settle (hw : w.Awaits n interval tickers φ) :
    φ.Leads interval (w.tellSettle (taskBook n)) (w.settle.Punctual n interval w.now tickers []) ∧
      w.settle.ready = [] := by
  have htaken := hw.punctual
  rw [← List.append_nil (w.ready.flatMap _)] at htaken
  have hround : φ.Leads interval (w.tellRound (taskBook n))
      (w.runRound.Punctual n interval w.now tickers []) :=
    leads_runTasks w.ready hw.regular htaken
  have ⟨_, _, hran⟩ := hround
  refine ⟨hround.andThen fun ψ hψ => ?_, runTasks_deliveries hran.deliveries _⟩
  have hemptied : ({ w.runRound with ready := [] } : World).Punctual n interval w.now tickers
      (w.runRound.ready.flatMap (Task.appointments n w.now) ++ []) ψ := by
    rw [flatMap_deliveries hψ.deliveries]
    exact { hψ with deliveries := fun _ hnone => by cases hnone }
  exact leads_runTasks _
    (fun task htask => Task.regular_of_isDelivery (hψ.deliveries task htask)) hemptied

/-- Tasks that wait become ready at the moment at which they are due. -/
theorem Punctual.moveTo {now : Nat} (hw : w.Punctual n interval now tickers [] φ)
    (hready : w.ready = []) {time : Nat} (htime : ∀ t ∈ w.timers, time ≤ t.due) :
    (w.moveTo time).Awaits n interval tickers φ := by
  have hdue : ∀ t ∈ w.timers.filter (·.due ≤ time), t.due = time := by
    intro t ht
    obtain ⟨hmem, hle⟩ := List.mem_filter.mp ht
    exact Nat.le_antisymm (of_decide_eq_true hle) (htime t hmem)
  have hbecome : (w.moveTo time).ready.flatMap (Task.appointments n time) =
      (w.timers.filter (·.due ≤ time)).flatMap fun t => t.task.appointments n t.due := by
    rw [World.moveTo, hready, List.nil_append, List.flatMap_map]
    exact List.flatMap_congr fun t ht => by rw [hdue t ht]
  refine ⟨⟨rfl, hw.tickers_eq, ?_, ?_, ?_, ?_⟩, ?_⟩
  · rw [show (w.moveTo time).now = time from rfl, hbecome]
    refine List.Perm.trans ?_ hw.fits
    rw [List.nil_append, ← List.flatMap_append]
    exact (List.filter_append_perm _ w.timers).flatMap_right _
  · intro t ht
    have hlater : time < t.due := by simpa using (List.mem_filter.mp ht).2
    exact hlater
  · intro t ht
    exact hw.regular t (List.mem_of_mem_filter ht)
  · intro task htask
    cases htask
  · intro task htask
    rw [World.moveTo, hready, List.nil_append] at htask
    obtain ⟨t, ht, rfl⟩ := List.mem_map.mp htask
    exact hw.regular t (List.mem_of_mem_filter ht)

theorem nextTime?_eq_some {time : Nat} (htime : w.nextTime? = some time) :
    (∃ t ∈ w.timers, t.due = time) ∧ ∀ t ∈ w.timers, time ≤ t.due := by
  obtain ⟨hmem, hle⟩ := List.min?_eq_some_iff.mp htime
  refine ⟨List.mem_map.mp hmem, fun t ht => hle t.due (List.mem_map_of_mem ht)⟩

theorem timers_of_nextTime? (hnone : w.nextTime? = none) : w.timers = [] := by
  rw [nextTime?, List.min?_eq_none_iff, List.map_eq_nil_iff] at hnone
  exact hnone

/-- The main flow waits. A second is enough fuel for a second, since no two moments on the way are
the same. -/
theorem Awaits.waitUntil (hw : w.Awaits n interval tickers φ) (fuel time : Nat)
    (htime : w.now ≤ time) (hfuel : time - w.now ≤ fuel) :
    φ.Leads interval (tellWait (taskBook n) fuel time w)
      ((waitUntil fuel time w).Awaits n interval tickers) := by
  induction fuel generalizing w φ with
  | zero =>
      obtain ⟨hsettled, hready⟩ := hw.settle
      have hnow : time = w.now := by omega
      rw [tellWait, ← List.append_nil (w.tellSettle (taskBook n))]
      refine hsettled.andThen fun ψ hψ => .now (hψ.moveTo hready fun t ht => ?_)
      exact hnow ▸ Nat.le_of_lt (hψ.ahead t ht)
  | succ fuel ih =>
      obtain ⟨hsettled, hready⟩ := hw.settle
      simp only [World.waitUntil, tellWait]
      refine hsettled.andThen fun ψ hψ => ?_
      cases hnext : w.settle.nextTime? with
      | none =>
          refine .now (hψ.moveTo hready fun t ht => ?_)
          rw [timers_of_nextTime? hnext] at ht
          cases ht
      | some soonest =>
          obtain ⟨⟨t, ht, rfl⟩, hsoonest⟩ := nextTime?_eq_some hnext
          have hlater := hψ.ahead t ht
          simp only
          split
          next hlt =>
            have hmoved := hψ.moveTo hready hsoonest
            refine ih hmoved (Nat.le_of_lt hlt) ?_
            have hnow : (w.settle.moveTo t.due).now = t.due := rfl
            omega
          next hnot =>
            have hlast : ∀ t' ∈ w.settle.timers, time ≤ t'.due := fun t' ht' =>
              Nat.le_trans (Nat.le_of_not_lt hnot) (hsoonest t' ht')
            exact .now (hψ.moveTo hready hlast)

theorem Awaits.sleep (hw : w.Awaits n interval tickers φ) (seconds : Nat) :
    φ.Leads interval (w.tellSleep (taskBook n) seconds) ((w.sleep seconds).Awaits n interval tickers) := by
  unfold World.sleep tellSleep
  split
  next => exact .now hw
  next => exact hw.waitUntil seconds _ (Nat.le_add_right _ _) (by omega)

/-- A world in which no task is ready stays as it is. -/
theorem Punctual.awaits (hw : w.Punctual n interval w.now tickers [] φ) (hready : w.ready = []) :
    w.Awaits n interval tickers φ := by
  refine ⟨?_, ?_⟩
  · rw [hready, List.flatMap_nil]
    exact { hw with deliveries := fun _ hnone => by cases hnone }
  · rw [hready]
    exact fun _ hnone => by cases hnone

theorem Awaits.joinSlot (hw : w.Awaits n interval tickers φ) (slot fuel : Nat) :
    φ.Leads interval (tellJoin (taskBook n) slot fuel w)
      ((joinSlot slot fuel w).Awaits n interval tickers) := by
  induction fuel generalizing w φ with
  | zero => exact .now hw
  | succ fuel ih =>
      simp only [World.joinSlot, tellJoin]
      obtain ⟨hsettled, hready⟩ := hw.settle
      have hstays : ∀ ψ, w.settle.Punctual n interval w.now tickers [] ψ →
          ψ.Leads interval [] (w.settle.Awaits n interval tickers) := by
        intro ψ hψ
        rw [← hψ.now_eq] at hψ
        exact .now (hψ.awaits hready)
      match w.results[slot]? with
      | none => exact .now hw
      | some (some r) => exact .now hw
      | some none =>
          refine hsettled.andThen fun ψ hψ => ?_
          match w.settle.results[slot]? with
          | none => exact hstays ψ hψ
          | some (some r) => exact hstays ψ hψ
          | some none =>
              cases hnext : w.settle.nextTime? with
              | none => exact hstays ψ hψ
              | some soonest => exact ih (hψ.moveTo hready (nextTime?_eq_some hnext).2)

end Time

/-! ## Acts -/

section Acts

variable {n interval tickers : Nat} {φ : Phase} {w : World}

theorem Awaits.talks (hw : w.Awaits n interval tickers φ) {w' : World} (htalks : Talks w w') :
    w'.Awaits n interval tickers φ := by
  obtain ⟨calls, hready, hcalls⟩ := htalks.ready_eq
  have hemptied : Talks { w with ready := [] } { w' with ready := [] } :=
    .of_eq htalks.now_eq htalks.ended_eq htalks.timers_eq rfl
  have hpunctual := hw.punctual.talks hemptied
  rw [← htalks.now_eq] at hpunctual
  refine ⟨?_, fun task htask => ?_⟩
  · rw [hready, List.flatMap_append, flatMap_deliveries hcalls, List.append_nil]
    exact hpunctual
  · rw [hready] at htask
    rcases List.mem_append.mp htask with hmem | hmem
    · exact hw.regular task hmem
    · exact Task.regular_of_isDelivery (hcalls task hmem)

/-- A task becomes ready. -/
theorem Awaits.enqueue (hw : w.Awaits n interval tickers φ) (task : Task) (htask : task.Regular)
    {ψ : Phase} (hfits : (task.appointments n w.now ++ φ.appointments interval).Perm
      (ψ.appointments interval)) :
    ({ w with ready := w.ready ++ [task] } : World).Awaits n interval tickers ψ := by
  refine ⟨{ hw.punctual with fits := ?_ }, fun other hother => ?_⟩
  · refine List.Perm.trans ?_ hfits
    refine List.Perm.trans ?_ (hw.punctual.fits.append_left _)
    rw [List.flatMap_append, List.flatMap_singleton, ← List.append_assoc]
    exact List.perm_append_comm.append_right _
  · rcases List.mem_append.mp hother with hmem | hmem
    · exact hw.regular other hmem
    · obtain rfl := List.mem_singleton.mp hmem
      exact htask

/-- A ticker is made. -/
theorem Awaits.addTicker (hw : w.Awaits n interval tickers φ) (cache : Nat) (o : Output) {ψ : Phase}
    (hfits : ((Task.ticker tickers cache o).appointments n w.now ++ φ.appointments interval).Perm
      (ψ.appointments interval)) :
    (w.addTicker cache o).2.Awaits n interval (tickers + 1) ψ := by
  have htickers : w.ended.length = tickers := hw.punctual.tickers_eq
  have hqueued := hw.enqueue (.ticker tickers cache o) trivial hfits
  have hcount : (w.ended ++ [false]).length = tickers + 1 := by simp [htickers]
  simp only [World.addTicker, htickers]
  exact ⟨{ hqueued.punctual with tickers_eq := hcount }, hqueued.regular⟩

/-- An act of the main flow. If it makes a ticker, that is another one. -/
theorem Awaits.act (hw : w.Awaits n interval tickers φ) (a : Act)
    (hother : a.spawns = 0 ∨ tickers ≠ n) :
    φ.Leads interval (w.tellAct (taskBook n) a) ((w.act a).Awaits n interval (tickers + a.spawns)) := by
  cases a with
  | sleep seconds => exact hw.sleep seconds
  | settle =>
      obtain ⟨hsettled, hready⟩ := hw.settle
      rw [tellAct, ← List.append_nil (w.tellSettle (taskBook n))]
      refine hsettled.andThen fun ψ hψ => ?_
      rw [← hψ.now_eq] at hψ
      exact .now (hψ.awaits hready)
  | «begin» purpose o => exact .now (hw.talks (talks_beginCycle w purpose o))
  | resume c outcome => exact .now (hw.talks (talks_resumeCycle w c outcome))
  | carryOut effects => exact .now (hw.talks (talks_applyAll w effects))
  | store caches =>
      have hstored : w.Talks { w with caches := caches } := .of_eq rfl rfl rfl rfl
      exact .now (hw.talks hstored)
  | setPlan url plan =>
      have hplanned : w.Talks { w with plans := w.plans.set url plan } := .of_eq rfl rfl rfl rfl
      exact .now (hw.talks hplanned)
  | join slot fuel => exact hw.joinSlot slot fuel
  | queue cache o =>
      have hkept : w.Talks { w with results := w.results ++ [none] } := .of_eq rfl rfl rfl rfl
      have hqueued := (hw.talks hkept).enqueue
        (.refresh (.background w.results.length) cache o) trivial (.refl _)
      exact .now hqueued
  | spawn cache o =>
      have hnone : (Task.ticker tickers cache o).appointments n w.now = [] :=
        if_neg (hother.resolve_left Nat.one_ne_zero)
      refine .now (hw.addTicker cache o ?_)
      rw [hnone]
      exact .refl _

/-- Whatever the main flow does, what a ticker does comes at its time. The ticker is there already,
or none of the acts makes it. -/
theorem Awaits.actAll (hw : w.Awaits n interval tickers φ) (acts : List Act)
    (hother : n < tickers ∨ tickers + spawns acts ≤ n) :
    φ.Leads interval (w.book n acts)
      ((w.actAll acts).Awaits n interval (tickers + spawns acts)) := by
  induction acts generalizing w tickers φ with
  | nil => exact .now hw
  | cons a acts ih =>
      have hspawns : spawns (a :: acts) = a.spawns + spawns acts := rfl
      rw [hspawns] at hother
      have hact := hw.act a (by omega)
      rw [hspawns, ← Nat.add_assoc]
      exact hact.andThen fun ψ hψ => ih hψ (by omega)

theorem awaits_quiet (n interval : Nat) (tools : Nat → Tools) (plans : Dictionary Plan)
    (sinks : List Sink) : (quiet tools plans sinks).Awaits n interval 0 .absent where
  punctual :=
    { now_eq := rfl
      tickers_eq := rfl
      fits := .refl _
      ahead := fun _ hnone => by cases hnone
      regular := fun _ hnone => by cases hnone
      deliveries := fun _ hnone => by cases hnone }
  regular := fun _ hnone => by cases hnone

end Acts

/-! ## Overdue -/

theorem le_of_mem_appointments {n time : Nat} {task : Task} {a : Appointment}
    (ha : a ∈ task.appointments n time) : time ≤ a.time := by
  have howner : ∀ (owner : Owner) (busy : Bool), a ∈ owner.appointments n time busy →
      time ≤ a.time := by
    intro owner busy hmem
    cases owner with
    | background slot => cases hmem
    | ticker slot due gap =>
        simp only [Owner.appointments] at hmem
        split at hmem
        next =>
          obtain rfl := List.mem_singleton.mp hmem
          exact Nat.le_refl _
        next => cases hmem
  cases task with
  | deliver => cases ha
  | refresh owner cache o => exact howner owner false ha
  | resume owner cache c outcome => exact howner owner true ha
  | ticker slot cache o =>
      simp only [Task.appointments] at ha
      split at ha
      next =>
        obtain ⟨due, hdue, rfl⟩ := List.mem_map.mp ha
        obtain ⟨rfl, _⟩ := firstDue?_eq_some (Option.mem_toList.mp hdue)
        exact Nat.le_add_right _ _
      next => cases ha

/-- Nothing that a ticker is to do is overdue. -/
theorem Awaits.now_le {n interval tickers : Nat} {φ : Phase} {w : World}
    (hw : w.Awaits n interval tickers φ) {time : Nat} (htime : φ.time? = some time) :
    w.now ≤ time := by
  obtain ⟨a, ha, rfl⟩ : ∃ a ∈ φ.appointments interval, a.time = time := by
    cases φ with
    | absent => cases htime
    | awaits due => exact ⟨_, List.mem_singleton_self _, Option.some.inj htime⟩
    | works start spent => exact ⟨_, List.mem_singleton_self _, Option.some.inj htime⟩
  rcases List.mem_append.mp (hw.punctual.fits.mem_iff.mpr ha) with hready | hwaits
  · obtain ⟨task, _, hmem⟩ := List.mem_flatMap.mp hready
    exact le_of_mem_appointments hmem
  · obtain ⟨t, ht, hmem⟩ := List.mem_flatMap.mp hwaits
    exact Nat.le_trans (Nat.le_of_lt (hw.punctual.ahead t ht)) (le_of_mem_appointments hmem)

/-! ## Tickers that are made -/

section Spawned

variable (tools : Nat → Tools) (plans : Dictionary Plan) (sinks : List Sink)

/-- Tickers are numbered in the order in which they are made. -/
theorem length_ended_actAll (acts : List Act) :
    ((quiet tools plans sinks).actAll acts).ended.length = spawns acts := by
  obtain ⟨_, _, hw⟩ := (awaits_quiet (spawns acts) 0 tools plans sinks).actAll acts
    (.inr (Nat.le_of_eq (Nat.zero_add _)))
  rw [hw.punctual.tickers_eq, Nat.zero_add]

/-- Whatever the main flow does before and after it makes a ticker, what the ticker does comes at
its time, from the phase on that fits its start. -/
theorem leads_of_spawn (before after : List Act) (cache : Nat) (o : Output) (interval : Nat)
    {φ : Phase} (hfits : ((Task.ticker (spawns before) cache o).appointments (spawns before)
      ((quiet tools plans sinks).actAll before).now).Perm (φ.appointments interval)) :
    φ.Leads interval
      ((quiet tools plans sinks).book (spawns before) (before ++ .spawn cache o :: after))
      (((quiet tools plans sinks).actAll (before ++ .spawn cache o :: after)).Awaits (spawns before)
        interval (spawns before + 1 + spawns after)) := by
  obtain ⟨ψ, hbefore, hw⟩ := (awaits_quiet (spawns before) interval tools plans sinks).actAll
    before (.inr (Nat.le_of_eq (Nat.zero_add _)))
  obtain ⟨hnothing, rfl⟩ := Phase.run?_absent hbefore
  rw [Nat.zero_add] at hw
  generalize hmade : (quiet tools plans sinks).actAll before = w at hw hfits
  have hstarted := hw.addTicker cache o (ψ := φ) (by
    rw [Phase.appointments, List.append_nil]
    exact hfits)
  have hbook : (quiet tools plans sinks).book (spawns before) (before ++ .spawn cache o :: after) =
      (w.addTicker cache o).2.book (spawns before) after := by
    rw [book, tellAll_append, ← book, hnothing, hmade]
    rfl
  have hworld : (quiet tools plans sinks).actAll (before ++ .spawn cache o :: after) =
      (w.addTicker cache o).2.actAll after := by
    rw [actAll_append, hmade]
    rfl
  rw [hbook, hworld]
  exact hstarted.actAll after (.inl (Nat.lt_succ_self _))

/-- Whatever the main flow does before and after it makes a ticker, and whatever fetching gives in
the meantime, the ticker keeps its timetable. -/
theorem keepsTimetable_of_spawn (before after : List Act) (cache : Nat) (o : Output)
    (hpos : 0 < o.refreshSeconds)
    (hlast : ((quiet tools plans sinks).actAll before).now + o.refreshSeconds ≤ lastSecond) :
    KeepsTimetable o.refreshSeconds
      (((quiet tools plans sinks).actAll before).now + o.refreshSeconds)
      ((quiet tools plans sinks).actAll (before ++ .spawn cache o :: after)).now
      ((quiet tools plans sinks).book (spawns before) (before ++ .spawn cache o :: after)) := by
  have hfirst := firstDue?_of_le hpos hlast
  obtain ⟨ψ, hrun, hlater⟩ := leads_of_spawn tools plans sinks before after cache o
    o.refreshSeconds (φ := .awaits
      (((quiet tools plans sinks).actAll before).now + o.refreshSeconds)) (by
        simp [Task.appointments, hfirst, Phase.appointments])
  obtain ⟨time, htime⟩ := Phase.exists_time_of_run? (fun habsent => by cases habsent) hrun
  exact keepsTimetable_of_run? hrun htime (hlater.now_le htime)

/-- A ticker whose first due time the clock does not reach does nothing. -/
theorem book_eq_nil_of_spawn (before after : List Act) (cache : Nat) (o : Output)
    (hnone : firstDue? ((quiet tools plans sinks).actAll before).now o.refreshSeconds = none) :
    (quiet tools plans sinks).book (spawns before) (before ++ .spawn cache o :: after) = [] := by
  obtain ⟨ψ, hrun, _⟩ := leads_of_spawn tools plans sinks before after cache o o.refreshSeconds
    (φ := .absent) (by simp [Task.appointments, hnone, Phase.appointments])
  exact (Phase.run?_absent hrun).1

end Spawned

end World

end Almanac.Service
