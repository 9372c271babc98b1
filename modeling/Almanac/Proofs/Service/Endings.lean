import Almanac.Proofs.Service.Cadence

/-!
# Tickers that end

A ticker computes its first due time when it runs for the first time, which is at the moment at
which it was made. If the clock does not reach as far it ends there, and otherwise it never
ends: whatever the main flow does, nothing but the start of a ticker ends it, and no ticker is
started twice.
-/

namespace Almanac.Service

open Config (Output)
open Merge (Merged MergeFailure Outcome)

namespace Task

/-- The task ends ticker `n` if it runs at a time. -/
def ends (n time : Nat) : Task → Bool
  | .ticker slot _ o => slot == n && (firstDue? time o.refreshSeconds).isNone
  | _ => false

/-- The task starts a ticker. -/
def IsTicker : Task → Prop
  | .ticker .. => True
  | _ => False

theorem ends_of_not_isTicker {task : Task} (htask : ¬task.IsTicker) (n time : Nat) :
    task.ends n time = false := by
  cases task with
  | ticker => exact absurd trivial htask
  | _ => rfl

theorem not_isTicker_of_isDelivery {task : Task} (htask : task.IsDelivery) : ¬task.IsTicker := by
  cases task with
  | deliver => exact id
  | _ => cases htask

end Task

namespace World

/-! ## Tasks -/

/-- Tasks have run. Time has not moved on, the tickers have ended that they end, no more than
deliveries have become ready, and no start of a ticker has begun to wait. -/
structure Ran (tasks : List Task) (w w' : World) : Prop where
  now_eq : w'.now = w.now
  ended_eq : ∀ n, w'.ended[n]? = w.ended[n]?.map (· || tasks.any (Task.ends n w.now))
  ready_eq : ∃ calls : List Task, w'.ready = w.ready ++ calls ∧ ∀ task ∈ calls, task.IsDelivery
  timers_eq : ∃ later : List Timer, w'.timers = w.timers ++ later ∧ ∀ t ∈ later, ¬t.task.IsTicker

namespace Ran

theorem of_talks {w w' : World} (h : Talks w w') : Ran [] w w' where
  now_eq := h.now_eq
  ended_eq n := by simp [h.ended_eq]
  ready_eq := h.ready_eq
  timers_eq := ⟨[], by rw [h.timers_eq, List.append_nil], fun _ hnone => by cases hnone⟩

theorem trans {first second : List Task} {w w' w'' : World} (h : Ran first w w')
    (h' : Ran second w' w'') : Ran (first ++ second) w w'' := by
  obtain ⟨calls, hready, hcalls⟩ := h.ready_eq
  obtain ⟨calls', hready', hcalls'⟩ := h'.ready_eq
  obtain ⟨later, htimers, hlater⟩ := h.timers_eq
  obtain ⟨later', htimers', hlater'⟩ := h'.timers_eq
  refine ⟨h'.now_eq.trans h.now_eq, fun n => ?_, ⟨calls ++ calls', ?_, fun task htask => ?_⟩,
    ⟨later ++ later', ?_, fun t ht => ?_⟩⟩
  · rw [h'.ended_eq, h.ended_eq, h.now_eq, Option.map_map, List.any_append]
    simp [Function.comp_def, Bool.or_assoc]
  · rw [hready', hready, List.append_assoc]
  · exact (List.mem_append.mp htask).elim (hcalls task) (hcalls' task)
  · rw [htimers', htimers, List.append_assoc]
  · exact (List.mem_append.mp ht).elim (hlater t) (hlater' t)

theorem length_eq {tasks : List Task} {w w' : World} (h : Ran tasks w w') :
    w'.ended.length = w.ended.length := by
  have hnone (n : Nat) : w'.ended.length ≤ n ↔ w.ended.length ≤ n := by
    rw [← List.getElem?_eq_none_iff, ← List.getElem?_eq_none_iff, h.ended_eq,
      Option.map_eq_none_iff]
  exact Nat.le_antisymm ((hnone _).mpr (Nat.le_refl _)) ((hnone _).mp (Nat.le_refl _))

/-- A task that starts no ticker ends none. -/
theorem of_not_isTicker {w w' : World} (h : Ran [] w w') {task : Task} (htask : ¬task.IsTicker) :
    Ran [task] w w' :=
  { h with ended_eq := fun n => by simp [h.ended_eq, Task.ends_of_not_isTicker htask] }

end Ran

theorem ran_wait (w : World) (due : Nat) {task : Task} (htask : ¬task.IsTicker) :
    Ran [] w (w.wait due task) where
  now_eq := rfl
  ended_eq n := by simp [World.wait]
  ready_eq := ⟨[], (List.append_nil _).symm, fun _ hnone => by cases hnone⟩
  timers_eq := ⟨[⟨due, task⟩], rfl, fun t ht => List.mem_singleton.mp ht ▸ htask⟩

theorem ran_pauseRefresh {again : Owner → World → World}
    (hagain : ∀ owner w, Ran [] w (again owner w)) (owner : Owner) (cache : Nat) (o : Output)
    (paused : Pause × World) : Ran [] paused.2 (pauseRefresh again owner cache o paused) := by
  obtain ⟨pause, w⟩ := paused
  cases pause with
  | waits due c outcome => exact ran_wait w due id
  | ended r =>
      have hclosed : Ran [] w (w.closeRefresh cache r) := .of_talks (.of_eq rfl rfl rfl rfl)
      cases owner with
      | background slot => exact .of_talks (.of_eq rfl rfl rfl rfl)
      | ticker slot due interval =>
          simp only [pauseRefresh]
          split
          next => exact hclosed.trans (hagain _ _)
          next => exact hclosed.trans (ran_wait _ due id)

theorem ran_runRefresh {again : Owner → World → World}
    (hagain : ∀ owner w, Ran [] w (again owner w)) (owner : Owner) (cache : Nat) (o : Output)
    (w : World) : Ran [] w (runRefresh again owner cache o w) := by
  have hopened : Ran [] w (w.updateCache cache Cache.opened) := .of_talks (.of_eq rfl rfl rfl rfl)
  exact (hopened.trans (.of_talks (talks_beginCycle _ .refresh o))).trans
    (ran_pauseRefresh hagain owner cache o _)

theorem ran_runLate (cache : Nat) (o : Output) (owner : Owner) (w : World) :
    Ran [] w (runLate cache o owner w) := by
  refine ran_runRefresh (fun owner w => ?_) owner cache o w
  cases owner with
  | background slot => exact .of_talks (.refl w)
  | ticker slot due interval => exact ran_wait w due id

theorem ran_runTask (w : World) (task : Task) : Ran [task] w (w.runTask task) := by
  cases task with
  | deliver place sink text =>
      refine Ran.of_not_isTicker ?_ id
      cases sink <;> exact .of_talks (.of_eq rfl rfl rfl rfl)
  | refresh owner cache o =>
      exact (ran_runRefresh (ran_runLate cache o) owner cache o w).of_not_isTicker id
  | resume owner cache c outcome =>
      exact ((Ran.of_talks (talks_resumeCycle w c outcome)).trans
        (ran_pauseRefresh (ran_runLate cache c.output) owner cache c.output _)).of_not_isTicker id
  | ticker slot cache o =>
      simp only [runTask]
      split
      next hnone =>
        refine ⟨rfl, fun n => ?_, ⟨[], (List.append_nil _).symm, fun _ hno => by cases hno⟩,
          ⟨[], (List.append_nil _).symm, fun _ hno => by cases hno⟩⟩
        by_cases hslot : slot = n
        · subst hslot
          simp [Task.ends, hnone, List.getElem?_set_self']
          rfl
        · have hother : (slot == n) = false := beq_false_of_ne hslot
          simp [Task.ends, hslot, hother]
      next due hdue =>
        have hwaits : Ran [] w (w.wait due (.refresh
            (.ticker slot (due + o.refreshSeconds) o.refreshSeconds) cache o)) := ran_wait w due id
        exact { hwaits with ended_eq := fun n => by simp [World.wait, Task.ends, hdue] }

theorem ran_runTasks (tasks : List Task) (w : World) : Ran tasks w (tasks.foldl runTask w) := by
  induction tasks generalizing w with
  | nil => exact .of_talks (.refl w)
  | cons task tasks ih => exact (ran_runTask w task).trans (ih _)

/-! ## Worlds between rounds -/

/-- Whether ticker `n`, if there is one, has ended when the tasks have run that are ready. -/
def ending? (w : World) (n : Nat) : Option Bool :=
  w.ended[n]?.map (· || w.ready.any (Task.ends n w.now))

/-- All tickers that are still to start are ready, and are counted already. -/
structure Enlists (w : World) : Prop where
  ready : ∀ slot cache o, .ticker slot cache o ∈ w.ready → slot < w.ended.length
  timers : ∀ t ∈ w.timers, ¬t.task.IsTicker

/-- Nothing is changed of how tickers end, and none is left out. -/
structure KeepsEndings (w w' : World) : Prop where
  enlists : w'.Enlists
  ending_eq : ∀ n, n < w.ended.length → w'.ending? n = w.ending? n
  length_le : w.ended.length ≤ w'.ended.length

namespace KeepsEndings

theorem trans {w w' w'' : World} (h : KeepsEndings w w') (h' : KeepsEndings w' w'') :
    KeepsEndings w w'' :=
  ⟨h'.enlists, fun n hn => (h'.ending_eq n (Nat.lt_of_lt_of_le hn h.length_le)).trans
    (h.ending_eq n hn), Nat.le_trans h.length_le h'.length_le⟩

end KeepsEndings

theorem any_ends_eq_false {tasks : List Task} (htasks : ∀ task ∈ tasks, ¬task.IsTicker)
    (n time : Nat) : tasks.any (Task.ends n time) = false := by
  rw [List.any_eq_false]
  intro task htask
  rw [Task.ends_of_not_isTicker (htasks task htask)]
  exact Bool.false_ne_true

section Acts

variable {w : World}

theorem Enlists.keeps (hw : w.Enlists) : KeepsEndings w w := ⟨hw, fun _ _ => rfl, Nat.le_refl _⟩

/-- More tasks become ready or wait that start no tickers. -/
theorem Enlists.keeps_of_more (hw : w.Enlists) {w' : World} (hnow : w'.now = w.now)
    (hended : w'.ended = w.ended)
    (hready : ∃ calls : List Task, w'.ready = w.ready ++ calls ∧ ∀ task ∈ calls, ¬task.IsTicker)
    (htimers : w'.timers = w.timers) : KeepsEndings w w' := by
  obtain ⟨calls, hready, hcalls⟩ := hready
  refine ⟨⟨fun slot cache o hmem => ?_, htimers ▸ hw.timers⟩, fun n _ => ?_,
    Nat.le_of_eq (congrArg List.length hended.symm)⟩
  · rw [hready] at hmem
    rcases List.mem_append.mp hmem with hmem | hmem
    · exact hended ▸ hw.ready slot cache o hmem
    · exact absurd trivial (hcalls _ hmem)
  · rw [ending?, ending?, hnow, hended, hready, List.any_append, any_ends_eq_false hcalls,
      Bool.or_false]

theorem ran_runRound (w : World) : Ran w.ready { w with ready := [] } w.runRound :=
  ran_runTasks w.ready _

/-- The first round runs all tasks that are ready, and the second one deliveries alone. -/
theorem ran_settle (w : World) :
    Ran w.ready { w with ready := [] } w.settle ∧ w.settle.ready = [] := by
  have hfirst := ran_runRound w
  have hsecond := ran_runRound w.runRound
  obtain ⟨calls, hready, hcalls⟩ := hfirst.ready_eq
  obtain ⟨later, htimers, hlater⟩ := hfirst.timers_eq
  obtain ⟨later', htimers', hlater'⟩ := hsecond.timers_eq
  have hdeliveries : ∀ task ∈ w.runRound.ready, task.IsDelivery := by
    rw [hready, List.nil_append]
    exact hcalls
  have hsettled : w.settle.ready = [] := runTasks_deliveries hdeliveries _
  refine ⟨⟨hsecond.now_eq.trans hfirst.now_eq, fun n => ?_, ⟨[], hsettled, by simp⟩,
    ⟨later ++ later', ?_, fun t ht => ?_⟩⟩, hsettled⟩
  · have hnone := any_ends_eq_false (fun task htask =>
      Task.not_isTicker_of_isDelivery (hdeliveries task htask)) n w.runRound.now
    rw [World.settle, hsecond.ended_eq n, hnone, ← hfirst.ended_eq n]
    simp
  · rw [World.settle, htimers', htimers, List.append_assoc]
  · exact (List.mem_append.mp ht).elim (hlater t) (hlater' t)

/-- When all tasks wait, the tickers have ended that were to end. -/
theorem ended_settle (w : World) (n : Nat) : w.settle.ended[n]? = w.ending? n :=
  (ran_settle w).1.ended_eq n

theorem ending?_of_ready {w : World} (hready : w.ready = []) (n : Nat) :
    w.ending? n = w.ended[n]? := by
  simp [ending?, hready]

theorem Enlists.settle (hw : w.Enlists) : KeepsEndings w w.settle := by
  obtain ⟨hran, hready⟩ := ran_settle w
  obtain ⟨later, htimers, hlater⟩ := hran.timers_eq
  refine ⟨⟨fun slot cache o hmem => ?_, fun t ht => ?_⟩, fun n _ => ?_,
    Nat.le_of_eq hran.length_eq.symm⟩
  · rw [hready] at hmem
    cases hmem
  · rw [htimers] at ht
    exact (List.mem_append.mp ht).elim (hw.timers t) (hlater t)
  · rw [ending?_of_ready hready, ended_settle]

/-- Time moves on when no task is ready. -/
theorem Enlists.moveTo (hw : w.Enlists) (hready : w.ready = []) (time : Nat) :
    KeepsEndings w (w.moveTo time) := by
  have hbecome : ∀ task ∈ (w.moveTo time).ready, ¬task.IsTicker := by
    intro task htask
    rw [World.moveTo, hready, List.nil_append] at htask
    obtain ⟨t, ht, rfl⟩ := List.mem_map.mp htask
    exact hw.timers t (List.mem_of_mem_filter ht)
  refine ⟨⟨fun slot cache o hmem => absurd trivial (hbecome _ hmem), fun t ht => ?_⟩, fun n _ => ?_,
    Nat.le_refl _⟩
  · exact hw.timers t (List.mem_of_mem_filter ht)
  · rw [ending?_of_ready hready, ending?, any_ends_eq_false hbecome]
    simp [World.moveTo]

theorem Enlists.waitUntil (hw : w.Enlists) (fuel time : Nat) :
    KeepsEndings w (waitUntil fuel time w) := by
  induction fuel generalizing w with
  | zero =>
      have hsettled := hw.settle
      exact hsettled.trans (hsettled.enlists.moveTo (ran_settle w).2 time)
  | succ fuel ih =>
      have hsettled := hw.settle
      have hmoved (t : Nat) := hsettled.trans (hsettled.enlists.moveTo (ran_settle w).2 t)
      simp only [World.waitUntil]
      split
      next t _ =>
        split
        next => exact (hmoved t).trans (ih (hmoved t).enlists)
        next => exact hmoved time
      next => exact hmoved time

theorem Enlists.joinSlot (hw : w.Enlists) (slot fuel : Nat) :
    KeepsEndings w (joinSlot slot fuel w) := by
  induction fuel generalizing w with
  | zero => exact hw.keeps
  | succ fuel ih =>
      have hsettled := hw.settle
      have hmoved (t : Nat) := hsettled.trans (hsettled.enlists.moveTo (ran_settle w).2 t)
      simp only [World.joinSlot]
      split
      next =>
        split
        next =>
          split
          next t _ => exact (hmoved t).trans (ih (hmoved t).enlists)
          next => exact hsettled
        next => exact hsettled
      next => exact hw.keeps

/-- A ticker ends just if its first due time cannot be shown by the clock. -/
theorem Enlists.addTicker (hw : w.Enlists) (cache : Nat) (o : Output) :
    KeepsEndings w (w.addTicker cache o).2 ∧
      (w.addTicker cache o).2.ending? w.ended.length =
        some (firstDue? w.now o.refreshSeconds).isNone := by
  have hothers : w.ready.any (Task.ends w.ended.length w.now) = false := by
    rw [List.any_eq_false]
    intro task htask hends
    cases task with
    | ticker slot cache o =>
        have hlt := hw.ready slot cache o htask
        simp only [Task.ends, Bool.and_eq_true, beq_iff_eq] at hends
        omega
    | _ => cases hends
  refine ⟨⟨⟨fun slot cache' o' hmem => ?_, hw.timers⟩, fun n hn => ?_, ?_⟩, ?_⟩
  · rw [World.addTicker, List.length_append]
    rcases List.mem_append.mp hmem with hmem | hmem
    · exact Nat.lt_add_right _ (hw.ready slot cache' o' hmem)
    · obtain ⟨rfl, _, _⟩ := Task.ticker.inj (List.mem_singleton.mp hmem)
      exact Nat.lt_succ_self _
  · have hother : (w.ended.length == n) = false := beq_false_of_ne (Nat.ne_of_gt hn)
    simp [ending?, World.addTicker, Task.ends, List.getElem?_append_left hn, hother]
  · simp [World.addTicker]
  · simp [ending?, World.addTicker, Task.ends, hothers]

theorem Enlists.act (hw : w.Enlists) (a : Act) : KeepsEndings w (w.act a) := by
  have htalks {w' : World} (htalks : Talks w w') : KeepsEndings w w' := by
    obtain ⟨calls, hready, hcalls⟩ := htalks.ready_eq
    exact hw.keeps_of_more htalks.now_eq htalks.ended_eq
      ⟨calls, hready, fun task htask => Task.not_isTicker_of_isDelivery (hcalls task htask)⟩
      htalks.timers_eq
  cases a with
  | sleep seconds =>
      simp only [World.act, World.sleep]
      split
      next => exact hw.keeps
      next => exact hw.waitUntil _ _
  | settle => exact hw.settle
  | «begin» purpose o => exact htalks (talks_beginCycle w purpose o)
  | resume c outcome => exact htalks (talks_resumeCycle w c outcome)
  | carryOut effects => exact htalks (talks_applyAll w effects)
  | store caches => exact hw.keeps_of_more rfl rfl ⟨[], (List.append_nil _).symm, by simp⟩ rfl
  | setPlan url plan => exact hw.keeps_of_more rfl rfl ⟨[], (List.append_nil _).symm, by simp⟩ rfl
  | join slot fuel => exact hw.joinSlot slot fuel
  | queue cache o =>
      exact hw.keeps_of_more rfl rfl ⟨[.refresh (.background w.results.length) cache o], rfl,
        fun task htask => List.mem_singleton.mp htask ▸ id⟩ rfl
  | spawn cache o => exact (hw.addTicker cache o).1

theorem Enlists.actAll (hw : w.Enlists) (acts : List Act) : KeepsEndings w (w.actAll acts) := by
  induction acts generalizing w with
  | nil => exact hw.keeps
  | cons a acts ih => exact (hw.act a).trans (ih (hw.act a).enlists)

end Acts

theorem enlists_quiet (tools : Nat → Tools) (plans : Dictionary Plan) (sinks : List Sink) :
    (quiet tools plans sinks).Enlists where
  ready slot cache o hmem := by cases hmem
  timers t ht := by cases ht

/-- Whatever the main flow does before and after it makes a ticker, the ticker has ended, once all
tasks wait, just if the clock did not reach its first due time. -/
theorem ended_of_spawn (tools : Nat → Tools) (plans : Dictionary Plan) (sinks : List Sink)
    (before after : List Act) (cache : Nat) (o : Output) :
    let made := (quiet tools plans sinks).actAll before
    ((quiet tools plans sinks).actAll (before ++ .spawn cache o :: after)).settle.ended[
      made.ended.length]? = some (firstDue? made.now o.refreshSeconds).isNone := by
  intro made
  have hmade := ((enlists_quiet tools plans sinks).actAll before).enlists
  obtain ⟨hstarted, hending⟩ := hmade.addTicker cache o
  have hlater := hstarted.enlists.actAll after
  have hcounted : made.ended.length < (made.addTicker cache o).2.ended.length := by
    simp [addTicker]
  have hworld : (quiet tools plans sinks).actAll (before ++ .spawn cache o :: after) =
      (made.addTicker cache o).2.actAll after := by
    rw [actAll_append]
    rfl
  rw [hworld, ended_settle, hlater.ending_eq _ hcounted, hending]

end World

end Almanac.Service
