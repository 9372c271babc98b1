import Almanac.Proofs.Service.Mirror
import Almanac.Proofs.Service.TimedRun

/-!
# The clock is a traffic

However tasks, the main flow and the clock take turns, what the service does is a
stretch of moves of a traffic. Every task is followed from its start to its next pause,
and then rounds of tasks, waiting, and starts.
-/

namespace Almanac.Service

open Config (Feed Output)
open Merge (Merged MergeFailure Outcome)

namespace Traffic

/-- Some moves lead to a traffic of which this holds. -/
def CanReach (t : Traffic) (P : Traffic → Prop) : Prop := ∃ moves, P (t.play moves)

namespace CanReach

variable {t : Traffic} {P Q : Traffic → Prop}

theorem now (hp : P t) : t.CanReach P := ⟨[], hp⟩

theorem by_move (m : Move) (ht : (t.move m).CanReach P) : t.CanReach P := by
  obtain ⟨moves, hp⟩ := ht
  exact ⟨m :: moves, hp⟩

theorem mono (ht : t.CanReach P) (hpq : ∀ u, P u → Q u) : t.CanReach Q := by
  obtain ⟨moves, hp⟩ := ht
  exact ⟨moves, hpq _ hp⟩

theorem andThen (ht : t.CanReach P)
    (hnext : ∀ moves, P (t.play moves) → (t.play moves).CanReach Q) : t.CanReach Q := by
  obtain ⟨first, hp⟩ := ht
  obtain ⟨second, hq⟩ := hnext first hp
  exact ⟨first ++ second, by rwa [play_append]⟩

end CanReach

/-! ## From a start to the next pause -/

section Pauses

variable {t : Traffic} {held : List Flight} {served : List Served} {w : World}
  {station : Option Nat} {o : Output}

/-- Feeds that take no time arrive at once. -/
theorem canReach_drive (fuel : Nat) (p : Progress) (w : World) (hfuel : World.feedsLeft p ≤ fuel)
    (ht : t.MirrorsStep held served station o (p, w)) :
    t.CanReach fun u => u.MirrorsPause held served station o (World.drive fuel p w) := by
  induction fuel generalizing p w t with
  | zero =>
      cases p with
      | finished r => exact .now ht
      | waiting c => exact absurd hfuel (Nat.not_succ_le_zero _)
  | succ fuel ih =>
      cases p with
      | finished r => exact .now ht
      | waiting c =>
          obtain ⟨rfl, hmirrors⟩ := ht
          have hcalled : t.Mirrors (⟨station, c⟩ :: held) served
              { w with calls := ⟨c.output, c.current⟩ :: w.calls } :=
            hmirrors.of_sameWork ⟨rfl, rfl, rfl, rfl, rfl, rfl⟩
          simp only [World.drive]
          split
          next =>
            obtain ⟨k, hstep⟩ := hcalled.arrive (w.planOf c.current.url).outcome
            refine CanReach.by_move _ (ih _ _ ?_ hstep)
            exact Nat.le_trans (World.feedsLeft_resume c _ _) (Nat.le_of_succ_le_succ hfuel)
          next => exact .now ⟨rfl, hcalled⟩

theorem canReach_driveAll (w : World) (step : Progress × List Effect)
    (ht : t.MirrorsStep held served station o (w.settleStep step)) :
    t.CanReach fun u => u.MirrorsPause held served station o
      (World.driveAll (w.settleStep step).2 step.1) :=
  canReach_drive _ _ _ (Nat.le_refl _) ht

theorem canReach_resumeCycle {c : Cycle} (ht : t.Mirrors (⟨station, c⟩ :: held) served w)
    (outcome : Outcome) :
    t.CanReach fun u => u.MirrorsPause held served station c.output (w.resumeCycle c outcome) := by
  obtain ⟨k, hstep⟩ := ht.arrive outcome
  exact .by_move _ (canReach_driveAll _ _ hstep)

theorem canReach_beginRefresh (ht : t.Mirrors held served w) {cache : Nat}
    (ho : outputOf? cache t.log = some o) :
    t.CanReach fun u => u.MirrorsPause held served (some cache) o
      ((w.updateCache cache Cache.opened).beginCycle .refresh o) := by
  have hopened := (ht.openRefresh ho).launch (some cache) o fun i hi => by
    obtain rfl := Option.some.inj hi
    exact ho
  have hmove : t.move (.refresh cache) =
      ({ t with session := t.session.openRefresh cache } : Traffic).launch (some cache) .refresh
        o := by
    rw [← ht.sound.reflects.output_eq] at ho
    simp only [move, ho]
  refine .by_move (.refresh cache) ?_
  rw [hmove]
  exact canReach_driveAll _ _ hopened

theorem canReach_beginStart (ht : t.Mirrors held served w) (o : Output) :
    t.CanReach fun u => u.MirrorsPause held served none o (w.beginCycle .bootstrap o) :=
  .by_move (.start o) (canReach_driveAll _ _ (ht.launch none o fun i hi => by cases hi))

end Pauses

/-! ## Tasks -/

section Tasks

variable {t : Traffic} {held : List Flight} {served : List Served} {w : World}

/-- A task that waits takes its merge along. -/
theorem Mirrors.wait (task : Task) (ht : t.Mirrors (task.flight?.toList ++ held) served w)
    (htarget : ∀ i o, task.target? = some (i, o) → outputOf? i t.log = some o) (due : Nat) :
    t.Mirrors held served (w.wait due task) := by
  have hflights : (w.wait due task).flights = w.flights ++ task.flight?.toList := by
    cases hflight : task.flight? <;> simp [World.flights, World.tasks, World.wait, hflight]
  have htargets : (w.wait due task).targets = w.targets ++ task.target?.toList := by
    cases hnone : task.target? <;> simp [World.targets, World.tasks, World.wait, hnone]
  refine { ht with live_perm := ?_, output_eq := fun i o hmem => ?_ }
  · rw [hflights]
    refine ht.live_perm.trans ?_
    rw [List.append_assoc, ← List.append_assoc held]
    exact List.perm_append_comm
  · rw [htargets, List.mem_append, Option.mem_toList] at hmem
    exact hmem.elim (ht.output_eq i o) (htarget i o)

/-- Going on like this keeps the mirror if the cache is that of the output. -/
def KeepsMirror (cache : Nat) (o : Output) (step : World → World) : Prop :=
  ∀ (t : Traffic) (held : List Flight) (served : List Served) (w : World),
    t.Mirrors held served w → outputOf? cache t.log = some o →
      t.CanReach fun u => u.Mirrors held served (step w)

theorem canReach_pauseRefresh {cache : Nat} {o : Output} {again : Owner → World → World}
    (hagain : ∀ owner, KeepsMirror cache o (again owner)) (owner : Owner)
    {paused : World.Pause × World} (ht : t.MirrorsPause held served (some cache) o paused)
    (ho : outputOf? cache t.log = some o) :
    t.CanReach fun u => u.Mirrors held served (World.pauseRefresh again owner cache o paused) := by
  obtain ⟨pause, w⟩ := paused
  cases pause with
  | waits due c outcome =>
      obtain ⟨rfl, hmirrors⟩ := ht
      refine .now (Mirrors.wait (.resume owner cache c outcome) hmirrors (fun i o' hi => ?_) due)
      obtain ⟨rfl, rfl⟩ := Prod.mk.inj (Option.some.inj hi)
      exact ho
  | ended r =>
      have hclosed : t.Mirrors held served (w.closeRefresh cache r) := by
        cases r <;> exact ht
      cases owner with
      | background slot => exact .now (hclosed.of_sameWork ⟨rfl, rfl, rfl, rfl, rfl, rfl⟩)
      | ticker slot due interval =>
          simp only [World.pauseRefresh]
          split
          next => exact hagain _ t held served _ hclosed ho
          next =>
            refine .now (Mirrors.wait (.refresh _ cache o) hclosed (fun i o' hi => ?_) due)
            obtain ⟨rfl, rfl⟩ := Prod.mk.inj (Option.some.inj hi)
            exact ho

theorem keepsMirror_runRefresh {cache : Nat} {o : Output} {again : Owner → World → World}
    (hagain : ∀ owner, KeepsMirror cache o (again owner)) (owner : Owner) :
    KeepsMirror cache o (World.runRefresh again owner cache o) := by
  intro t held served w ht ho
  exact (canReach_beginRefresh ht ho).andThen fun moves hmoves =>
    canReach_pauseRefresh hagain owner hmoves (outputOf?_play moves ho)

theorem keepsMirror_runLate (cache : Nat) (o : Output) (owner : Owner) :
    KeepsMirror cache o (World.runLate cache o owner) := by
  refine keepsMirror_runRefresh (fun owner t held served w ht ho => ?_) owner
  cases owner with
  | background slot => exact .now ht
  | ticker slot due interval =>
      refine .now (Mirrors.wait (.refresh _ cache o) ht (fun i o' hi => ?_) due)
      obtain ⟨rfl, rfl⟩ := Prod.mk.inj (Option.some.inj hi)
      exact ho

/-- A task runs until it waits. What it goes on with is held until then. -/
theorem canReach_runTask (task : Task) (ht : t.Mirrors (task.flight?.toList ++ held) served w)
    (htarget : ∀ i o, task.target? = some (i, o) → outputOf? i t.log = some o) :
    t.CanReach fun u => u.Mirrors held served (w.runTask task) := by
  cases task with
  | deliver place sink text =>
      cases sink <;> exact .now (ht.of_sameWork ⟨rfl, rfl, rfl, rfl, rfl, rfl⟩)
  | refresh owner cache o =>
      exact keepsMirror_runRefresh (keepsMirror_runLate cache o) owner t held served w ht
        (htarget cache o rfl)
  | resume owner cache c outcome =>
      have ho := htarget cache c.output rfl
      exact (canReach_resumeCycle ht outcome).andThen fun moves hmoves =>
        canReach_pauseRefresh (keepsMirror_runLate cache c.output) owner hmoves
          (outputOf?_play moves ho)
  | ticker slot cache o =>
      simp only [World.runTask]
      split
      next => exact .now (ht.of_sameWork ⟨rfl, rfl, rfl, rfl, rfl, rfl⟩)
      next due _ => exact .now (Mirrors.wait (.refresh _ cache o) ht htarget _)

/-- Tasks run in order. -/
theorem canReach_runTasks (tasks : List Task)
    (ht : t.Mirrors (tasks.filterMap Task.flight? ++ held) served w)
    (htargets : ∀ task ∈ tasks, ∀ i o, task.target? = some (i, o) → outputOf? i t.log = some o) :
    t.CanReach fun u => u.Mirrors held served (tasks.foldl World.runTask w) := by
  induction tasks generalizing t w with
  | nil => exact .now ht
  | cons task tasks ih =>
      have hflights : (task :: tasks).filterMap Task.flight? ++ held =
          task.flight?.toList ++ (tasks.filterMap Task.flight? ++ held) := by
        cases hflight : task.flight? <;> simp [hflight]
      rw [hflights] at ht
      refine (canReach_runTask task ht (htargets task List.mem_cons_self)).andThen
        fun moves hmoves => ih hmoves fun other hother i o hi => ?_
      exact outputOf?_play moves (htargets other (List.mem_cons_of_mem task hother) i o hi)

theorem canReach_runRound (ht : t.Mirrors held served w) :
    t.CanReach fun u => u.Mirrors held served w.runRound := by
  -- The tasks that are taken out of the queue hold their merges until it is their turn.
  have htaken : t.Mirrors (w.ready.filterMap Task.flight? ++ held) served { w with ready := [] } :=
    { ht with
      live_perm := by
        refine ht.live_perm.trans ?_
        have hsplit : w.flights = w.ready.filterMap Task.flight? ++
            ({ w with ready := [] } : World).flights := List.filterMap_append
        rw [hsplit, ← List.append_assoc]
        exact List.perm_append_comm.append_right _
      output_eq := fun i o hmem => ht.output_eq i o (by
        rw [World.targets, World.tasks, List.filterMap_append]
        exact List.mem_append_right _ hmem) }
  refine canReach_runTasks w.ready htaken fun task htask i o hi => ht.output_eq i o ?_
  exact List.mem_filterMap.mpr ⟨task, List.mem_append_left _ htask, hi⟩

theorem canReach_settle (ht : t.Mirrors held served w) :
    t.CanReach fun u => u.Mirrors held served w.settle :=
  (canReach_runRound ht).andThen fun _ hmoves => canReach_runRound hmoves

end Tasks

/-! ## Time -/

section Time

variable {t : Traffic} {held : List Flight} {served : List Served} {w : World}

/-- The tasks that are due become ready, and no task is lost. -/
theorem tasks_moveTo (w : World) (time : Nat) : (w.moveTo time).tasks.Perm w.tasks := by
  simp only [World.tasks, World.moveTo, List.append_assoc, ← List.map_append]
  exact ((List.filter_append_perm (fun timer : Timer => decide (timer.due ≤ time)) w.timers).map
    Timer.task).append_left w.ready

theorem Mirrors.moveTo (ht : t.Mirrors held served w) (time : Nat) :
    t.Mirrors held served (w.moveTo time) :=
  { ht with
    live_perm := ht.live_perm.trans (((tasks_moveTo w time).symm.filterMap _).append_left held)
    output_eq := fun i o hmem =>
      ht.output_eq i o (((tasks_moveTo w time).filterMap _).mem_iff.mp hmem) }

theorem canReach_waitUntil (fuel time : Nat) (ht : t.Mirrors held served w) :
    t.CanReach fun u => u.Mirrors held served (World.waitUntil fuel time w) := by
  induction fuel generalizing t w with
  | zero => exact (canReach_settle ht).mono fun _ hu => hu.moveTo time
  | succ fuel ih =>
      refine (canReach_settle ht).andThen fun moves hsettled => ?_
      simp only [World.waitUntil]
      split
      next soonest _ =>
        split
        next => exact ih (hsettled.moveTo soonest)
        next => exact .now (hsettled.moveTo time)
      next => exact .now (hsettled.moveTo time)

theorem canReach_sleep (seconds : Nat) (ht : t.Mirrors held served w) :
    t.CanReach fun u => u.Mirrors held served (w.sleep seconds) := by
  unfold World.sleep
  split
  next => exact .now ht
  next => exact canReach_waitUntil _ _ ht

theorem canReach_joinSlot (slot fuel : Nat) (ht : t.Mirrors held served w) :
    t.CanReach fun u => u.Mirrors held served (World.joinSlot slot fuel w) := by
  induction fuel generalizing t w with
  | zero => exact .now ht
  | succ fuel ih =>
      simp only [World.joinSlot]
      split
      next =>
        refine (canReach_settle ht).andThen fun moves hsettled => ?_
        split
        next =>
          split
          next soonest _ => exact ih (hsettled.moveTo soonest)
          next => exact .now hsettled
        next => exact .now hsettled
      next => exact .now ht

end Time

end Traffic

end Almanac.Service
