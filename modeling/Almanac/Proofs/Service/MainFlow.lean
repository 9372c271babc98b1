import Almanac.Proofs.Service.Phases
import Almanac.Service.Startup

/-!
# The main flow and the books of tickers

The main flow is a sequence of acts: it runs merges of its own, makes tickers, sends messages,
sleeps, and so on, while what fetching gives may change at any moment. Tasks run while it waits.
A chronicle follows the tasks of the clock step by step, and tells something of each that runs. The
book of a ticker is the chronicle of what the ticker does: it notes the time at which a refresh of
this ticker begins, begins to fetch a feed, or ends.
-/

namespace Almanac.Service

open Config (Output)
open Merge (Merged MergeFailure Outcome)

/-- What the main flow does. -/
inductive Act where
  | sleep (seconds : Nat)
  /-- Lets the tasks run that are ready. -/
  | settle
  /-- Begins a merge, or goes on with one whose feed has arrived. -/
  | begin (purpose : Purpose) (o : Output)
  | resume (c : Cycle) (outcome : Outcome)
  | carryOut (effects : List Effect)
  | store (caches : List Cache)
  /-- Makes a ticker. -/
  | spawn (cache : Nat) (o : Output)
  /-- Begins a refresh in the background, or waits for one. -/
  | queue (cache : Nat) (o : Output)
  | join (slot fuel : Nat)
  /-- What fetching an address gives changes. -/
  | setPlan (url : String) (plan : Plan)

/-- The number of tickers that an act makes. -/
def Act.spawns : Act → Nat
  | .spawn .. => 1
  | _ => 0

/-- The number of tickers that acts make. -/
def spawns : List Act → Nat
  | [] => 0
  | a :: acts => a.spawns + spawns acts

theorem spawns_append (first second : List Act) :
    spawns (first ++ second) = spawns first + spawns second := by
  induction first with
  | nil => exact (Nat.zero_add _).symm
  | cons a first ih => rw [List.cons_append, spawns, ih, spawns, Nat.add_assoc]

namespace World

/-- The world after an act. -/
def act (w : World) : Act → World
  | .sleep seconds => w.sleep seconds
  | .settle => w.settle
  | .begin purpose o => (w.beginCycle purpose o).2
  | .resume c outcome => (w.resumeCycle c outcome).2
  | .carryOut effects => w.applyAll effects
  | .store caches => { w with caches := caches }
  | .spawn cache o => (w.addTicker cache o).2
  | .queue cache o =>
    { w with
      results := w.results ++ [none]
      ready := w.ready ++ [.refresh (.background w.results.length) cache o] }
  | .join slot fuel => joinSlot slot fuel w
  | .setPlan url plan => { w with plans := w.plans.set url plan }

/-- The world after acts in order. -/
def actAll (w : World) (acts : List Act) : World := acts.foldl act w

theorem actAll_append (w : World) (first second : List Act) :
    w.actAll (first ++ second) = (w.actAll first).actAll second :=
  List.foldl_append

/-! ## Chronicles -/

section Chronicles

-- What is told of a task that runs.
variable {α : Type} (tell : World → Task → List α)

/-- What is told of tasks that run in order. -/
def tellTasks : List Task → World → List α
  | [], _ => []
  | task :: tasks, w => tell w task ++ tellTasks tasks (w.runTask task)

def tellRound (w : World) : List α := tellTasks tell w.ready { w with ready := [] }

def tellSettle (w : World) : List α := w.tellRound tell ++ w.runRound.tellRound tell

/-- What is told while the main flow waits until a time. -/
def tellWait : Nat → Nat → World → List α
  | 0, _, w => w.tellSettle tell
  | fuel + 1, time, w =>
    w.tellSettle tell ++
      match w.settle.nextTime? with
      | some t => if t < time then tellWait fuel time (w.settle.moveTo t) else []
      | none => []

def tellSleep (w : World) (seconds : Nat) : List α :=
  if seconds = 0 then [] else tellWait tell seconds (w.now + seconds) w

/-- What is told while the main flow waits for a refresh in the background. -/
def tellJoin (slot : Nat) : Nat → World → List α
  | 0, _ => []
  | fuel + 1, w =>
    match w.results[slot]? with
    | some none =>
      w.tellSettle tell ++
        match w.settle.results[slot]? with
        | some none =>
          match w.settle.nextTime? with
          | some t => tellJoin slot fuel (w.settle.moveTo t)
          | none => []
        | _ => []
    | _ => []

/-- What is told during an act. -/
def tellAct (w : World) : Act → List α
  | .sleep seconds => w.tellSleep tell seconds
  | .settle => w.tellSettle tell
  | .join slot fuel => tellJoin tell slot fuel w
  | _ => []

/-- What is told during acts in order. -/
def tellAll : List Act → World → List α
  | [], _ => []
  | a :: acts, w => w.tellAct tell a ++ tellAll acts (w.act a)

theorem tellAll_append (first second : List Act) (w : World) :
    w.tellAll tell (first ++ second) =
      w.tellAll tell first ++ (w.actAll first).tellAll tell second := by
  induction first generalizing w with
  | nil => rfl
  | cons a first ih =>
      rw [List.cons_append, tellAll, tellAll, ih, List.append_assoc]
      rfl

end Chronicles

/-- Of a task that runs it is told which one it is. -/
def itself (_ : World) (task : Task) : List Task := [task]

/-- The tasks that run during acts, in order. -/
def tasksRun (w : World) (acts : List Act) : List Task := w.tellAll itself acts

theorem tellTasks_itself (tasks : List Task) (w : World) : tellTasks itself tasks w = tasks := by
  induction tasks generalizing w with
  | nil => rfl
  | cons task tasks ih =>
      rw [tellTasks, ih]
      rfl

/-! ## Books -/

section Books

-- The number of the ticker.
variable (n : Nat)

/-- A deed of a refresh is noted if it is one of the ticker. -/
def note (owner : Owner) (time : Nat) (deed : Deed) : List Entry :=
  match owner with
  | .ticker slot _ _ => if slot = n then [⟨time, deed⟩] else []
  | .background _ => []

/-- The book of a refresh that pauses, and of the next one if that begins at once. -/
def pauseBook (again : Owner → World → List Entry) (owner : Owner) (cache : Nat) :
    Pause × World → List Entry
  | (.waits due _ _, w) => note n owner w.now (.fetches (due - w.now))
  | (.ended r, w) =>
    note n owner w.now .ends ++
      match owner with
      | .background _ => []
      | .ticker slot due interval =>
        if due ≤ w.now then
          again (.ticker slot (nextDue due w.now interval) interval) (w.closeRefresh cache r)
        else []

/-- The book of a refresh from its beginning to its next pause. -/
def refreshBook (again : Owner → World → List Entry) (owner : Owner) (cache : Nat)
    (output : Output) (w : World) : List Entry :=
  note n owner w.now .begins ++
    pauseBook n again owner cache
      ((w.updateCache cache Cache.opened).beginCycle .refresh output)

/-- The book of a refresh that is already late. -/
def lateBook (cache : Nat) (output : Output) (owner : Owner) (w : World) : List Entry :=
  refreshBook n (fun _ _ => []) owner cache output w

/-- The book of a task. -/
def taskBook (w : World) : Task → List Entry
  | .refresh owner cache output => refreshBook n (lateBook n cache output) owner cache output w
  | .resume owner cache cycle outcome =>
    pauseBook n (lateBook n cache cycle.output) owner cache (w.resumeCycle cycle outcome)
  | _ => []

/-- The book of acts in order. -/
def book (w : World) (acts : List Act) : List Entry := w.tellAll (taskBook n) acts

end Books

end World

end Almanac.Service
