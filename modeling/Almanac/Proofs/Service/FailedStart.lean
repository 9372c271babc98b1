import Almanac.Proofs.Service.Past
import Almanac.Proofs.Service.Schedule
import Almanac.Proofs.Service.Scope

/-!
# After a failed start

A service stops starting outputs at the first that cannot start. Nothing is undone: the outputs
before it have their tickers, and these go on by their timetables as time passes. Of the outputs
that follow there is no task, so nothing more is fetched or said for them.
-/

namespace Almanac.Service

open Config (Output)
open Merge (MergeFailure)

/-- A ticker that is never made does nothing. -/
theorem World.book_of_absent (tools : Nat → Tools) (plans : Dictionary Plan) (sinks : List Sink)
    {acts : List Act} {n : Nat} (hn : spawns acts ≤ n) :
    (quiet tools plans sinks).book n acts = [] := by
  obtain ⟨φ, hrun, _⟩ := (awaits_quiet n 0 tools plans sinks).actAll acts
    (.inr ((Nat.zero_add _).symm ▸ hn))
  exact (Phase.run?_absent hrun).1

theorem World.Within.tasks {S : Scope} {w base : World} (hw : w.Within S base) :
    ∀ task ∈ w.tasks, task.Within S :=
  List.forall_mem_append.mpr ⟨hw.ready, List.forall_mem_map.mpr hw.timers⟩

/-- What tasks may do after a start has failed: refresh the outputs that were started, and deliver
what had been sent before. -/
def Scope.afterStart (started : List Output) (failed : World) : Scope where
  crew := started
  calls call := call.output ∈ started ∧ call.feed ∈ call.output.feeds
  receipts r := (∃ sink, .deliver r.place sink r.text ∈ failed.tasks) ∨
    ∃ o ∈ started, ∃ words, r.text = "[" ++ o.name ++ "] " ++ words
  calls_of ho _ hf := ⟨ho, hf⟩
  receipts_of ho _ words := .inr ⟨_, ho, words, rfl⟩

/-- A task that was there when the start failed is within this scope. -/
theorem Task.within_afterStart {started : List Output} {failed : World} {task : Task}
    (htask : task.Within (.ofCrew started)) (hthere : task ∈ failed.tasks) :
    task.Within (.afterStart started failed) := by
  cases task with
  | deliver place sink text => exact .inl ⟨sink, hthere⟩
  | refresh | ticker | resume => exact htask

theorem World.within_afterStart {started : List Output} {base failed : World}
    (hfailed : failed.Within (.ofCrew started) base) :
    failed.Within (.afterStart started failed) failed where
  ready task htask :=
    Task.within_afterStart (hfailed.ready task htask) (List.mem_append_left _ htask)
  timers t ht :=
    Task.within_afterStart (hfailed.timers t ht)
      (List.mem_append_right _ (List.mem_map_of_mem ht))
  calls := ⟨[], rfl, fun _ hnone => by cases hnone⟩
  delivered := ⟨[], rfl, fun _ hnone => by cases hnone⟩

/-- A start has failed at the first output that could not be started, and the main flow asks for
nothing more. While it was starting outputs, and ever since, time passes and what fetching gives
may change at any moment; where nothing changes during the start, that is the start of the service.
The tickers are those of the outputs before the one that failed, one each, and each of them goes on
by its timetable as long as the clock has one interval more before it. Every task that runs from now
on, or is still to run, is one of these tickers and works for its output, or is a delivery. So what
is fetched are feeds of these outputs for these outputs, and what sinks keep are their messages,
besides what had been sent before. For the output that failed, and for those after it, nothing runs,
and nothing at all if it was the first one. -/
theorem failed_start_runs_only_what_started (tools : Nat → Tools) (plans : Dictionary Plan)
    (sinks : List Sink) (outputs : List Output) (meanwhile : World → List Act)
    (hmeanwhile : ∀ w, ∀ a ∈ meanwhile w, a.IsIdle) {e : StartError}
    (hfailed : (World.startAmid meanwhile outputs (.quiet tools plans sinks)).result = .error e)
    (later : List Act) (hlater : ∀ a ∈ later, a.IsIdle) :
    let quiet := World.quiet tools plans sinks
    let start := World.startAmid meanwhile outputs quiet
    let started := outputs.take start.times.length
    let failed := quiet.actAll start.acts
    let now := failed.actAll later
    let book := fun n => quiet.book n (start.acts ++ later)
    (World.startAmid World.nothing outputs quiet =
        ⟨quiet.startActs outputs, quiet.startTimes outputs, (quiet.startOutputs outputs).1⟩ ∧
      (quiet.startOutputs outputs).2 = quiet.actAll (quiet.startActs outputs)) ∧
      (∃ o, outputs[start.times.length]? = some o ∧ e.output = o.name) ∧
      now.ended.length = start.times.length ∧
      (∀ n, start.times.length ≤ n → book n = []) ∧
      (∀ (i : Nat) (o : Output) (time : Nat), started[i]? = some o → start.times[i]? = some time →
        0 < o.refreshSeconds → now.now + o.refreshSeconds ≤ lastSecond →
          KeepsTimetable o.refreshSeconds (time + o.refreshSeconds) now.now (book i)) ∧
      (∀ task ∈ failed.tasksRun later ++ now.tasks,
        (∃ place sink text, task = .deliver place sink text) ∨
          ∃ i o, task.duty? = some (i, o) ∧ started[i]? = some o) ∧
      (∃ calls, now.calls = calls ++ failed.calls ∧
        ∀ call ∈ calls, call.output ∈ started ∧ call.feed ∈ call.output.feeds) ∧
      ∃ receipts, now.delivered = receipts ++ failed.delivered ∧
        ∀ r ∈ receipts, (∃ sink, .deliver r.place sink r.text ∈ failed.tasks) ∨
          ∃ o ∈ started, ∃ words, r.text = "[" ++ o.name ++ "] " ++ words := by
  intro quiet start started failed now book
  have hidle : ∀ a ∈ later, a.IsSolo := fun a ha => Act.isSolo_of_isIdle (hlater a ha)
  have hcrew : crew start.acts = started := World.crew_startAmid hmeanwhile outputs quiet
  have hnow : now = quiet.actAll (start.acts ++ later) := (World.actAll_append quiet _ _).symm
  have hlength : started.length = start.times.length :=
    List.length_take_of_le (World.length_times_le outputs quiet)
  have hspawns : spawns (start.acts ++ later) = start.times.length := by
    rw [← length_crew, crew_append, hcrew, crew_of_isSolo hidle, List.append_nil, hlength]
  have hwithin : failed.Within (.ofCrew started) quiet :=
    hcrew ▸ World.within_ofCrew tools plans sinks (World.isPlain_startAmid hmeanwhile outputs quiet)
  obtain ⟨hlast, htasks⟩ := (World.within_afterStart hwithin).idle hlater
  refine ⟨World.startAmid_nothing outputs quiet, World.output_of_failed hfailed, ?_, ?_, ?_, ?_,
    hlast.calls, hlast.delivered⟩
  · rw [hnow, World.length_ended_actAll, hspawns]
  · exact fun n hn => World.book_of_absent tools plans sinks (hspawns ▸ hn)
  · intro i o time ho htime hpos hclock
    have hi : outputs[i]? = some o := by
      rw [List.getElem?_take] at ho
      split at ho
      next => exact ho
      next => cases ho
    obtain ⟨before, after, cache, hacts, rfl, rfl⟩ :=
      World.spawn_of_startAmid hmeanwhile outputs quiet hi htime
    have hflow : start.acts ++ later = before ++ .spawn cache o :: (after ++ later) := by
      rw [hacts, List.append_assoc, List.cons_append]
    have hmade := World.now_le_actAll_append tools plans sinks before
      (.spawn cache o :: (after ++ later))
    rw [hnow, hflow] at hclock
    show KeepsTimetable _ _ _ (quiet.book _ _)
    rw [hnow, hflow]
    exact World.keepsTimetable_of_spawn tools plans sinks before _ cache o hpos
      (Nat.le_trans (Nat.add_le_add_right hmade _) hclock)
  · intro task htask
    rcases List.mem_append.mp htask with htask | htask
    · exact Task.duty?_of_within (htasks task htask)
    · exact Task.duty?_of_within (hlast.tasks task htask)

/-! ## Starts that fail at the second output -/

/-- What is handed out to every merge. -/
def clubTools (_ : Nat) : Tools := ⟨⟨"20240501T120000Z", fun _ => "id"⟩, "1ms"⟩

/-- An output of this name that fetches one feed. -/
def clubOutput (name feed url : String) : Output :=
  ⟨name, name ++ ".ics", 1, [⟨feed, url, [], []⟩]⟩

/-- Two outputs with feeds of the same name and address. -/
def sameFeed : List Output :=
  [clubOutput "Team" "rota" "https://rota", clubOutput "Club" "rota" "https://rota"]

/-- The address fails from the end of the first merge on, after a long time, and works again while
the second output still waits for it. -/
def rotaMeanwhile (w : World) : List Act :=
  match w.calls.length with
  | 1 => [.setPlan "https://rota" ⟨70, .error (.status 500)⟩]
  | 2 => [.sleep 65, .setPlan "https://rota" ⟨5, .ok []⟩]
  | _ => []

theorem isIdle_rotaMeanwhile (w : World) : ∀ a ∈ rotaMeanwhile w, a.IsIdle := by
  unfold rotaMeanwhile
  split <;> simp [Act.IsIdle]

/-- The first refresh of the first output begins while the second one is being started, and fails
when that start has failed. It is followed at once by the next one. -/
theorem first_output_goes_on_alone :
    let quiet := World.quiet clubTools (Dictionary.ofList [("https://rota", ⟨0, .ok []⟩)])
      [.recording]
    let start := World.startAmid rotaMeanwhile sameFeed quiet
    let failed := quiet.actAll start.acts
    let now := failed.actAll [.sleep 130]
    let book := fun n => quiet.book n (start.acts ++ [.sleep 130])
    start.result = .error ⟨"Club", ⟨"rota", .status 500⟩⟩ ∧ start.times = [0] ∧
      failed.now = 70 ∧ book 1 = [] ∧ KeepsTimetable 60 60 now.now (book 0) ∧
      begins (book 0) = [60, 130, 190] ∧
      ∃ calls, now.calls = calls ++ failed.calls ∧ ∀ call ∈ calls, call.output.name = "Team" := by
  intro quiet start failed now book
  have hresult : start.result = .error ⟨"Club", ⟨"rota", .status 500⟩⟩ := by decide +kernel
  have htimes : start.times = [0] := by decide +kernel
  have hlater : ∀ a ∈ [Act.sleep 130], a.IsIdle := by simp [Act.IsIdle]
  obtain ⟨_, _, _, hnothing, hkept, _, ⟨calls, hcalls, houtputs⟩, _⟩ :=
    failed_start_runs_only_what_started clubTools _ [.recording] sameFeed rotaMeanwhile
      isIdle_rotaMeanwhile hresult [.sleep 130] hlater
  refine ⟨hresult, htimes, by decide +kernel, ?_, ?_, by decide +kernel, calls, hcalls,
    fun call hcall => ?_⟩
  · exact hnothing 1 (by rw [htimes]; decide)
  · exact hkept 0 _ 0 (by rw [htimes]; rfl) (by rw [htimes]; rfl) (by decide) (by decide +kernel)
  · obtain ⟨ho, _⟩ := houtputs call hcall
    rw [htimes] at ho
    rw [List.mem_singleton.mp ho]
    rfl

/-- The start of two outputs with feeds of their own, of which the first one is there. -/
def clubStart : Except StartError (List Served) × World :=
  World.startOutputs [clubOutput "Team" "rota" "https://rota",
      clubOutput "Club" "games" "https://games"]
    (.quiet clubTools (Dictionary.ofList [("https://rota", ⟨0, .ok []⟩)]) [.recording])

/-- After the start has failed, the ticker of the output that had been started fetches its feed
again, and says so. -/
theorem failed_start_leaves_ticker_running :
    let fetched := fun w : World => w.calls.map fun call => (call.output.name, call.feed.name)
    clubStart.1 = .error ⟨"Club", ⟨"games", .status 404⟩⟩ ∧
      fetched clubStart.2 = [("Club", "games"), ("Team", "rota")] ∧
      fetched (clubStart.2.sleep 61) = [("Team", "rota"), ("Club", "games"), ("Team", "rota")] ∧
      ⟨0, "[Team] Invalidated cache, remerging ics files"⟩ ∈ (clubStart.2.sleep 61).delivered ∧
      ⟨0, "[Team] Invalidated cache, remerging ics files"⟩ ∉ (clubStart.2.sleep 59).delivered := by
  decide +kernel

end Almanac.Service
