import Almanac.Proofs.Config.Endpoints
import Almanac.Proofs.Service.Cadence
import Almanac.Proofs.Service.Running
import Almanac.Proofs.Service.Starts

/-!
# The schedule of a service

A service starts its outputs one after the other, and carries out commands from then on. Both are
sequences of acts of its main flow. So each of its tickers keeps the timetable that begins with
the end of the first merge of its output, also while later outputs are still being started.
-/

namespace Almanac.Service

open Config (Output)
open Merge (Merged MergeFailure)

namespace World

/-! ## Starts as acts -/

/-- The acts that bring a merge of the main flow to its end. -/
def finishActs : Nat → Pause × World → List Act
  | fuel + 1, (.waits due c outcome, w) =>
    .sleep (due - w.now) :: .resume c outcome ::
      finishActs fuel ((w.sleep (due - w.now)).resumeCycle c outcome)
  | _, _ => []

/-- The acts of a merge of the main flow. -/
def cycleActs (w : World) (purpose : Purpose) (o : Output) : List Act :=
  .begin purpose o :: finishActs (o.feeds.length + 1) (w.beginCycle purpose o)

/-- The acts that start outputs. -/
def startActs : List Output → World → List Act
  | [], _ => []
  | o :: os, w =>
    w.cycleActs .bootstrap o ++
      match w.bootstrap o with
      | (.error _, _) => []
      | (.ok cache, started) =>
        .store started.caches :: .carryOut [.report (servingReport o)] :: .spawn cache o ::
          startActs os (w.startOne o).2

/-- The times at which the first merges of outputs end, up to the first that fails. -/
def startTimes : List Output → World → List Nat
  | [], _ => []
  | o :: os, w =>
    match w.bootstrap o with
    | (.error _, _) => []
    | (.ok _, started) => started.now :: startTimes os (w.startOne o).2

theorem finishCycle_acts (fuel : Nat) (paused : Pause × World) :
    (finishCycle fuel paused).2 = paused.2.actAll (finishActs fuel paused) := by
  induction fuel generalizing paused with
  | zero =>
      obtain ⟨pause, w⟩ := paused
      cases pause <;> rfl
  | succ fuel ih =>
      obtain ⟨pause, w⟩ := paused
      cases pause with
      | ended r => rfl
      | waits due c outcome => exact ih ((w.sleep (due - w.now)).resumeCycle c outcome)

theorem runCycle_acts (w : World) (purpose : Purpose) (o : Output) :
    (w.runCycle purpose o).2 = w.actAll (w.cycleActs purpose o) :=
  finishCycle_acts (o.feeds.length + 1) (w.beginCycle purpose o)

/-! ## Starts amid nothing -/

/-- Nothing goes on but time. -/
def nothing (_ : World) : List Act := []

theorem finishAmid_nothing (fuel : Nat) (paused : Pause × World) :
    finishAmid nothing fuel paused = (finishActs fuel paused, (finishCycle fuel paused).1) := by
  induction fuel generalizing paused with
  | zero =>
      obtain ⟨pause, w⟩ := paused
      cases pause <;> rfl
  | succ fuel ih =>
      obtain ⟨pause, w⟩ := paused
      cases pause with
      | ended r => rfl
      | waits due c outcome =>
          have hrest := ih ((w.sleep (due - w.now)).resumeCycle c outcome)
          exact congrArg (fun ended : List Act × Except MergeFailure Merged =>
            (Act.sleep (due - w.now) :: .resume c outcome :: ended.1, ended.2)) hrest

theorem mergeAmid_nothing (o : Output) (w : World) :
    mergeAmid nothing o w = (w.cycleActs .bootstrap o, (w.runCycle .bootstrap o).1) :=
  congrArg (fun ended : List Act × Except MergeFailure Merged =>
    (Act.begin .bootstrap o :: ended.1, ended.2)) (finishAmid_nothing _ _)

/-- A start amid nothing is the start of the service, and its acts are what the main flow does. -/
theorem startAmid_nothing (outputs : List Output) (w : World) :
    startAmid nothing outputs w =
        ⟨startActs outputs w, startTimes outputs w, (startOutputs outputs w).1⟩ ∧
      (startOutputs outputs w).2 = w.actAll (startActs outputs w) := by
  induction outputs generalizing w with
  | nil => exact ⟨rfl, rfl⟩
  | cons o outputs ih =>
      have hmerged := runCycle_acts w .bootstrap o
      rcases hran : w.runCycle .bootstrap o with ⟨e | m, merged⟩ <;> rw [hran] at hmerged
      · have hfailed : w.bootstrap o = (.error ⟨o.name, e⟩, merged) := by
          simp only [bootstrap, hran]
        simp only [startAmid, mergeAmid_nothing, hran, startActs, startTimes, startOutputs, startOne,
          hfailed, List.append_nil]
        exact ⟨trivial, hmerged⟩
      · have hstarted : w.bootstrap o = (.ok merged.caches.length,
            { merged with caches := merged.caches ++ [.ofEdition ⟨merged.merges, m⟩] }) := by
          simp only [bootstrap, hran]
        have hserved : (w.actAll (w.cycleActs .bootstrap o ++ openActs o m merged)).act
            (.spawn merged.caches.length o) = (w.startOne o).2 := by
          rw [actAll_append, ← hmerged]
          simp only [startOne, hstarted]
          rfl
        have hacts : startActs (o :: outputs) w =
            w.cycleActs .bootstrap o ++ openActs o m merged ++
              .spawn merged.caches.length o :: startActs outputs (w.startOne o).2 := by
          simp [startActs, hstarted, openActs]
        have hresult : startOutputs (o :: outputs) w =
            ((startOutputs outputs (w.startOne o).2).1.map (⟨o.key, merged.caches.length⟩ :: ·),
              (startOutputs outputs (w.startOne o).2).2) := by
          simp only [startOutputs, startOne, hstarted]
        obtain ⟨hrest, hworld⟩ := ih (w.startOne o).2
        rw [hacts, hresult]
        refine ⟨?_, ?_⟩
        · simp only [startAmid, mergeAmid_nothing, hran, ← hmerged, hserved, hrest, startTimes,
            hstarted]
        · rw [hworld, actAll_append]
          exact congrArg (actAll · (startActs outputs (w.startOne o).2)) hserved.symm

/-- Starting outputs is what the main flow does, and the ticker of each output is made when its
first merge has ended. -/
theorem startOutputs_acts (outputs : List Output) (w : World) :
    (startOutputs outputs w).2 = w.actAll (startActs outputs w) ∧
      ∀ (i : Nat) (o : Output) (first : Nat), outputs[i]? = some o →
        (startTimes outputs w)[i]? = some first →
          ∃ before after cache, startActs outputs w = before ++ .spawn cache o :: after ∧
            spawns before = i ∧ (w.actAll before).now = first := by
  obtain ⟨hstart, hworld⟩ := startAmid_nothing outputs w
  refine ⟨hworld, fun i o first ho hfirst => ?_⟩
  have hidle : ∀ w, ∀ a ∈ nothing w, a.IsIdle := fun _ _ hnone => by cases hnone
  have hstarted : (startAmid nothing outputs w).times[i]? = some first := by rwa [hstart]
  have hspawn := spawn_of_startAmid hidle outputs w ho hstarted
  rwa [hstart] at hspawn

/-! ## Commands as acts -/

/-- The acts of waiting for refreshes in the background. -/
def joinActs : List Nat → World → List Act
  | [], _ => []
  | slot :: slots, w =>
    .settle :: .join slot (w.settle.horizon + 1) :: joinActs slots (Session.joinOne w slot)

theorem joinActs_eq (slots : List Nat) (w : World) :
    slots.foldl Session.joinOne w = w.actAll (joinActs slots w) := by
  induction slots generalizing w with
  | nil => rfl
  | cons slot slots ih => exact ih _

end World

namespace Session

/-- The acts of a command. -/
def commandActs (s : Session) : Command → List Act
  | .sleep seconds => [.sleep seconds]
  | .get r =>
    [.carryOut (requestEffects (Dictionary.ofList s.servedCalendars) s.hasMetrics r)]
  | .refresh i =>
    match s.servedOutput? i with
    | some (cache, o) =>
      let opened := s.world.updateCache cache Cache.opened
      .store opened.caches :: opened.cycleActs .refresh o ++
        [.store ((s.refresh cache o).2.world.caches)]
    | none => []
  | .refreshInBackground i =>
    match s.servedOutput? i with
    | some (cache, o) => [.queue cache o, .settle]
    | none => []
  | .join => World.joinActs s.pending s.world
  | .emit text => [.carryOut [.notify text]]
  | .setPlan url plan => [.setPlan url plan]

/-- The acts of commands in order. -/
def acts : Session → List Command → List Act
  | _, [] => []
  | s, command :: commands => s.commandActs command ++ acts (s.perform command) commands

theorem refresh_acts (s : Session) (cache : Nat) (o : Output) :
    let opened := s.world.updateCache cache Cache.opened
    (s.refresh cache o).2.world = opened.actAll (opened.cycleActs .refresh o ++
      [.store (s.refresh cache o).2.world.caches]) := by
  intro opened
  rw [World.actAll_append, ← World.runCycle_acts opened .refresh o]
  rfl

theorem perform_acts (s : Session) (command : Command) :
    (s.perform command).world = s.world.actAll (s.commandActs command) := by
  cases command with
  | refresh i =>
      rcases ho : s.servedOutput? i with _ | ⟨cache, o⟩
      · simp only [perform, commandActs, ho]
        rfl
      · simp only [perform, commandActs, ho]
        exact s.refresh_acts cache o
  | refreshInBackground i =>
      rcases ho : s.servedOutput? i with _ | ⟨cache, o⟩
      · simp only [perform, commandActs, ho]
        rfl
      · simp only [perform, commandActs, ho]
        rfl
  | join => exact World.joinActs_eq s.pending s.world
  | _ => rfl

theorem performAll_acts (s : Session) (commands : List Command) :
    (s.performAll commands).world = s.world.actAll (s.acts commands) := by
  induction commands generalizing s with
  | nil => rfl
  | cons command commands ih =>
      rw [acts, World.actAll_append, ← perform_acts]
      exact ih _

theorem startOutputs_world (outputs : List Output) (w : World) (hasMetrics : Bool) :
    ((ofOutputs outputs w).startOutputs hasMetrics).2.world = (w.startOutputs outputs).2 := by
  have hstations : (ofOutputs outputs w).stations.map Station.output = outputs := by
    simp [ofOutputs, Function.comp_def]
  have hworld : (ofOutputs outputs w).world = w := rfl
  simp only [startOutputs, hstations, hworld]
  split
  next hran => rw [hran]
  next hran => rw [hran]

end Session

/-- A service starts the outputs of a validated configuration and carries out any commands, among
them changes of what fetching gives and how long that takes. The refreshes of an output in the
background begin by a timetable: the first one interval after the first merge has ended, and the
next ones an interval after the one before, or at once if its fetches take longer than that. So
they neither overlap nor come closer than the interval, a failure does not stop them, and nothing
but the times of their own fetches counts. The same holds of any ticker whatever the main flow
does, as when what fetching gives changes while outputs are being started. -/
theorem refreshes_keep_timetable (tools : Nat → Tools) (plans : Dictionary Plan)
    (sinks : List Sink) {config valid : Config} (hvalid : config.validate = .ok valid)
    (hasMetrics : Bool) (commands : List Command) :
    let quiet := World.quiet tools plans sinks
    let s := ((Session.ofOutputs valid.sources quiet).startOutputs hasMetrics).2
    let acts := quiet.startActs valid.sources ++ s.acts commands
    (s.performAll commands).world = quiet.actAll acts ∧
      (∀ (i : Nat) (o : Output) (started : Nat), valid.sources[i]? = some o →
        (quiet.startTimes valid.sources)[i]? = some started →
          started + o.refreshSeconds ≤ lastSecond →
            KeepsTimetable o.refreshSeconds (started + o.refreshSeconds)
              (s.performAll commands).world.now (quiet.book i acts)) ∧
      ∀ (before after : List Act) (cache : Nat) (o : Output),
        let made := quiet.actAll before
        let flow := before ++ .spawn cache o :: after
        0 < o.refreshSeconds → made.now + o.refreshSeconds ≤ lastSecond →
          KeepsTimetable o.refreshSeconds (made.now + o.refreshSeconds) (quiet.actAll flow).now
            (quiet.book made.ended.length flow) := by
  intro quiet s acts
  obtain ⟨hstarted, htickers⟩ := World.startOutputs_acts valid.sources quiet
  have hworld : (s.performAll commands).world = quiet.actAll acts := by
    rw [World.actAll_append, ← hstarted, Session.performAll_acts,
      Session.startOutputs_world valid.sources quiet hasMetrics]
  refine ⟨hworld, ?_, ?_⟩
  · intro i o started ho hended hlast
    obtain ⟨before, after, cache, hacts, rfl, rfl⟩ := htickers i o started ho hended
    have hflow : acts = before ++ .spawn cache o :: (after ++ s.acts commands) := by
      simp only [acts, hacts, List.append_assoc, List.cons_append]
    rw [hworld, hflow]
    apply World.keepsTimetable_of_spawn
    · exact Config.refreshSeconds_pos_of_validate hvalid (List.mem_of_getElem? ho)
    · exact hlast
  · intro before after cache o made flow hpos hlast
    rw [World.length_ended_actAll]
    exact World.keepsTimetable_of_spawn tools plans sinks before after cache o hpos hlast

/-- The first refresh takes longer than the interval, and the later ones fail. -/
theorem slow_output_keeps_timetable :
    let url := "https://rota.example/a"
    let config : Config :=
      ⟨⟨.none, none⟩, none, 10, [⟨"Team", "team.ics", 1, [⟨"rota", url, [], []⟩]⟩]⟩
    let tools : Nat → Tools := fun _ => ⟨⟨"20240101T000000Z", fun _ => "id"⟩, "1ms"⟩
    let quiet := World.quiet tools (Dictionary.ofList [(url, ⟨90, .ok []⟩)]) []
    let s := ((Session.ofOutputs config.sources quiet).startOutputs false).2
    let commands : List Command := [.sleep 120, .setPlan url ⟨10, .error (.status 500)⟩, .sleep 200]
    let book := quiet.book 0 (quiet.startActs config.sources ++ s.acts commands)
    config.validate = .ok config ∧ quiet.startTimes config.sources = [90] ∧
      KeepsTimetable 60 150 (s.performAll commands).world.now book ∧
        begins book = [150, 240, 300, 360] ∧ ends book = [240, 250, 310, 370] := by
  intro url config tools quiet s commands book
  have hvalid : config.validate = .ok config := by decide +kernel
  have hstarted : quiet.startTimes config.sources = [90] := by decide +kernel
  obtain ⟨_, htickers, _⟩ := refreshes_keep_timetable tools
    (Dictionary.ofList [(url, ⟨90, .ok []⟩)]) [] hvalid false commands
  refine ⟨hvalid, hstarted, ?_, by decide +kernel, by decide +kernel⟩
  exact htickers 0 ⟨"Team", "team.ics", 1, [⟨"rota", url, [], []⟩]⟩ 90 rfl
    (by rw [hstarted]; rfl) (by decide)

end Almanac.Service
