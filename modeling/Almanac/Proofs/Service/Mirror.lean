import Almanac.Proofs.Service.Serving
import Mathlib.Data.List.Perm.Basic

/-!
# Worlds in the mirror of a traffic

The service runs by the clock: tasks wait for their time, and each runs until it waits
again. A traffic mirrors a world if it has the same caches, numbers and metrics, and if its
flights are the merges that the tasks of the world go on with, together with those that
are held by what runs at the moment. A step of a merge keeps the mirror: what the world
does between two pauses is a stretch of moves.
-/

namespace Almanac.Service

open Config (Feed Output)
open Merge (Merged MergeFailure Outcome)

/-! ## The work that waits -/

/-- The flight that a task goes on with. -/
def Task.flight? : Task → Option Flight
  | .resume _ cache c _ => some ⟨some cache, c⟩
  | _ => none

/-- The cache that a task refreshes, with its output. -/
def Task.target? : Task → Option (Nat × Output)
  | .deliver .. => none
  | .refresh _ cache o | .ticker _ cache o => some (cache, o)
  | .resume _ cache c _ => some (cache, c.output)

namespace World

/-- The tasks, ready or not. -/
def tasks (w : World) : List Task := w.ready ++ w.timers.map Timer.task

/-- The merges that tasks go on with. -/
def flights (w : World) : List Flight := w.tasks.filterMap Task.flight?

/-- The caches that tasks refresh. -/
def targets (w : World) : List (Nat × Output) := w.tasks.filterMap Task.target?

/-- What a traffic tells of a world is the same of both. -/
structure SameWork (w w' : World) : Prop where
  tools_eq : w'.tools = w.tools
  caches_eq : w'.caches = w.caches
  merges_eq : w'.merges = w.merges
  metrics_eq : w'.metrics = w.metrics
  flights_eq : w'.flights = w.flights
  targets_eq : w'.targets = w.targets

@[simp] theorem flights_emit (w : World) (text : String) : (w.emit text).flights = w.flights := by
  simp [flights, tasks, emit, postings, Task.flight?]

@[simp] theorem targets_emit (w : World) (text : String) : (w.emit text).targets = w.targets := by
  simp [targets, tasks, emit, postings, Task.target?]

theorem sameWork_emit (w : World) (text : String) : SameWork w (w.emit text) :=
  ⟨rfl, rfl, rfl, rfl, flights_emit w text, targets_emit w text⟩

/-- Effects change the metrics, and nothing else that a traffic tells of. -/
theorem sameWork_applyAll (w : World) (effects : List Effect) :
    SameWork { w with metrics := effects.foldl Effect.toMetrics w.metrics }
      (w.applyAll effects) := by
  induction effects generalizing w with
  | nil => exact ⟨rfl, rfl, rfl, rfl, rfl, rfl⟩
  | cons effect effects ih =>
      have hrest := ih (w.apply effect)
      have hfirst : SameWork { w with metrics := effect.toMetrics w.metrics } (w.apply effect) := by
        cases effect with
        | notify text => exact sameWork_emit w text
        | _ => exact ⟨rfl, rfl, rfl, rfl, rfl, rfl⟩
      exact
        { tools_eq := hrest.tools_eq.trans hfirst.tools_eq
          caches_eq := hrest.caches_eq.trans hfirst.caches_eq
          merges_eq := hrest.merges_eq.trans hfirst.merges_eq
          metrics_eq := hrest.metrics_eq.trans
            (congrArg (effects.foldl Effect.toMetrics) hfirst.metrics_eq)
          flights_eq := hrest.flights_eq.trans hfirst.flights_eq
          targets_eq := hrest.targets_eq.trans hfirst.targets_eq }

theorem settleStep_merges {w v : World} (hmerges : v.merges = w.merges)
    (step : Progress × List Effect) :
    (v.settleStep step).2.merges = (w.settleStep step).2.merges := by
  have hw := (w.sameWork_applyAll step.2).merges_eq
  have hv := (v.sameWork_applyAll step.2).merges_eq
  simp only [settleStep]
  unfold countMerge
  split <;> simp only [hw, hv, hmerges]

theorem settleStep_metrics (w : World) (step : Progress × List Effect) :
    (w.settleStep step).2.metrics = step.2.foldl Effect.toMetrics w.metrics := by
  refine Eq.trans ?_ (w.sameWork_applyAll step.2).metrics_eq
  simp only [settleStep]
  unfold countMerge
  split <;> rfl

theorem settleStep_flights (w : World) (step : Progress × List Effect) :
    (w.settleStep step).2.flights = w.flights := by
  refine Eq.trans ?_ (w.sameWork_applyAll step.2).flights_eq
  simp only [settleStep]
  unfold countMerge
  split <;> rfl

theorem settleStep_targets (w : World) (step : Progress × List Effect) :
    (w.settleStep step).2.targets = w.targets := by
  refine Eq.trans ?_ (w.sameWork_applyAll step.2).targets_eq
  simp only [settleStep]
  unfold countMerge
  split <;> rfl

end World

/-! ## Mirrors -/

namespace Traffic

/-- The flights that have not ended. -/
def live (t : Traffic) : List Flight := t.flights.filterMap id

/-- The traffic mirrors the world, of whose merges some are held by what runs at the moment. -/
structure Mirrors (t : Traffic) (held : List Flight) (served : List Served) (w : World) :
    Prop where
  sound : t.Sound w.tools t.session.hasMetrics
  served_eq : t.session.served = served
  caches_eq : t.session.world.caches = w.caches
  merges_eq : t.session.world.merges = w.merges
  metrics_eq : t.session.world.metrics = w.metrics
  live_perm : t.live.Perm (held ++ w.flights)
  output_eq : ∀ i o, (i, o) ∈ w.targets → outputOf? i t.log = some o

/-- The world in which the merge of a flight has just ended is mirrored once its result has been
taken: by its cache, or by a cache that is opened for it. -/
def MirrorsEnd (t : Traffic) (held : List Flight) (served : List Served) (station : Option Nat)
    (o : Output) (w : World) : Except MergeFailure Merged → Prop
  | .ok m =>
    match station with
    | some i => t.Mirrors held served (w.closeRefresh i (.ok m))
    | none => outputOf? w.caches.length t.log = some o ∧
        t.Mirrors held (served ++ [⟨o.key, w.caches.length⟩])
          { w with caches := w.caches ++ [.ofEdition ⟨w.merges, m⟩] }
  | .error failure =>
    match station with
    | some i => t.Mirrors held served (w.closeRefresh i (.error failure))
    | none => t.Mirrors held served w

/-- The world after a step of a merge is mirrored: the merge is held while it waits. -/
def MirrorsStep (t : Traffic) (held : List Flight) (served : List Served) (station : Option Nat)
    (o : Output) : Progress × World → Prop
  | (.waiting c, w) => c.output = o ∧ t.Mirrors (⟨station, c⟩ :: held) served w
  | (.finished r, w) => t.MirrorsEnd held served station o w r

/-- The world in which a merge pauses is mirrored. -/
def MirrorsPause (t : Traffic) (held : List Flight) (served : List Served) (station : Option Nat)
    (o : Output) : World.Pause × World → Prop
  | (.waits _ c _, w) => c.output = o ∧ t.Mirrors (⟨station, c⟩ :: held) served w
  | (.ended r, w) => t.MirrorsEnd held served station o w r

theorem live_setSome {t : Traffic} {k : Nat} (f : Flight) (hk : t.flights[k]? = some none) :
    ({ t with flights := t.flights.set k (some f) } : Traffic).live.Perm (f :: t.live) := by
  obtain ⟨hlt, hnone⟩ := List.getElem?_eq_some_iff.mp hk
  have hset := (List.set_perm_cons_eraseIdx hlt (some f)).filterMap id
  have hold := (List.getElem_cons_eraseIdx_perm hlt).filterMap id
  rw [hnone] at hold
  exact hset.trans (hold.cons f)

theorem live_setNone {t : Traffic} {k : Nat} {f : Flight} (hk : t.flights[k]? = some (some f)) :
    t.live.Perm (f :: ({ t with flights := t.flights.set k none } : Traffic).live) := by
  obtain ⟨hlt, hsome⟩ := List.getElem?_eq_some_iff.mp hk
  have hset := (List.set_perm_cons_eraseIdx hlt none).filterMap id
  have hold := (List.getElem_cons_eraseIdx_perm hlt).filterMap id
  rw [hsome] at hold
  exact hold.symm.trans (hset.symm.cons f)

/-! ## The log grows -/

theorem outputOf?_move {t : Traffic} (m : Move) {i : Nat} {o : Output}
    (ho : outputOf? i t.log = some o) : outputOf? i (t.move m).log = some o := by
  obtain ⟨calm, last, _, _, hlog⟩ := t.move_log m
  rw [hlog]
  exact outputOf?_append_of_some (outputOf?_append_of_some ho calm) last

theorem outputOf?_play {t : Traffic} (moves : List Move) {i : Nat} {o : Output}
    (ho : outputOf? i t.log = some o) : outputOf? i (t.play moves).log = some o := by
  induction moves generalizing t with
  | nil => exact ho
  | cons m moves ih => exact ih (outputOf?_move m ho)

theorem play_append (t : Traffic) (first second : List Move) :
    t.play (first ++ second) = (t.play first).play second :=
  List.foldl_append

theorem Sound.own {tools : Nat → Tools} {hasMetrics : Bool} {t : Traffic}
    (ht : t.Sound tools hasMetrics) : t.Sound tools t.session.hasMetrics :=
  ht.reflects.hasMetrics_eq.symm ▸ ht

/-! ## The end of a merge -/

namespace Mirrors

variable {t : Traffic} {held : List Flight} {served : List Served} {w : World}

theorem of_sameWork (ht : t.Mirrors held served w) {w' : World} (hwork : World.SameWork w w') :
    t.Mirrors held served w' where
  sound := hwork.tools_eq.symm ▸ ht.sound
  served_eq := ht.served_eq
  caches_eq := ht.caches_eq.trans hwork.caches_eq.symm
  merges_eq := ht.merges_eq.trans hwork.merges_eq.symm
  metrics_eq := ht.metrics_eq.trans hwork.metrics_eq.symm
  live_perm := hwork.flights_eq.symm ▸ ht.live_perm
  output_eq := hwork.targets_eq.symm ▸ ht.output_eq

/-- A refresh ends in the world and in the traffic. -/
theorem closeRefresh (ht : t.Mirrors held served w) {i : Nat} {o : Output}
    (ho : outputOf? i t.log = some o) (r : Except MergeFailure Merged) (h : Happening)
    {hasMetrics : Bool}
    (hsound : ({ t with session := t.session.closeRefresh i r }.note h).Sound w.tools hasMetrics) :
    ({ t with session := t.session.closeRefresh i r }.note h).Mirrors held served
      (w.closeRefresh i r) := by
  have hcache := ht.sound.reflects.cacheOf?_of_output ho
  have hclosed : t.session.closeRefresh i r =
      { t.session with world := t.session.world.closeRefresh i r } := by
    simp only [Session.closeRefresh, hcache]
  rw [hclosed] at hsound ⊢
  exact
    { sound := hsound.own
      served_eq := ht.served_eq
      caches_eq := by
        simp only [Traffic.note, World.closeRefresh, World.updateCache, ht.caches_eq, ht.merges_eq]
      merges_eq := ht.merges_eq
      metrics_eq := ht.metrics_eq
      live_perm := ht.live_perm
      output_eq := fun j o' hj => outputOf?_append_of_some (ht.output_eq j o' hj) [h] }

theorem conclude (ht : t.Mirrors held served w) (k : Nat) {station : Option Nat} {o : Output}
    (hstation : ∀ i, station = some i → outputOf? i t.log = some o)
    (r : Except MergeFailure Merged) {hasMetrics : Bool}
    (hsound : (t.conclude k station o r).Sound w.tools hasMetrics) :
    (t.conclude k station o r).MirrorsEnd held served station o w r := by
  cases station with
  | some i =>
      cases r with
      | ok m => exact ht.closeRefresh (hstation i rfl) (.ok m) _ hsound
      | error failure => exact ht.closeRefresh (hstation i rfl) (.error failure) _ hsound
  | none =>
      cases r with
      | ok m =>
          have hnew : outputOf? w.caches.length t.log = none := by
            rw [← ht.caches_eq, ← ht.sound.reflects.length_eq, ← ht.sound.reflects.output_eq,
              Session.output?, List.getElem?_eq_none (Nat.le_refl _)]
            rfl
          refine ⟨?_, ?_⟩
          · rw [← ht.caches_eq, ← ht.sound.reflects.length_eq] at hnew ⊢
            simp [Traffic.conclude, note, outputOf?_append, hnew, Happening.output?]
          exact
            { sound := hsound.own
              served_eq := by
                simp only [Traffic.conclude, Traffic.note, Session.openStation, ht.served_eq,
                  ht.caches_eq]
              caches_eq := by
                simp only [Traffic.conclude, Traffic.note, Session.openStation, ht.caches_eq,
                  ht.merges_eq]
              merges_eq := ht.merges_eq
              metrics_eq := ht.metrics_eq
              live_perm := ht.live_perm
              output_eq := fun j o' hj => outputOf?_append_of_some (ht.output_eq j o' hj) _ }
      | error failure =>
          exact
            { ht with
              sound := hsound.own
              output_eq := fun j o' hj => outputOf?_append_of_some (ht.output_eq j o' hj) _ }

/-- A step of a flight that nobody waits for. -/
theorem advance (ht : t.Mirrors held served w) {k : Nat} {station : Option Nat} {o : Output}
    (hstation : ∀ i, station = some i → outputOf? i t.log = some o)
    (hk : t.flights[k]? = some none) (step : Progress × List Effect)
    (hwaits : ∀ c, step.1 = .waiting c → c.output = o) {hasMetrics : Bool}
    (hsound : (t.advance k station o step).Sound w.tools hasMetrics) :
    (t.advance k station o step).MirrorsStep held served station o (w.settleStep step) := by
  have hsettled : ({ t with session := { t.session with
      world := (t.session.world.settleStep step).2 } } : Traffic).Mirrors held served
        (w.settleStep step).2 :=
    { sound := by
        rw [World.settleStep_tools]
        exact ht.sound.session _ (ht.sound.reflects.world _ (by simp) (by simp))
      served_eq := ht.served_eq
      caches_eq := (World.settleStep_caches _ step).trans
        (ht.caches_eq.trans (w.settleStep_caches step).symm)
      merges_eq := World.settleStep_merges ht.merges_eq step
      metrics_eq := (World.settleStep_metrics _ step).trans
        ((congrArg (step.2.foldl Effect.toMetrics) ht.metrics_eq).trans
          (w.settleStep_metrics step).symm)
      live_perm := (w.settleStep_flights step).symm ▸ ht.live_perm
      output_eq := (w.settleStep_targets step).symm ▸ ht.output_eq }
  rw [← w.settleStep_tools step] at hsound
  obtain ⟨p, effects⟩ := step
  -- A merge that has ended hands over its result; one that waits is held from now on.
  cases p with
  | finished r => exact hsettled.conclude k hstation r hsound
  | waiting c =>
      exact ⟨hwaits c rfl,
        { hsettled with
          sound := hsound.own
          live_perm := (live_setSome _ hk).trans (hsettled.live_perm.cons _) }⟩

/-- A refresh begins in the world and in the traffic. -/
theorem openRefresh (ht : t.Mirrors held served w) {i : Nat} {o : Output}
    (ho : outputOf? i t.log = some o) :
    ({ t with session := t.session.openRefresh i } : Traffic).Mirrors held served
      (w.updateCache i Cache.opened) := by
  have hcache := ht.sound.reflects.cacheOf?_of_output ho
  have hopened : t.session.openRefresh i =
      { t.session with world := t.session.world.updateCache i Cache.opened } := by
    simp only [Session.openRefresh, hcache]
  have hsound := ht.sound.session _ (ht.sound.reflects.openRefresh i)
  rw [hopened] at hsound ⊢
  exact
    { ht with
      sound := hsound
      caches_eq := by simp only [World.updateCache, ht.caches_eq] }

theorem nextTools_eq (ht : t.Mirrors held served w) :
    t.session.world.nextTools = w.nextTools := by
  rw [World.nextTools, World.nextTools, ht.sound.reflects.tools_eq, ht.merges_eq]

/-- A merge begins in the world, and a flight in the traffic. -/
theorem launch (ht : t.Mirrors held served w) (station : Option Nat) (o : Output)
    (hstation : ∀ i, station = some i → outputOf? i t.log = some o) :
    (t.launch station (Flight.purposeFor station) o).MirrorsStep held served station o
      (w.settleStep (begin w.nextTools (Flight.purposeFor station) o)) := by
  have hboarded : (Traffic.note { t with flights := t.flights ++ [none] }
      (.launched t.flights.length station o)).Mirrors held served w :=
    { ht with
      sound := ht.sound.board station o
      live_perm := by
        refine List.Perm.trans ?_ ht.live_perm
        simp [live, note]
      output_eq := fun j o' hj => outputOf?_append_of_some (ht.output_eq j o' hj) _ }
  rw [← ht.nextTools_eq]
  exact hboarded.advance (fun i hi => outputOf?_append_of_some (hstation i hi) _) (by simp [note])
    _ (fun c hc => (waiting_of_proceed hc).2.1) (ht.sound.launch station o hstation)

/-- The feed of a merge that is held arrives. -/
theorem arrive {station : Option Nat} {c : Cycle} (ht : t.Mirrors (⟨station, c⟩ :: held) served w)
    (outcome : Outcome) :
    ∃ k, (t.move (.arrive k outcome)).MirrorsStep held served station c.output
      (w.settleStep (c.resume w.nextTools outcome)) := by
  have hlive : (⟨station, c⟩ : Flight) ∈ t.live := ht.live_perm.mem_iff.mpr (by simp)
  obtain ⟨f?, hmem, rfl⟩ := List.mem_filterMap.mp hlive
  obtain ⟨k, hk⟩ := List.getElem?_of_mem hmem
  have hlt : k < t.flights.length := (List.getElem?_eq_some_iff.mp hk).1
  have hfetched : (Traffic.note { t with flights := t.flights.set k none }
      (.fetched k outcome)).Mirrors held served w :=
    { ht with
      sound := ht.sound.fetch hk outcome
      live_perm := ((live_setNone hk).symm.trans ht.live_perm).cons_inv
      output_eq := fun j o' hj => outputOf?_append_of_some (ht.output_eq j o' hj) _ }
  refine ⟨k, ?_⟩
  have harrived := ht.sound.arrive k outcome
  simp only [Traffic.move, hk] at harrived ⊢
  rw [← ht.nextTools_eq]
  have hstation := (ht.sound.underWay k _ hk).output_eq
  exact hfetched.advance (fun i hi => outputOf?_append_of_some (hstation i hi) _)
    (by simp [note, hlt]) _ (fun c' hc => (waiting_of_resume hc).2.1) harrived

end Mirrors

end Traffic

end Almanac.Service
