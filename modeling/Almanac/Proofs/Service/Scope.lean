import Almanac.Proofs.Service.Cadence
import Almanac.Proofs.Service.Starts

/-!
# The scope of tasks

A ticker begets only tasks for its own output. So which tasks run while time moves on, and what they
fetch and send, is bounded by the outputs of the tickers that there are, whatever fetching gives
meanwhile, and by what the main flow adds.
-/

namespace Almanac.Service

open Config (Feed Output)
open Merge (Merged MergeFailure Outcome)

/-- The outputs of the tickers by number, the feeds that may be fetched and the messages that sinks
may keep, those of these outputs among them. -/
structure Scope where
  crew : List Output
  calls : Call → Prop
  receipts : Receipt → Prop
  calls_of : ∀ {o}, o ∈ crew → ∀ f ∈ o.feeds, calls ⟨o, f⟩
  receipts_of : ∀ {o}, o ∈ crew → ∀ place words, receipts ⟨place, Merge.tag o words⟩

/-- Tickers are those of these outputs; the main flow may fetch and send what it likes. -/
def Scope.ofCrew (crew : List Output) : Scope where
  crew := crew
  calls _ := True
  receipts _ := True
  calls_of _ _ _ := trivial
  receipts_of _ _ _ := trivial

/-- A merge of the output that fetches these feeds may be run. -/
structure Scope.Covers (S : Scope) (o : Output) (feeds : List Feed) : Prop where
  calls : ∀ f ∈ feeds, S.calls ⟨o, f⟩
  receipts : ∀ place words, S.receipts ⟨place, Merge.tag o words⟩

theorem Scope.covers (S : Scope) {o : Output} (ho : o ∈ S.crew) : S.Covers o o.feeds :=
  ⟨S.calls_of ho, S.receipts_of ho⟩

/-- The refresh is one of the ticker of the output. -/
def Owner.Serves (crew : List Output) (o : Output) : Owner → Prop
  | .ticker slot _ _ => crew[slot]? = some o
  | .background _ => False

/-- The number of the ticker that the refresh is run for. -/
def Owner.slot? : Owner → Option Nat
  | .ticker slot _ _ => some slot
  | .background _ => none

theorem Owner.slot?_of_serves {crew : List Output} {o : Output} {owner : Owner}
    (howner : owner.Serves crew o) : ∃ slot, owner.slot? = some slot ∧ crew[slot]? = some o := by
  cases owner with
  | ticker slot due interval => exact ⟨slot, rfl, howner⟩
  | background slot => cases howner

theorem Owner.mem_of_serves {crew : List Output} {o : Output} {owner : Owner}
    (howner : owner.Serves crew o) : o ∈ crew := by
  cases owner with
  | ticker slot due interval => exact List.mem_of_getElem? howner
  | background slot => cases howner

namespace Task

/-- The task is one of a ticker of the scope and works for its output, or delivers a message of the
scope. -/
def Within (S : Scope) : Task → Prop
  | .deliver place _ text => S.receipts ⟨place, text⟩
  | .ticker slot _ o => S.crew[slot]? = some o
  | .refresh owner _ o => owner.Serves S.crew o
  | .resume owner _ c _ =>
    owner.Serves S.crew c.output ∧ ∀ f ∈ c.current :: c.rest, f ∈ c.output.feeds

/-- The number of the ticker whose task this is, and the output that it works for. -/
def duty? : Task → Option (Nat × Output)
  | .deliver .. => none
  | .ticker slot _ o => some (slot, o)
  | .refresh owner _ o => owner.slot?.map (·, o)
  | .resume owner _ c _ => owner.slot?.map (·, c.output)

theorem duty?_of_within {S : Scope} {task : Task} (htask : task.Within S) :
    (∃ place sink text, task = .deliver place sink text) ∨
      ∃ i o, task.duty? = some (i, o) ∧ S.crew[i]? = some o := by
  cases task with
  | deliver place sink text => exact .inl ⟨place, sink, text, rfl⟩
  | ticker slot cache o => exact .inr ⟨slot, o, rfl, htask⟩
  | refresh owner cache o =>
      obtain ⟨slot, hslot, ho⟩ := Owner.slot?_of_serves htask
      exact .inr ⟨slot, o, by rw [duty?, hslot]; rfl, ho⟩
  | resume owner cache c outcome =>
      obtain ⟨slot, hslot, ho⟩ := Owner.slot?_of_serves htask.1
      exact .inr ⟨slot, c.output, by rw [duty?, hslot]; rfl, ho⟩

end Task

/-! ## Messages of a merge -/

/-- The messages among the effects are those of the output. -/
def SpeaksFor (o : Output) (effects : List Effect) : Prop :=
  ∀ text, .notify text ∈ effects → ∃ words, text = Merge.tag o words

theorem speaksFor_append {o : Output} {first second : List Effect} (hfirst : SpeaksFor o first)
    (hsecond : SpeaksFor o second) : SpeaksFor o (first ++ second) := by
  intro text hmem
  exact (List.mem_append.mp hmem).elim (hfirst text) (hsecond text)

theorem speaksFor_closingEffects (o : Output) (purpose : Purpose)
    (r : Except MergeFailure Merged) : SpeaksFor o (closingEffects o purpose r) := by
  intro text hmem
  cases purpose with
  | merge => cases hmem
  | bootstrap => cases r <;> simp [closingEffects] at hmem
  | refresh =>
      cases r with
      | ok m => simp [closingEffects] at hmem
      | error e => exact ⟨_, by simpa [closingEffects, message] using hmem⟩

theorem speaksFor_proceed (tools : Tools) (purpose : Purpose) (o : Output)
    (loaded : List Merge.Loaded) (feeds : List Feed) :
    SpeaksFor o (proceed tools purpose o loaded feeds).2 := by
  cases feeds with
  | cons feed feeds => exact fun _ hmem => by cases hmem
  | nil =>
      refine speaksFor_append ?_ (speaksFor_closingEffects o purpose _)
      intro text hmem
      exact ⟨_, by simpa [successEffects, filterEffects, message] using hmem⟩

theorem speaksFor_begin (tools : Tools) (purpose : Purpose) (o : Output) :
    SpeaksFor o (begin tools purpose o).2 := by
  refine speaksFor_append ?_ ?_
  · intro text hmem
    cases purpose with
    | merge => cases hmem
    | bootstrap => simp [openingEffects] at hmem
    | refresh => exact ⟨_, by simpa [openingEffects, message] using hmem⟩
  · intro text hmem
    rcases List.mem_cons.mp hmem with heq | hmem
    · cases heq
    · exact speaksFor_proceed tools purpose o [] o.feeds text hmem

theorem speaksFor_resume (c : Cycle) (tools : Tools) (outcome : Outcome) :
    SpeaksFor c.output (c.resume tools outcome).2 := by
  cases outcome with
  | error e =>
      refine speaksFor_append ?_ (speaksFor_closingEffects c.output c.purpose _)
      intro text hmem
      exact ⟨_, by simpa [failureEffects, message] using hmem⟩
  | ok events =>
      intro text hmem
      rcases List.mem_cons.mp hmem with heq | hmem
      · cases heq
      · exact speaksFor_proceed tools c.purpose c.output _ c.rest text hmem

/-! ## Feeds of a merge -/

/-- A merge of the output stands here, and the feeds that it has still to fetch are among these. -/
def Progress.Fetches (o : Output) (feeds : List Feed) : Progress → Prop
  | .waiting c => c.output = o ∧ ∀ f ∈ c.current :: c.rest, f ∈ feeds
  | .finished _ => True

/-- A merge of the output pauses here, and the feeds that it has still to fetch are among these. -/
def World.Pause.Fetches (o : Output) (feeds : List Feed) : World.Pause → Prop
  | .waits _ c _ => c.output = o ∧ ∀ f ∈ c.current :: c.rest, f ∈ feeds
  | .ended _ => True

theorem fetches_proceed (tools : Tools) (purpose : Purpose) (o : Output)
    (loaded : List Merge.Loaded) {todo feeds : List Feed} (htodo : ∀ f ∈ todo, f ∈ feeds) :
    (proceed tools purpose o loaded todo).1.Fetches o feeds := by
  cases todo with
  | nil => trivial
  | cons feed todo => exact ⟨rfl, htodo⟩

theorem fetches_resume {o : Output} {feeds : List Feed} {c : Cycle}
    (hc : (Progress.waiting c).Fetches o feeds) (tools : Tools) (outcome : Outcome) :
    (c.resume tools outcome).1.Fetches o feeds := by
  obtain ⟨rfl, hfeeds⟩ := hc
  cases outcome with
  | error e => trivial
  | ok events =>
      exact fetches_proceed tools c.purpose c.output _ fun f hf =>
        hfeeds f (List.mem_cons_of_mem _ hf)

namespace World

/-! ## Worlds within a scope -/

/-- The tasks of the world are within the scope, and so is what has been fetched and delivered since
another world. -/
structure Within (S : Scope) (w base : World) : Prop where
  ready : ∀ task ∈ w.ready, task.Within S
  timers : ∀ t ∈ w.timers, t.task.Within S
  calls : ∃ calls, w.calls = calls ++ base.calls ∧ ∀ call ∈ calls, S.calls call
  delivered : ∃ receipts, w.delivered = receipts ++ base.delivered ∧
    ∀ r ∈ receipts, S.receipts r

section Steps

variable {S : Scope} {base w : World}

/-- A world that has the same tasks, calls and deliveries. -/
theorem Within.of_eq (hw : w.Within S base) {w' : World} (hready : w'.ready = w.ready)
    (htimers : w'.timers = w.timers) (hcalls : w'.calls = w.calls)
    (hdelivered : w'.delivered = w.delivered) : w'.Within S base := by
  obtain ⟨hr, ht, hc, hd⟩ := hw
  constructor
  · rwa [hready]
  · rwa [htimers]
  · rwa [hcalls]
  · rwa [hdelivered]

/-- Tasks of the scope become ready. -/
theorem Within.enqueue (hw : w.Within S base) (tasks : List Task)
    (htasks : ∀ task ∈ tasks, task.Within S) :
    ({ w with ready := w.ready ++ tasks } : World).Within S base where
  ready task htask := (List.mem_append.mp htask).elim (hw.ready task) (htasks task)
  timers := hw.timers
  calls := hw.calls
  delivered := hw.delivered

/-- A task of the scope begins to wait. -/
theorem Within.wait (hw : w.Within S base) (due : Nat) {task : Task} (htask : task.Within S) :
    (w.wait due task).Within S base where
  ready := hw.ready
  timers t ht := by
    rcases List.mem_append.mp ht with ht | ht
    · exact hw.timers t ht
    · obtain rfl := List.mem_singleton.mp ht
      exact htask
  calls := hw.calls
  delivered := hw.delivered

theorem Within.call (hw : w.Within S base) {call : Call} (hcall : S.calls call) :
    ({ w with calls := call :: w.calls } : World).Within S base := by
  obtain ⟨calls, hcalls, hall⟩ := hw.calls
  have hgrown : ({ w with calls := call :: w.calls } : World).calls =
      (call :: calls) ++ base.calls := congrArg (call :: ·) hcalls
  exact { hw with calls := ⟨call :: calls, hgrown, List.forall_mem_cons.mpr ⟨hcall, hall⟩⟩ }

theorem Within.apply (hw : w.Within S base) {effect : Effect}
    (heffect : ∀ text, effect = .notify text → ∀ place, S.receipts ⟨place, text⟩) :
    (w.apply effect).Within S base := by
  cases effect with
  | notify text =>
      refine (hw.enqueue (postings w.sinks text) ?_).of_eq rfl rfl rfl rfl
      intro task htask
      obtain ⟨e, _, rfl⟩ := List.mem_map.mp htask
      exact heffect text rfl e.2
  | _ => exact hw.of_eq rfl rfl rfl rfl

theorem Within.applyAll (hw : w.Within S base) {effects : List Effect}
    (heffects : ∀ text, .notify text ∈ effects → ∀ place, S.receipts ⟨place, text⟩) :
    (w.applyAll effects).Within S base := by
  induction effects generalizing w with
  | nil => exact hw
  | cons effect effects ih =>
      have hfirst := hw.apply fun text heq => heffects text (heq ▸ List.mem_cons_self)
      exact ih hfirst fun text hmem => heffects text (List.mem_cons_of_mem _ hmem)

theorem Within.settleStep (hw : w.Within S base) {o : Output} {feeds : List Feed}
    (hcovers : S.Covers o feeds) {step : Progress × List Effect} (hspeaks : SpeaksFor o step.2) :
    (w.settleStep step).2.Within S base := by
  have happlied : (w.applyAll step.2).Within S base := by
    apply hw.applyAll
    intro text hmem place
    obtain ⟨words, rfl⟩ := hspeaks text hmem
    exact hcovers.receipts place words
  simp only [World.settleStep]
  unfold countMerge
  split
  next => exact happlied.of_eq rfl rfl rfl rfl
  next => exact happlied

/-- Wherever a merge pauses, it has fetched no more than feeds of the scope. -/
theorem Within.drive (hw : w.Within S base) {o : Output} {feeds : List Feed}
    (hcovers : S.Covers o feeds) (fuel : Nat) {p : Progress} (hp : p.Fetches o feeds) :
    (drive fuel p w).2.Within S base ∧ (drive fuel p w).1.Fetches o feeds := by
  induction fuel generalizing w p with
  | zero => cases p <;> exact ⟨hw, trivial⟩
  | succ fuel ih =>
      cases p with
      | finished r => exact ⟨hw, trivial⟩
      | waiting c =>
          obtain ⟨rfl, hfeeds⟩ := hp
          have hcalled := hw.call (hcovers.calls c.current (hfeeds c.current List.mem_cons_self))
          simp only [World.drive]
          split
          next =>
            have hspeaks := speaksFor_resume c
              { w with calls := ⟨c.output, c.current⟩ :: w.calls }.nextTools
              (w.planOf c.current.url).outcome
            exact ih (hcalled.settleStep hcovers hspeaks) (fetches_resume ⟨rfl, hfeeds⟩ _ _)
          next => exact ⟨hcalled, rfl, hfeeds⟩

theorem Within.beginCycle (hw : w.Within S base) (purpose : Purpose) {o : Output}
    (hcovers : S.Covers o o.feeds) :
    (w.beginCycle purpose o).2.Within S base ∧ (w.beginCycle purpose o).1.Fetches o o.feeds :=
  (hw.settleStep hcovers (speaksFor_begin w.nextTools purpose o)).drive hcovers _
    (fetches_proceed w.nextTools purpose o [] fun _ hf => hf)

theorem Within.resumeCycle (hw : w.Within S base) {c : Cycle} {feeds : List Feed}
    (hcovers : S.Covers c.output feeds) (hc : ∀ f ∈ c.current :: c.rest, f ∈ feeds)
    (outcome : Outcome) :
    (w.resumeCycle c outcome).2.Within S base ∧
      (w.resumeCycle c outcome).1.Fetches c.output feeds :=
  (hw.settleStep hcovers (speaksFor_resume c w.nextTools outcome)).drive hcovers _
    (fetches_resume ⟨rfl, hc⟩ _ _)

/-! ## Tasks -/

/-- The next refresh of a ticker is one of the same output. -/
theorem Within.pauseRefresh {again : Owner → World → World} {owner : Owner} {o : Output}
    (howner : owner.Serves S.crew o)
    (hagain : ∀ (owner : Owner) (w : World), owner.Serves S.crew o → w.Within S base →
      (again owner w).Within S base)
    (cache : Nat) {paused : Pause × World} (hw : paused.2.Within S base)
    (hpaused : paused.1.Fetches o o.feeds) :
    (pauseRefresh again owner cache o paused).Within S base := by
  obtain ⟨pause, w⟩ := paused
  cases pause with
  | waits due c outcome =>
      obtain ⟨rfl, hfeeds⟩ := hpaused
      exact Within.wait hw due ⟨howner, hfeeds⟩
  | ended r =>
      have hclosed : (w.closeRefresh cache r).Within S base := Within.of_eq hw rfl rfl rfl rfl
      cases owner with
      | background slot => cases howner
      | ticker slot due interval =>
          simp only [World.pauseRefresh]
          split
          next => exact hagain _ _ howner hclosed
          next => exact hclosed.wait due howner

theorem Within.runRefresh {again : Owner → World → World} {owner : Owner} {o : Output}
    (howner : owner.Serves S.crew o)
    (hagain : ∀ (owner : Owner) (w : World), owner.Serves S.crew o → w.Within S base →
      (again owner w).Within S base)
    (cache : Nat) (hw : w.Within S base) :
    (runRefresh again owner cache o w).Within S base := by
  have hopened : (w.updateCache cache Cache.opened).Within S base := hw.of_eq rfl rfl rfl rfl
  obtain ⟨hbegun, hfetches⟩ :=
    hopened.beginCycle .refresh (S.covers (Owner.mem_of_serves howner))
  exact hbegun.pauseRefresh howner hagain cache hfetches

theorem Within.runLate {o : Output} (cache : Nat) (owner : Owner) (w : World)
    (howner : owner.Serves S.crew o) (hw : w.Within S base) :
    (runLate cache o owner w).Within S base := by
  apply Within.runRefresh howner _ cache hw
  intro owner w howner hw
  cases owner with
  | background slot => exact hw
  | ticker slot due interval => exact hw.wait due howner

theorem Within.deliver (hw : w.Within S base) {r : Receipt} (hr : S.receipts r) :
    ({ w with delivered := r :: w.delivered } : World).Within S base := by
  obtain ⟨receipts, hdelivered, hall⟩ := hw.delivered
  have hgrown : ({ w with delivered := r :: w.delivered } : World).delivered =
      (r :: receipts) ++ base.delivered := congrArg (r :: ·) hdelivered
  exact { hw with
    delivered := ⟨r :: receipts, hgrown, List.forall_mem_cons.mpr ⟨hr, hall⟩⟩ }

theorem Within.runTask (hw : w.Within S base) {task : Task} (htask : task.Within S) :
    (w.runTask task).Within S base := by
  cases task with
  | deliver place sink text =>
      cases sink with
      | recording => exact hw.deliver htask
      | broken => exact hw.of_eq rfl rfl rfl rfl
  | refresh owner cache o => exact hw.runRefresh htask (Within.runLate cache) cache
  | resume owner cache c outcome =>
      obtain ⟨howner, hfeeds⟩ := htask
      obtain ⟨hresumed, hfetches⟩ :=
        hw.resumeCycle (S.covers (Owner.mem_of_serves howner)) hfeeds outcome
      exact hresumed.pauseRefresh howner (Within.runLate cache) cache hfetches
  | ticker slot cache o =>
      simp only [World.runTask]
      split
      next => exact hw.of_eq rfl rfl rfl rfl
      next due _ => exact hw.wait due htask

/-! ## Tasks that run -/

/-- The world is within the scope, and so are the tasks that have run. -/
def Ends (S : Scope) (base w : World) (tasks : List Task) : Prop :=
  w.Within S base ∧ ∀ task ∈ tasks, task.Within S

theorem Within.rests (hw : w.Within S base) : Ends S base w [] :=
  ⟨hw, fun _ hnone => by cases hnone⟩

theorem Ends.andThen {first second : List Task} {w' : World} (hfirst : Ends S base w first)
    (hsecond : w.Within S base → Ends S base w' second) : Ends S base w' (first ++ second) :=
  ⟨(hsecond hfirst.1).1, List.forall_mem_append.mpr ⟨hfirst.2, (hsecond hfirst.1).2⟩⟩

theorem Within.runTasks (hw : w.Within S base) {tasks : List Task}
    (htasks : ∀ task ∈ tasks, task.Within S) : (tasks.foldl World.runTask w).Within S base := by
  induction tasks generalizing w with
  | nil => exact hw
  | cons task tasks ih =>
      obtain ⟨htask, hrest⟩ := List.forall_mem_cons.mp htasks
      exact ih (hw.runTask htask) hrest

theorem Within.runRound (hw : w.Within S base) : Ends S base w.runRound (w.tellRound itself) := by
  have hemptied : ({ w with ready := [] } : World).Within S base :=
    { hw with ready := fun _ hnone => by cases hnone }
  rw [tellRound, tellTasks_itself]
  exact ⟨hemptied.runTasks hw.ready, hw.ready⟩

theorem Within.settle (hw : w.Within S base) : Ends S base w.settle (w.tellSettle itself) :=
  hw.runRound.andThen Within.runRound

theorem Within.moveTo (hw : w.Within S base) (time : Nat) : (w.moveTo time).Within S base where
  ready task htask := by
    rcases List.mem_append.mp htask with htask | htask
    · exact hw.ready task htask
    · obtain ⟨t, ht, rfl⟩ := List.mem_map.mp htask
      exact hw.timers t (List.mem_of_mem_filter ht)
  timers t ht := hw.timers t (List.mem_of_mem_filter ht)
  calls := hw.calls
  delivered := hw.delivered

theorem Within.waitUntil (hw : w.Within S base) (fuel time : Nat) :
    Ends S base (waitUntil fuel time w) (tellWait itself fuel time w) := by
  induction fuel generalizing w with
  | zero =>
      obtain ⟨hsettled, htasks⟩ := hw.settle
      exact ⟨hsettled.moveTo time, htasks⟩
  | succ fuel ih =>
      simp only [World.waitUntil, tellWait]
      refine hw.settle.andThen fun hsettled => ?_
      cases w.settle.nextTime? with
      | none => exact (hsettled.moveTo time).rests
      | some t =>
          simp only
          split
          next => exact ih (hsettled.moveTo t)
          next => exact (hsettled.moveTo time).rests

theorem Within.sleep (hw : w.Within S base) (seconds : Nat) :
    Ends S base (w.sleep seconds) (w.tellSleep itself seconds) := by
  unfold World.sleep tellSleep
  split
  next => exact hw.rests
  next => exact hw.waitUntil _ _

theorem Within.joinSlot (hw : w.Within S base) (slot fuel : Nat) :
    Ends S base (joinSlot slot fuel w) (tellJoin itself slot fuel w) := by
  induction fuel generalizing w with
  | zero => exact hw.rests
  | succ fuel ih =>
      simp only [World.joinSlot, tellJoin]
      rcases w.results[slot]? with _ | _ | r
      · exact hw.rests
      · refine hw.settle.andThen fun hsettled => ?_
        rcases w.settle.results[slot]? with _ | _ | r
        · exact hsettled.rests
        · cases w.settle.nextTime? with
          | none => exact hsettled.rests
          | some t => exact ih (hsettled.moveTo t)
        · exact hsettled.rests
      · exact hw.rests

end Steps

end World

/-! ## Acts -/

/-- An act of the main flow that fetches and sends no more than the scope allows, makes no ticker
but the next one of the scope, and begins no refresh in the background. -/
def Act.Within (S : Scope) (w : World) : Act → Prop
  | .begin _ o => S.Covers o o.feeds
  | .resume c _ => S.Covers c.output (c.current :: c.rest)
  | .carryOut effects => ∀ text, .notify text ∈ effects → ∀ place, S.receipts ⟨place, text⟩
  | .spawn _ o => S.crew[w.ended.length]? = some o
  | .queue _ _ => False
  | .sleep _ | .settle | .store _ | .join _ _ | .setPlan _ _ => True

theorem Act.within_of_isIdle {a : Act} (ha : a.IsIdle) (S : Scope) (w : World) : a.Within S w := by
  cases a with
  | sleep | settle | setPlan => trivial
  | _ => cases ha

namespace World

variable {S : Scope} {base w : World}

theorem Within.act (hw : w.Within S base) {a : Act} (ha : a.Within S w) :
    Ends S base (w.act a) (w.tellAct itself a) := by
  cases a with
  | sleep seconds => exact hw.sleep seconds
  | settle => exact hw.settle
  | «begin» purpose o => exact (hw.beginCycle purpose ha).1.rests
  | resume c outcome => exact (hw.resumeCycle ha (fun _ hf => hf) outcome).1.rests
  | carryOut effects => exact (hw.applyAll ha).rests
  | store caches =>
      have hstored : (w.act (.store caches)).Within S base := hw.of_eq rfl rfl rfl rfl
      exact hstored.rests
  | setPlan url plan =>
      have hplanned : (w.act (.setPlan url plan)).Within S base := hw.of_eq rfl rfl rfl rfl
      exact hplanned.rests
  | join slot fuel => exact hw.joinSlot slot fuel
  | spawn cache o =>
      have hqueued := hw.enqueue [.ticker w.ended.length cache o]
        (List.forall_mem_singleton.mpr ha)
      have hspawned : (w.act (.spawn cache o)).Within S base := hqueued.of_eq rfl rfl rfl rfl
      exact hspawned.rests
  | queue cache o => cases ha

/-- While the main flow asks for nothing, the tasks that run are within the scope. -/
theorem Within.idle (hw : w.Within S base) {acts : List Act} (hidle : ∀ a ∈ acts, a.IsIdle) :
    Ends S base (w.actAll acts) (w.tasksRun acts) := by
  induction acts generalizing w with
  | nil => exact hw.rests
  | cons a acts ih =>
      obtain ⟨ha, hrest⟩ := List.forall_mem_cons.mp hidle
      exact (hw.act (Act.within_of_isIdle ha S w)).andThen fun hnext => ih hnext hrest

section Quiet

variable (tools : Nat → Tools) (plans : Dictionary Plan) (sinks : List Sink)

theorem within_quiet (S : Scope) :
    (quiet tools plans sinks).Within S (quiet tools plans sinks) where
  ready _ hnone := by cases hnone
  timers _ hnone := by cases hnone
  calls := ⟨[], rfl, fun _ hnone => by cases hnone⟩
  delivered := ⟨[], rfl, fun _ hnone => by cases hnone⟩

/-- The outputs that acts make tickers for bound the tasks after each of the acts. -/
theorem Within.goOn (past : List Act) {rest : List Act}
    (hpast : ((quiet tools plans sinks).actAll past).Within (.ofCrew (crew (past ++ rest)))
      (quiet tools plans sinks))
    (hplain : ∀ a ∈ rest, a.IsPlain) :
    ((quiet tools plans sinks).actAll (past ++ rest)).Within (.ofCrew (crew (past ++ rest)))
      (quiet tools plans sinks) := by
  induction rest generalizing past with
  | nil =>
      rw [List.append_nil] at hpast ⊢
      exact hpast
  | cons a rest ih =>
      obtain ⟨ha, hrest⟩ := List.forall_mem_cons.mp hplain
      have hact : a.Within (.ofCrew (crew (past ++ a :: rest)))
          ((quiet tools plans sinks).actAll past) := by
        cases a with
        | «begin» | resume => exact ⟨fun _ _ => trivial, fun _ _ => trivial⟩
        | carryOut => exact fun _ _ _ => trivial
        | queue => cases ha
        | spawn cache o =>
            -- The ticker is the next one of the crew.
            have hlength := length_ended_actAll tools plans sinks past
            show (crew (past ++ .spawn cache o :: rest))[_]? = some o
            rw [hlength, ← length_crew, crew_append, List.getElem?_append_right (Nat.le_refl _),
              Nat.sub_self]
            rfl
        | _ => trivial
      have hnext := (hpast.act hact).1
      rw [List.append_cons] at hnext ⊢
      exact ih (past ++ [a]) (actAll_append _ past [a] ▸ hnext) hrest

/-- Whatever the main flow has done, each task works for the output that its ticker was made for. -/
theorem within_ofCrew {acts : List Act} (hplain : ∀ a ∈ acts, a.IsPlain) :
    ((quiet tools plans sinks).actAll acts).Within (.ofCrew (crew acts))
      (quiet tools plans sinks) :=
  Within.goOn tools plans sinks [] (within_quiet tools plans sinks _) hplain

end Quiet

end World

end Almanac.Service
