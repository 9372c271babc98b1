import Almanac.Proofs.Service.Isolation

/-!
# Notices

The sinks are told when a refresh begins and how each merge ends. What they are told is read
off the log: every happening has its notices, and each notice is handed to every sink once.
Deliveries may run at any moment between two moves and in any order. None is lost on the way
and none is made twice, a sink that fails takes nothing from the others, and what is merged
and served is the same as with no sinks at all.
-/

namespace Almanac.Service

open Config (Output)
open Merge (Loaded Merged MergeFailure Outcome)

/-! ## Messages of effects -/

/-- The message that an effect sends. -/
def Effect.text? : Effect → Option String
  | .notify text => some text
  | _ => none

/-- The messages that effects send, in order. -/
def texts (effects : List Effect) : List String := effects.filterMap Effect.text?

@[simp] theorem texts_append (first second : List Effect) :
    texts (first ++ second) = texts first ++ texts second :=
  List.filterMap_append

theorem texts_cons (effect : Effect) (effects : List Effect) :
    texts (effect :: effects) = effect.text?.toList ++ texts effects := by
  cases htext : effect.text? <;> simp [texts, htext]

/-- The deliveries of messages: each message in turn to each sink in turn. -/
def deliveries (sinks : List Sink) (messages : List String) : List Task :=
  messages.flatMap (World.postings sinks)

@[simp] theorem deliveries_append (sinks : List Sink) (first second : List String) :
    deliveries sinks (first ++ second) = deliveries sinks first ++ deliveries sinks second :=
  List.flatMap_append

theorem work_deliveries (sinks : List Sink) (messages : List String) :
    work (deliveries sinks messages) = [] := by
  induction messages with
  | nil => rfl
  | cons text messages ih =>
      rw [deliveries, List.flatMap_cons, work_append, work_postings, List.nil_append]
      exact ih

namespace World

/-- From one world to another these messages were handed to the sinks, and nothing was delivered. -/
structure Hands (messages : List String) (w w' : World) : Prop where
  sinks_eq : w'.sinks = w.sinks
  delivered_eq : w'.delivered = w.delivered
  ready_eq : w'.ready = w.ready ++ deliveries w.sinks messages

theorem Hands.trans {first second : List String} {w w' w'' : World} (h : Hands first w w')
    (h' : Hands second w' w'') : Hands (first ++ second) w w'' where
  sinks_eq := h'.sinks_eq.trans h.sinks_eq
  delivered_eq := h'.delivered_eq.trans h.delivered_eq
  ready_eq := by
    rw [h'.ready_eq, h.ready_eq, h.sinks_eq, deliveries_append, List.append_assoc]

/-- The tasks and the sinks stay. -/
theorem Hands.of_eq {w w' : World} (hsinks : w'.sinks = w.sinks)
    (hdelivered : w'.delivered = w.delivered) (hready : w'.ready = w.ready) : Hands [] w w' :=
  ⟨hsinks, hdelivered, hready.trans (List.append_nil w.ready).symm⟩

theorem hands_applyAll (w : World) (effects : List Effect) :
    Hands (texts effects) w (w.applyAll effects) := by
  induction effects generalizing w with
  | nil => exact .of_eq rfl rfl rfl
  | cons effect effects ih =>
      have hfirst : Hands effect.text?.toList w (w.apply effect) := by
        cases effect with
        | notify text =>
            exact ⟨rfl, rfl, congrArg (w.ready ++ ·) (List.append_nil _).symm⟩
        | _ => exact .of_eq rfl rfl rfl
      rw [texts_cons]
      exact hfirst.trans (ih (w.apply effect))

theorem hands_settleStep (w : World) (step : Progress × List Effect) :
    Hands (texts step.2) w (w.settleStep step).2 := by
  have hcounted : Hands [] (w.applyAll step.2) (w.settleStep step).2 := by
    simp only [settleStep]
    unfold countMerge
    split <;> exact .of_eq rfl rfl rfl
  have hall := (w.hands_applyAll step.2).trans hcounted
  rwa [List.append_nil] at hall

/-- The merge that has just ended took the time that was handed out to it. -/
theorem elapsed_settleStep (w : World) {step : Progress × List Effect} {m : Merged}
    (hends : step.1 = .finished (.ok m)) :
    w.tools ((w.settleStep step).2.merges - 1) = w.nextTools := by
  have hmerges : (w.settleStep step).2.merges = w.merges + 1 := by
    simp only [settleStep, hends, countMerge, (w.sameWork_applyAll step.2).merges_eq]
  rw [hmerges, Nat.add_sub_cancel]
  rfl

end World

/-! ## Notices of a merge -/

/-- What is told when a merge begins. -/
def openingNotices (o : Output) : Purpose → List String
  | .merge | .bootstrap => []
  | .refresh => ["[" ++ o.name ++ "] " ++ "Invalidated cache, remerging ics files"]

/-- What is told when a merge ends, after some time in words or with a failure. -/
def endNotices (o : Output) (purpose : Purpose) : Except MergeFailure String → List String
  | .ok elapsed => ["[" ++ o.name ++ "] " ++ ("Merged ical files in " ++ elapsed)]
  | .error failure =>
    ("[" ++ o.name ++ "] " ++ ("Could not complete request, " ++ failure.message)) ::
      match purpose with
      | .merge | .bootstrap => []
      | .refresh => ["[" ++ o.name ++ "] " ++ ("Error merging ical files: " ++ failure.message)]

/-- What is told after a step of a merge: nothing while it waits. -/
def Progress.notices (elapsed : String) (o : Output) (purpose : Purpose) : Progress → List String
  | .waiting _ => []
  | .finished r => endNotices o purpose (r.map fun _ => elapsed)

/-- The time that the merge of a calendar took, in words. -/
def Edition.elapsed (tools : Nat → Tools) (e : Edition) : String := (tools (e.number - 1)).elapsed

/-- What a happening tells the sinks, each message under the name of the output. A refresh is told
under the name of the output of its station. -/
def Happening.notices (tools : Nat → Tools) (named : Nat → Option Output) :
    Happening → List String
  | .launched _ station o => openingNotices o (Flight.purposeFor station)
  | .started _ _ o e => endNotices o .bootstrap (.ok (e.elapsed tools))
  | .failed _ o failure => endNotices o .bootstrap (.error failure)
  | .refreshed _ i r =>
    (named i).toList.flatMap fun o => endNotices o .refresh (r.map (Edition.elapsed tools))
  | .fetched .. | .served .. | .answered .. => []

/-- What a log tells the sinks, in order. -/
def notices (tools : Nat → Tools) (log : List Happening) : List String :=
  log.flatMap (Happening.notices tools (outputOf? · log))

theorem texts_flatMap_filterEffects (o : Output) (loaded : List Loaded) :
    texts (loaded.flatMap (filterEffects o)) = [] := by
  apply List.filterMap_eq_nil_iff.mpr
  intro effect heffect
  obtain ⟨l, _, hl⟩ := List.mem_flatMap.mp heffect
  simp only [filterEffects, List.mem_append, List.mem_map, List.mem_cons, List.not_mem_nil,
    or_false] at hl
  rcases hl with ⟨_, _, rfl⟩ | rfl | rfl <;> rfl

theorem texts_proceed (tools : Tools) (purpose : Purpose) (o : Output) (loaded : List Loaded)
    (feeds : List Config.Feed) :
    let step := proceed tools purpose o loaded feeds
    texts step.2 = step.1.notices tools.elapsed o purpose := by
  cases feeds with
  | cons feed feeds => rfl
  | nil =>
      simp only [proceed, successEffects, texts_append, texts_flatMap_filterEffects]
      cases purpose <;> rfl

/-- The sinks are told of a refresh before it begins. -/
theorem texts_begin (tools : Tools) (purpose : Purpose) (o : Output) :
    let step := begin tools purpose o
    texts step.2 = openingNotices o purpose ++ step.1.notices tools.elapsed o purpose := by
  have hopening : texts (openingEffects o purpose) = openingNotices o purpose := by
    cases purpose <;> rfl
  have hrest := texts_proceed tools purpose o [] o.feeds
  simp only [begin, texts_append, hopening]
  exact congrArg (openingNotices o purpose ++ ·) hrest

theorem texts_resume (c : Cycle) (tools : Tools) (outcome : Outcome) :
    let step := c.resume tools outcome
    texts step.2 = step.1.notices tools.elapsed c.output c.purpose := by
  cases outcome with
  | ok events => exact texts_proceed tools c.purpose c.output _ c.rest
  | error e =>
      obtain ⟨purpose, o, loaded, current, rest⟩ := c
      cases purpose <;> rfl

/-! ## Notices of a log -/

/-- The log knows the outputs of the stations whose refreshes have ended. -/
def KnowsRefreshed (log : List Happening) : Prop :=
  ∀ k i r, .refreshed k i r ∈ log → ∃ o, outputOf? i log = some o

theorem Traffic.Sound.knowsRefreshed {tools : Nat → Tools} {hasMetrics : Bool} {t : Traffic}
    (ht : t.Sound tools hasMetrics) : KnowsRefreshed t.log := by
  intro k i r hmem
  obtain ⟨before, after, hlog⟩ := List.append_of_mem hmem
  obtain ⟨o, ho, _⟩ := ht.justified before _ after hlog
  rw [hlog]
  exact ⟨o, outputOf?_append_of_some ho _⟩

/-- What has been told stays told while the log grows. -/
theorem notices_append {log : List Happening} (hknown : KnowsRefreshed log)
    (tools : Nat → Tools) (h : Happening) :
    notices tools (log ++ [h]) =
      notices tools log ++ h.notices tools (outputOf? · (log ++ [h])) := by
  have hsame : ∀ g ∈ log, g.notices tools (outputOf? · (log ++ [h])) =
      g.notices tools (outputOf? · log) := by
    intro g hg
    cases g with
    | refreshed k i r =>
        obtain ⟨o, ho⟩ := hknown k i r hg
        simp only [Happening.notices, ho, outputOf?_append_of_some ho [h]]
    | _ => rfl
  rw [notices, List.flatMap_append, List.flatMap_singleton, List.flatMap_def,
    List.map_congr_left hsame, ← List.flatMap_def]
  rfl

namespace Traffic

/-- From one traffic to another the sinks were handed what the log tells of since. -/
def Announces (tools : Nat → Tools) (t u : Traffic) : Prop :=
  ∃ told, notices tools u.log = notices tools t.log ++ told ∧
    World.Hands told t.session.world u.session.world

theorem hands_openRefresh (s : Session) (i : Nat) :
    World.Hands [] s.world (s.openRefresh i).world := by
  simp only [Session.openRefresh]
  split <;> exact .of_eq rfl rfl rfl

theorem hands_closeRefresh (s : Session) (i : Nat) (r : Except MergeFailure Merged) :
    World.Hands [] s.world (s.closeRefresh i r).world := by
  simp only [Session.closeRefresh]
  split <;> exact .of_eq rfl rfl rfl

section Steps

variable {tools : Nat → Tools} {hasMetrics : Bool} {t : Traffic}

/-- The end of a merge hands out nothing more, and the log tells of it. -/
theorem conclude_notices (tools : Nat → Tools) (hknown : KnowsRefreshed t.log) (k : Nat)
    {station : Option Nat} {o : Output}
    (hstation : ∀ i, station = some i → outputOf? i t.log = some o)
    (r : Except MergeFailure Merged) :
    let u := t.conclude k station o r
    notices tools u.log = notices tools t.log ++ endNotices o (Flight.purposeFor station)
        (r.map fun _ => (tools (t.session.world.merges - 1)).elapsed) ∧
      World.Hands [] t.session.world u.session.world := by
  cases station with
  | none =>
      cases r with
      | ok m => exact ⟨notices_append hknown tools _, .of_eq rfl rfl rfl⟩
      | error failure => exact ⟨notices_append hknown tools _, .of_eq rfl rfl rfl⟩
  | some i =>
      have ho := hstation i rfl
      cases r with
      | ok m =>
          refine ⟨(notices_append hknown tools _).trans ?_, hands_closeRefresh _ i _⟩
          simp [Happening.notices, outputOf?_append_of_some ho, Except.map, Edition.elapsed,
            Flight.purposeFor]
      | error failure =>
          refine ⟨(notices_append hknown tools _).trans ?_, hands_closeRefresh _ i _⟩
          simp [Happening.notices, outputOf?_append_of_some ho, Except.map, Flight.purposeFor]

/-- A merge that nobody waits for takes a step. What it hands to the sinks is what the log tells of
since `t₀`: the notices of its opening, and those of its end if it has ended. -/
theorem Announces.of_advance {t₀ : Traffic} {k : Nat} {station : Option Nat} {o : Output}
    {step : Progress × List Effect} {opening : List String} (hknown : KnowsRefreshed t.log)
    (hstation : ∀ i, station = some i → outputOf? i t.log = some o)
    (htools : t.session.world.tools = tools)
    (hworld : World.Hands [] t₀.session.world t.session.world)
    (hlog : notices tools t.log = notices tools t₀.log ++ opening)
    (htexts : texts step.2 = opening ++
      step.1.notices t.session.world.nextTools.elapsed o (Flight.purposeFor station)) :
    Announces tools t₀ (t.advance k station o step) := by
  have hstepped := hworld.trans (t.session.world.hands_settleStep step)
  rw [List.nil_append, htexts] at hstepped
  obtain ⟨p, effects⟩ := step
  cases p with
  | waiting c =>
      refine ⟨opening, hlog, ?_⟩
      rwa [Progress.notices, List.append_nil] at hstepped
  | finished r =>
      let settled : Traffic := { t with
        session := { t.session with
          world := (t.session.world.settleStep (.finished r, effects)).2 } }
      obtain ⟨hconcluded, hclosed⟩ := settled.conclude_notices tools hknown k hstation r
      have helapsed : (r.map fun _ => (tools (settled.session.world.merges - 1)).elapsed) =
          r.map fun _ => t.session.world.nextTools.elapsed := by
        cases r with
        | ok m => rw [← htools, t.session.world.elapsed_settleStep rfl]
        | error failure => rfl
      rw [helapsed] at hconcluded
      have hended := hstepped.trans hclosed
      rw [List.append_nil] at hended
      refine ⟨_, ?_, hended⟩
      rw [← List.append_assoc, ← hlog]
      exact hconcluded

theorem Announces.of_launch (ht : t.Sound tools hasMetrics) {t₀ : Traffic}
    (hworld : World.Hands [] t₀.session.world t.session.world) (hlog : t.log = t₀.log)
    {station : Option Nat} {o : Output}
    (hstation : ∀ i, station = some i → outputOf? i t.log = some o) :
    Announces tools t₀ (t.launch station (Flight.purposeFor station) o) := by
  refine of_advance (ht.board station o).knowsRefreshed ?_ ht.reflects.tools_eq hworld ?_
    (texts_begin t.session.world.nextTools (Flight.purposeFor station) o)
  · exact fun i hi => outputOf?_append_of_some (hstation i hi) _
  · exact (notices_append ht.knowsRefreshed tools _).trans (by rw [hlog]; rfl)

/-- What happens outside of merges is told to no sink. -/
theorem Announces.of_note (ht : t.Sound tools hasMetrics) {s : Session}
    (hworld : World.Hands [] t.session.world s.world) {h : Happening}
    (hquiet : ∀ named, h.notices tools named = []) :
    Announces tools t ({ t with session := s }.note h) := by
  refine ⟨[], ?_, hworld⟩
  exact (notices_append ht.knowsRefreshed tools h).trans (congrArg _ (hquiet _))

/-- Every move hands to the sinks what the log tells of it. -/
theorem announces_move (ht : t.Sound tools hasMetrics) (m : Move) :
    Announces tools t (t.move m) := by
  have hstay : Announces tools t t := ⟨[], (List.append_nil _).symm, .of_eq rfl rfl rfl⟩
  cases m with
  | start o => exact .of_launch ht (.of_eq rfl rfl rfl) rfl nofun
  | refresh i =>
      simp only [Traffic.move]
      split
      next o ho =>
        rw [ht.reflects.output_eq] at ho
        refine .of_launch (ht.session _ (ht.reflects.openRefresh i)) (hands_openRefresh _ i) rfl ?_
        rintro _ ⟨⟩
        exact ho
      next => exact hstay
  | arrive k outcome =>
      simp only [Traffic.move]
      split
      next f hk =>
        have hflight := ht.underWay k f hk
        refine .of_advance (ht.fetch hk outcome).knowsRefreshed ?_ ht.reflects.tools_eq
          (.of_eq rfl rfl rfl) (notices_append ht.knowsRefreshed tools _) ?_
        · exact fun i hi => outputOf?_append_of_some (hflight.output_eq i hi) _
        · rw [← hflight.purpose_eq]
          exact texts_resume f.cycle t.session.world.nextTools outcome
      next => exact hstay
  | serve i =>
      simp only [Traffic.move]
      split
      next => exact .of_note ht (.of_eq rfl rfl rfl) fun _ => rfl
      next => exact hstay
  | get r =>
      refine .of_note ht ?_ fun _ => rfl
      have hquiet : texts (Session.requestEffects (Dictionary.ofList t.session.servedCalendars)
          t.session.hasMetrics r) = [] := by
        simp only [Session.requestEffects]
        split <;> rfl
      exact hquiet ▸ t.session.world.hands_applyAll _

end Steps

end Traffic

/-! ## Deliveries -/

/-- A delivery to the sink at a place. -/
def Task.isTo (place : Nat) : Task → Bool
  | .deliver target _ _ => target == place
  | _ => false

/-- The deliveries to the sink at a place. -/
def sentTo (place : Nat) (tasks : List Task) : List Task := tasks.filter (Task.isTo place)

/-- The message that a working sink keeps when the task runs. -/
def Task.kept? : Task → Option String
  | .deliver _ .recording text => some text
  | _ => none

/-- The messages that the sink at a place keeps when the tasks run. -/
def kept (place : Nat) (tasks : List Task) : List String :=
  (sentTo place tasks).filterMap Task.kept?

/-- The messages that the sink at a place has kept. -/
def mailbox (place : Nat) (receipts : List Receipt) : List String :=
  (receipts.filter (·.place == place)).map Receipt.text

/-- What the sink at a place is to keep of messages: all of them if it works. -/
def share (sinks : List Sink) (place : Nat) (messages : List String) : List String :=
  if sinks[place]? = some .recording then messages else []

@[simp] theorem sentTo_append (place : Nat) (first second : List Task) :
    sentTo place (first ++ second) = sentTo place first ++ sentTo place second :=
  List.filter_append first second

@[simp] theorem kept_append (place : Nat) (first second : List Task) :
    kept place (first ++ second) = kept place first ++ kept place second := by
  rw [kept, sentTo_append, List.filterMap_append]
  rfl

@[simp] theorem share_append (sinks : List Sink) (place : Nat) (first second : List String) :
    share sinks place (first ++ second) = share sinks place first ++ share sinks place second := by
  unfold share
  split <;> rfl

/-- Of sinks that stand from a place on, each is sent a message once, at its own place. -/
theorem sentTo_zipIdx (sinks : List Sink) (text : String) (start place : Nat) :
    sentTo place ((sinks.zipIdx start).map fun e => .deliver e.2 e.1 text) =
      if start ≤ place then (sinks[place - start]?).toList.map (Task.deliver place · text)
      else [] := by
  induction sinks generalizing start with
  | nil => simp [sentTo]
  | cons sink sinks ih =>
      rw [List.zipIdx_cons, List.map_cons, ← List.singleton_append, sentTo_append, ih]
      rcases Nat.lt_trichotomy start place with hlt | rfl | hgt
      · obtain ⟨n, rfl⟩ : ∃ n, place = start + 1 + n := ⟨place - (start + 1), by omega⟩
        have hother : start ≠ start + 1 + n := by omega
        have hplace : start + 1 + n - start = n + 1 := by omega
        simp [sentTo, Task.isTo, hother, hplace, Nat.le_of_lt hlt]
      · simp [sentTo, Task.isTo]
      · have hother : start ≠ place := by omega
        have hfirst : ¬start ≤ place := by omega
        have hrest : ¬start + 1 ≤ place := by omega
        simp [sentTo, Task.isTo, hother, hfirst, hrest]

/-- Each sink is sent a message once. -/
theorem sentTo_postings (sinks : List Sink) (text : String) (place : Nat) :
    sentTo place (World.postings sinks text) =
      (sinks[place]?).toList.map (Task.deliver place · text) :=
  sentTo_zipIdx sinks text 0 place

/-- Each sink is sent each message in turn. -/
theorem sentTo_deliveries (sinks : List Sink) (messages : List String) (place : Nat) :
    sentTo place (deliveries sinks messages) =
      messages.flatMap fun text => (sinks[place]?).toList.map (Task.deliver place · text) := by
  induction messages with
  | nil => rfl
  | cons text messages ih =>
      rw [List.flatMap_cons, ← ih, ← sentTo_postings]
      exact sentTo_append place _ _

theorem kept_deliveries (sinks : List Sink) (messages : List String) (place : Nat) :
    kept place (deliveries sinks messages) = share sinks place messages := by
  rw [kept, sentTo_deliveries, share]
  cases sinks[place]? with
  | none => simp
  | some sink => cases sink <;> simp [List.filterMap_flatMap, Task.kept?]

/-- A delivery that runs goes over to what its sink has kept, if that works. -/
theorem mailbox_deliver (w : World) (place target : Nat) (sink : Sink) (text : String) :
    mailbox place (w.runTask (.deliver target sink text)).delivered =
      (kept place [.deliver target sink text]).reverse ++ mailbox place w.delivered := by
  by_cases hplace : target = place
  · cases sink <;> simp [mailbox, kept, sentTo, Task.isTo, Task.kept?, World.runTask, hplace]
  · cases sink <;> simp [mailbox, kept, sentTo, Task.isTo, World.runTask, hplace]

/-- Deliveries that run leave none behind, and the working sinks keep their messages. -/
theorem runTasks_kept {tasks : List Task} (hwork : work tasks = []) (w : World) :
    (tasks.foldl World.runTask w).ready = w.ready ∧
      ∀ place, mailbox place (tasks.foldl World.runTask w).delivered =
        (kept place tasks).reverse ++ mailbox place w.delivered := by
  induction tasks generalizing w with
  | nil => exact ⟨rfl, fun _ => rfl⟩
  | cons task tasks ih =>
      cases task with
      | deliver target sink text =>
          obtain ⟨hready, hmailbox⟩ := ih hwork (w.runTask (.deliver target sink text))
          rw [List.foldl_cons, hready]
          refine ⟨by cases sink <;> rfl, fun place => ?_⟩
          rw [hmailbox, mailbox_deliver, ← List.append_assoc, ← List.reverse_append, ← kept_append]
          rfl
      | _ => cases hwork

/-- When all deliveries have run, the working sinks have kept all messages. -/
theorem World.settle_kept {w : World} (hwork : work w.ready = []) :
    w.settle.ready = [] ∧ ∀ place, mailbox place w.settle.delivered =
      (kept place w.ready).reverse ++ mailbox place w.delivered := by
  obtain ⟨hready, hmailbox⟩ := runTasks_kept hwork { w with ready := [] }
  -- The second round has nothing to run.
  have hsettled : w.settle = { w.runRound with ready := [] } :=
    congrArg (List.foldl runTask { w.runRound with ready := [] }) hready
  rw [hsettled]
  exact ⟨rfl, hmailbox⟩

/-- What may happen next where deliveries run as well. -/
inductive Motion where
  | move (m : Move)
  /-- The delivery of a number among the tasks that are ready runs. -/
  | deliver (i : Nat)

/-- The move of a motion. -/
def Motion.move? : Motion → Option Move
  | .move m => some m
  | .deliver _ => none

namespace Traffic

/-- The delivery of a number among the tasks that are ready runs. Without one nothing changes. -/
def deliver (t : Traffic) (i : Nat) : Traffic :=
  match t.session.world.ready[i]? with
  | some (.deliver place sink text) =>
    let taken : World := { t.session.world with ready := t.session.world.ready.eraseIdx i }
    { t with session := { t.session with world := taken.runTask (.deliver place sink text) } }
  | _ => t

/-- The traffic after a motion. -/
def stir (t : Traffic) : Motion → Traffic
  | .move m => t.move m
  | .deliver i => t.deliver i

/-- The traffic after motions in order. -/
def stirAll (t : Traffic) (motions : List Motion) : Traffic := motions.foldl stir t

/-- The messages that the log tells of were handed to every sink: a working one has kept them, or
has the deliveries still before it. -/
structure Accounts (tools : Nat → Tools) (sinks : List Sink) (t : Traffic) : Prop where
  sinks_eq : t.session.world.sinks = sinks
  kept_perm : ∀ place, (mailbox place t.session.world.delivered ++
    kept place t.session.world.ready).Perm (share sinks place (notices tools t.log))

section Motions

variable {tools : Nat → Tools} {hasMetrics : Bool} {sinks : List Sink} {t : Traffic}

theorem Accounts.quiet (tools : Nat → Tools) (sinks : List Sink) (hasMetrics : Bool) :
    (Traffic.quiet tools sinks hasMetrics).Accounts tools sinks where
  sinks_eq := rfl
  kept_perm place := by
    have hnothing : share sinks place [] = [] := ite_self _
    exact hnothing ▸ .nil

theorem Accounts.move (ha : t.Accounts tools sinks) (ht : t.Sound tools hasMetrics) (m : Move) :
    (t.move m).Accounts tools sinks := by
  obtain ⟨told, hlog, hands⟩ := announces_move ht m
  refine ⟨hands.sinks_eq.trans ha.sinks_eq, fun place => ?_⟩
  rw [hands.delivered_eq, hands.ready_eq, hlog, ha.sinks_eq, kept_append, kept_deliveries,
    share_append, ← List.append_assoc]
  exact (ha.kept_perm place).append_right _

/-- A delivery that runs takes its message over to those that were kept, or to a sink that keeps
none. -/
theorem Accounts.deliver (ha : t.Accounts tools sinks) (i : Nat) :
    (t.deliver i).Accounts tools sinks := by
  unfold Traffic.deliver
  split
  next target sink text hi =>
    obtain ⟨hlt, hget⟩ := List.getElem?_eq_some_iff.mp hi
    have hrun : ∀ w : World, (w.runTask (.deliver target sink text)).sinks = w.sinks ∧
        (w.runTask (.deliver target sink text)).ready = w.ready := by
      cases sink <;> exact fun _ => ⟨rfl, rfl⟩
    refine ⟨(hrun _).1.trans ha.sinks_eq, fun place => List.Perm.trans ?_ (ha.kept_perm place)⟩
    have htaken := ((List.getElem_cons_eraseIdx_perm hlt).filter (Task.isTo place)).filterMap
      Task.kept?
    rw [hget, ← List.singleton_append, List.filter_append, List.filterMap_append] at htaken
    have hmoved := ((kept place [.deliver target sink text]).reverse_perm.append_right
      (mailbox place t.session.world.delivered)).trans List.perm_append_comm
    rw [(hrun _).2, mailbox_deliver]
    refine (hmoved.append_right _).trans ?_
    rw [List.append_assoc]
    exact htaken.append_left _
  next => exact ha

theorem Sound.deliver (ht : t.Sound tools hasMetrics) (i : Nat) :
    (t.deliver i).Sound tools hasMetrics := by
  unfold Traffic.deliver
  split
  next place sink text _ =>
    cases sink <;> exact ht.session _ (ht.reflects.world _ rfl rfl)
  next => exact ht

/-- A delivery that runs disturbs nothing. -/
theorem Alike.deliver {u : Traffic} (h : u.Alike t) (i : Nat) : u.Alike (t.deliver i) := by
  unfold Traffic.deliver
  split
  next place sink text hi =>
    have htaken : World.Alike u.session.world
        { t.session.world with ready := t.session.world.ready.eraseIdx i } :=
      { h.session.world with work_eq := (work_eraseIdx hi).trans h.session.world.work_eq }
    have hran := (htaken.symm.deliver place sink text).symm
    exact { h with session := { h.session with world := hran } }
  next => exact h

theorem stirAll_accounts (ht : t.Sound tools hasMetrics) (ha : t.Accounts tools sinks)
    (motions : List Motion) :
    (t.stirAll motions).Sound tools hasMetrics ∧ (t.stirAll motions).Accounts tools sinks := by
  induction motions generalizing t with
  | nil => exact ⟨ht, ha⟩
  | cons motion motions ih =>
      cases motion with
      | move m => exact ih (ht.move m) (ha.move ht m)
      | deliver i => exact ih (ht.deliver i) (ha.deliver i)

/-- Deliveries that run between the moves disturb none of them. -/
theorem Alike.stirAll {u : Traffic} (h : u.Alike t) (motions : List Motion) :
    (u.play (motions.filterMap Motion.move?)).Alike (t.stirAll motions) := by
  induction motions generalizing t u with
  | nil => exact h
  | cons motion motions ih =>
      cases motion with
      | move m => exact ih (h.move m)
      | deliver i => exact ih (h.deliver i)

/-- Moves alone hand each message in turn to each sink in turn. -/
theorem play_hands (ht : t.Sound tools hasMetrics) (moves : List Move) :
    Announces tools t (t.play moves) := by
  induction moves generalizing t with
  | nil => exact ⟨[], (List.append_nil _).symm, .of_eq rfl rfl rfl⟩
  | cons m moves ih =>
      obtain ⟨first, hfirst, hands⟩ := announces_move ht m
      obtain ⟨rest, hrest, hands'⟩ := ih (ht.move m)
      refine ⟨first ++ rest, hrest.trans ?_, hands.trans hands'⟩
      rw [hfirst, List.append_assoc]

end Motions

theorem ready_play_quiet (tools : Nat → Tools) (sinks : List Sink) (hasMetrics : Bool)
    (moves : List Move) :
    let t := (quiet tools sinks hasMetrics).play moves
    t.session.world.ready = deliveries sinks (notices tools t.log) := by
  obtain ⟨told, hlog, hands⟩ := play_hands (Sound.quiet tools sinks hasMetrics) moves
  intro t
  rw [show notices tools t.log = told from hlog]
  exact hands.ready_eq

end Traffic

/-- Outputs are started and refreshed and their feeds arrive in any order, with any working and
failing sinks, and deliveries run at any moment between the moves. What is merged, served and put
into the caches is what it would be with no sinks at all. The log tells all messages: one for each
refresh that begins, one for each merge that succeeds, one for each merge that fails and one more if
it was a refresh, each under the name of its output. Each message in turn is handed to each sink in
turn, so the sink at any place is sent all of them, each once. If it works it has kept them or will
keep them, in some order, and has done so when all deliveries have run; if not it keeps none. -/
theorem messages_reach_every_working_sink (tools : Nat → Tools) (sinks : List Sink)
    (hasMetrics : Bool) (motions : List Motion) :
    let moves := motions.filterMap Motion.move?
    let t := (Traffic.quiet tools sinks hasMetrics).stirAll motions
    let alone := (Traffic.quiet tools [] hasMetrics).play moves
    let handed := ((Traffic.quiet tools sinks hasMetrics).play moves).session.world.ready
    let told := notices tools t.log
    let w := t.session.world
    (t.log = alone.log ∧ w.caches = alone.session.world.caches ∧
        t.session.served = alone.session.served) ∧
      KnowsRefreshed t.log ∧
      handed = deliveries sinks told ∧
      (∀ (place : Nat) (sink : Sink), sinks[place]? = some sink →
        sentTo place handed = told.map (Task.deliver place sink)) ∧
      (∀ place, (mailbox place w.delivered ++ kept place w.ready).Perm
        (if sinks[place]? = some .recording then told else [])) ∧
      w.settle.ready = [] ∧
      ∀ place, (mailbox place w.settle.delivered).Perm
        (if sinks[place]? = some .recording then told else []) := by
  intro moves t alone handed told w
  obtain ⟨ht, ha⟩ : t.Sound tools hasMetrics ∧ t.Accounts tools sinks :=
    Traffic.stirAll_accounts (.quiet tools sinks hasMetrics) (.quiet tools sinks hasMetrics) motions
  have halone : alone.Alike t := .stirAll (.quiet tools [] sinks hasMetrics) motions
  have hundelivered : ((Traffic.quiet tools sinks hasMetrics).play moves).Alike t :=
    .stirAll (.quiet tools sinks sinks hasMetrics) motions
  have hhanded : handed = deliveries sinks told :=
    (Traffic.ready_play_quiet tools sinks hasMetrics moves).trans
      (congrArg (fun log => deliveries sinks (notices tools log)) hundelivered.log_eq.symm)
  -- A traffic makes nothing ready but deliveries.
  have hwork : work w.ready = [] := by
    refine hundelivered.session.world.work_eq.trans ?_
    exact (congrArg work hhanded).trans (work_deliveries sinks told)
  obtain ⟨hready, hmailbox⟩ := World.settle_kept hwork
  refine ⟨⟨halone.log_eq, halone.session.world.caches_eq, halone.session.served_eq⟩,
    ht.knowsRefreshed, hhanded, fun place sink hsink => ?_, ha.kept_perm, hready, fun place => ?_⟩
  · rw [hhanded, sentTo_deliveries, hsink]
    exact List.map_eq_flatMap.symm
  · rw [hmailbox]
    refine List.Perm.trans ?_ (ha.kept_perm place)
    exact ((kept place w.ready).reverse_perm.append_right _).trans List.perm_append_comm

/-- One sink of two fails, and the working one is told of the refresh before it is told of the start
that came first. -/
example :
    let o : Output := ⟨"team", "team", 60, []⟩
    let tools : Nat → Tools := fun n => ⟨⟨"", fun _ => ""⟩, toString (n + 1) ++ "s"⟩
    let t := (Traffic.quiet tools [.broken, .recording] false).stirAll
      [.move (.start o), .move (.refresh 0), .deliver 3]
    let delivered := t.session.world.settle.delivered
    mailbox 0 delivered = [] ∧
      mailbox 1 delivered =
        ["[team] Merged ical files in 2s", "[team] Merged ical files in 1s",
         "[team] Invalidated cache, remerging ics files"] := by
  decide

end Almanac.Service
