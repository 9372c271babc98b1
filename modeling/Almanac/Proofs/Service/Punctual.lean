import Almanac.Proofs.Service.MainFlow

/-!
# Tickers are punctual

A ticker has one appointment at a time: a task that is ready now, or that waits for its time.
Tasks run at the very moment at which they are due, since time moves on only when none is ready,
and then no further than to the next timer. So whatever else runs, a task of the ticker takes it
from one phase to the next at the right time, and a new appointment takes the place of the old
one.
-/

namespace Almanac.Service

open Config (Output)
open Merge (Merged MergeFailure Outcome)

/-! ## Appointments -/

/-- What a ticker is to do at a time. -/
structure Appointment where
  time : Nat
  /-- When the refresh after this one is due, at the earliest. -/
  next : Nat
  interval : Nat
  /-- Whether a refresh is under way. -/
  busy : Bool

/-- The appointment of a ticker in a phase. -/
def Phase.appointments (interval : Nat) : Phase → List Appointment
  | .absent => []
  | .awaits due => [⟨due, due + interval, interval, false⟩]
  | .works start spent => [⟨start + spent, start + interval, interval, true⟩]

/-- The appointment of ticker `n` that this owner is, if it is one. -/
def Owner.appointments (n time : Nat) (busy : Bool) : Owner → List Appointment
  | .background _ => []
  | .ticker slot due interval => if slot = n then [⟨time, due, interval, busy⟩] else []

/-- Refreshes of a ticker are some time apart. -/
def Owner.Regular : Owner → Prop
  | .background _ => True
  | .ticker _ _ interval => 0 < interval

namespace Task

/-- The appointment of ticker `n` that this task is if it runs at a time. -/
def appointments (n time : Nat) : Task → List Appointment
  | .deliver .. => []
  | .refresh owner _ _ => owner.appointments n time false
  | .resume owner _ _ _ => owner.appointments n time true
  | .ticker slot _ o =>
    if slot = n then
      (firstDue? time o.refreshSeconds).toList.map fun due =>
        ⟨due, due + o.refreshSeconds, o.refreshSeconds, false⟩
    else []

def Regular : Task → Prop
  | .refresh owner _ _ => owner.Regular
  | .resume owner _ _ _ => owner.Regular
  | _ => True

def IsDelivery : Task → Prop
  | .deliver .. => True
  | _ => False

theorem appointments_of_isDelivery {task : Task} (htask : task.IsDelivery) (n time : Nat) :
    task.appointments n time = [] := by
  cases task with
  | deliver => rfl
  | _ => cases htask

theorem regular_of_isDelivery {task : Task} (htask : task.IsDelivery) : task.Regular := by
  cases task with
  | deliver => trivial
  | _ => cases htask

end Task

theorem firstDue?_eq_some {now interval due : Nat} (hdue : firstDue? now interval = some due) :
    due = now + interval ∧ 0 < interval := by
  unfold firstDue? at hdue
  split at hdue
  next => cases hdue
  next hnot =>
    obtain rfl := Option.some.inj hdue
    exact ⟨rfl, Nat.pos_of_ne_zero fun hzero => hnot (.inl hzero)⟩

theorem firstDue?_of_le {now interval : Nat} (hpos : 0 < interval)
    (hlast : now + interval ≤ lastSecond) : firstDue? now interval = some (now + interval) := by
  unfold firstDue?
  exact if_neg (by omega)

/-! ## Deeds and phases -/

section Deeds

variable {n interval time : Nat} {φ : Phase} {rest : List Appointment}

/-- If the appointment of a ticker is that of its phase, it has no other. -/
theorem Phase.appointments_eq {a : Appointment}
    (hfits : (a :: rest).Perm (φ.appointments interval)) :
    rest = [] ∧ φ.appointments interval = [a] := by
  cases φ with
  | absent => exact absurd hfits.eq_nil (List.cons_ne_nil _ _)
  | awaits due =>
      obtain ⟨rfl, rfl⟩ := List.cons.inj (List.perm_singleton.mp hfits)
      exact ⟨rfl, rfl⟩
  | works start spent =>
      obtain ⟨rfl, rfl⟩ := List.cons.inj (List.perm_singleton.mp hfits)
      exact ⟨rfl, rfl⟩

theorem Phase.eq_awaits {due gap : Nat}
    (ha : φ.appointments interval = [⟨time, due, gap, false⟩]) :
    φ = .awaits time ∧ due = time + interval ∧ gap = interval := by
  cases φ with
  | absent => cases ha
  | awaits due' =>
      cases ha
      exact ⟨rfl, rfl, rfl⟩
  | works start spent => cases ha

theorem Phase.eq_works {due gap : Nat}
    (ha : φ.appointments interval = [⟨time, due, gap, true⟩]) :
    ∃ start spent, φ = .works start spent ∧ time = start + spent ∧ due = start + interval ∧
      gap = interval := by
  cases φ with
  | absent => cases ha
  | awaits due' => cases ha
  | works start spent =>
      cases ha
      exact ⟨start, spent, rfl, rfl, rfl, rfl⟩

/-- A deed takes the appointment of its ticker to another one, and leaves other tickers alone. -/
theorem fits_of_deed {slot : Nat} {deed : Deed} {a a' : Appointment}
    (hdeed : φ.appointments interval = [a] → ∃ ψ, φ.next? interval ⟨time, deed⟩ = some ψ ∧
      ψ.appointments interval = [a'])
    (hfits : ((if slot = n then [a] else []) ++ rest).Perm (φ.appointments interval)) :
    ∃ ψ, φ.run? interval (if slot = n then [⟨time, deed⟩] else []) = some ψ ∧
      ((if slot = n then [a'] else []) ++ rest).Perm (ψ.appointments interval) := by
  by_cases hslot : slot = n
  · rw [if_pos hslot] at hfits
    obtain ⟨rfl, ha⟩ := Phase.appointments_eq hfits
    obtain ⟨ψ, hnext, ha'⟩ := hdeed ha
    refine ⟨ψ, ?_, ?_⟩
    · rw [if_pos hslot, Phase.run?_cons, hnext]
      rfl
    · rw [if_pos hslot, ha']
      exact .refl _
  · rw [if_neg hslot] at hfits
    refine ⟨φ, ?_, ?_⟩
    · rw [if_neg hslot]
      rfl
    · rw [if_neg hslot]
      exact hfits

theorem fits_begins {owner : Owner}
    (hfits : (owner.appointments n time false ++ rest).Perm (φ.appointments interval)) :
    ∃ ψ, φ.run? interval (World.note n owner time .begins) = some ψ ∧
      (owner.appointments n time true ++ rest).Perm (ψ.appointments interval) := by
  cases owner with
  | background slot => exact ⟨φ, rfl, hfits⟩
  | ticker slot due gap =>
      refine fits_of_deed (fun ha => ?_) hfits
      obtain ⟨rfl, rfl, rfl⟩ := Phase.eq_awaits ha
      exact ⟨.works time 0, if_pos rfl, rfl⟩

theorem fits_fetches {owner : Owner} (seconds : Nat)
    (hfits : (owner.appointments n time true ++ rest).Perm (φ.appointments interval)) :
    ∃ ψ, φ.run? interval (World.note n owner time (.fetches seconds)) = some ψ ∧
      (owner.appointments n (time + seconds) true ++ rest).Perm (ψ.appointments interval) := by
  cases owner with
  | background slot => exact ⟨φ, rfl, hfits⟩
  | ticker slot due gap =>
      refine fits_of_deed (fun ha => ?_) hfits
      obtain ⟨start, spent, rfl, rfl, rfl, rfl⟩ := Phase.eq_works ha
      refine ⟨.works start (spent + seconds), if_pos rfl, ?_⟩
      rw [Phase.appointments, Nat.add_assoc]

/-- After a refresh its ticker awaits the next one, which begins at once if it is due already. -/
theorem fits_ends {slot due gap : Nat}
    (hfits : ((Owner.ticker slot due gap).appointments n time true ++ rest).Perm
      (φ.appointments interval)) :
    ∃ ψ, φ.run? interval (World.note n (.ticker slot due gap) time .ends) = some ψ ∧
      ((Owner.ticker slot (max due time + gap) gap).appointments n (max due time) false ++
        rest).Perm (ψ.appointments interval) := by
  refine fits_of_deed (fun ha => ?_) hfits
  obtain ⟨start, spent, rfl, rfl, rfl, rfl⟩ := Phase.eq_works ha
  refine ⟨.awaits (start + max gap spent), if_pos rfl, ?_⟩
  rw [Phase.appointments, Nat.add_max_add_left]

end Deeds

/-! ## Steps of a merge -/

namespace World

/-- Time, tickers and timers stay, and no more than deliveries become ready. -/
structure Talks (w w' : World) : Prop where
  now_eq : w'.now = w.now
  ended_eq : w'.ended = w.ended
  timers_eq : w'.timers = w.timers
  ready_eq : ∃ calls : List Task, w'.ready = w.ready ++ calls ∧ ∀ task ∈ calls, task.IsDelivery

namespace Talks

theorem of_eq {w w' : World} (hnow : w'.now = w.now) (hended : w'.ended = w.ended)
    (htimers : w'.timers = w.timers) (hready : w'.ready = w.ready) : Talks w w' :=
  ⟨hnow, hended, htimers, [], by rw [hready, List.append_nil], fun _ hnone => by cases hnone⟩

theorem refl (w : World) : Talks w w := of_eq rfl rfl rfl rfl

theorem trans {w w' w'' : World} (h : Talks w w') (h' : Talks w' w'') : Talks w w'' := by
  obtain ⟨first, hfirst, hcalls⟩ := h.ready_eq
  obtain ⟨second, hsecond, hcalls'⟩ := h'.ready_eq
  refine ⟨h'.now_eq.trans h.now_eq, h'.ended_eq.trans h.ended_eq, h'.timers_eq.trans h.timers_eq,
    first ++ second, ?_, fun task htask => ?_⟩
  · rw [hsecond, hfirst, List.append_assoc]
  · exact (List.mem_append.mp htask).elim (hcalls task) (hcalls' task)

end Talks

theorem talks_apply (w : World) (effect : Effect) : Talks w (w.apply effect) := by
  cases effect with
  | notify text =>
      refine ⟨rfl, rfl, rfl, postings w.sinks text, rfl, fun task htask => ?_⟩
      obtain ⟨e, _, rfl⟩ := List.mem_map.mp htask
      trivial
  | _ => exact .of_eq rfl rfl rfl rfl

theorem talks_applyAll (w : World) (effects : List Effect) : Talks w (w.applyAll effects) := by
  induction effects generalizing w with
  | nil => exact .refl w
  | cons effect effects ih => exact (talks_apply w effect).trans (ih _)

theorem talks_settleStep (w : World) (step : Progress × List Effect) :
    Talks w (w.settleStep step).2 := by
  refine (talks_applyAll w step.2).trans ?_
  simp only [settleStep]
  unfold countMerge
  split <;> exact .of_eq rfl rfl rfl rfl

theorem talks_drive (fuel : Nat) (p : Progress) (w : World) : Talks w (drive fuel p w).2 := by
  induction fuel generalizing p w with
  | zero => cases p <;> exact .refl w
  | succ fuel ih =>
      cases p with
      | finished r => exact .refl w
      | waiting c =>
          simp only [drive]
          have hcalled : Talks w { w with calls := ⟨c.output, c.current⟩ :: w.calls } :=
            .of_eq rfl rfl rfl rfl
          split
          next => exact (hcalled.trans (talks_settleStep _ _)).trans (ih _ _)
          next => exact hcalled

theorem talks_beginCycle (w : World) (purpose : Purpose) (o : Output) :
    Talks w (w.beginCycle purpose o).2 :=
  (talks_settleStep w _).trans (talks_drive _ _ _)

theorem talks_resumeCycle (w : World) (c : Cycle) (outcome : Outcome) :
    Talks w (w.resumeCycle c outcome).2 :=
  (talks_settleStep w _).trans (talks_drive _ _ _)

/-- A merge that pauses waits until later. -/
def Pause.IsAfter (now : Nat) : Pause → Prop
  | .waits due _ _ => now < due
  | .ended _ => True

theorem isAfter_drive {now : Nat} (fuel : Nat) (p : Progress) (w : World) (hnow : w.now = now) :
    (drive fuel p w).1.IsAfter now := by
  induction fuel generalizing p w with
  | zero => cases p <;> trivial
  | succ fuel ih =>
      cases p with
      | finished r => trivial
      | waiting c =>
          simp only [drive]
          split
          next => exact ih _ _ ((talks_settleStep _ _).now_eq.trans hnow)
          next hdelay =>
            rw [← hnow]
            exact Nat.lt_add_of_pos_right (Nat.pos_of_ne_zero hdelay)

theorem isAfter_driveAll {now : Nat} (w : World) (step : Progress × List Effect)
    (hnow : w.now = now) : (driveAll (w.settleStep step).2 step.1).1.IsAfter now :=
  isAfter_drive _ _ _ ((talks_settleStep w step).now_eq.trans hnow)

/-! ## Punctual worlds -/

/-- A world in which tasks run. The appointments of ticker `n`, those of tasks included that have
still to run, are the one of its phase, and no timer is due. -/
structure Punctual (w : World) (n interval now tickers : Nat) (held : List Appointment)
    (φ : Phase) : Prop where
  now_eq : w.now = now
  tickers_eq : w.ended.length = tickers
  fits : (held ++ w.timers.flatMap fun t => t.task.appointments n t.due).Perm
    (φ.appointments interval)
  ahead : ∀ t ∈ w.timers, now < t.due
  regular : ∀ t ∈ w.timers, t.task.Regular
  deliveries : ∀ task ∈ w.ready, task.IsDelivery

section Tasks

variable {n interval now tickers : Nat} {held : List Appointment} {φ : Phase} {w : World}

theorem Punctual.talks (hw : w.Punctual n interval now tickers held φ) {w' : World}
    (htalks : Talks w w') : w'.Punctual n interval now tickers held φ where
  now_eq := htalks.now_eq.trans hw.now_eq
  tickers_eq := htalks.ended_eq.symm ▸ hw.tickers_eq
  fits := htalks.timers_eq.symm ▸ hw.fits
  ahead := htalks.timers_eq.symm ▸ hw.ahead
  regular := htalks.timers_eq.symm ▸ hw.regular
  deliveries := by
    obtain ⟨calls, hready, hcalls⟩ := htalks.ready_eq
    intro task htask
    rw [hready] at htask
    exact (List.mem_append.mp htask).elim (hw.deliveries task) (hcalls task)

/-- The appointments that are held change with the phase. -/
theorem Punctual.hold (hw : w.Punctual n interval now tickers held φ) {held' : List Appointment}
    {ψ : Phase} (hfits : (held' ++ w.timers.flatMap fun t => t.task.appointments n t.due).Perm
      (ψ.appointments interval)) : w.Punctual n interval now tickers held' ψ :=
  { hw with fits := hfits }

/-- A task that was held begins to wait. -/
theorem Punctual.wait {due : Nat} (task : Task)
    (hw : w.Punctual n interval now tickers (task.appointments n due ++ held) φ)
    (hdue : now < due) (htask : task.Regular) :
    (w.wait due task).Punctual n interval now tickers held φ where
  now_eq := hw.now_eq
  tickers_eq := hw.tickers_eq
  fits := by
    refine List.Perm.trans ?_ hw.fits
    simp only [World.wait, List.flatMap_append, List.flatMap_singleton]
    rw [← List.append_assoc, List.append_assoc (task.appointments n due)]
    exact List.perm_append_comm
  ahead t ht := by
    rcases List.mem_append.mp ht with ht | ht
    · exact hw.ahead t ht
    · obtain rfl := List.mem_singleton.mp ht
      exact hdue
  regular t ht := by
    rcases List.mem_append.mp ht with ht | ht
    · exact hw.regular t ht
    · obtain rfl := List.mem_singleton.mp ht
      exact htask
  deliveries := hw.deliveries

/-! ## Tasks -/

/-- A refresh that begins for this owner is punctual. -/
def Keeps (n interval now tickers : Nat) (owner : Owner) (entries : Owner → World → List Entry)
    (step : Owner → World → World) : Prop :=
  ∀ (held : List Appointment) (φ : Phase) (w : World),
    w.Punctual n interval now tickers (owner.appointments n now false ++ held) φ →
      φ.Leads interval (entries owner w) ((step owner w).Punctual n interval now tickers held)

/-- A refresh of a ticker is due again. -/
def KeepsAgain (n interval now tickers : Nat) (owner : Owner)
    (entries : Owner → World → List Entry) (step : Owner → World → World) : Prop :=
  ∀ slot due gap, owner = .ticker slot due gap → due ≤ now →
    Keeps n interval now tickers (.ticker slot (nextDue due now gap) gap) entries step

theorem leads_pauseRefresh {owner : Owner} (howner : owner.Regular)
    {again : Owner → World → World} {againBook : Owner → World → List Entry}
    (hagain : KeepsAgain n interval now tickers owner againBook again) (cache : Nat) (o : Output)
    {paused : Pause × World} (hafter : paused.1.IsAfter now)
    (hw : paused.2.Punctual n interval now tickers (owner.appointments n now true ++ held) φ) :
    φ.Leads interval (pauseBook n againBook owner cache paused)
      ((pauseRefresh again owner cache o paused).Punctual n interval now tickers held) := by
  obtain ⟨pause, w⟩ := paused
  have hnow : w.now = now := hw.now_eq
  subst hnow
  have hfits := hw.fits
  rw [List.append_assoc] at hfits
  cases pause with
  | waits due c outcome =>
      obtain ⟨ψ, hrun, hfits'⟩ := fits_fetches (due - w.now) hfits
      rw [Nat.add_sub_of_le (Nat.le_of_lt hafter), ← List.append_assoc] at hfits'
      exact ⟨ψ, hrun, (hw.hold hfits').wait (.resume owner cache c outcome) hafter howner⟩
  | ended r =>
      have hclosed : Talks w (w.closeRefresh cache r) := .of_eq rfl rfl rfl rfl
      cases owner with
      | background slot => exact .now (hw.talks (.of_eq rfl rfl rfl rfl))
      | ticker slot due gap =>
          obtain ⟨ψ, hrun, hfits'⟩ := fits_ends hfits
          rw [← List.append_assoc] at hfits'
          have hended := (hw.hold hfits').talks hclosed
          refine Phase.Leads.andThen ⟨ψ, hrun, hended⟩ fun χ hχ => ?_
          have hclosed_now : (w.closeRefresh cache r).now = w.now := rfl
          simp only [pauseRefresh, hclosed_now]
          by_cases hdue : due ≤ w.now
          · -- The next refresh begins at once, and the one after it is due an interval later.
            have hnext : nextDue due w.now gap = max due w.now + gap := by
              unfold nextDue
              split <;> omega
            rw [if_pos hdue, if_pos hdue]
            rw [Nat.max_eq_right hdue] at hχ hnext
            apply hagain slot due gap rfl hdue
            rw [hnext]
            exact hχ
          · rw [if_neg hdue, if_neg hdue]
            rw [Nat.max_eq_left (Nat.le_of_not_le hdue)] at hχ
            have hlater : w.now < due := Nat.lt_of_not_le hdue
            exact .now (hχ.wait (.refresh (.ticker slot (due + gap) gap) cache o) hlater howner)

theorem keeps_runRefresh {owner : Owner} (howner : owner.Regular)
    {again : Owner → World → World} {againBook : Owner → World → List Entry}
    (hagain : KeepsAgain n interval now tickers owner againBook again) (cache : Nat) (o : Output) :
    Keeps n interval now tickers owner (fun owner => refreshBook n againBook owner cache o)
      (fun owner => runRefresh again owner cache o) := by
  intro held φ w hw
  have hnow : w.now = now := hw.now_eq
  subst hnow
  have hfits := hw.fits
  rw [List.append_assoc] at hfits
  obtain ⟨ψ, hrun, hfits'⟩ := fits_begins hfits
  rw [← List.append_assoc] at hfits'
  refine Phase.Leads.andThen ⟨ψ, hrun, hw.hold hfits'⟩ fun χ hχ => ?_
  have hopened : Talks w (w.updateCache cache Cache.opened) := .of_eq rfl rfl rfl rfl
  apply leads_pauseRefresh howner hagain
  · exact isAfter_driveAll _ _ rfl
  · exact hχ.talks (hopened.trans (talks_beginCycle _ .refresh o))

/-- The refresh after a late one is not due yet. -/
theorem keeps_runLate {slot due gap : Nat} (hdue : now < due) (hgap : 0 < gap) (cache : Nat)
    (o : Output) :
    Keeps n interval now tickers (.ticker slot due gap) (lateBook n cache o) (runLate cache o) := by
  intro held φ w hw
  have howner : (Owner.ticker slot due gap).Regular := hgap
  refine keeps_runRefresh howner ?_ cache o held φ w hw
  intro slot' due' gap' heq hlate
  obtain ⟨_, rfl, _⟩ := Owner.ticker.inj heq
  exact absurd hdue (Nat.not_lt_of_le hlate)

theorem keepsAgain_runLate {owner : Owner} (howner : owner.Regular) (cache : Nat) (o : Output) :
    KeepsAgain n interval now tickers owner (lateBook n cache o) (runLate cache o) := by
  rintro slot due gap rfl hdue
  have hgap : 0 < gap := howner
  apply keeps_runLate _ hgap
  unfold nextDue
  split <;> omega

/-- A task runs until it waits. -/
theorem leads_runTask (task : Task) (htask : task.Regular)
    (hw : w.Punctual n interval now tickers (task.appointments n now ++ held) φ) :
    φ.Leads interval (w.taskBook n task)
      ((w.runTask task).Punctual n interval now tickers held) := by
  cases task with
  | deliver place sink text =>
      cases sink <;> exact .now (hw.talks (.of_eq rfl rfl rfl rfl))
  | refresh owner cache o =>
      exact keeps_runRefresh htask (keepsAgain_runLate htask cache o) cache o held φ w hw
  | resume owner cache c outcome =>
      apply leads_pauseRefresh htask (keepsAgain_runLate htask cache c.output)
      · exact isAfter_driveAll w (c.resume w.nextTools outcome) hw.now_eq
      · exact hw.talks (talks_resumeCycle w c outcome)
  | ticker slot cache o =>
      refine .now ?_
      have hnow : w.now = now := hw.now_eq
      subst hnow
      have hfits := hw.fits
      simp only [runTask]
      cases hfirst : firstDue? w.now o.refreshSeconds with
      | none =>
          -- The ticker stops, and has no appointment.
          simp only [Task.appointments, hfirst, Option.toList_none, List.map_nil, ite_self,
            List.nil_append] at hfits
          exact
            { now_eq := rfl
              tickers_eq := List.length_set.trans hw.tickers_eq
              fits := hfits
              ahead := hw.ahead
              regular := hw.regular
              deliveries := hw.deliveries }
      | some due =>
          obtain ⟨rfl, hpos⟩ := firstDue?_eq_some hfirst
          simp only [Task.appointments, hfirst, Option.toList_some, List.map_cons, List.map_nil]
            at hfits
          exact (hw.hold hfits).wait (.refresh (.ticker slot _ o.refreshSeconds) cache o)
            (Nat.lt_add_of_pos_right hpos) hpos

/-- Tasks run in order; those that are still to run keep their appointments. -/
theorem leads_runTasks (tasks : List Task) (htasks : ∀ task ∈ tasks, task.Regular)
    (hw : w.Punctual n interval now tickers
      (tasks.flatMap (Task.appointments n now) ++ held) φ) :
    φ.Leads interval (tellTasks (taskBook n) tasks w)
      ((tasks.foldl runTask w).Punctual n interval now tickers held) := by
  induction tasks generalizing w φ with
  | nil => exact .now hw
  | cons task tasks ih =>
      rw [List.flatMap_cons, List.append_assoc] at hw
      have hran := leads_runTask task (htasks task List.mem_cons_self) hw
      refine hran.andThen fun ψ hψ => ?_
      exact ih (fun other hother => htasks other (List.mem_cons_of_mem task hother)) hψ

end Tasks

end World

end Almanac.Service
