import Almanac.Proofs.Service.MergeRun
import Almanac.Service.Clock

/-!
# Merges in time

While a merge waits for a feed, time moves on and other tasks run. None of them changes
what fetching an address gives or what is handed out to merges, so a merge that the
service runs to its end is the run that is given the planned outcomes.
-/

namespace Almanac.Service

open Config (Feed Output)
open Merge (Merged MergeFailure Outcome)

namespace World

/-- What fetching gives and what is handed out to merges are the same in both worlds. -/
structure SameSetup (w w' : World) : Prop where
  tools_eq : w'.tools = w.tools
  plans_eq : w'.plans = w.plans

namespace SameSetup

theorem refl (w : World) : SameSetup w w := ⟨rfl, rfl⟩

theorem trans {w w' w'' : World} (h : SameSetup w w') (h' : SameSetup w' w'') :
    SameSetup w w'' :=
  ⟨h'.tools_eq.trans h.tools_eq, h'.plans_eq.trans h.plans_eq⟩

theorem planOf_eq {w w' : World} (h : SameSetup w w') (url : String) :
    w'.planOf url = w.planOf url := by
  rw [planOf, planOf, h.plans_eq]

theorem symm {w w' : World} (h : SameSetup w w') : SameSetup w' w :=
  ⟨h.tools_eq.symm, h.plans_eq.symm⟩

/-- Steps that each keep the setup keep it one after the other. -/
theorem foldl {α : Type} {step : World → α → World} (hstep : ∀ w a, SameSetup w (step w a))
    (list : List α) (w : World) : SameSetup w (list.foldl step w) := by
  induction list generalizing w with
  | nil => exact refl w
  | cons a list ih => exact (hstep w a).trans (ih (step w a))

end SameSetup

/-! ## What tasks leave alone -/

theorem sameSetup_apply (w : World) (effect : Effect) : SameSetup w (w.apply effect) := by
  cases effect <;> exact ⟨rfl, rfl⟩

theorem sameSetup_settleStep (w : World) (step : Progress × List Effect) :
    SameSetup w (w.settleStep step).2 := by
  have happlied : SameSetup w (w.applyAll step.2) := .foldl sameSetup_apply step.2 w
  refine happlied.trans ?_
  simp only [settleStep]
  unfold countMerge
  split <;> exact ⟨rfl, rfl⟩

theorem sameSetup_drive (fuel : Nat) (p : Progress) (w : World) :
    SameSetup w (drive fuel p w).2 := by
  induction fuel generalizing p w with
  | zero => cases p <;> exact .refl w
  | succ fuel ih =>
      cases p with
      | finished r => exact .refl w
      | waiting c =>
          simp only [drive]
          split
          next =>
            have hcalled : SameSetup w { w with calls := ⟨c.output, c.current⟩ :: w.calls } := ⟨rfl, rfl⟩
            exact (hcalled.trans (sameSetup_settleStep _ _)).trans (ih _ _)
          next => exact ⟨rfl, rfl⟩

theorem sameSetup_beginCycle (w : World) (purpose : Purpose) (o : Output) :
    SameSetup w (w.beginCycle purpose o).2 :=
  (sameSetup_settleStep w _).trans (sameSetup_drive _ _ _)

theorem sameSetup_resumeCycle (w : World) (c : Cycle) (outcome : Outcome) :
    SameSetup w (w.resumeCycle c outcome).2 :=
  (sameSetup_settleStep w _).trans (sameSetup_drive _ _ _)

theorem sameSetup_pauseRefresh {again : Owner → World → World}
    (hagain : ∀ owner w, SameSetup w (again owner w)) (owner : Owner) (cache : Nat)
    (output : Output) (paused : Pause × World) :
    SameSetup paused.2 (pauseRefresh again owner cache output paused) := by
  obtain ⟨pause, w⟩ := paused
  cases pause with
  | waits due c outcome => exact ⟨rfl, rfl⟩
  | ended r =>
      have hclosed : SameSetup w (w.closeRefresh cache r) := ⟨rfl, rfl⟩
      cases owner with
      | background slot => exact ⟨rfl, rfl⟩
      | ticker slot due interval =>
          simp only [pauseRefresh]
          split
          next => exact hclosed.trans (hagain _ _)
          next => exact ⟨rfl, rfl⟩

theorem sameSetup_runRefresh {again : Owner → World → World}
    (hagain : ∀ owner w, SameSetup w (again owner w)) (owner : Owner) (cache : Nat)
    (output : Output) (w : World) : SameSetup w (runRefresh again owner cache output w) := by
  have hopened : SameSetup w (w.updateCache cache Cache.opened) := ⟨rfl, rfl⟩
  exact (hopened.trans (sameSetup_beginCycle _ .refresh output)).trans
    (sameSetup_pauseRefresh hagain owner cache output _)

theorem sameSetup_runLate (cache : Nat) (output : Output) (owner : Owner) (w : World) :
    SameSetup w (runLate cache output owner w) := by
  refine sameSetup_runRefresh (fun owner w => ?_) owner cache output w
  cases owner <;> exact ⟨rfl, rfl⟩

theorem sameSetup_runTask (w : World) (task : Task) : SameSetup w (w.runTask task) := by
  cases task with
  | deliver place sink text => cases sink <;> exact ⟨rfl, rfl⟩
  | refresh owner cache output =>
      exact sameSetup_runRefresh (sameSetup_runLate cache output) owner cache output w
  | resume owner cache cycle outcome =>
      exact (sameSetup_resumeCycle w cycle outcome).trans
        (sameSetup_pauseRefresh (sameSetup_runLate cache cycle.output) owner cache cycle.output _)
  | ticker slot cache output =>
      simp only [runTask]
      split <;> exact ⟨rfl, rfl⟩

theorem sameSetup_settle (w : World) : SameSetup w w.settle := by
  have hround : ∀ w : World, SameSetup w w.runRound := fun w =>
    (⟨rfl, rfl⟩ : SameSetup w { w with ready := [] }).trans (.foldl sameSetup_runTask w.ready _)
  exact (hround w).trans (hround w.runRound)

theorem sameSetup_waitUntil (fuel time : Nat) (w : World) :
    SameSetup w (waitUntil fuel time w) := by
  have hmove : ∀ (time : Nat) (w : World), SameSetup w (w.moveTo time) := fun _ _ => ⟨rfl, rfl⟩
  induction fuel generalizing w with
  | zero => exact (sameSetup_settle w).trans (hmove time _)
  | succ fuel ih =>
      have hsettled := sameSetup_settle w
      simp only [waitUntil]
      split
      next t _ =>
        split
        next => exact (hsettled.trans (hmove t _)).trans (ih _)
        next => exact hsettled.trans (hmove time _)
      next => exact hsettled.trans (hmove time _)

theorem sameSetup_sleep (w : World) (seconds : Nat) : SameSetup w (w.sleep seconds) := by
  unfold sleep
  split
  next => exact .refl w
  next => exact sameSetup_waitUntil _ _ _

/-! ## The run of a merge -/

/-- What fetching some feeds gives. -/
def outcomesOf (w : World) (feeds : List Feed) : List Outcome :=
  feeds.map fun feed => (w.planOf feed.url).outcome

/-- The feeds that a merge still has to fetch. -/
def feedsOf : Progress → List Feed
  | .waiting c => c.current :: c.rest
  | .finished _ => []

/-- The merge ends like this if it is given what fetching its feeds gives. -/
def LeadsTo (w : World) (p : Progress) (r : Except MergeFailure Merged) : Prop :=
  ∃ n, (p.follow (w.tools n) (w.outcomesOf (feedsOf p))).final = .finished r

theorem SameSetup.leadsTo {w w' : World} (h : SameSetup w w') {p : Progress}
    {r : Except MergeFailure Merged} (hleads : w'.LeadsTo p r) : w.LeadsTo p r := by
  obtain ⟨n, hn⟩ := hleads
  refine ⟨n, ?_⟩
  have houtcomes : w'.outcomesOf (feedsOf p) = w.outcomesOf (feedsOf p) := by
    simp only [outcomesOf, h.planOf_eq]
  rw [← h.tools_eq, ← houtcomes]
  exact hn

/-- A step with the planned outcome leads where the merge leads. What is handed out matters only to
the step that ends the merge. -/
theorem leadsTo_of_resume (w : World) (c : Cycle) (k : Nat) {r : Except MergeFailure Merged}
    (hleads : w.LeadsTo (c.resume (w.tools k) (w.planOf c.current.url).outcome).1 r) :
    w.LeadsTo (.waiting c) r := by
  obtain ⟨n, hn⟩ := hleads
  obtain ⟨purpose, output, loaded, current, rest⟩ := c
  simp only [LeadsTo, feedsOf, outcomesOf, List.map_cons, follow_waiting]
  cases houtcome : (w.planOf current.url).outcome with
  | error e =>
      simp only [houtcome, resume_error, follow_finished] at hn
      exact ⟨k, by simpa only [resume_error, follow_finished] using hn⟩
  | ok events =>
      simp only [houtcome, resume_ok] at hn
      cases rest with
      | nil =>
          simp only [proceed, follow_finished] at hn
          exact ⟨k, by simpa only [resume_ok, proceed, follow_finished] using hn⟩
      | cons next rest =>
          exact ⟨n, by simpa only [resume_ok, proceed, feedsOf, outcomesOf] using hn⟩

theorem feedsLeft_resume (c : Cycle) (tools : Tools) (outcome : Outcome) :
    feedsLeft (c.resume tools outcome).1 ≤ c.rest.length := by
  cases outcome with
  | error e => exact Nat.zero_le _
  | ok events =>
      rw [resume_ok]
      cases c.rest with
      | nil => exact Nat.zero_le _
      | cons next rest => exact Nat.le_refl _

/-- A merge that stood there pauses like this: it has ended as it had to, or it waits for the
planned outcome of its next feed and still leads to the same end. -/
def PausesFrom (w : World) (p : Progress) : Pause → Prop
  | .ended r => w.LeadsTo p r
  | .waits _ c outcome =>
      outcome = (w.planOf c.current.url).outcome ∧ feedsLeft (.waiting c) ≤ feedsLeft p ∧
        ∀ r, w.LeadsTo (.waiting c) r → w.LeadsTo p r

theorem PausesFrom.of_step {w w' : World} (hsetup : SameSetup w w') {p p' : Progress}
    (hfeeds : feedsLeft p' ≤ feedsLeft p) (hstep : ∀ r, w.LeadsTo p' r → w.LeadsTo p r)
    {pause : Pause} (hpauses : w'.PausesFrom p' pause) : w.PausesFrom p pause := by
  cases pause with
  | ended r => exact hstep r (hsetup.leadsTo hpauses)
  | waits due c outcome =>
      obtain ⟨houtcome, hleft, hleads⟩ := hpauses
      refine ⟨houtcome.trans (by rw [hsetup.planOf_eq]), Nat.le_trans hleft hfeeds, fun r hr => ?_⟩
      exact hstep r (hsetup.leadsTo (hleads r (hsetup.symm.leadsTo hr)))

/-- As much fuel as there are feeds to fetch is enough: the run never ends for lack of it. -/
theorem pausesFrom_drive (fuel : Nat) (p : Progress) (w : World) (hfuel : feedsLeft p ≤ fuel) :
    w.PausesFrom p (drive fuel p w).1 := by
  induction fuel generalizing p w with
  | zero =>
      cases p with
      | finished r => exact ⟨0, by rw [follow_finished]⟩
      | waiting c => exact absurd hfuel (Nat.not_succ_le_zero _)
  | succ fuel ih =>
      cases p with
      | finished r => exact ⟨0, by rw [follow_finished]⟩
      | waiting c =>
          simp only [drive]
          split
          next =>
            have hcalled : SameSetup w { w with calls := ⟨c.output, c.current⟩ :: w.calls } := ⟨rfl, rfl⟩
            have hleft := feedsLeft_resume c (w.tools w.merges) (w.planOf c.current.url).outcome
            refine .of_step (hcalled.trans (sameSetup_settleStep _ _)) ?_ ?_ (ih _ _ ?_)
            · exact Nat.le_succ_of_le hleft
            · exact fun r hr => leadsTo_of_resume w c w.merges hr
            · exact Nat.le_trans hleft (Nat.le_of_succ_le_succ hfuel)
          next => exact ⟨rfl, Nat.le_refl _, fun r hr => hr⟩

/-- A step of a merge and what follows it up to the next pause. -/
theorem pausesFrom_driveAll (w : World) (step : Progress × List Effect) :
    w.PausesFrom step.1 (driveAll (w.settleStep step).2 step.1).1 :=
  .of_step (sameSetup_settleStep w step) (Nat.le_refl _) (fun _ hr => hr)
    (pausesFrom_drive _ _ _ (Nat.le_refl _))

/-- Whatever else runs while the main flow waits, the merge ends as it has to. -/
theorem leadsTo_finishCycle {w : World} (fuel : Nat) (paused : Pause × World) {p : Progress}
    (hsetup : SameSetup w paused.2) (hpauses : w.PausesFrom p paused.1)
    (hfuel : feedsLeft p ≤ fuel) : w.LeadsTo p (finishCycle fuel paused).1 := by
  induction fuel generalizing paused p with
  | zero =>
      obtain ⟨pause, w'⟩ := paused
      cases pause with
      | ended r => exact hpauses
      | waits due c outcome =>
          obtain ⟨_, hleft, _⟩ := hpauses
          exact absurd (Nat.le_trans hleft hfuel) (Nat.not_succ_le_zero _)
  | succ fuel ih =>
      obtain ⟨pause, w'⟩ := paused
      cases pause with
      | ended r => exact hpauses
      | waits due c outcome =>
          obtain ⟨rfl, hleft, hleads⟩ := hpauses
          have hslept : SameSetup w (w'.sleep (due - w'.now)) :=
            hsetup.trans (sameSetup_sleep w' _)
          let slept := w'.sleep (due - w'.now)
          let step := c.resume slept.nextTools (w.planOf c.current.url).outcome
          have hresumed : w.PausesFrom step.1 (slept.resumeCycle c _).1 :=
            .of_step hslept (Nat.le_refl _) (fun _ hr => hr) (pausesFrom_driveAll slept step)
          have hrest : feedsLeft step.1 ≤ fuel :=
            Nat.le_trans (feedsLeft_resume c _ _)
              (Nat.le_of_succ_le_succ (Nat.le_trans hleft hfuel))
          have hended := ih (slept.resumeCycle c _)
            (hslept.trans (sameSetup_resumeCycle slept c _)) hresumed hrest
          refine hleads _ (leadsTo_of_resume w c slept.merges ?_)
          rw [← hslept.tools_eq]
          exact hended

theorem feedsOf_begin (tools : Tools) (purpose : Purpose) (o : Output) :
    feedsOf (begin tools purpose o).1 = o.feeds := by
  simp only [begin]
  cases o.feeds <;> rfl

/-- A merge leads to the result of merging what fetching its feeds gives. -/
theorem LeadsTo.eq_merge {w : World} {purpose : Purpose} {o : Output} (k : Nat)
    {r : Except MergeFailure Merged}
    (hleads : w.LeadsTo (begin (w.tools k) purpose o).1 r) :
    ∃ n, r = Merge.merge (w.tools n).issue (fun feed => (w.planOf feed.url).outcome) o := by
  obtain ⟨n, hn⟩ := hleads
  rw [feedsOf_begin] at hn
  cases hfeeds : o.feeds with
  | nil =>
      -- An output without feeds ends as soon as it begins.
      have hended := mergeRun_eq_merge (w.tools k) purpose o fun feed => (w.planOf feed.url).outcome
      rw [hfeeds] at hn hended
      exact ⟨k, Progress.finished.inj (hn.symm.trans hended)⟩
  | cons first rest =>
      have hended := mergeRun_eq_merge (w.tools n) purpose o fun feed => (w.planOf feed.url).outcome
      have hbegun : (begin (w.tools k) purpose o).1 = (begin (w.tools n) purpose o).1 := by
        simp only [begin, hfeeds, proceed_cons]
      rw [hbegun] at hn
      exact ⟨n, Progress.finished.inj (hn.symm.trans hended)⟩

/-- A merge that the service runs to its end, with all the waiting and all that runs meanwhile, is
the merge of what fetching its feeds gives. -/
theorem runCycle_eq_merge (w : World) (purpose : Purpose) (o : Output) :
    ∃ n, (w.runCycle purpose o).1 =
      Merge.merge (w.tools n).issue (fun feed => (w.planOf feed.url).outcome) o := by
  have hlength : feedsLeft (begin w.nextTools purpose o).1 ≤ o.feeds.length + 1 := by
    simp only [begin]
    cases o.feeds with
    | nil => exact Nat.zero_le _
    | cons first rest => exact Nat.le_succ _
  exact (leadsTo_finishCycle (o.feeds.length + 1) (w.beginCycle purpose o)
    (sameSetup_beginCycle w purpose o) (pausesFrom_driveAll w (begin w.nextTools purpose o))
    hlength).eq_merge w.merges

end World

end Almanac.Service
