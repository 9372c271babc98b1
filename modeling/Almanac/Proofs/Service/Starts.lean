import Almanac.Proofs.Service.MainFlow
import Almanac.Proofs.Service.Running

/-!
# Starts amid changes

A service starts its outputs one after the other, up to the first whose first merge fails. Before
each first merge and while the main flow waits for its feeds, time passes, tasks run, and what
fetching gives may change. So a feed that was there for one output may fail for the next one, and a
ticker that has been made may fail to refresh while a later output is still being started.
-/

namespace Almanac.Service

open Config (Output)
open Merge (Merged MergeFailure)

/-- The main flow asks for nothing: time passes, and what fetching gives may change. -/
def Act.IsIdle : Act → Prop
  | .sleep _ | .settle | .setPlan _ _ => True
  | _ => False

/-- The act begins no refresh in the background. -/
def Act.IsPlain : Act → Prop
  | .queue _ _ => False
  | _ => True

/-- The act makes no ticker and begins no refresh in the background. -/
def Act.IsSolo : Act → Prop
  | .spawn _ _ | .queue _ _ => False
  | _ => True

theorem Act.isSolo_of_isIdle {a : Act} (ha : a.IsIdle) : a.IsSolo := by
  cases a with
  | spawn | queue => cases ha
  | _ => trivial

theorem Act.isPlain_of_isSolo {a : Act} (ha : a.IsSolo) : a.IsPlain := by
  cases a with
  | queue => cases ha
  | _ => trivial

/-! ## Crews -/

/-- The output that an act makes a ticker for. -/
def Act.hired? : Act → Option Output
  | .spawn _ o => some o
  | _ => none

/-- The outputs that acts make tickers for, by the numbers of the tickers. -/
def crew (acts : List Act) : List Output := acts.filterMap Act.hired?

@[simp] theorem crew_append (first second : List Act) :
    crew (first ++ second) = crew first ++ crew second :=
  List.filterMap_append

theorem length_crew (acts : List Act) : (crew acts).length = spawns acts := by
  induction acts with
  | nil => rfl
  | cons a acts ih =>
      rw [spawns, ← ih]
      cases a with
      | spawn cache o => exact Nat.add_comm _ 1
      | _ => exact (Nat.zero_add _).symm

theorem crew_of_isSolo {acts : List Act} (hsolo : ∀ a ∈ acts, a.IsSolo) : crew acts = [] := by
  apply List.filterMap_eq_nil_iff.mpr
  intro a ha
  have hact := hsolo a ha
  cases a with
  | spawn => cases hact
  | _ => rfl

/-- What a start has done: its acts, the times at which the first merges have ended that gave a
calendar, and the outputs that are served, or the first that failed. -/
structure Start where
  acts : List Act
  times : List Nat
  result : Except StartError (List Served)

namespace World

section Amid

-- What goes on in a world before the main flow goes on.
variable (meanwhile : World → List Act)

/-- The acts that bring a merge of the main flow to its end, and the end. -/
def finishAmid : Nat → Pause × World → List Act × Except MergeFailure Merged
  | _, (.ended r, _) => ([], r)
  | 0, (.waits _ c _, _) => ([], .error ⟨c.current.name, .transport⟩)
  | fuel + 1, (.waits due c outcome, w) =>
    let idle := meanwhile w
    let waited := idle ++ [.sleep (due - (w.actAll idle).now)]
    let (acts, r) := finishAmid fuel ((w.actAll waited).resumeCycle c outcome)
    (waited ++ .resume c outcome :: acts, r)

/-- The acts of the first merge of an output, and its end. -/
def mergeAmid (o : Output) (w : World) : List Act × Except MergeFailure Merged :=
  let idle := meanwhile w
  let (acts, r) := finishAmid meanwhile (o.feeds.length + 1)
    ((w.actAll idle).beginCycle .bootstrap o)
  (idle ++ .begin .bootstrap o :: acts, r)

/-- The acts that open a cache for an output whose first merge has given a calendar. -/
def openActs (o : Output) (m : Merged) (w : World) : List Act :=
  [.store (w.caches ++ [.ofEdition ⟨w.merges, m⟩]), .carryOut [.report (servingReport o)]]

/-- Starts outputs in order up to the first that cannot start. -/
def startAmid : List Output → World → Start
  | [], _ => ⟨[], [], .ok []⟩
  | o :: os, w =>
    match mergeAmid meanwhile o w with
    | (acts, .error e) => ⟨acts, [], .error ⟨o.name, e⟩⟩
    | (acts, .ok m) =>
      let merged := w.actAll acts
      let served := acts ++ openActs o m merged
      let hire := Act.spawn merged.caches.length o
      let rest := startAmid os ((w.actAll served).act hire)
      ⟨served ++ hire :: rest.acts, merged.now :: rest.times,
        rest.result.map (⟨o.key, merged.caches.length⟩ :: ·)⟩

/-- A merge pauses at most once for each of its feeds, so more fuel makes no difference. -/
theorem finishAmid_of_rest_lt (fuel extra : Nat) (paused : Pause × World)
    (hfuel : ∀ due c outcome, paused.1 = .waits due c outcome → c.rest.length < fuel) :
    finishAmid meanwhile (fuel + extra) paused = finishAmid meanwhile fuel paused := by
  induction fuel generalizing paused with
  | zero =>
      obtain ⟨pause, w⟩ := paused
      cases pause with
      | ended r => cases extra <;> rfl
      | waits due c outcome => exact absurd (hfuel due c outcome rfl) (Nat.not_lt_zero _)
  | succ fuel ih =>
      obtain ⟨pause, w⟩ := paused
      rw [Nat.succ_add]
      cases pause with
      | ended r => rfl
      | waits due c outcome =>
          have hrest := Nat.le_of_lt_succ (hfuel due c outcome rfl)
          simp only [finishAmid]
          rw [ih]
          intro due' c' outcome' hwaits
          have hlt := Traffic.length_rest_lt _ _ hwaits
          exact Nat.lt_of_lt_of_le hlt (Nat.le_trans (feedsLeft_resume c _ _) hrest)

/-- The fuel of a first merge does not run out. -/
theorem mergeAmid_eq (o : Output) (w : World) (extra : Nat) :
    let idle := meanwhile w
    let (acts, r) := finishAmid meanwhile (o.feeds.length + 1 + extra)
      ((w.actAll idle).beginCycle .bootstrap o)
    mergeAmid meanwhile o w = (idle ++ .begin .bootstrap o :: acts, r) := by
  intro idle
  rw [finishAmid_of_rest_lt meanwhile _ extra _ fun _ _ _ hwaits =>
    Traffic.length_rest_lt_begin _ .bootstrap o hwaits]
  rfl

end Amid

/-! ## Tickers of a start -/

section Tickers

variable {meanwhile : World → List Act}

theorem isSolo_finishAmid (hmeanwhile : ∀ w, ∀ a ∈ meanwhile w, a.IsIdle) (fuel : Nat)
    (paused : Pause × World) : ∀ a ∈ (finishAmid meanwhile fuel paused).1, a.IsSolo := by
  induction fuel generalizing paused with
  | zero =>
      obtain ⟨pause, w⟩ := paused
      cases pause <;> exact fun _ hnone => by cases hnone
  | succ fuel ih =>
      obtain ⟨pause, w⟩ := paused
      cases pause with
      | ended r => exact fun _ hnone => by cases hnone
      | waits due c outcome =>
          intro a ha
          rcases List.mem_append.mp ha with ha | ha
          · rcases List.mem_append.mp ha with ha | ha
            · exact Act.isSolo_of_isIdle (hmeanwhile w a ha)
            · obtain rfl := List.mem_singleton.mp ha
              trivial
          · rcases List.mem_cons.mp ha with rfl | ha
            · trivial
            · exact ih _ a ha

theorem isSolo_mergeAmid (hmeanwhile : ∀ w, ∀ a ∈ meanwhile w, a.IsIdle) {o : Output} {w : World}
    {acts : List Act} {r : Except MergeFailure Merged}
    (hmerge : mergeAmid meanwhile o w = (acts, r)) : ∀ a ∈ acts, a.IsSolo := by
  obtain rfl : (mergeAmid meanwhile o w).1 = acts := congrArg Prod.fst hmerge
  intro a ha
  rcases List.mem_append.mp ha with ha | ha
  · exact Act.isSolo_of_isIdle (hmeanwhile w a ha)
  · rcases List.mem_cons.mp ha with rfl | ha
    · trivial
    · exact isSolo_finishAmid hmeanwhile _ _ a ha

theorem isSolo_openActs (o : Output) (m : Merged) (w : World) :
    ∀ a ∈ openActs o m w, a.IsSolo := by
  simp [openActs, Act.IsSolo]

section Served

variable (hmeanwhile : ∀ w, ∀ a ∈ meanwhile w, a.IsIdle) {o : Output} {w : World} {acts : List Act}
  {m : Merged} (hmerge : mergeAmid meanwhile o w = (acts, .ok m))

include hmeanwhile hmerge

theorem isSolo_served : ∀ a ∈ acts ++ openActs o m (w.actAll acts), a.IsSolo :=
  List.forall_mem_append.mpr ⟨isSolo_mergeAmid hmeanwhile hmerge, isSolo_openActs o m _⟩

theorem spawns_served : spawns (acts ++ openActs o m (w.actAll acts)) = 0 := by
  rw [← length_crew, crew_of_isSolo (isSolo_served hmeanwhile hmerge)]
  rfl

end Served

/-- Tickers are made for the outputs that could be started, and for no other. -/
theorem crew_startAmid (hmeanwhile : ∀ w, ∀ a ∈ meanwhile w, a.IsIdle) (outputs : List Output)
    (w : World) :
    let start := startAmid meanwhile outputs w
    crew start.acts = outputs.take start.times.length := by
  induction outputs generalizing w with
  | nil => rfl
  | cons o outputs ih =>
      rcases hmerge : mergeAmid meanwhile o w with ⟨acts, e | m⟩
      · simpa [startAmid, hmerge] using crew_of_isSolo (isSolo_mergeAmid hmeanwhile hmerge)
      · simp only [startAmid, hmerge]
        rw [crew_append, crew_of_isSolo (isSolo_served hmeanwhile hmerge), List.nil_append,
          List.length_cons, List.take_succ_cons]
        exact congrArg (o :: ·) (ih _)

theorem length_times_le (outputs : List Output) (w : World) :
    (startAmid meanwhile outputs w).times.length ≤ outputs.length := by
  induction outputs generalizing w with
  | nil => exact Nat.le_refl _
  | cons o outputs ih =>
      rcases hmerge : mergeAmid meanwhile o w with ⟨acts, e | m⟩
      · simp [startAmid, hmerge]
      · simp only [startAmid, hmerge, List.length_cons]
        exact Nat.succ_le_succ (ih _)

theorem isPlain_startAmid (hmeanwhile : ∀ w, ∀ a ∈ meanwhile w, a.IsIdle)
    (outputs : List Output) (w : World) :
    ∀ a ∈ (startAmid meanwhile outputs w).acts, a.IsPlain := by
  induction outputs generalizing w with
  | nil => exact fun _ hnone => by cases hnone
  | cons o outputs ih =>
      rcases hmerge : mergeAmid meanwhile o w with ⟨acts, e | m⟩
      · simp only [startAmid, hmerge]
        exact fun a ha => Act.isPlain_of_isSolo (isSolo_mergeAmid hmeanwhile hmerge a ha)
      · simp only [startAmid, hmerge, List.forall_mem_append, List.forall_mem_cons]
        have hserved := isSolo_served hmeanwhile hmerge
        exact ⟨List.forall_mem_append.mp fun a ha => Act.isPlain_of_isSolo (hserved a ha), trivial,
          ih _⟩

/-- A start fails at the output behind those that could be started. -/
theorem output_of_failed {outputs : List Output} {w : World} {e : StartError}
    (hfailed : (startAmid meanwhile outputs w).result = .error e) :
    ∃ o, outputs[(startAmid meanwhile outputs w).times.length]? = some o ∧ e.output = o.name := by
  induction outputs generalizing w with
  | nil => cases hfailed
  | cons o outputs ih =>
      rcases hmerge : mergeAmid meanwhile o w with ⟨acts, failure | m⟩
      · simp only [startAmid, hmerge, Except.error.injEq] at hfailed ⊢
        exact ⟨o, rfl, hfailed ▸ rfl⟩
      · -- The failure is one of the outputs that follow.
        simp only [startAmid, hmerge] at hfailed ⊢
        rw [List.length_cons, List.getElem?_cons_succ]
        apply ih
        generalize (startAmid meanwhile outputs _).result = result at hfailed ⊢
        cases result with
        | error e' => exact congrArg _ (Except.error.inj hfailed)
        | ok served => cases hfailed

/-- The ticker of each output that could be started is made when its first merge has ended. -/
theorem spawn_of_startAmid (hmeanwhile : ∀ w, ∀ a ∈ meanwhile w, a.IsIdle)
    (outputs : List Output) (w : World) {i time : Nat} {o : Output} (ho : outputs[i]? = some o)
    (htime : (startAmid meanwhile outputs w).times[i]? = some time) :
    ∃ before after cache,
      (startAmid meanwhile outputs w).acts = before ++ .spawn cache o :: after ∧
        spawns before = i ∧ (w.actAll before).now = time := by
  induction outputs generalizing w i with
  | nil => cases ho
  | cons p outputs ih =>
      rcases hmerge : mergeAmid meanwhile p w with ⟨acts, e | m⟩
      · simp only [startAmid, hmerge] at htime
        cases htime
      · simp only [startAmid, hmerge] at htime ⊢
        have hserved := spawns_served hmeanwhile hmerge
        cases i with
        | zero =>
            obtain rfl := Option.some.inj ho
            obtain rfl := Option.some.inj htime
            refine ⟨acts ++ openActs p m (w.actAll acts), _, _, rfl, hserved, ?_⟩
            rw [actAll_append]
            rfl
        | succ i =>
            obtain ⟨before, after, cache, hacts, hbefore, hnow⟩ := ih _ ho htime
            let served := acts ++ openActs p m (w.actAll acts)
            refine ⟨served ++ .spawn (w.actAll acts).caches.length p :: before, after, cache,
              ?_, ?_, ?_⟩
            · rw [hacts]
              exact (List.append_assoc served (_ :: before) _).symm
            · rw [spawns_append, hserved, spawns, hbefore, Nat.zero_add]
              exact Nat.add_comm 1 i
            · rw [actAll_append]
              exact hnow

end Tickers

end World

end Almanac.Service
