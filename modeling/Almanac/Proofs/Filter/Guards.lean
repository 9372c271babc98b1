import Almanac.Filter.Report
import Almanac.Proofs.Filter.Rewritten

/-!
# Guards of modifiers

The modifiers of an event are applied up to the first that has a guard which misses. Each guard
is tried on the event as the modifiers before have left it, with the watermark that the guards
tried before have left, be they of the same modifier or of others. What is tried, and in what
order, is told by a list of trials; the result, the watermark and the reports follow from it.
-/

namespace Almanac.Filter

open Config (Modifier Rule)
open Calendar (Component)
open Journal (Record)

/-! ## Trials -/

/-- The trial of a rule on an event. -/
abbrev Trial := Rule × Component

/-- The watermark after trials in order. -/
def watermarkFrom (w : Watermark) (trials : List Trial) : Watermark :=
  trials.foldl (fun w trial => (hits trial.1 trial.2 w).2) w

/-- Each trial hits, with the watermark that the trials before have left. -/
def AllHitFrom : Watermark → List Trial → Prop
  | _, [] => True
  | w, trial :: trials =>
    (hits trial.1 trial.2 w).1 = true ∧ AllHitFrom (hits trial.1 trial.2 w).2 trials

/-- What is reported of trials in order. -/
def trialsReport : Watermark → List Trial → List Record
  | _, [] => []
  | w, trial :: trials =>
    hitsReport trial.1 trial.2 w ++ trialsReport (hits trial.1 trial.2 w).2 trials

/-- The trials of rules on one event. -/
def trialsOn (event : Component) (rules : List Rule) : List Trial :=
  rules.map fun rule => (rule, event)

theorem watermarkFrom_append (w : Watermark) (first second : List Trial) :
    watermarkFrom w (first ++ second) = watermarkFrom (watermarkFrom w first) second :=
  List.foldl_append

theorem allHitFrom_append (w : Watermark) (first second : List Trial) :
    AllHitFrom w (first ++ second) ↔
      AllHitFrom w first ∧ AllHitFrom (watermarkFrom w first) second := by
  induction first generalizing w with
  | nil => exact (and_iff_right trivial).symm
  | cons trial first ih =>
      rw [List.cons_append, AllHitFrom, AllHitFrom, ih, and_assoc]
      rfl

theorem trialsReport_append (w : Watermark) (first second : List Trial) :
    trialsReport w (first ++ second) =
      trialsReport w first ++ trialsReport (watermarkFrom w first) second := by
  induction first generalizing w with
  | nil => rfl
  | cons trial first ih =>
      rw [List.cons_append, trialsReport, trialsReport, ih, List.append_assoc]
      rfl

/-! ## The guards of one modifier -/

/-- The rules are tried up to this one, which misses. -/
structure MissesAt (w : Watermark) (event : Component) (hit : List Rule) (guard : Rule) : Prop where
  before : AllHitFrom w (trialsOn event hit)
  misses : (hits guard event (watermarkFrom w (trialsOn event hit))).1 = false

/-- Either all rules hit, or one is the first that misses. -/
theorem allHit_or_missesAt (w : Watermark) (event : Component) (rules : List Rule) :
    AllHitFrom w (trialsOn event rules) ∨
      ∃ hit guard rest, rules = hit ++ guard :: rest ∧ MissesAt w event hit guard := by
  induction rules generalizing w with
  | nil => exact .inl trivial
  | cons rule rules ih =>
      cases hrule : (hits rule event w).1 with
      | false => exact .inr ⟨[], rule, rules, rfl, trivial, hrule⟩
      | true =>
          rcases ih (hits rule event w).2 with hall | ⟨hit, guard, rest, rfl, hbefore, hmisses⟩
          · exact .inl ⟨hrule, hall⟩
          · exact .inr ⟨rule :: hit, guard, rest, rfl, ⟨hrule, hbefore⟩, hmisses⟩

theorem allHit_of_all {w : Watermark} {event : Component} {rules : List Rule}
    (hall : AllHitFrom w (trialsOn event rules)) :
    allHit rules event w = (true, watermarkFrom w (trialsOn event rules)) ∧
      untilReport false rules event w = trialsReport w (trialsOn event rules) := by
  induction rules generalizing w with
  | nil => exact ⟨rfl, rfl⟩
  | cons rule rules ih =>
      obtain ⟨hrule, hrest⟩ := hall
      obtain ⟨hhit, hreport⟩ := ih hrest
      have hfirst : hits rule event w = (true, (hits rule event w).2) := Prod.ext hrule rfl
      constructor
      · rw [allHit, hfirst]
        exact hhit
      · simp only [untilReport, hrule, hreport, trialsOn, List.map_cons, trialsReport]
        rfl

/-- Nothing behind the rule that misses counts. -/
theorem allHit_of_missesAt {w : Watermark} {event : Component} {hit : List Rule} {guard : Rule}
    (hmiss : MissesAt w event hit guard) (rest : List Rule) :
    allHit (hit ++ guard :: rest) event w =
        (false, watermarkFrom w (trialsOn event (hit ++ [guard]))) ∧
      untilReport false (hit ++ guard :: rest) event w =
        trialsReport w (trialsOn event (hit ++ [guard])) := by
  obtain ⟨hbefore, hmisses⟩ := hmiss
  induction hit generalizing w with
  | nil =>
      have hfirst : hits guard event w = (false, (hits guard event w).2) := Prod.ext hmisses rfl
      constructor
      · rw [List.nil_append, allHit, hfirst]
        rfl
      · have hguard : (hits guard event w).1 = false := hmisses
        simp only [List.nil_append, untilReport, hguard, trialsOn, List.map_cons, List.map_nil,
          trialsReport, beq_self_eq_true, if_true]
  | cons rule hit ih =>
      obtain ⟨hrule, hrest⟩ := hbefore
      obtain ⟨hhit, hreport⟩ := ih hrest hmisses
      have hfirst : hits rule event w = (true, (hits rule event w).2) := Prod.ext hrule rfl
      constructor
      · rw [List.cons_append, allHit, hfirst]
        exact hhit
      · simp only [List.cons_append, untilReport, hrule, hreport, trialsOn, List.map_cons,
          trialsReport]
        rfl

/-! ## The guards of all modifiers -/

/-- The trials of the guards of modifiers: those of each on the event that the modifiers before it
have left. -/
def guardTrials (modifiers : List Modifier) (event : Component) : List Trial :=
  (modifiers.mapIdx fun i m => trialsOn (modified (modifiers.take i) event) m.guards).flatten

theorem guardTrials_cons (m : Modifier) (ms : List Modifier) (event : Component) :
    guardTrials (m :: ms) event = trialsOn event m.guards ++ guardTrials ms (modify m event) := by
  simp only [guardTrials, List.mapIdx_cons, List.flatten_cons]
  rfl

/-- The modifiers are applied up to this one, of whose guards one misses. -/
structure StopsAt (w : Watermark) (event : Component) (first : List Modifier) (hit : List Rule)
    (guard : Rule) : Prop where
  before : AllHitFrom w (guardTrials first event)
  miss : MissesAt (watermarkFrom w (guardTrials first event)) (modified first event) hit guard

/-- The trials of the modifiers that are applied, and those of the next one up to a guard that
misses. -/
def trialsUpTo (event : Component) (first : List Modifier) (hit : List Rule) (guard : Rule) :
    List Trial :=
  guardTrials first event ++ trialsOn (modified first event) (hit ++ [guard])

/-- The report that modifiers are skipped. -/
def skipReport (applied : Nat) (m : Modifier) : Record :=
  ⟨.debug, "filter", "guard failed, skipping remaining modifiers",
    [("modifier", m.name), ("applied", toString applied)]⟩

/-- Either all modifiers apply, or one is the first that does not. -/
theorem allHit_or_stopsAt (w : Watermark) (event : Component) (modifiers : List Modifier) :
    AllHitFrom w (guardTrials modifiers event) ∨
      ∃ first m later hit guard rest, modifiers = first ++ m :: later ∧
        m.guards = hit ++ guard :: rest ∧ StopsAt w event first hit guard := by
  induction modifiers generalizing w event with
  | nil => exact .inl trivial
  | cons m ms ih =>
      rcases allHit_or_missesAt w event m.guards with hall | ⟨hit, guard, rest, hguards, hmiss⟩
      · rcases ih (watermarkFrom w (trialsOn event m.guards)) (modify m event) with
          hlater | ⟨first, m', later, hit, guard, rest, rfl, hguards, hbefore, hmiss⟩
        · left
          rw [guardTrials_cons, allHitFrom_append]
          exact ⟨hall, hlater⟩
        · refine .inr ⟨m :: first, m', later, hit, guard, rest, rfl, hguards, ?_, ?_⟩
          · rw [guardTrials_cons, allHitFrom_append]
            exact ⟨hall, hbefore⟩
          · rw [guardTrials_cons, watermarkFrom_append]
            exact hmiss
      · exact .inr ⟨[], m, ms, hit, guard, rest, rfl, hguards, trivial, hmiss⟩

theorem modifyAll_of_all {w : Watermark} {event : Component} {modifiers : List Modifier}
    (hall : AllHitFrom w (guardTrials modifiers event)) (applied : Nat) :
    modifyAll modifiers event w = ⟨modifiers.length, modified modifiers event,
        watermarkFrom w (guardTrials modifiers event)⟩ ∧
      modifiersReport applied modifiers event w =
        trialsReport w (guardTrials modifiers event) := by
  induction modifiers generalizing w event applied with
  | nil => exact ⟨rfl, rfl⟩
  | cons m ms ih =>
      rw [guardTrials_cons, allHitFrom_append] at hall
      obtain ⟨hguards, hreport⟩ := allHit_of_all hall.1
      obtain ⟨hrest, hreports⟩ := ih hall.2 (applied + 1)
      rw [guardTrials_cons, watermarkFrom_append, trialsReport_append]
      constructor
      · simp only [modifyAll, hguards, hrest, List.length_cons, List.foldl_cons]
      · simp only [modifiersReport, hguards, hreport, hreports]

/-- Neither the guards behind the one that misses nor the modifiers behind count. -/
theorem modifyAll_of_stopsAt {w : Watermark} {event : Component} {first : List Modifier}
    {hit : List Rule} {guard : Rule} (hstop : StopsAt w event first hit guard) {m : Modifier}
    {rest : List Rule} (hguards : m.guards = hit ++ guard :: rest) (later : List Modifier)
    (applied : Nat) :
    modifyAll (first ++ m :: later) event w = ⟨first.length, modified first event,
        watermarkFrom w (trialsUpTo event first hit guard)⟩ ∧
      modifiersReport applied (first ++ m :: later) event w =
        trialsReport w (trialsUpTo event first hit guard) ++
          [skipReport (applied + first.length) m] := by
  obtain ⟨hbefore, hmiss⟩ := hstop
  induction first generalizing w event applied with
  | nil =>
      obtain ⟨hfails, hreport⟩ := allHit_of_missesAt hmiss rest
      rw [← hguards] at hfails hreport
      have hfails : allHit m.guards event w =
          (false, watermarkFrom w (trialsOn event (hit ++ [guard]))) := hfails
      have hreport : untilReport false m.guards event w =
          trialsReport w (trialsOn event (hit ++ [guard])) := hreport
      constructor
      · simp only [List.nil_append, modifyAll, hfails]
        rfl
      · simp only [List.nil_append, modifiersReport, hfails, hreport]
        rfl
  | cons m' first ih =>
      rw [guardTrials_cons, allHitFrom_append] at hbefore
      rw [guardTrials_cons, watermarkFrom_append] at hmiss
      obtain ⟨hguards', hreport⟩ := allHit_of_all hbefore.1
      obtain ⟨hrest, hreports⟩ := ih (applied + 1) hbefore.2 hmiss
      have htrials : trialsUpTo event (m' :: first) hit guard =
          trialsOn event m'.guards ++ trialsUpTo (modify m' event) first hit guard := by
        rw [trialsUpTo, guardTrials_cons, List.append_assoc]
        rfl
      rw [htrials, watermarkFrom_append, trialsReport_append]
      constructor
      · simp only [List.cons_append, modifyAll, hguards', hrest, List.length_cons, List.foldl_cons]
      · have hcount : applied + 1 + first.length = applied + (m' :: first).length := by
          rw [List.length_cons]
          omega
        simp only [List.cons_append, modifiersReport, hguards', hreport, hreports, hcount,
          List.append_assoc]

/-- The modifiers of an event are applied up to the first that has a guard which misses. The event
afterwards is what those that apply make of it in order. Their guards have hit, each on the event as
the modifiers before it have left it, and with the watermark that all guards tried before have
left. If all modifiers apply, the watermark and the reports are those of their guards. If one does
not, one of its guards misses, those before it hit, and the watermark and the reports are those of
the guards up to this one, with a report that modifiers are skipped; neither the guards behind this
one nor the modifiers behind matter. -/
theorem modifiers_apply_up_to_first_miss (modifiers : List Modifier) (event : Component)
    (w : Watermark) :
    let result := modifyAll modifiers event w
    let applying := modifiers.take result.applied
    let reports := modifiersReport 0 modifiers event w
    result.applied ≤ modifiers.length ∧
      Rewrites applying event result.event ∧
      AllHitFrom w (guardTrials applying event) ∧
      (result.applied = modifiers.length →
        result.watermark = watermarkFrom w (guardTrials applying event) ∧
          reports = trialsReport w (guardTrials applying event)) ∧
      ∀ m, modifiers[result.applied]? = some m →
        ∃ hit guard rest, m.guards = hit ++ guard :: rest ∧
          StopsAt w event applying hit guard ∧
          result.watermark = watermarkFrom w (trialsUpTo event applying hit guard) ∧
          reports = trialsReport w (trialsUpTo event applying hit guard) ++
            [skipReport result.applied m] ∧
          ∀ others later,
            modifyAll (applying ++ { m with guards := hit ++ guard :: others } :: later) event w =
              result := by
  intro result applying reports
  rcases allHit_or_stopsAt w event modifiers with
    hall | ⟨first, m, later, hit, guard, rest, rfl, hguards, hstop⟩
  · obtain ⟨hresult, hreports⟩ := modifyAll_of_all hall 0
    have happlied : result.applied = modifiers.length := congrArg Modified.applied hresult
    have happlying : applying = modifiers := by
      rw [show applying = modifiers.take result.applied from rfl, happlied, List.take_length]
    have hevent : result.event = modified modifiers event := congrArg Modified.event hresult
    rw [happlying, hevent]
    refine ⟨happlied.le, rewrites_modified modifiers event, hall,
      fun _ => ⟨congrArg Modified.watermark hresult, hreports⟩, fun m hm => ?_⟩
    rw [happlied, List.getElem?_eq_none (Nat.le_refl _)] at hm
    cases hm
  · obtain ⟨hresult, hreports⟩ := modifyAll_of_stopsAt hstop hguards later 0
    have happlied : result.applied = first.length := congrArg Modified.applied hresult
    have happlying : applying = first := by
      rw [show applying = (first ++ m :: later).take result.applied from rfl, happlied,
        List.take_left]
    have hevent : result.event = modified first event := congrArg Modified.event hresult
    rw [happlying, hevent, happlied]
    refine ⟨by simp, rewrites_modified first event, hstop.before, fun hlength => ?_,
      fun m' hm' => ?_⟩
    · simp at hlength
    · obtain rfl : m = m' := by simpa using hm'
      rw [Nat.zero_add] at hreports
      refine ⟨hit, guard, rest, hguards, hstop, congrArg Modified.watermark hresult, hreports,
        fun others later' => ?_⟩
      exact (modifyAll_of_stopsAt hstop rfl later' 0).1.trans hresult.symm

/-- The second guard sees what the first modifier has written, and the third misses what it has
hidden. -/
example :
    let guard (word : String) : Rule := ⟨"", "SUMMARY", .contains, true, [word]⟩
    let event := (Component.ofKind Calendar.eventKind).setValue "SUMMARY" "lunch"
    let result := modifyAll [⟨"hide", "SUMMARY", .replace, "busy", [guard "lunch"]⟩,
      ⟨"mark", "SUMMARY", .append, "!", [guard "busy"]⟩,
      ⟨"name", "LOCATION", .prepend, "canteen", [guard "!", guard "lunch"]⟩,
      ⟨"remind", "", .addAlarm, "-PT5M", []⟩] event ∅
    result.applied = 2 ∧ result.event.value? "SUMMARY" = some "busy!" ∧
      result.event.value? "LOCATION" = none ∧ result.event.children.length = 0 := by
  decide +kernel

end Almanac.Filter
