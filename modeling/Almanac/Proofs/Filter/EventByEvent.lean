import Almanac.Filter.Pass
import Almanac.Proofs.Filter.Comparing
import Mathlib.Data.List.OfFn
import Mathlib.Logic.Equiv.Defs

/-!
# Events one by one

Comparing rules neither look at the watermark nor change it. So a feed that has no other
rules, nor other guards, makes of each event what it would make of this event alone: the
pass over its events puts together the passes over the single ones.
-/

namespace Almanac.Filter

open Config (Feed Modifier Rule)
open Calendar (Component)

/-- What a comparing rule says about an event. It misses an event that lacks its property. -/
def compares (rule : Rule) (event : Component) : Bool :=
  (event.value? rule.field).any fun text =>
    rule.values.any (finds rule text) != isNegation rule.check

/-- No rule of the feed and no guard of its modifiers is a date check. -/
structure ComparesOnly (feed : Feed) : Prop where
  rules : ∀ rule ∈ feed.rules, rule.check.isFirstOf = false
  guards : ∀ m ∈ feed.modifiers, ∀ guard ∈ m.guards, guard.check.isFirstOf = false

/-! ## Rules -/

section Rules

variable {rules : List Rule}

theorem hits_eq_compares {rule : Rule} (hcheck : rule.check.isFirstOf = false)
    (event : Component) (w : Watermark) : hits rule event w = (compares rule event, w) := by
  rw [hits, evaluate_comparing hcheck, compares]
  cases event.value? rule.field <;> rfl

theorem anyHits_eq_any (hrules : ∀ rule ∈ rules, rule.check.isFirstOf = false)
    (event : Component) (w : Watermark) :
    anyHits rules event w = (rules.any fun rule => compares rule event, w) := by
  induction rules with
  | nil => rfl
  | cons rule rules ih =>
      have hrest := ih fun other hother => hrules other (List.mem_cons_of_mem _ hother)
      rw [anyHits, hits_eq_compares (hrules rule List.mem_cons_self), List.any_cons]
      cases compares rule event with
      | true => rfl
      | false => exact hrest

theorem allHit_eq_all (hrules : ∀ rule ∈ rules, rule.check.isFirstOf = false)
    (event : Component) (w : Watermark) :
    allHit rules event w = (rules.all fun rule => compares rule event, w) := by
  induction rules with
  | nil => rfl
  | cons rule rules ih =>
      have hrest := ih fun other hother => hrules other (List.mem_cons_of_mem _ hother)
      rw [allHit, hits_eq_compares (hrules rule List.mem_cons_self), List.all_cons]
      cases compares rule event with
      | true => exact hrest
      | false => rfl

/-- What comparing rules keep is told by the set of them. -/
theorem keeps_eq_of_mem_iff {rules' : List Rule}
    (hrules : ∀ rule ∈ rules, rule.check.isFirstOf = false)
    (hsame : ∀ rule, rule ∈ rules' ↔ rule ∈ rules) (event : Component) (w : Watermark) :
    keeps rules' event w = keeps rules event w := by
  have hempty : rules'.isEmpty = rules.isEmpty := by
    rw [Bool.eq_iff_iff, List.isEmpty_iff, List.isEmpty_iff, List.eq_nil_iff_forall_not_mem,
      List.eq_nil_iff_forall_not_mem]
    exact forall_congr' fun rule => not_congr (hsame rule)
  have hany : (rules'.any fun rule => compares rule event) =
      rules.any fun rule => compares rule event := by
    rw [Bool.eq_iff_iff, List.any_eq_true, List.any_eq_true]
    exact exists_congr fun rule => and_congr_left' (hsame rule)
  have hrules' : ∀ rule ∈ rules', rule.check.isFirstOf = false := fun rule hrule =>
    hrules rule ((hsame rule).mp hrule)
  rw [keeps, keeps, hempty, anyHits_eq_any hrules', anyHits_eq_any hrules, hany]

end Rules

/-! ## Modifiers -/

/-- Modifiers with comparing guards do the same from every watermark, and leave it alone. -/
theorem modifyAll_eq_of_comparing {modifiers : List Modifier}
    (hguards : ∀ m ∈ modifiers, ∀ guard ∈ m.guards, guard.check.isFirstOf = false)
    (event : Component) (w : Watermark) :
    modifyAll modifiers event w = { modifyAll modifiers event ∅ with watermark := w } := by
  induction modifiers generalizing event with
  | nil => rfl
  | cons m ms ih =>
      have hrest := ih (fun other hother => hguards other (List.mem_cons_of_mem _ hother))
        (modify m event)
      have hfirst := allHit_eq_all (hguards m List.mem_cons_self) event
      rw [modifyAll, modifyAll, hfirst, hfirst]
      cases m.guards.all fun guard => compares guard event with
      | true => simp only [hrest]
      | false => rfl

/-! ## Feeds -/

namespace ComparesOnly

variable {feed : Feed}

theorem passEvent_eq (hfeed : ComparesOnly feed) (event : Component) (w : Watermark) :
    passEvent feed event w = ((passEvent feed event ∅).1, w) := by
  have hkeeps : ∀ w, keeps feed.rules event w = ((keeps feed.rules event ∅).1, w) := by
    intro w
    simp only [keeps, anyHits_eq_any hfeed.rules]
    split <;> rfl
  rw [passEvent, passEvent, hkeeps]
  rcases keeps feed.rules event ∅ with ⟨kept, w'⟩
  cases kept with
  | false => rfl
  | true => simp only [modifyAll_eq_of_comparing hfeed.guards event w,
      modifyAll_eq_of_comparing hfeed.guards event w']

/-- A pass over events puts together the passes over each of them. -/
theorem passFrom_eq (hfeed : ComparesOnly feed) (events : List Component) (w : Watermark) :
    passFrom feed events w = (events.flatMap fun event => pass feed [event], w) := by
  induction events with
  | nil => rfl
  | cons event events ih =>
      have hfirst := hfeed.passEvent_eq event w
      have hsingle : pass feed [event] = (passEvent feed event ∅).1.toList :=
        List.append_nil _
      rw [passFrom, hfirst, ih, List.flatMap_cons, hsingle]

theorem pass_eq (hfeed : ComparesOnly feed) (events : List Component) :
    pass feed events = events.flatMap fun event => pass feed [event] :=
  congrArg Prod.fst (hfeed.passFrom_eq events ∅)

end ComparesOnly

/-- A feed whose rules and guards all compare treats its events one by one. What it makes of two
lists behind each other is what it makes of each of them; what it makes of events in another order
are the same blocks in that order, one for each event; and of its rules only their set counts,
neither their order nor how often one is given. -/
theorem events_are_treated_one_by_one (feed : Feed) (hfeed : ComparesOnly feed) :
    (∀ xs ys, pass feed (xs ++ ys) = pass feed xs ++ pass feed ys) ∧
      (∀ (n : Nat) (events : Fin n → Component),
        let block : Fin n → List Component := fun i => pass feed [events i]
        pass feed (List.ofFn events) = (List.ofFn block).flatten ∧
          ∀ order : Equiv.Perm (Fin n),
            pass feed (List.ofFn (events ∘ order)) = (List.ofFn (block ∘ order)).flatten) ∧
      ∀ rules, (∀ rule, rule ∈ rules ↔ rule ∈ feed.rules) →
        ∀ events, pass { feed with rules := rules } events = pass feed events := by
  refine ⟨fun xs ys => ?_, fun n events => ?_, fun rules hsame events => ?_⟩
  · rw [hfeed.pass_eq, List.flatMap_append, ← hfeed.pass_eq, ← hfeed.pass_eq]
  · have hblocks : ∀ events : Fin n → Component, pass feed (List.ofFn events) =
        (List.ofFn fun i => pass feed [events i]).flatten := by
      intro events
      rw [hfeed.pass_eq, List.flatMap_def, List.map_ofFn]
      rfl
    exact ⟨hblocks events, fun order => hblocks (events ∘ order)⟩
  · have hother : ComparesOnly { feed with rules := rules } :=
      ⟨fun rule hrule => hfeed.rules rule ((hsame rule).mp hrule), hfeed.guards⟩
    have hblock : ∀ event, pass { feed with rules := rules } [event] = pass feed [event] := by
      intro event
      simp only [pass, passFrom, passEvent, keeps_eq_of_mem_iff hfeed.rules hsame]
    rw [hother.pass_eq, hfeed.pass_eq]
    simp only [hblock]

theorem lunches_are_treated_one_by_one :
    let lunch : Rule := ⟨"lunch", "SUMMARY", .contains, false, ["lunch"]⟩
    let outside : Rule := ⟨"outside", "LOCATION", .notEquals, false, ["office"]⟩
    let feed : Feed := ⟨"rota", "https://rota", [lunch, outside],
      [⟨"mark", "SUMMARY", .append, " (out)", [outside]⟩]⟩
    let titled (summary : String) : Component :=
      (Component.ofKind Calendar.eventKind).setValue "SUMMARY" summary
    let cafe : Component := (titled "Tea").setValue "LOCATION" "Cafe"
    let office : Component := (titled "Tea").setValue "LOCATION" "Office"
    let summaries (events : List Component) : List (Option String) :=
      events.map fun event => event.value? "SUMMARY"
    ComparesOnly feed ∧
      summaries (pass feed [titled "Lunch", office, cafe]) = [some "Lunch", some "Tea (out)"] ∧
      summaries (pass { feed with rules := [outside, lunch, outside] }
        [titled "Lunch", office, cafe]) = [some "Lunch", some "Tea (out)"] := by
  intro lunch outside feed titled cafe office summaries
  have hfeed : ComparesOnly feed := ⟨by decide, by decide⟩
  have hsame : ∀ rule, rule ∈ [outside, lunch, outside] ↔ rule ∈ feed.rules := by
    intro rule
    simp only [feed, List.mem_cons, List.not_mem_nil, or_false]
    tauto
  obtain ⟨happend, _, hrules⟩ := events_are_treated_one_by_one feed hfeed
  have hlunch : summaries (pass feed [titled "Lunch"]) = [some "Lunch"] := by decide +kernel
  have htea : summaries (pass feed [office, cafe]) = [some "Tea (out)"] := by decide +kernel
  have hall : summaries (pass feed [titled "Lunch", office, cafe]) =
      [some "Lunch", some "Tea (out)"] := by
    simp only [summaries] at hlunch htea ⊢
    rw [← List.singleton_append, happend, List.map_append, hlunch, htea, List.singleton_append]
  exact ⟨hfeed, hall, (congrArg summaries (hrules _ hsame _)).trans hall⟩

end Almanac.Filter
