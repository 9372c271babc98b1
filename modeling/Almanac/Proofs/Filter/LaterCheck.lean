import Almanac.Proofs.Filter.EventByEvent
import Almanac.Proofs.Filter.Insertion

/-!
# A date check further back

Among comparing rules the place of a date check decides which events raise its mark: those
that no rule before it keeps. Further back it is tried less often, so its mark is never
higher, and it fires at least where it has fired before.
-/

namespace Almanac.Filter

open Config (Feed Rule)
open Calendar (Component)

variable {before between after : List Rule} {check : Rule} {u : DatePart} {low high : Watermark}

theorem DatePart.check_injective : Function.Injective DatePart.check := by
  intro u v
  cases u <;> cases v <;> decide

/-- Comparing rules that are tried first either keep the event or leave it to the others. -/
theorem anyHits_append_of_comparing {first : List Rule}
    (hfirst : ∀ rule ∈ first, rule.check.isFirstOf = false) (rules : List Rule)
    (event : Component) (w : Watermark) :
    anyHits (first ++ rules) event w =
      if first.any fun rule => compares rule event then (true, w) else anyHits rules event w := by
  induction first with
  | nil => rfl
  | cons rule first ih =>
      have hrest := ih fun other hother => hfirst other (List.mem_cons_of_mem _ hother)
      rw [List.cons_append, anyHits, hits_eq_compares (hfirst rule List.mem_cons_self),
        List.any_cons]
      cases compares rule event with
      | true => rfl
      | false => exact hrest

/-- A date check that is passed on over comparing rules. -/
theorem anyHits_passed_on (hcheck : check.check = u.check)
    (hbetween : ∀ rule ∈ between, rule.check.isFirstOf = false)
    (hafter : ∀ rule ∈ after, rule.check.isFirstOf = false) (event : Component)
    (hbelow : BelowOn (· = u) low high) :
    KeepsBelow (· = u) (anyHits (between ++ check :: after) event low)
      (anyHits (check :: (between ++ after)) event high) := by
  rw [anyHits_append_of_comparing hbetween]
  split
  next hkept =>
    -- The check is tried on the higher side alone.
    exact ⟨fun _ => rfl, hbelow.after_anyHits_high _ event⟩
  next hmissed =>
    have hparts : ∀ v : DatePart, check.check = v.check → v = u := fun v hv =>
      DatePart.check_injective (hv.symm.trans hcheck)
    refine anyHits_cons_below hbelow hparts fun {low high} hbelow => ?_
    rw [anyHits_append_of_comparing hbetween, if_neg hmissed, anyHits_eq_any hafter,
      anyHits_eq_any hafter]
    exact ⟨id, hbelow⟩

theorem keeps_passed_on (hcheck : check.check = u.check)
    (hbefore : ∀ rule ∈ before, rule.check.isFirstOf = false)
    (hbetween : ∀ rule ∈ between, rule.check.isFirstOf = false)
    (hafter : ∀ rule ∈ after, rule.check.isFirstOf = false) (event : Component)
    (hbelow : BelowOn (· = u) low high) :
    KeepsBelow (· = u) (keeps (before ++ between ++ [check] ++ after) event low)
      (keeps (before ++ [check] ++ between ++ after) event high) := by
  have hearlier : before ++ [check] ++ between ++ after =
      before ++ check :: (between ++ after) := by simp
  have hlater : before ++ between ++ [check] ++ after =
      before ++ (between ++ check :: after) := by simp
  rw [hearlier, hlater]
  simp only [keeps, List.isEmpty_iff, List.append_eq_nil_iff, reduceCtorEq, and_false, if_false]
  rw [anyHits_append_of_comparing hbefore, anyHits_append_of_comparing hbefore]
  split
  next => exact ⟨id, hbelow⟩
  next => exact anyHits_passed_on hcheck hbetween hafter event hbelow

/-- A date check further back loses no event. Where all other rules of a feed compare, and none of
its guards is a check of the same kind, every event that the feed keeps is kept as well when the
check is tried only after some of the rules that came behind it. -/
theorem later_check_loses_no_event (feed : Feed) (before between after : List Rule) (check : Rule)
    (hcheck : check.check.isFirstOf = true)
    (hcomparing : ∀ rule ∈ before ++ between ++ after, rule.check.isFirstOf = false)
    (hguards : ∀ m ∈ feed.modifiers, ∀ guard ∈ m.guards, guard.check ≠ check.check)
    (events : List Component) :
    let earlier : Feed := { feed with rules := before ++ [check] ++ between ++ after }
    let later : Feed := { feed with rules := before ++ between ++ [check] ++ after }
    pass earlier events = (fates earlier events ∅).reduceOption ∧
      pass later events = (fates later events ∅).reduceOption ∧
      ∀ i, keepsAt earlier events ∅ i = true → keepsAt later events ∅ i = true := by
  intro earlier later
  refine ⟨passFrom_eq_fates earlier events ∅, passFrom_eq_fates later events ∅, fun i hkept => ?_⟩
  obtain ⟨u, hu⟩ : ∃ u : DatePart, check.check = u.check := by
    by_contra hnone
    rw [isFirstOf_eq_false fun u hu => hnone ⟨u, hu⟩] at hcheck
    cases hcheck
  simp only [List.forall_mem_append] at hcomparing
  obtain ⟨⟨hbefore, hbetween⟩, hafter⟩ := hcomparing
  have hsame : ∀ v, v = u → ∀ m ∈ feed.modifiers, ∀ guard ∈ m.guards, guard.check ≠ v.check := by
    rintro v rfl
    rwa [hu] at hguards
  exact keepsAt_of_below earlier later hsame hsame
    (fun event _ _ hbelow => keeps_passed_on hu hbefore hbetween hafter event hbelow) events
    (fun _ _ _ hn => hn) i hkept

theorem check_behind_lunch_loses_no_event :
    let lunch : Rule := ⟨"lunch", "SUMMARY", .contains, false, ["lunch"]⟩
    let review : Rule := ⟨"review", "SUMMARY", .equals, false, ["review"]⟩
    let first : Rule := ⟨"first", "", .firstOfDay, false, []⟩
    let feed : Feed := ⟨"rota", "https://rota", [],
      [⟨"move", "DTSTART", .replace, "20240131", [⟨"month", "", .firstOfMonth, false, []⟩]⟩]⟩
    let titled (summary value : String) : Component :=
      ((Component.ofKind Calendar.eventKind).setValue "DTSTART" value).setValue "SUMMARY" summary
    let events := [titled "Tea" "20240103", titled "Lunch" "20240105", titled "Tea" "20240107"]
    first.check.isFirstOf = true ∧
      (∀ rule ∈ [review] ++ [lunch] ++ [], rule.check.isFirstOf = false) ∧
      (∀ m ∈ feed.modifiers, ∀ guard ∈ m.guards, guard.check ≠ first.check) ∧
      keepsAt { feed with rules := [review] ++ [first] ++ [lunch] ++ [] } events ∅ 2 = true ∧
      keepsAt { feed with rules := [review] ++ [lunch] ++ [first] ++ [] } events ∅ 2 = true := by
  intro lunch review first feed titled events
  have hcheck : first.check.isFirstOf = true := rfl
  have hcomparing : ∀ rule ∈ [review] ++ [lunch] ++ [], rule.check.isFirstOf = false := by decide
  have hguards : ∀ m ∈ feed.modifiers, ∀ guard ∈ m.guards, guard.check ≠ first.check := by decide
  have hkept : keepsAt { feed with rules := [review] ++ [first] ++ [lunch] ++ [] } events ∅ 2 =
      true := by decide
  exact ⟨hcheck, hcomparing, hguards, hkept,
    (later_check_loses_no_event feed [review] [lunch] [] first hcheck hcomparing hguards
      events).2.2 2 hkept⟩

/-- Further forward a date check may lose an event: it has fired on one that a rule keeps anyway,
and its mark then is too high for a day before. -/
example :
    let lunch : Rule := ⟨"lunch", "SUMMARY", .contains, false, ["lunch"]⟩
    let first : Rule := ⟨"first", "", .firstOfDay, false, []⟩
    let titled (summary value : String) : Component :=
      ((Component.ofKind Calendar.eventKind).setValue "DTSTART" value).setValue "SUMMARY" summary
    let events := [titled "Lunch" "20240105", titled "Tea" "20240103"]
    keepsAt ⟨"rota", "https://rota", [lunch, first], []⟩ events ∅ 1 = true ∧
      keepsAt ⟨"rota", "https://rota", [first, lunch], []⟩ events ∅ 1 = false := by
  decide

end Almanac.Filter
