import Almanac.Proofs.Calendar.WrittenDate
import Almanac.Proofs.Filter.Agreement

/-!
# Date checks and the forms of a start

A date check reads the date that is written at the start of an event, and nothing else of it: in
which form the start is written, at what time of day and in which zone, makes no difference to
whether the check hits, nor to the marks that it leaves for the events that follow.
-/

namespace Almanac.Filter

open Calendar (Component Date StartForm TimeOfDay)
open Config (Feed Rule)

/-- The events start on the same written date, each in a form of its own. -/
def SameWrittenDay (first second : Component) : Prop :=
  ∃ date : Date, date.IsWritable ∧
    ∃ form form', first.StartsOn date form ∧ second.StartsOn date form'

/-- A date check looks at the start date alone. -/
theorem evaluate_congr_startDay? {rule : Rule} (hcheck : rule.check.isFirstOf = true)
    {first second : Component} (hday : first.startDay? = second.startDay?) (w : Watermark) :
    evaluate rule first w = evaluate rule second w := by
  have hstart : startDay first = startDay second := by
    unfold startDay
    rw [hday]
  unfold evaluate
  cases hkind : rule.check with
  | firstOfDay | firstOfMonth | firstOfYear => simp only [hstart]
  | _ =>
      rw [hkind] at hcheck
      cases hcheck

namespace SameWrittenDay

variable {first second : Component}

theorem startDay?_eq (hsame : SameWrittenDay first second) :
    first.startDay? = second.startDay? := by
  obtain ⟨date, hdate, form, form', hfirst, hsecond⟩ := hsame
  rw [hfirst.startDay?_eq hdate, hsecond.startDay?_eq hdate]

theorem anyHits_eq (hsame : SameWrittenDay first second) {rules : List Rule}
    (hrules : ∀ rule ∈ rules, rule.check.isFirstOf = true) (w : Watermark) :
    anyHits rules first w = anyHits rules second w := by
  induction rules generalizing w with
  | nil => rfl
  | cons rule rules ih =>
      obtain ⟨hcheck, hrest⟩ := List.forall_mem_cons.mp hrules
      have hhits : hits rule first w = hits rule second w := by
        rw [hits, hits, evaluate_congr_startDay? hcheck hsame.startDay?_eq]
      rw [anyHits, anyHits, hhits]
      split
      next => rfl
      next w' _ => exact ih hrest w'

theorem keeps_eq (hsame : SameWrittenDay first second) {rules : List Rule}
    (hrules : ∀ rule ∈ rules, rule.check.isFirstOf = true) (w : Watermark) :
    keeps rules first w = keeps rules second w := by
  rw [keeps, keeps, hsame.anyHits_eq hrules]

end SameWrittenDay

/-- Date checks read only the date that is written. Of two events whose starts spell the same eight
digits, be it a date alone, or with a local time, a time in a zone, or a time of UTC, both start on
this date; and every date check gives the same result on both, from whatever watermark, and leaves
the same watermark. -/
theorem date_checks_read_written_date {date : Date} (hdate : date.IsWritable)
    {first second : Component} {form form' : StartForm} (hfirst : first.StartsOn date form)
    (hsecond : second.StartsOn date form') :
    first.startDay? = some date ∧ second.startDay? = some date ∧
      ∀ rule : Rule, rule.check.isFirstOf = true →
        ∀ w, evaluate rule first w = evaluate rule second w := by
  have hday := hfirst.startDay?_eq hdate
  have hday' := hsecond.startDay?_eq hdate
  exact ⟨hday, hday', fun rule hcheck => evaluate_congr_startDay? hcheck (hday.trans hday'.symm)⟩

/-- One event ends the last day of March far in the east, the other begins it at Greenwich. -/
theorem march_ends_in_both_zones :
    let east : Component := (Component.ofKind Calendar.eventKind).set "DTSTART"
      ⟨Dictionary.ofList [("TZID", "Pacific/Kiritimati")], "20240331T235960"⟩
    let greenwich : Component :=
      (Component.ofKind Calendar.eventKind).setValue "DTSTART" "20240331T000000Z"
    east.startDay? = some ⟨2024, 3, 31⟩ ∧ greenwich.startDay? = some ⟨2024, 3, 31⟩ ∧
      ∀ rule : Rule, rule.check.isFirstOf = true →
        ∀ w, evaluate rule east w = evaluate rule greenwich w := by
  intro east greenwich
  have hdate : Date.IsWritable ⟨2024, 3, 31⟩ :=
    ⟨⟨by decide, by decide, by decide, by decide⟩, by decide, by decide⟩
  have heast : east.StartsOn ⟨2024, 3, 31⟩
      (.zoned ⟨23, 59, 60, by decide, by decide, by decide⟩) :=
    ⟨_, rfl, by decide +kernel, by decide +kernel, by decide +kernel⟩
  have hgreenwich : greenwich.StartsOn ⟨2024, 3, 31⟩
      (.utc ⟨0, 0, 0, by decide, by decide, by decide⟩) :=
    ⟨_, rfl, by decide +kernel, by decide +kernel, by decide +kernel⟩
  exact date_checks_read_written_date hdate heast hgreenwich

/-- Guards that compare leave the watermark as the rules have left it. -/
theorem passEvent_watermark {feed : Feed}
    (hguards : ∀ m ∈ feed.modifiers, ∀ guard ∈ m.guards, guard.check.isFirstOf = false)
    (event : Component) (w : Watermark) :
    (passEvent feed event w).2 = (keeps feed.rules event w).2 := by
  apply ext_mark
  intro u
  refine passEvent_mark u feed event w fun m hm guard hguard hcheck => ?_
  have hcompares := hguards m hm guard hguard
  rw [hcheck, isFirstOf_check] at hcompares
  cases hcompares

/-- Where the rules of a feed are date checks and its guards are not, the forms in which the events
write their starts do not decide which of them are kept. -/
theorem keepsAt_of_sameWrittenDay {feed : Feed}
    (hrules : ∀ rule ∈ feed.rules, rule.check.isFirstOf = true)
    (hguards : ∀ m ∈ feed.modifiers, ∀ guard ∈ m.guards, guard.check.isFirstOf = false)
    {events events' : List Component} (hsame : List.Forall₂ SameWrittenDay events events')
    (w : Watermark) (i : Nat) : keepsAt feed events w i = keepsAt feed events' w i := by
  induction hsame generalizing w i with
  | nil => rfl
  | @cons event event' _ _ hday _ ih =>
      have hkeeps := hday.keeps_eq hrules w
      cases i with
      | zero => rw [keepsAt_zero, keepsAt_zero, passEvent_isSome, passEvent_isSome, hkeeps]
      | succ i =>
          have hafter : (passEvent feed event w).2 = (passEvent feed event' w).2 := by
            rw [passEvent_watermark hguards, passEvent_watermark hguards, hkeeps]
          rw [keepsAt_succ, keepsAt_succ, hafter]
          exact ih _ i

end Almanac.Filter
