import Almanac.Filter.Pass
import Almanac.Proofs.Calendar.Date
import Almanac.Proofs.Filter.Watermark
import Mathlib.Data.List.ReduceOption

/-!
# Records

A feed whose only rule is a date check keeps its records: the events whose part of the
start date lies above that of every event before. Modifiers may evaluate rules too, but
none of the same kind, so the mark is the highest part among the events seen so far.
-/

namespace Almanac.Filter

open Config (Check Feed Modifier Rule)
open Calendar (Component Date)

/-- What becomes of the events of a feed, in order. -/
def fates (feed : Feed) : List Component → Watermark → List (Option Component)
  | [], _ => []
  | event :: events, w =>
    let first := passEvent feed event w
    first.1 :: fates feed events first.2

/-- The event has a start date whose part lies above those of all events before it. -/
def IsRecord (u : DatePart) (before : List Component) (event : Component) : Prop :=
  ∃ n, u.ofEvent? event = some n ∧ ∀ m ∈ before.filterMap u.ofEvent?, m < n

/-- The only rule of the feed is the check of this part, and no guard is such a check. -/
structure KeepsRecords (u : DatePart) (feed : Feed) : Prop where
  rule : ∃ rule, feed.rules = [rule] ∧ rule.check = u.check
  guards : ∀ m ∈ feed.modifiers, ∀ guard ∈ m.guards, guard.check ≠ u.check

/-- The events that are kept are those with a fate. -/
theorem passFrom_eq_fates (feed : Feed) (events : List Component) (w : Watermark) :
    (passFrom feed events w).1 = (fates feed events w).reduceOption := by
  induction events generalizing w with
  | nil => rfl
  | cons event events ih =>
      simp only [passFrom, fates, ih]
      cases (passEvent feed event w).1 with
      | none => rw [List.reduceOption_cons_of_none]; rfl
      | some kept => rw [List.reduceOption_cons_of_some]; rfl

/-! ## What guards leave alone -/

theorem allHit_mark (u : DatePart) (rules : List Rule) (event : Component) (w : Watermark)
    (hrules : ∀ rule ∈ rules, rule.check ≠ u.check) :
    (allHit rules event w).2.mark u = w.mark u := by
  induction rules generalizing w with
  | nil => rfl
  | cons rule rules ih =>
      have hhits := hits_mark_of_ne u rule event w (hrules rule List.mem_cons_self)
      unfold allHit
      split
      next w' hw' =>
        rw [hw'] at hhits
        rw [ih w' fun other hother => hrules other (List.mem_cons_of_mem _ hother), hhits]
      next w' hw' =>
        rw [hw'] at hhits
        exact hhits

theorem modifyAll_mark (u : DatePart) (modifiers : List Modifier) (event : Component)
    (w : Watermark) (hguards : ∀ m ∈ modifiers, ∀ guard ∈ m.guards, guard.check ≠ u.check) :
    (modifyAll modifiers event w).watermark.mark u = w.mark u := by
  induction modifiers generalizing event w with
  | nil => rfl
  | cons m ms ih =>
      have hhits := allHit_mark u m.guards event w (hguards m List.mem_cons_self)
      unfold modifyAll
      split
      next w' hw' =>
        rw [hw'] at hhits
        simp only [ih (modify m event) w' fun other hother =>
          hguards other (List.mem_cons_of_mem _ hother), hhits]
      next w' hw' =>
        rw [hw'] at hhits
        exact hhits

/-! ## One event -/

theorem keeps_singleton (rule : Rule) (event : Component) (w : Watermark) :
    keeps [rule] event w = hits rule event w := by
  simp only [keeps, List.isEmpty_cons, Bool.false_eq_true, if_false, anyHits]
  split
  next w' hw' => exact hw'.symm
  next w' hw' => exact hw'.symm

/-- An event is kept if its part lies above the mark, which it then raises. -/
theorem passEvent_of_keepsRecords {u : DatePart} {feed : Feed} (hfeed : KeepsRecords u feed)
    (event : Component) (w : Watermark) :
    ((u.ofEvent? event).any (isAbove (w.mark u)) = true →
        ∃ w', (passEvent feed event w).1 = some (modifyAll feed.modifiers event w').event) ∧
      ((u.ofEvent? event).any (isAbove (w.mark u)) = false → (passEvent feed event w).1 = none) ∧
      (passEvent feed event w).2.mark u = raiseBy (w.mark u) (u.ofEvent? event) := by
  obtain ⟨rule, hrules, hcheck⟩ := hfeed.rule
  obtain ⟨hhit, hmark⟩ := hits_of_check u rule event w hcheck
  rw [← hhit, ← hmark]
  unfold passEvent
  rw [hrules, keeps_singleton]
  cases hresult : hits rule event w with
  | mk hit w' =>
      cases hit with
      | false => exact ⟨(absurd · Bool.false_ne_true), fun _ => rfl, rfl⟩
      | true =>
          exact ⟨fun _ => ⟨w', rfl⟩, (absurd ·.symm Bool.false_ne_true),
            modifyAll_mark u feed.modifiers event w' hfeed.guards⟩

/-! ## All events -/

theorem isRecord_iff (u : DatePart) (before : List Component) (event : Component) :
    IsRecord u before event ↔
      (u.ofEvent? event).any (isAbove (before.filterMap u.ofEvent?).max?) = true := by
  unfold IsRecord
  cases u.ofEvent? event with
  | none => simp
  | some n => simp [isAbove_max?]

/-- While the mark is the highest part seen before, the fate of each event tells whether it is a
record. -/
theorem fates_of_mark {u : DatePart} {feed : Feed} (hfeed : KeepsRecords u feed)
    (before events : List Component) (w : Watermark)
    (hmark : w.mark u = (before.filterMap u.ofEvent?).max?) (i : Nat) (event : Component)
    (hevent : events[i]? = some event) :
    (IsRecord u (before ++ events.take i) event →
        ∃ w', (fates feed events w)[i]? = some (some (modifyAll feed.modifiers event w').event)) ∧
      (¬IsRecord u (before ++ events.take i) event →
        (fates feed events w)[i]? = some none) := by
  induction events generalizing before w i with
  | nil => simp at hevent
  | cons first events ih =>
      obtain ⟨hkept, hdropped, hnext⟩ := passEvent_of_keepsRecords hfeed first w
      cases i with
      | zero =>
          obtain rfl : first = event := by simpa using hevent
          simp only [List.take_zero, List.append_nil, isRecord_iff, ← hmark, Bool.not_eq_true]
          simp only [fates, List.getElem?_cons_zero, Option.some.injEq]
          exact ⟨hkept, hdropped⟩
      | succ i =>
          -- The first event joins those before, and the mark is their highest part again.
          have hrest : (passEvent feed first w).2.mark u =
              ((before ++ [first]).filterMap u.ofEvent?).max? := by
            rw [hnext, hmark, raiseBy_max?, List.filterMap_append]
            cases hpart : u.ofEvent? first <;> simp [hpart]
          have hfates := ih (before ++ [first]) _ hrest i (by simpa using hevent)
          rw [List.append_assoc, List.singleton_append] at hfates
          exact hfates

/-! ## How many records there can be -/

/-- A part between one and some bound can be raised so many times at most. -/
theorem length_passFrom_le {u : DatePart} {feed : Feed} (hfeed : KeepsRecords u feed) (bound : Int)
    (hbound : ∀ event n, u.ofEvent? event = some n → 1 ≤ n ∧ n ≤ bound)
    (events : List Component) (w : Watermark) (hmark : (w.mark u).getD 0 ≤ bound) :
    ((passFrom feed events w).1.length : Int) + (w.mark u).getD 0 ≤ bound := by
  induction events generalizing w with
  | nil => simpa [passFrom] using hmark
  | cons event events ih =>
      obtain ⟨_, hdropped, hnext⟩ := passEvent_of_keepsRecords hfeed event w
      simp only [passFrom, List.length_append, Int.natCast_add]
      -- An event that is kept costs at least one step of the mark towards the bound.
      cases habove : (u.ofEvent? event).any (isAbove (w.mark u)) with
      | false =>
          have hsame : (passEvent feed event w).2.mark u = w.mark u := by
            rw [hnext]
            cases hpart : u.ofEvent? event with
            | none => rfl
            | some n =>
                have hbelow : isAbove (w.mark u) n = false := by simpa [hpart] using habove
                simp [raiseBy, raise, hbelow]
          have hrest := ih (passEvent feed event w).2 (by rw [hsame]; exact hmark)
          rw [hsame] at hrest
          simpa [hdropped habove] using hrest
      | true =>
          obtain ⟨n, hpart, hn⟩ := (Option.any_eq_true _ _).mp habove
          have hraised : (passEvent feed event w).2.mark u = some n := by
            rw [hnext, hpart]
            simp [raiseBy, raise, hn]
          have hfirst : (passEvent feed event w).1.toList.length ≤ 1 := by
            cases (passEvent feed event w).1 <;> simp
          have hlt : (w.mark u).getD 0 < n := by
            cases hw : w.mark u with
            | none => exact (hbound event n hpart).1
            | some m => simpa [isAbove, hw] using hn
          have hrest := ih (passEvent feed event w).2 (by
            rw [hraised]
            exact (hbound event n hpart).2)
          rw [hraised, Option.getD_some] at hrest
          omega

theorem day_bounds (event : Component) (n : Int) (hpart : DatePart.day.ofEvent? event = some n) :
    1 ≤ n ∧ n ≤ 31 := by
  obtain ⟨date, hdate, rfl⟩ := Option.map_eq_some_iff.mp hpart
  have hvalid := Calendar.isValid_of_startDay? hdate
  have hday := Nat.le_trans hvalid.day_le (Date.daysIn_le _ _)
  exact ⟨Int.ofNat_le.mpr hvalid.day_pos, Int.ofNat_le.mpr hday⟩

theorem month_bounds (event : Component) (n : Int)
    (hpart : DatePart.month.ofEvent? event = some n) : 1 ≤ n ∧ n ≤ 12 := by
  obtain ⟨date, hdate, rfl⟩ := Option.map_eq_some_iff.mp hpart
  have hvalid := Calendar.isValid_of_startDay? hdate
  exact ⟨Int.ofNat_le.mpr hvalid.month_pos, Int.ofNat_le.mpr hvalid.month_le⟩

/-- The watermark law. After any evaluations the mark of a part is the highest part that the check
of that kind has read. Such a check fails on an event without a start date, and hits on another if
its part lies above all that were read before. Checks of other kinds, and checks that fail, leave
the mark alone. So a feed whose only rule is such a check, and whose guards are not, keeps its records,
each as the modifiers leave it: at most 31 for days and 12 for months. -/
theorem watermark_law (u : DatePart) :
    (∀ calls : List (Rule × Component),
      (watermarkAfter calls).mark u = (readings u calls).max? ∧
        ∀ (rule : Rule) (event : Component),
          (rule.check = u.check → event.startDay? = none →
              evaluate rule event (watermarkAfter calls) = .error .noStartTime) ∧
            (rule.check = u.check → ∀ date, event.startDay? = some date →
              ∃ hit, evaluate rule event (watermarkAfter calls) =
                  .ok (hit, watermarkAfter (calls ++ [(rule, event)])) ∧
                (hit = true ↔ ∀ n ∈ readings u calls, n < u.read date)) ∧
            (rule.check ≠ u.check ∨
                (∃ e, evaluate rule event (watermarkAfter calls) = .error e) →
              (watermarkAfter (calls ++ [(rule, event)])).mark u = (watermarkAfter calls).mark u)) ∧
      ∀ (feed : Feed) (events : List Component), KeepsRecords u feed →
        pass feed events = (fates feed events ∅).reduceOption ∧
          (∀ (i : Nat) (event : Component), events[i]? = some event →
            (IsRecord u (events.take i) event → ∃ w,
                (fates feed events ∅)[i]? = some (some (modifyAll feed.modifiers event w).event)) ∧
              (¬IsRecord u (events.take i) event → (fates feed events ∅)[i]? = some none)) ∧
          (u = .day → (pass feed events).length ≤ 31) ∧
          (u = .month → (pass feed events).length ≤ 12) := by
  refine ⟨fun calls => ⟨mark_watermarkAfter u calls, fun rule event => ⟨?_, ?_, ?_⟩⟩,
    fun feed events hfeed => ⟨passFrom_eq_fates feed events ∅, ?_, ?_, ?_⟩⟩
  · intro hcheck
    exact (evaluate_of_check u rule event _ hcheck).1
  · intro hcheck date hdate
    obtain ⟨w', hw', _⟩ :=
      (evaluate_of_check u rule event (watermarkAfter calls) hcheck).2 date hdate
    have hafter : watermarkAfter (calls ++ [(rule, event)]) = w' := by
      rw [watermarkAfter_concat, hits, hw']
    refine ⟨_, hafter ▸ hw', ?_⟩
    rw [mark_watermarkAfter, isAbove_max?]
  · rw [watermarkAfter_concat]
    rintro (hcheck | ⟨e, he⟩)
    · exact hits_mark_of_ne u rule event _ hcheck
    · rw [hits, he]
  · intro i event hevent
    exact fates_of_mark hfeed [] events ∅ (mark_empty u) i event hevent
  · rintro rfl
    have hlength := length_passFrom_le hfeed 31 day_bounds events ∅ (by simp)
    rw [mark_empty, Option.getD_none, Int.add_zero] at hlength
    exact Int.ofNat_le.mp hlength
  · rintro rfl
    have hlength := length_passFrom_le hfeed 12 month_bounds events ∅ (by simp)
    rw [mark_empty, Option.getD_none, Int.add_zero] at hlength
    exact Int.ofNat_le.mp hlength

example :
    let feed : Feed := ⟨"rota", "https://rota", [⟨"first", "", .firstOfDay, false, []⟩], []⟩
    let starting (value : String) : Component :=
      (Component.ofKind Calendar.eventKind).setValue "DTSTART" value
    (fates feed [starting "20240103", starting "20240101", starting "20240103",
      starting "20240205"] ∅).map Option.isSome = [true, false, false, true] := by
  decide

end Almanac.Filter
