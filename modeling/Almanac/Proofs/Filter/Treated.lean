import Almanac.Filter.Pass
import Almanac.Proofs.Calendar.Identified

/-!
# What modifiers do to the events that are kept

The modifiers that apply to an event are the first ones of the feed, and the event is what
they make of it one after the other. They change single properties or put alarms behind the
components inside; neither an identifier nor a time stamp is ever taken away.
-/

namespace Almanac.Filter

open Config (Action Feed Modifier)
open Calendar (Component)
open Calendar.Component (Identified)

/-- The events that are kept, each with what its modifiers have done. -/
def treated (feed : Feed) : List Component → Watermark → List (Component × Modified)
  | [], _ => []
  | event :: events, w =>
    match keeps feed.rules event w with
    | (false, w) => treated feed events w
    | (true, w) =>
      let m := modifyAll feed.modifiers event w
      (event, m) :: treated feed events m.watermark

/-- The alarm that a modifier puts into an event. -/
def alarm? (m : Modifier) : Option Component :=
  if m.action = .addAlarm then some (.reminder m.name m.data) else none

/-- All components inside the events that the feed keeps are identified, and none of the modifiers
that apply puts an alarm there. -/
def KeepsIdentified (feed : Feed) (events : List Component) : Prop :=
  ∀ t ∈ treated feed events ∅, (∀ child ∈ t.1.children, child.Everywhere Identified) ∧
    ∀ m ∈ feed.modifiers.take t.2.applied, m.action ≠ .addAlarm

instance (feed : Feed) (events : List Component) : Decidable (KeepsIdentified feed events) :=
  inferInstanceAs (Decidable (∀ t ∈ treated feed events ∅,
    (∀ child ∈ t.1.children, child.Everywhere Identified) ∧
      ∀ m ∈ feed.modifiers.take t.2.applied, m.action ≠ .addAlarm))

theorem passFrom_eq_treated (feed : Feed) (events : List Component) (w : Watermark) :
    (passFrom feed events w).1 = (treated feed events w).map fun t => t.2.event := by
  induction events generalizing w with
  | nil => rfl
  | cons event events ih =>
      simp only [passFrom, treated, passEvent]
      rcases keeps feed.rules event w with ⟨kept, w'⟩
      cases kept with
      | false => exact ih w'
      | true => exact congrArg (List.cons _) (ih _)

/-- What has been treated is an event of the feed, and all its modifiers were tried on it. -/
theorem of_mem_treated {feed : Feed} {events : List Component} {w : Watermark}
    {t : Component × Modified} (ht : t ∈ treated feed events w) :
    t.1 ∈ events ∧ ∃ w', t.2 = modifyAll feed.modifiers t.1 w' := by
  induction events generalizing w with
  | nil => cases ht
  | cons event events ih =>
      unfold treated at ht
      split at ht
      next =>
        obtain ⟨hmem, hmodified⟩ := ih ht
        exact ⟨List.mem_cons_of_mem _ hmem, hmodified⟩
      next w' _ =>
        rcases List.mem_cons.mp ht with rfl | ht
        · exact ⟨List.mem_cons_self, w', rfl⟩
        · obtain ⟨hmem, hmodified⟩ := ih ht
          exact ⟨List.mem_cons_of_mem _ hmem, hmodified⟩

/-! ## The modifiers that apply -/

theorem modifyAll_event (modifiers : List Modifier) (event : Component) (w : Watermark) :
    (modifyAll modifiers event w).event =
      (modifiers.take (modifyAll modifiers event w).applied).foldl (fun e m => modify m e) event := by
  induction modifiers generalizing event w with
  | nil => rfl
  | cons m ms ih =>
      unfold modifyAll
      split
      next w' _ => exact ih (modify m event) w'
      next => rfl

theorem modify_children (m : Modifier) (event : Component) :
    (modify m event).children = event.children ++ (alarm? m).toList := by
  unfold modify alarm?
  cases m.action with
  | append | prepend | replace => exact (List.append_nil _).symm
  | addAlarm => rfl

theorem foldl_modify_children (modifiers : List Modifier) (event : Component) :
    (modifiers.foldl (fun e m => modify m e) event).children =
      event.children ++ modifiers.filterMap alarm? := by
  induction modifiers generalizing event with
  | nil => exact (List.append_nil _).symm
  | cons m ms ih =>
      rw [List.foldl_cons, ih, modify_children, List.append_assoc, List.filterMap_cons]
      cases alarm? m <;> rfl

/-! ## Identifiers and time stamps -/

theorem identified_set {c : Component} (hc : c.Identified) (name : String)
    (p : Calendar.Property) : (c.set name p).Identified := by
  have hkept : ∀ other, c.single.contains other = true →
      (c.single.set name p).contains other = true := by
    intro other hother
    unfold Dictionary.contains at hother ⊢
    rw [Dictionary.get?_set]
    split
    next => rfl
    next => exact hother
  exact ⟨hkept "UID" hc.uid, hkept "DTSTAMP" hc.stamp⟩

theorem identified_modify (m : Modifier) {event : Component} (hevent : event.Identified) :
    (modify m event).Identified := by
  unfold modify
  cases m.action with
  | append | prepend | replace => exact identified_set hevent _ _
  | addAlarm => exact ⟨hevent.uid, hevent.stamp⟩

theorem identified_foldl_modify (modifiers : List Modifier) {event : Component}
    (hevent : event.Identified) :
    (modifiers.foldl (fun e m => modify m e) event).Identified := by
  induction modifiers generalizing event with
  | nil => exact hevent
  | cons m ms ih => exact ih (identified_modify m hevent)

theorem not_identified_reminder (description trigger : String) :
    ¬(Component.reminder description trigger).Identified := by
  intro h
  exact absurd h.uid Bool.false_ne_true

/-- No alarm that a modifier puts into an event is identified. -/
theorem everywhere_alarms_iff (modifiers : List Modifier) :
    (∀ alarm ∈ modifiers.filterMap alarm?, alarm.Everywhere Identified) ↔
      ∀ m ∈ modifiers, m.action ≠ .addAlarm := by
  constructor
  · intro halarms m hm haction
    have hmem : Component.reminder m.name m.data ∈ modifiers.filterMap alarm? :=
      List.mem_filterMap.mpr ⟨m, hm, if_pos haction⟩
    obtain ⟨_, hhere, _⟩ := halarms _ hmem
    exact not_identified_reminder _ _ hhere
  · intro hnone alarm halarm
    obtain ⟨m, hm, hsome⟩ := List.mem_filterMap.mp halarm
    rw [alarm?, if_neg (hnone m hm)] at hsome
    cases hsome

theorem everywhere_modifyAll_iff (modifiers : List Modifier) {event : Component}
    (hevent : event.Identified) (w : Watermark) :
    (modifyAll modifiers event w).event.Everywhere Identified ↔
      (∀ child ∈ event.children, child.Everywhere Identified) ∧
        ∀ m ∈ modifiers.take (modifyAll modifiers event w).applied, m.action ≠ .addAlarm := by
  rw [modifyAll_event, Component.everywhere_iff, foldl_modify_children, List.forall_mem_append,
    everywhere_alarms_iff]
  exact and_iff_right (identified_foldl_modify _ hevent)

/-- Of a feed whose events are identified, the kept events are so with all that is inside them just if
all was identified there before and no alarm is put in. -/
theorem everywhere_pass_iff (feed : Feed) {events : List Component}
    (hevents : ∀ event ∈ events, event.Identified) :
    (∀ kept ∈ pass feed events, kept.Everywhere Identified) ↔ KeepsIdentified feed events := by
  unfold pass KeepsIdentified
  rw [passFrom_eq_treated, List.forall_mem_map]
  refine forall₂_congr fun t ht => ?_
  obtain ⟨hmem, w, hmodified⟩ := of_mem_treated ht
  rw [hmodified]
  exact everywhere_modifyAll_iff feed.modifiers (hevents t.1 hmem) w

end Almanac.Filter
