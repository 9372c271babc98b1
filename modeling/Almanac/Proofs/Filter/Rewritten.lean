import Almanac.Proofs.Calendar.Frames
import Almanac.Proofs.Filter.Treated

/-!
# What modifiers write

A modifier writes its data, and whatever value the property had before, into one line of
the event, or its data into a line of an alarm. The lines of the event stay in their
lines if these lines do: all other lines are those of the feed.
-/

namespace Almanac.Filter

open Config (Modifier)
open Calendar (Component FitsLine)
open Calendar.Component (StaysInLines)

/-- What the modifier has written into the event stays in its line: the trigger of an alarm, or the
value that the property has in the end. The name of an alarm is text, and nothing is asked of it. -/
def WritesInLine (event : Component) (m : Modifier) : Prop :=
  if m.action = .addAlarm then FitsLine "TRIGGER" m.data
  else FitsLine m.field ((event.value? m.field).getD "")

instance (event : Component) (m : Modifier) : Decidable (WritesInLine event m) :=
  inferInstanceAs (Decidable (if m.action = .addAlarm then _ else _))

/-! ## Alarms -/

theorem staysInLines_reminder {description trigger : String}
    (htrigger : FitsLine "TRIGGER" trigger) :
    (Component.reminder description trigger).Everywhere StaysInLines := by
  have hkind : Calendar.IsName Calendar.alarmKind.toList := List.all_eq_true.mp (by decide)
  have haction : FitsLine "ACTION" "DISPLAY" := by decide
  have hdescription : FitsLine "DESCRIPTION" description :=
    ⟨List.all_eq_true.mp (by decide), by decide, .inl (by decide)⟩
  have hbare := Component.staysInLines_ofKind hkind
  exact ⟨_, ((hbare.setValue haction).setValue hdescription).setValue htrigger,
    fun child hchild => by cases hchild⟩

theorem countP_alarms (modifiers : List Modifier) :
    (modifiers.filterMap alarm?).countP (fun alarm => alarm.kind = Calendar.alarmKind) =
      modifiers.countP fun m => m.action = .addAlarm := by
  induction modifiers with
  | nil => rfl
  | cons m ms ih =>
      by_cases haction : m.action = .addAlarm
      · have halarm : alarm? m = some (.reminder m.name m.data) := if_pos haction
        have hkind : (Component.reminder m.name m.data).kind = Calendar.alarmKind := rfl
        simp [halarm, hkind, haction, ih]
      · have halarm : alarm? m = none := if_neg haction
        simp [halarm, haction, ih]

/-! ## Events -/

/-- The event after the modifiers in order. -/
abbrev modified (modifiers : List Modifier) (event : Component) : Component :=
  modifiers.foldl (fun e m => modify m e) event

theorem event_of_mem_treated {feed : Config.Feed} {events : List Component} {w : Watermark}
    {t : Component × Modified} (ht : t ∈ treated feed events w) :
    t.2.event = modified (feed.modifiers.take t.2.applied) t.1 := by
  obtain ⟨_, w', hmodified⟩ := of_mem_treated ht
  rw [hmodified]
  exact modifyAll_event _ _ _

theorem modify_frame (m : Modifier) (event : Component) :
    (modify m event).kind = event.kind ∧ (modify m event).repeated = event.repeated := by
  unfold modify
  cases m.action <;> exact ⟨rfl, rfl⟩

theorem modified_frame (modifiers : List Modifier) (event : Component) :
    (modified modifiers event).kind = event.kind ∧
      (modified modifiers event).repeated = event.repeated := by
  induction modifiers generalizing event with
  | nil => exact ⟨rfl, rfl⟩
  | cons m ms ih =>
      obtain ⟨hkind, hrepeated⟩ := modify_frame m event
      exact ⟨(ih _).1.trans hkind, (ih _).2.trans hrepeated⟩

/-- The modifier sets the property of this name. -/
def Targets (m : Modifier) (name : String) : Prop := m.action ≠ .addAlarm ∧ m.field = name

instance (m : Modifier) (name : String) : Decidable (Targets m name) :=
  inferInstanceAs (Decidable (_ ∧ _))

/-- What the modifier makes of the value of the property that it sets. -/
def writtenOver (m : Modifier) (old : String) : String :=
  match m.action with
  | .append => old ++ m.data
  | .prepend => m.data ++ old
  | .replace => m.data
  | .addAlarm => old

/-- What modifiers in order make of the value of a property. -/
def rewritten (modifiers : List Modifier) (name old : String) : String :=
  modifiers.foldl (fun value m => if Targets m name then writtenOver m value else value) old

theorem get?_modify (m : Modifier) (event : Component) (name : String) :
    (modify m event).single.get? name =
      if Targets m name then some ⟨∅, writtenOver m ((event.value? name).getD "")⟩
      else event.single.get? name := by
  obtain ⟨_, field, action, data, _⟩ := m
  cases action with
  | append | prepend | replace =>
      by_cases hname : field = name <;>
        simp [modify, Targets, writtenOver, Component.setValue, Component.set, hname]
  | addAlarm => simp [modify, Targets, Component.addChild]

theorem rewritten_of_not_targeted {modifiers : List Modifier} {name : String}
    (hnone : ¬∃ m ∈ modifiers, Targets m name) (old : String) :
    rewritten modifiers name old = old := by
  induction modifiers with
  | nil => rfl
  | cons m ms ih =>
      have hfirst : ¬Targets m name := fun h => hnone ⟨m, List.mem_cons_self, h⟩
      have hlater : ¬∃ m' ∈ ms, Targets m' name := fun ⟨m', hm', h⟩ =>
        hnone ⟨m', List.mem_cons_of_mem m hm', h⟩
      rw [rewritten, List.foldl_cons, if_neg hfirst]
      exact ih hlater

/-- A property that modifiers set has no parameters, and its value is made of what it was before, or
of nothing if it was not there. -/
theorem get?_modified (modifiers : List Modifier) (event : Component) (name : String) :
    (modified modifiers event).single.get? name =
      if ∃ m ∈ modifiers, Targets m name then
        some ⟨∅, rewritten modifiers name ((event.value? name).getD "")⟩
      else event.single.get? name := by
  induction modifiers generalizing event with
  | nil => simp
  | cons m ms ih =>
      have hvalue : ((modify m event).value? name).getD "" =
          if Targets m name then writtenOver m ((event.value? name).getD "")
          else (event.value? name).getD "" := by
        rw [Component.value?, get?_modify, apply_ite (Option.map _), apply_ite (Option.getD · "")]
        rfl
      have hfold : modified (m :: ms) event = modified ms (modify m event) := rfl
      have hrewritten (old : String) : rewritten (m :: ms) name old =
          rewritten ms name (if Targets m name then writtenOver m old else old) := rfl
      have hexists : (∃ m' ∈ m :: ms, Targets m' name) ↔
          Targets m name ∨ ∃ m' ∈ ms, Targets m' name := by simp
      rw [hfold, ih, hvalue, get?_modify, hrewritten]
      simp only [hexists]
      by_cases hfirst : Targets m name
      · by_cases hlater : ∃ m' ∈ ms, Targets m' name
        · simp [hfirst, hlater]
        · simp [hfirst, hlater, rewritten_of_not_targeted hlater]
      · simp [hfirst]

/-- A property of the event afterwards is one of the feed, or one of the modifiers has set it, and
then it has no parameters. -/
theorem of_get?_modified {modifiers : List Modifier} {event : Component} {name : String}
    {p : Calendar.Property} (hp : (modified modifiers event).single.get? name = some p) :
    event.single.get? name = some p ∨
      p.params = ∅ ∧ ∃ m ∈ modifiers, m.action ≠ .addAlarm ∧ m.field = name := by
  rw [get?_modified] at hp
  split at hp
  next htargeted =>
    obtain rfl := Option.some.inj hp
    exact .inr ⟨rfl, htargeted⟩
  next => exact .inl hp

/-- If what they have written stays in its line, the modifiers keep the lines of the event and of
all components inside it in their lines. -/
theorem staysInLines_modified {modifiers : List Modifier} {event : Component}
    (hevent : event.Everywhere StaysInLines)
    (hwrites : ∀ m ∈ modifiers, WritesInLine (modified modifiers event) m) :
    (modified modifiers event).Everywhere StaysInLines := by
  obtain ⟨_, hhere, hinside⟩ := hevent
  obtain ⟨hkind, hrepeated⟩ := modified_frame modifiers event
  refine ⟨_, ⟨hkind ▸ hhere.kind, fun name p hp => ?_, hrepeated ▸ hhere.repeated⟩, ?_⟩
  · rcases of_get?_modified hp with hfeed | ⟨hparams, m, hm, haction, rfl⟩
    · exact hhere.single name p hfeed
    · have hfits := hwrites m hm
      rw [WritesInLine, if_neg haction, Component.value?, hp] at hfits
      have hplain : p = ⟨∅, p.value⟩ := by rw [← hparams]
      rw [hplain]
      exact Calendar.staysInLine_of_fitsLine hfits
  · rw [foldl_modify_children]
    intro child hchild
    rcases List.mem_append.mp hchild with hchild | halarm
    · exact hinside child hchild
    · obtain ⟨m, hm, hsome⟩ := List.mem_filterMap.mp halarm
      have haction : m.action = .addAlarm := by
        by_contra hnot
        rw [alarm?, if_neg hnot] at hsome
        cases hsome
      have hfits := hwrites m hm
      rw [WritesInLine, if_pos haction] at hfits
      rw [alarm?, if_pos haction] at hsome
      obtain rfl := Option.some.inj hsome
      exact staysInLines_reminder hfits

/-- Each alarm of a modifier is one more. -/
theorem alarmCount_modified (modifiers : List Modifier) (event : Component) :
    (modified modifiers event).alarmCount =
      event.alarmCount + modifiers.countP fun m => m.action = .addAlarm := by
  rw [Component.alarmCount, foldl_modify_children, List.countP_append, countP_alarms]
  rfl

/-! ## What is left, and what is new -/

/-- The alarm that a modifier puts into an event: it shows the name of the modifier, at the time
that the data gives. -/
structure IsAlarmOf (m : Modifier) (alarm : Component) : Prop where
  kind : alarm.kind = Calendar.alarmKind
  description : alarm.value? "DESCRIPTION" = some m.name
  trigger : alarm.value? "TRIGGER" = some m.data

/-- The modifiers in order make one event of another. Properties that they set have the value that
comes of the old one, others are as they were; alarms are added behind what is inside. -/
structure Rewrites (modifiers : List Modifier) (old new : Component) : Prop where
  kind : new.kind = old.kind
  set : ∀ name, (∃ m ∈ modifiers, Targets m name) →
    new.single.get? name = some ⟨∅, rewritten modifiers name ((old.value? name).getD "")⟩
  kept : ∀ name, (¬∃ m ∈ modifiers, Targets m name) →
    new.single.get? name = old.single.get? name
  repeated : new.repeated = old.repeated
  children : ∃ alarms, new.children = old.children ++ alarms ∧
    List.Forall₂ IsAlarmOf (modifiers.filter fun m => m.action = .addAlarm) alarms

theorem forall₂_alarms (modifiers : List Modifier) :
    List.Forall₂ IsAlarmOf (modifiers.filter fun m => m.action = .addAlarm)
      (modifiers.filterMap alarm?) := by
  induction modifiers with
  | nil => exact .nil
  | cons m ms ih =>
      by_cases haction : m.action = .addAlarm
      · have halarm : alarm? m = some (.reminder m.name m.data) := if_pos haction
        rw [List.filter_cons_of_pos (by simpa using haction), List.filterMap_cons_some halarm]
        exact .cons ⟨rfl, rfl, rfl⟩ ih
      · have halarm : alarm? m = none := if_neg haction
        rwa [List.filter_cons_of_neg (by simpa using haction), List.filterMap_cons_none halarm]

theorem rewrites_modified (modifiers : List Modifier) (event : Component) :
    Rewrites modifiers event (modified modifiers event) where
  kind := (modified_frame modifiers event).1
  set name htargeted := by rw [get?_modified, if_pos htargeted]
  kept name hnone := by rw [get?_modified, if_neg hnone]
  repeated := (modified_frame modifiers event).2
  children := ⟨_, foldl_modify_children modifiers event, forall₂_alarms modifiers⟩

end Almanac.Filter
