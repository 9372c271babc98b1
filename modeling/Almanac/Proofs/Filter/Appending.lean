import Almanac.Proofs.Dictionary
import Almanac.Proofs.Filter.Rewritten

/-!
# Appending and prepending

A modifier that appends or prepends writes around the value of a property and keeps the rest of the
event, but it writes the value alone: the parameters of the property are gone. So to append
nothing leaves an event as it is just if the property has no parameters.
-/

namespace Almanac.Filter

open Config (Modifier)
open Calendar (Component Property)

/-- The modifier writes around the value that the property of this name has. -/
def Extends (m : Modifier) : Prop := m.action = .append ∨ m.action = .prepend

/-- What modifiers in order prepend to the property of this name: the last comes first. -/
def prependedData (name : String) : List Modifier → String
  | [] => ""
  | m :: ms =>
    prependedData name ms ++ if Targets m name ∧ m.action = .prepend then m.data else ""

/-- What modifiers in order append to the property of this name. -/
def appendedData (name : String) : List Modifier → String
  | [] => ""
  | m :: ms =>
    (if Targets m name ∧ m.action = .append then m.data else "") ++ appendedData name ms

/-- Modifiers that only append and prepend to a property keep its value. -/
theorem rewritten_of_extends {modifiers : List Modifier} {name : String}
    (hextends : ∀ m ∈ modifiers, Targets m name → Extends m) (old : String) :
    rewritten modifiers name old =
      prependedData name modifiers ++ old ++ appendedData name modifiers := by
  induction modifiers generalizing old with
  | nil => simp [rewritten, prependedData, appendedData]
  | cons m ms ih =>
      have hlater := ih fun m' hm' => hextends m' (List.mem_cons_of_mem m hm')
      have hfirst := hextends m List.mem_cons_self
      have hfold : rewritten (m :: ms) name old =
          rewritten ms name (if Targets m name then writtenOver m old else old) := rfl
      rw [hfold, hlater, prependedData, appendedData]
      by_cases htargets : Targets m name
      · rw [if_pos htargets]
        rcases hfirst htargets with haction | haction <;>
          simp [htargets, writtenOver, haction, String.append_assoc]
      · simp [htargets]

/-- The modifiers that apply to an event. -/
abbrev appliedTo (modifiers : List Modifier) (event : Component) (w : Watermark) : List Modifier :=
  modifiers.take (modifyAll modifiers event w).applied

theorem ext_component {c d : Component} (hkind : c.kind = d.kind) (hsingle : c.single = d.single)
    (hrepeated : c.repeated = d.repeated) (hchildren : c.children = d.children) : c = d := by
  cases c
  cases d
  cases hkind
  cases hsingle
  cases hrepeated
  cases hchildren
  rfl

theorem data_of_empty {modifiers : List Modifier} (hempty : ∀ m ∈ modifiers, m.data = "")
    (name : String) : prependedData name modifiers = "" ∧ appendedData name modifiers = "" := by
  induction modifiers with
  | nil => exact ⟨rfl, rfl⟩
  | cons m ms ih =>
      obtain ⟨hbefore, hbehind⟩ := ih fun m' hm' => hempty m' (List.mem_cons_of_mem m hm')
      have hfirst := hempty m List.mem_cons_self
      simp [prependedData, appendedData, hbefore, hbehind, hfirst]

/-- Modifiers that append nothing and prepend nothing to a property keep an event just if there are
none or the property has no parameters. -/
theorem modified_eq_self_iff {modifiers : List Modifier} {event : Component} {name : String}
    {p : Property} (hp : event.single.get? name = some p)
    (htarget : ∀ m ∈ modifiers, Targets m name) (hextends : ∀ m ∈ modifiers, Extends m)
    (hempty : ∀ m ∈ modifiers, m.data = "") :
    modified modifiers event = event ↔ modifiers = [] ∨ p.params = ∅ := by
  have hvalue : (event.value? name).getD "" = p.value := by
    rw [Component.value?, hp, Option.map_some, Option.getD_some]
  constructor
  · intro hsame
    cases modifiers with
    | nil => exact .inl rfl
    | cons m ms =>
        have hget := get?_modified (m :: ms) event name
        rw [hsame, hp, if_pos ⟨m, List.mem_cons_self, htarget m List.mem_cons_self⟩] at hget
        exact .inr (congrArg Property.params (Option.some.inj hget))
  · rintro (rfl | hparams)
    · rfl
    · obtain ⟨hkind, hrepeated⟩ := modified_frame modifiers event
      have hsingle : (modified modifiers event).single = event.single := by
        refine Dictionary.ext_get? fun other => ?_
        rw [get?_modified]
        split
        next htargeted =>
          obtain ⟨m, hm, _, rfl⟩ := htargeted
          obtain ⟨_, rfl⟩ := htarget m hm
          obtain ⟨hbefore, hbehind⟩ := data_of_empty hempty m.field
          rw [rewritten_of_extends (fun m hm _ => hextends m hm), hbefore, hbehind, hvalue, hp,
            String.empty_append, String.append_empty, ← hparams]
        next => rfl
      have hchildren : (modified modifiers event).children = event.children := by
        have hnone : modifiers.filterMap alarm? = [] := by
          rw [List.filterMap_eq_nil_iff]
          exact fun m hm => if_neg (htarget m hm).1
        rw [foldl_modify_children, hnone, List.append_nil]
      exact ext_component hkind hsingle hrepeated hchildren

/-- Modifiers that append and prepend keep all but the parameters. An event has a property, and of
the modifiers of a feed those for this property append and prepend; whatever their guards say and
wherever the work begins. In the event afterwards the value stands between what was prepended and
what was appended, and everything that no modifier sets is as it was. But the property has
its parameters just if it had none or no modifier for it applied. So modifiers that append
nothing and prepend nothing leave the event the very same just if the property had no parameters or
none of them applied. -/
theorem appending_keeps_all_but_parameters (modifiers : List Modifier) (event : Component)
    (w : Watermark) {name : String} {p : Property} (hp : event.single.get? name = some p)
    (hextends : ∀ m ∈ modifiers, Targets m name → Extends m) :
    let applied := appliedTo modifiers event w
    let after := (modifyAll modifiers event w).event
    (∃ q, after.single.get? name = some q ∧
      q.value = prependedData name applied ++ p.value ++ appendedData name applied ∧
      (q.params = p.params ↔ p.params = ∅ ∨ ∀ m ∈ applied, ¬Targets m name) ∧
      ((∃ m ∈ applied, Targets m name) → q.params = ∅)) ∧
    Rewrites applied event after ∧
    ((∀ m ∈ modifiers, Targets m name ∧ m.data = "") →
      (after = event ↔ applied = [] ∨ p.params = ∅)) := by
  intro applied after
  have hsome {m : Modifier} (hm : m ∈ applied) : m ∈ modifiers := List.mem_of_mem_take hm
  have happlied : ∀ m ∈ applied, Targets m name → Extends m := fun m hm => hextends m (hsome hm)
  have hafter : after = modified applied event := modifyAll_event modifiers event w
  have hvalue : (event.value? name).getD "" = p.value := by
    rw [Component.value?, hp, Option.map_some, Option.getD_some]
  have hget := get?_modified applied event name
  rw [rewritten_of_extends happlied, hvalue, hp] at hget
  rw [hafter]
  refine ⟨?_, rewrites_modified applied event, fun hempty => ?_⟩
  · by_cases htargeted : ∃ m ∈ applied, Targets m name
    · rw [if_pos htargeted] at hget
      refine ⟨_, hget, rfl, ?_, fun _ => rfl⟩
      rw [eq_comm]
      refine (or_iff_left fun hnone => ?_).symm
      obtain ⟨m, hm, htargets⟩ := htargeted
      exact hnone m hm htargets
    · rw [if_neg htargeted] at hget
      have hnone : ∀ m ∈ applied, ¬Targets m name := fun m hm h => htargeted ⟨m, hm, h⟩
      have hkept := rewritten_of_extends happlied p.value
      rw [rewritten_of_not_targeted htargeted] at hkept
      exact ⟨p, hget, hkept, iff_of_true rfl (.inr hnone), fun h => absurd h htargeted⟩
  · exact modified_eq_self_iff hp (fun m hm => (hempty m (hsome hm)).1)
      (fun m hm => happlied m hm (hempty m (hsome hm)).1) fun m hm => (hempty m (hsome hm)).2

theorem title_is_extended_without_its_language :
    let title : Property := ⟨Dictionary.ofList [("LANGUAGE", "de")], "Treffen"⟩
    let event := (Component.ofKind "VEVENT").set "SUMMARY" title
    let modifiers : List Modifier :=
      [⟨"room", "SUMMARY", .append, " (Saal)", []⟩, ⟨"team", "SUMMARY", .prepend, "Chor: ", []⟩]
    event.single.get? "SUMMARY" = some title ∧
      ∃ q, (modifyAll modifiers event ∅).event.single.get? "SUMMARY" = some q ∧
        q.value = "Chor: Treffen (Saal)" ∧ q.params = ∅ := by
  intro title event modifiers
  have htitle : event.single.get? "SUMMARY" = some title := by decide +kernel
  have hextends : ∀ m ∈ modifiers, Targets m "SUMMARY" → Extends m := fun m hm _ => by
    rcases List.mem_cons.mp hm with rfl | hm
    · exact .inl rfl
    · rw [List.mem_singleton.mp hm]
      exact .inr rfl
  obtain ⟨⟨q, hq, hvalue, _, hparams⟩, _⟩ :=
    appending_keeps_all_but_parameters modifiers event ∅ htitle hextends
  exact ⟨htitle, q, hq, hvalue.trans (by decide +kernel), hparams (by decide +kernel)⟩

/-- A modifier that appends nothing takes the language from a title. -/
theorem appending_nothing_drops_language :
    let title : Property := ⟨Dictionary.ofList [("LANGUAGE", "de")], "Treffen"⟩
    let event := (Component.ofKind "VEVENT").set "SUMMARY" title
    let after := (modifyAll [⟨"nothing", "SUMMARY", .append, "", []⟩] event ∅).event
    event.single.get? "SUMMARY" = some title ∧
      after.single.get? "SUMMARY" = some ⟨∅, "Treffen"⟩ ∧ after ≠ event := by
  intro title event after
  have hbefore : event.single.get? "SUMMARY" = some title := by decide +kernel
  have hafter : after.single.get? "SUMMARY" = some ⟨∅, "Treffen"⟩ := by decide +kernel
  refine ⟨hbefore, hafter, fun hsame => ?_⟩
  rw [hsame, hbefore] at hafter
  exact absurd hafter (by decide +kernel)

end Almanac.Filter
