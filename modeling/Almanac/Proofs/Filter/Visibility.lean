import Almanac.Filter.Modification
import Almanac.Proofs.Calendar.Outline
import Almanac.Proofs.Config.Requirements
import Almanac.Proofs.Filter.Comparing

/-!
# What rules and modifiers see of an event

Validated rules and modifiers name properties in capitals. They see a property of an event if a
line of it has the name in capitals and the name may not be given several times. Lines that
have the name in other letters, or a name that may be given several times, are not seen: rules
miss them, and modifiers leave them as they are.
-/

namespace Almanac.Calendar

/-- Two names are the same if it does not count in which case their letters are. -/
def sameName (name other : String) : Bool :=
  name.toList.map Char.toUpper == other.toList.map Char.toUpper

/-- The properties of this name, in letters of either case: the single ones and the others. -/
def Component.propertiesNamed (c : Component) (name : String) : List Property :=
  (c.single.entries.filter fun e => sameName e.1 name).map Prod.snd ++
    (c.repeated.entries.filter fun e => sameName e.1 name).flatMap Prod.snd

theorem sameName_refl (name : String) : sameName name name = true := beq_self_eq_true _

namespace Outline

variable (o : Outline) (name : String)

/-- Rules and modifiers find a property of this name. -/
theorem value?_isSome_iff :
    (o.component.value? name).isSome = true ↔ name ∈ o.names ∧ name ∉ repeatableNames := by
  rw [Component.value?, get?_single, ← named_ne_nil_iff]
  by_cases hname : name ∈ repeatableNames <;> simp [hname]

/-- There is no repeatable property of this name just if no line has such a name. -/
theorem repeatedNamed_eq_nil_iff :
    (o.component.repeated.entries.filter fun e => sameName e.1 name).flatMap Prod.snd = [] ↔
      ∀ other ∈ o.names, sameName other name = true → other ∉ repeatableNames := by
  rw [List.flatMap_eq_nil_iff]
  constructor
  · intro hnone other hother hsame hrepeatable
    have hnamed := (o.named_ne_nil_iff other).mpr hother
    have hget := o.get?_repeated other
    rw [if_pos ⟨hrepeatable, hnamed⟩] at hget
    have hentry := Dictionary.get?_eq_some_iff.mp hget
    exact hnamed (List.map_eq_nil_iff.mp (hnone _ (List.mem_filter.mpr ⟨hentry, hsame⟩)))
  · intro hnone e he
    obtain ⟨hentry, hsame⟩ := List.mem_filter.mp he
    have hget := Dictionary.get?_eq_some_iff.mpr hentry
    rw [get?_repeated] at hget
    split at hget
    next hnamed => exact absurd hnamed.1 (hnone e.1 ((o.named_ne_nil_iff e.1).mp hnamed.2) hsame)
    next => cases hget

/-- Once a property of this name has been set, it is the only single one of its name just if no line
had the name in other letters. -/
theorem singleNamed_length_iff (value : String) :
    ((o.component.setValue name value).single.entries.filter
        fun e => sameName e.1 name).length = 1 ↔
      ∀ other ∈ o.names, sameName other name = true → other ∉ repeatableNames → other = name := by
  have hcontains : ∀ other, (o.component.setValue name value).single.contains other = true ↔
      name = other ∨ other ∈ o.names ∧ other ∉ repeatableNames := by
    intro other
    rw [← o.value?_isSome_iff, Component.value?, Option.isSome_map, Dictionary.contains,
      Component.setValue, Component.set, Dictionary.get?_set]
    by_cases heq : name = other <;> simp [heq]
  rw [Dictionary.length_filter_entries_eq_one_iff (p := fun other => sameName other name)
    (sameName_refl name) ((hcontains name).mpr (.inl rfl))]
  constructor
  · intro honly other hother hsame hsingle
    exact honly other hsame ((hcontains other).mpr (.inr ⟨hother, hsingle⟩))
  · intro honly other hsame hother
    rcases (hcontains other).mp hother with rfl | ⟨hother, hsingle⟩
    · rfl
    · exact honly other hother hsame hsingle

/-- A property that is set is there, and it is the only one of its name just if the name stands on
all lines in just these letters, and may not be given several times. -/
theorem propertiesNamed_setValue (value : String) :
    let properties := (o.component.setValue name value).propertiesNamed name
    ⟨∅, value⟩ ∈ properties ∧
      (properties.length = 1 ↔ ∀ other ∈ o.names, sameName other name = true →
        other = name ∧ name ∉ repeatableNames) := by
  intro properties
  have hentry : (name, ⟨∅, value⟩) ∈
      (o.component.setValue name value).single.entries.filter fun e => sameName e.1 name := by
    refine List.mem_filter.mpr ⟨Dictionary.get?_eq_some_iff.mp ?_, sameName_refl name⟩
    rw [Component.setValue, Component.set, Dictionary.get?_set, if_pos rfl]
  refine ⟨List.mem_append_left _ (List.mem_map.mpr ⟨_, hentry, rfl⟩), ?_⟩
  have hlength : properties.length = 1 ↔
      ((o.component.setValue name value).single.entries.filter
          fun e => sameName e.1 name).length = 1 ∧
        (o.component.repeated.entries.filter fun e => sameName e.1 name).flatMap Prod.snd = [] := by
    have hpos := List.length_pos_of_mem hentry
    have hrepeated : (o.component.setValue name value).repeated = o.component.repeated := rfl
    rw [← List.length_eq_zero_iff]
    simp only [properties, Component.propertiesNamed, List.length_append, List.length_map,
      hrepeated]
    omega
  rw [hlength, singleNamed_length_iff, repeatedNamed_eq_nil_iff]
  constructor
  · rintro ⟨honly, hnone⟩ other hother hsame
    obtain rfl := honly other hother hsame (hnone other hother hsame)
    exact ⟨rfl, hnone other hother hsame⟩
  · intro hall
    refine ⟨fun other hother hsame _ => (hall other hother hsame).1, fun other hother hsame => ?_⟩
    obtain ⟨rfl, hname⟩ := hall other hother hsame
    exact hname

end Outline

end Almanac.Calendar

namespace Almanac.Filter

open Calendar (Component Outline repeatableNames sameName)
open Config (checkModifier checkRule normalField)

theorem field_of_checkRule {path : String} {rule checked : Config.Rule}
    (hcheck : checkRule path rule = .ok checked) : checked.field = normalField rule.field := by
  rw [Config.checkRule_eq, Config.verdict_eq_ok_iff] at hcheck
  rw [hcheck.2]
  rfl

theorem of_checkModifier {path : String} {m checked : Config.Modifier}
    (hcheck : checkModifier path m = .ok checked) :
    checked.field = normalField m.field ∧ checked.data = m.data := by
  rw [Config.checkModifier_eq, Config.verdict_eq_ok_iff] at hcheck
  rw [hcheck.2]
  exact ⟨rfl, rfl⟩

/-- What rules and modifiers see of the events of a body, told by the lines that the events are read
from. A validated rule that compares a property can be evaluated if a line has the name of this
property in capitals, unless the name is one that may be given several times; else it fails, as if
there were no such property. A validated modifier that replaces a property leaves its data as a
property of this name. It is the only one of this name, in whatever letters, just if all lines of
this name have it in capitals, and the name may not be given several times. -/
theorem fields_are_seen_in_capitals {body : String} {events : List Component}
    (hread : Calendar.events? body = .ok events) :
    ∃ outlines, Calendar.eventOutlines? body = .ok outlines ∧
      events = outlines.map Outline.component ∧
      ∀ o ∈ outlines,
        (∀ path rule checked, checkRule path rule = .ok checked →
          checked.check.isFirstOf = false → ∀ w,
            let field := normalField rule.field
            if field ∈ o.names ∧ field ∉ repeatableNames then
              ∃ hit, evaluate checked o.component w = .ok (hit, w)
            else
              evaluate checked o.component w = .error (.missingField field)) ∧
        (∀ path m checked, checkModifier path m = .ok checked → checked.action = .replace →
          let field := normalField m.field
          let properties := (modify checked o.component).propertiesNamed field
          ⟨∅, m.data⟩ ∈ properties ∧
            (properties.length = 1 ↔ ∀ name ∈ o.names, sameName name field = true →
              name = field ∧ field ∉ repeatableNames)) := by
  rw [Calendar.events?_eq] at hread
  cases houtlines : Calendar.eventOutlines? body with
  | error e =>
      rw [houtlines] at hread
      cases hread
  | ok outlines =>
      rw [houtlines] at hread
      refine ⟨outlines, rfl, (Except.ok.inj hread).symm, fun o _ => ⟨?_, ?_⟩⟩
      · intro path rule checked hcheck hcomparing w field
        have hseen := o.value?_isSome_iff (normalField rule.field)
        rw [evaluate_comparing hcomparing, field_of_checkRule hcheck]
        split
        next hvisible =>
          obtain ⟨text, htext⟩ := Option.isSome_iff_exists.mp (hseen.mpr hvisible)
          rw [htext]
          exact ⟨_, rfl⟩
        next hhidden =>
          rw [Option.not_isSome_iff_eq_none.mp (hhidden ∘ hseen.mp)]
      · intro path m checked hcheck haction field properties
        obtain ⟨hfield, hdata⟩ := of_checkModifier hcheck
        have hset : modify checked o.component =
            o.component.setValue (normalField m.field) m.data := by
          rw [modify, haction, hfield, hdata]
        simp only [properties, field, hset]
        exact o.propertiesNamed_setValue _ _

/-! ## Lines of one event -/

/-- A body with one event, which has an identifier and a line of this name. -/
def lunchBody (name : String) : String :=
  "BEGIN:VCALENDAR\r\nBEGIN:VEVENT\r\nUID:u\r\n" ++ name ++
    ":lunch\r\nEND:VEVENT\r\nEND:VCALENDAR\r\n"

/-- The event of this body. -/
def lunchEvent (name : String) : Component :=
  ((Component.ofKind Calendar.eventKind).setValue "UID" "u").add name ⟨∅, "lunch"⟩

/-- A rule that looks for lunch in a property. -/
def lunchRule (field : String) : Config.Rule := ⟨"lunch", field, .contains, false, ["lunch"]⟩

/-- A modifier that hides what a property holds. -/
def hide (field : String) : Config.Modifier := ⟨"hide", field, .replace, "busy", []⟩

/-- The lines from which the one event of the body is read. -/
structure LunchIsRead (name : String) : Prop where
  events : Calendar.events? (lunchBody name) = .ok [lunchEvent name]
  names : (Calendar.eventOutlines? (lunchBody name)).map (List.map Outline.names) =
    .ok [["UID", name]]

/-- The name in capitals is found, however the configuration has it. -/
theorem capitals_are_found :
    LunchIsRead "SUMMARY" ∧
      checkRule "feed" (lunchRule " summary") = .ok (lunchRule "SUMMARY") ∧
      (∃ hit, evaluate (lunchRule "SUMMARY") (lunchEvent "SUMMARY") ∅ = .ok (hit, ∅)) ∧
      checkModifier "feed" (hide "Summary") = .ok (hide "SUMMARY") ∧
      ((modify (hide "SUMMARY") (lunchEvent "SUMMARY")).propertiesNamed "SUMMARY").length = 1 := by
  have hbody : LunchIsRead "SUMMARY" := by constructor <;> decide +kernel
  have hrule : checkRule "feed" (lunchRule " summary") = .ok (lunchRule "SUMMARY") := by
    decide +kernel
  have hmodifier : checkModifier "feed" (hide "Summary") = .ok (hide "SUMMARY") := by
    decide +kernel
  have hfields : normalField " summary" = "SUMMARY" ∧ normalField "Summary" = "SUMMARY" := by
    decide +kernel
  obtain ⟨outlines, houtlines, hevents, hseen⟩ := fields_are_seen_in_capitals hbody.events
  obtain ⟨o, rfl, ho⟩ := List.map_eq_singleton_iff.mp hevents.symm
  have hnames : o.names = ["UID", "SUMMARY"] := by
    have hlines := hbody.names
    rw [houtlines] at hlines
    exact List.head_eq_of_cons_eq (Except.ok.inj hlines)
  obtain ⟨hrules, hmodifiers⟩ := hseen o (List.mem_singleton_self o)
  have heval := hrules "feed" (lunchRule " summary") _ hrule rfl ∅
  have hleft := (hmodifiers "feed" (hide "Summary") _ hmodifier rfl).2
  simp only [lunchRule, hide, hfields, hnames, ho] at heval hleft
  rw [if_pos (by decide)] at heval
  exact ⟨hbody, hrule, heval, hmodifier, hleft.mpr (by decide +kernel)⟩

/-- A line of this name is missed: rules find no such property, and what the modifier would hide
stays beside its data. -/
structure Missed (line field : String) : Prop where
  read : LunchIsRead line
  same : sameName line field = true
  rule : checkRule "feed" (lunchRule field) = .ok (lunchRule field)
  modifier : checkModifier "feed" (hide field) = .ok (hide field)
  missing : evaluate (lunchRule field) (lunchEvent line) ∅ = .error (.missingField field)
  left : ((modify (hide field) (lunchEvent line)).propertiesNamed field).map
    Calendar.Property.value = ["busy", "lunch"]

/-- A name in small letters and a name that may be given several times are missed. -/
theorem small_letters_and_repeatable_names_are_missed :
    Missed "summary" "SUMMARY" ∧ Missed "CATEGORIES" "CATEGORIES" := by
  have hsmall : LunchIsRead "summary" := by constructor <;> decide +kernel
  have hrepeatable : LunchIsRead "CATEGORIES" := by constructor <;> decide +kernel
  constructor
  · exact ⟨hsmall, by decide +kernel, by decide +kernel, by decide +kernel, by decide +kernel,
      by decide +kernel⟩
  · exact ⟨hrepeatable, by decide +kernel, by decide +kernel, by decide +kernel, by decide +kernel,
      by decide +kernel⟩

end Almanac.Filter
