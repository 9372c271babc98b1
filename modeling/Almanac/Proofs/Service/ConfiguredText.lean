import Almanac.Config.Validation
import Almanac.Proofs.Filter.Rewritten
import Almanac.Proofs.Service.Unchanged

/-!
# Text from the configuration

The name of an output, the names of its feeds, and the names and data of modifiers are
written into the calendar. Escaped text can be anything. What is not escaped must stay
in its line: the name of the output, the triggers of alarms, and the values that
properties of other types have after the modifiers. Then the calendar of a merge is read
with the events that were kept and with their alarms.
-/

namespace Almanac.Merge

open Config (Modifier)

/-- The numbers of alarms of the events of a feed that are kept: those that the event had, and one
for each modifier that put one into it. -/
def Loaded.alarmCounts (l : Loaded) : List Nat :=
  (Filter.treated l.feed l.events ∅).map fun t =>
    t.1.alarmCount + (l.feed.modifiers.take t.2.applied).countP fun m => m.action = .addAlarm

/-- What the modifiers of the feed have written into the events that are kept stays in its line. -/
def Loaded.WritesInLines (l : Loaded) : Prop :=
  ∀ t ∈ Filter.treated l.feed l.events ∅, ∀ m ∈ l.feed.modifiers.take t.2.applied,
    Filter.WritesInLine t.2.event m

instance (l : Loaded) : Decidable l.WritesInLines :=
  inferInstanceAs (Decidable (∀ t ∈ Filter.treated l.feed l.events ∅,
    ∀ m ∈ l.feed.modifiers.take t.2.applied, Filter.WritesInLine t.2.event m))

end Almanac.Merge

namespace Almanac.Service

open Calendar (Component IsOneLine SameFrame)
open Calendar.Component (IsRead LinesReadBack StaysInLines Writable)
open Config (Feed Modifier Output)
open Merge (Loaded Merged)

theorem of_mem_eventsIn {body : String} {e : Component} (he : e ∈ eventsIn body) :
    e.Everywhere IsRead ∧ e.kind = Calendar.eventKind := by
  unfold eventsIn at he
  cases hevents : Calendar.events? body with
  | error reason =>
      rw [hevents] at he
      cases he
  | ok events =>
      rw [hevents] at he
      exact Calendar.everywhere_of_events? hevents e he

theorem mem_eventsIn_of_loadedFrom {o : Output} {bodies : List String} {l : Loaded}
    (hl : l ∈ loadedFrom o bodies) {e : Component} (he : e ∈ l.events) :
    ∃ body ∈ bodies, e ∈ eventsIn body := by
  obtain ⟨i, hi, rfl⟩ := List.getElem_of_mem hl
  simp only [loadedFrom, List.getElem_zipWith, List.getElem_map] at he
  exact ⟨_, List.getElem_mem _, he⟩

/-- The events that a feed keeps are events whose lines stay in their lines. -/
theorem staysInLines_kept {l : Loaded} (hevents : ∀ e ∈ l.events,
      e.Everywhere StaysInLines ∧ e.kind = Calendar.eventKind) (hwrites : l.WritesInLines) :
    ∀ e ∈ l.kept, e.Everywhere StaysInLines ∧ e.kind = Calendar.eventKind := by
  unfold Loaded.kept Filter.pass
  rw [Filter.passFrom_eq_treated, List.forall_mem_map]
  intro t ht
  obtain ⟨hstays, hkind⟩ := hevents t.1 (Filter.of_mem_treated ht).1
  have hevent := Filter.event_of_mem_treated ht
  rw [hevent]
  refine ⟨Filter.staysInLines_modified hstays fun m hm => ?_,
    (Filter.modified_frame _ _).1.trans hkind⟩
  rw [← hevent]
  exact hwrites t ht m hm

theorem alarmCounts_kept (l : Loaded) : l.kept.map (·.alarmCount) = l.alarmCounts := by
  unfold Loaded.kept Filter.pass Loaded.alarmCounts
  rw [Filter.passFrom_eq_treated, List.map_map]
  refine List.map_congr_left fun t ht => ?_
  rw [Function.comp_apply, Filter.event_of_mem_treated ht]
  exact Filter.alarmCount_modified _ _

/-- Whatever texts the configuration has, the calendar of a merge is read, with as many events as
were kept, and each event has its alarms and those that were put into it. The lines of the events
in the bodies are read back, whatever follows them; the name of the output has no line end; and
what modifiers write stays in its line, which for escaped text is always so. -/
theorem configured_text_keeps_events (tools : Tools) (purpose : Purpose) (o : Output)
    (bodies : List String) {m : Merged} (hm : MergesTo tools purpose o bodies m)
    (hstamp : IsOneLine tools.issue.stamp.toList)
    (hlines : ∀ body ∈ bodies, ∀ e ∈ eventsIn body, e.Everywhere LinesReadBack)
    (hname : IsOneLine o.name.toList)
    (hwrites : ∀ l ∈ loadedFrom o bodies, l.WritesInLines) :
    ∃ read, Calendar.events? m.calendar = .ok read ∧ read.length = m.eventCount ∧
      read.map (·.alarmCount) = (loadedFrom o bodies).flatMap Loaded.alarmCounts := by
  have hkept : ∀ e ∈ (loadedFrom o bodies).flatMap Loaded.kept,
      e.Everywhere StaysInLines ∧ e.kind = Calendar.eventKind := by
    rw [List.forall_mem_flatMap]
    intro l hl
    refine staysInLines_kept (fun e he => ?_) (hwrites l hl)
    obtain ⟨body, hbody, hmem⟩ := mem_eventsIn_of_loadedFrom hl he
    obtain ⟨hread, hkind⟩ := of_mem_eventsIn hmem
    exact ⟨hread.imp₂ Component.staysInLines_of_linesReadBack (hlines body hbody e hmem), hkind⟩
  obtain ⟨read, hread, hsame⟩ := Calendar.events?_write_sameFrame tools.issue hstamp o.name
    (Merge.describe (loadedFrom o bodies)) hname _ hkept
  rw [hm.eq_assemble]
  refine ⟨read, hread, hsame.length_eq.symm, ?_⟩
  rw [Calendar.map_eq_of_sameFrame (fun _ _ => SameFrame.alarmCount_eq) hsame, List.map_flatMap]
  exact List.flatMap_congr fun l _ => alarmCounts_kept l

theorem line_ends_in_text_are_harmless :
    let note : Modifier := ⟨"note", "SUMMARY", .append, "\r\nEND:VEVENT: soon", []⟩
    let soon : Modifier := ⟨"soon\r\nEND:VALARM", "", .addAlarm, "-PT15M", []⟩
    let feed : Feed := ⟨"rota\r\nEND:VCALENDAR", "https://rota", [], [note, soon]⟩
    let o : Output := ⟨"Team\n: all", "team.ics", 15, [feed]⟩
    let body := "BEGIN:VCALENDAR\r\nBEGIN:VEVENT\r\nSUMMARY:one\r\nBEGIN:VALARM\r\n" ++
      "END:VALARM\r\nEND:VEVENT\r\nEND:VCALENDAR\r\n"
    let tools : Tools := ⟨⟨"20240101T000000Z", toString⟩, "1ms"⟩
    ∃ m, MergesTo tools .bootstrap o [body] m ∧ m.eventCount = 1 ∧
      ∃ read, Calendar.events? m.calendar = .ok read ∧ read.map (·.alarmCount) = [2] := by
  intro note soon feed o body tools
  have hcheck : (∀ b ∈ [body], (Calendar.events? b).isOk = true) ∧
      (∀ e ∈ eventsIn body, e.Everywhere Writable) ∧
      (∀ l ∈ loadedFrom o [body], l.WritesInLines) ∧
      (loadedFrom o [body]).flatMap Loaded.alarmCounts = [2] := by decide +kernel
  obtain ⟨hread, hwritable, hwrites, hcounts⟩ := hcheck
  have hfeeds : [body].length = o.feeds.length := rfl
  have hm := mergesTo_assemble tools .bootstrap hfeeds hread
  have hlines : ∀ b ∈ [body], ∀ e ∈ eventsIn b, e.Everywhere LinesReadBack := by
    intro b hb e he
    obtain rfl := List.mem_singleton.mp hb
    exact (of_mem_eventsIn he).1.imp₂ Component.linesReadBack_of_writable (hwritable e he)
  obtain ⟨read, hevents, hlength, hcountsRead⟩ := configured_text_keeps_events tools .bootstrap o
    [body] hm (by decide) hlines (by decide) hwrites
  rw [hcounts] at hcountsRead
  have hone : read.length = 1 := by
    rw [← List.length_map (f := Component.alarmCount), hcountsRead]
    rfl
  exact ⟨_, hm, hlength ▸ hone, read, hevents, hcountsRead⟩

/-! ## Text that is not escaped -/

/-- The configuration with this one output. -/
def configOf (o : Output) : Config := ⟨⟨.none, none⟩, none, 10, [o]⟩

/-- The output is valid, the events in the body are read back when they are written as they are, and
the merge succeeds, but its calendar is not read with the events that were kept and their alarms. -/
def IsBroken (o : Output) (body : String) : Prop :=
  ∃ (tools : Tools) (m : Merged), (configOf o).validate = .ok (configOf o) ∧
    Calendar.events? (Calendar.write tools.issue "n" "d" (eventsIn body)) =
      .ok (eventsIn body) ∧ MergesTo tools .bootstrap o [body] m ∧
    ¬∃ read, Calendar.events? m.calendar = .ok read ∧ read.length = m.eventCount ∧
      read.map (·.alarmCount) = (loadedFrom o [body]).flatMap Loaded.alarmCounts

/-- These events are read from the body, and again from a calendar that is written from them. -/
def PassesThrough (issue : Calendar.Issue) (body : String) (events : List Component) : Prop :=
  (Calendar.events? body).isOk = true ∧ eventsIn body = events ∧
    (Calendar.component? (Calendar.unfold (Calendar.writtenCalendar issue "n" "d" events))).map
      (·.events) = some events

instance (issue : Calendar.Issue) (body : String) (events : List Component) :
    Decidable (PassesThrough issue body events) :=
  inferInstanceAs (Decidable (_ ∧ _ ∧ _))

/-- The calendar is not read at all, or with other numbers of alarms. -/
theorem isBroken_of_alarmCounts {name : String} {feed : Feed} {body : String}
    {events : List Component} {issue : Calendar.Issue}
    (hvalid : (configOf ⟨name, "team.ics", 15, [feed]⟩).validate =
      .ok (configOf ⟨name, "team.ics", 15, [feed]⟩))
    (hbody : PassesThrough issue body events)
    (hcounts : (Calendar.component? (Calendar.unfold (Calendar.writtenCalendar issue name
      feed.name (Filter.pass feed events)))).all (fun c =>
        c.events.map (·.alarmCount) != Loaded.alarmCounts ⟨feed, events⟩) = true) :
    IsBroken ⟨name, "team.ics", 15, [feed]⟩ body := by
  obtain ⟨hread, hevents, hback⟩ := hbody
  have hloaded : loadedFrom ⟨name, "team.ics", 15, [feed]⟩ [body] = [⟨feed, events⟩] := by
    rw [← hevents]
    rfl
  have hdescribe : Merge.describe [⟨feed, events⟩] = feed.name := rfl
  refine ⟨⟨issue, "1ms"⟩, _, hvalid, ?_, mergesTo_assemble _ .bootstrap rfl
    (List.forall_mem_singleton.mpr hread), ?_⟩
  · obtain ⟨c, hc, hsame⟩ := Option.map_eq_some_iff.mp hback
    rw [Calendar.events?_write_eq, hevents, hc, ← hsame]
    rfl
  · rintro ⟨read, hwritten, _, hsame⟩
    rw [hloaded, Merge.assemble, Calendar.events?_write_eq, hdescribe] at hwritten
    rw [hloaded] at hsame
    simp only [List.flatMap_singleton] at hwritten hsame
    cases hc : Calendar.component? (Calendar.unfold (Calendar.writtenCalendar issue name
        feed.name (Filter.pass feed events))) with
    | none =>
        rw [Loaded.kept, hc] at hwritten
        cases hwritten
    | some c =>
        rw [Loaded.kept, hc] at hwritten
        rw [hc] at hcounts
        obtain rfl : c.events = read := Except.ok.inj hwritten
        simp [hsame] at hcounts

/-- Text that is not escaped can break the calendar: a line end in the name of the output, in the
trigger of an alarm or in a value that is no text; a property name that begins components or
is no name; and a mark that closes one which the feed has left open. -/
theorem raw_text_breaks_calendars :
    let body := Calendar.bodyOf "UID:u\r\nDTSTAMP:20240101T000000Z"
    let marked := Calendar.bodyOf "UID:u\r\nDTSTAMP:20240101T000000Z\r\nLOCATION;P=\"a:v"
    let plain : Feed := ⟨"rota", "https://rota", [], []⟩
    let team (m : Modifier) : Output := ⟨"Team", "team.ics", 15, [{ plain with modifiers := [m] }]⟩
    IsBroken ⟨"Team\r\nEND:VCALENDAR", "team.ics", 15, [plain]⟩ body ∧
      IsBroken (team ⟨"soon", "", .addAlarm, "-PT5M\r\nEND:VALARM\r\nBEGIN:VALARM", []⟩) body ∧
      IsBroken (team ⟨"link", "URL", .replace, "x\r\nEND:VEVENT\r\nBEGIN:VEVENT", []⟩) body ∧
      IsBroken (team ⟨"part", "BEGIN", .replace, "VALARM", []⟩) body ∧
      IsBroken (team ⟨"rate", "SUMMARY%", .replace, "x", []⟩) body ∧
      IsBroken (team ⟨"note", "SUMMARY", .replace, "\"", []⟩) marked := by
  intro body marked plain team
  let issue : Calendar.Issue := ⟨"20240101T000000Z", toString⟩
  let event := ((Component.ofKind Calendar.eventKind).setValue "UID" "u").setValue "DTSTAMP"
    "20240101T000000Z"
  let place : Calendar.Property := ⟨(∅ : Dictionary String).set "P" "\"a", "v"⟩
  have hbody : PassesThrough issue body [event] := by decide +kernel
  have hmarked : PassesThrough issue marked [event.set "LOCATION" place] := by decide +kernel
  refine ⟨?_, ?_, ?_, ?_, ?_, ?_⟩
  · exact isBroken_of_alarmCounts (by decide +kernel) hbody (by decide +kernel)
  · exact isBroken_of_alarmCounts (by decide +kernel) hbody (by decide +kernel)
  · exact isBroken_of_alarmCounts (by decide +kernel) hbody (by decide +kernel)
  · exact isBroken_of_alarmCounts (by decide +kernel) hbody (by decide +kernel)
  · exact isBroken_of_alarmCounts (by decide +kernel) hbody (by decide +kernel)
  · exact isBroken_of_alarmCounts (by decide +kernel) hmarked (by decide +kernel)

end Almanac.Service
