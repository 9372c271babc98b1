import Almanac.Merge.Fetch
import Almanac.Proofs.Filter.Treated
import Almanac.Proofs.Http.Tag
import Almanac.Proofs.Service.Routing

/-!
# Feeds that have not changed

Two merges of an output from the same bodies differ in nothing but what is handed out while
their calendars are written. If the events in the bodies are identified and the feeds keep
identified what is inside them, nothing is handed out: the calendars and their tags are the
same, and a client that has one of them is not sent the other.
-/

namespace Almanac.Service

open Calendar (Component Issue)
open Calendar.Component (Identified)
open Config (Feed Output)
open Http (Request)
open Merge (Loaded Merged)

/-- The merge of the output succeeds when these bodies are fetched for its feeds. -/
def MergesTo (tools : Tools) (purpose : Purpose) (o : Output) (bodies : List String)
    (m : Merged) : Prop :=
  (mergeRun tools purpose o (bodies.map fun body => Merge.outcomeOf (.ok body))).final =
    .finished (.ok m)

/-- The events that are read from a body, if it can be read. -/
def eventsIn (body : String) : List Component := (Calendar.events? body).toOption.getD []

/-- All events in the bodies have an identifier and a time stamp. -/
def EventsIdentified (bodies : List String) : Prop :=
  ∀ body ∈ bodies, ∀ e ∈ eventsIn body, e.Identified

instance (bodies : List String) : Decidable (EventsIdentified bodies) :=
  inferInstanceAs (Decidable (∀ body ∈ bodies, ∀ e ∈ eventsIn body, e.Identified))

/-- The feeds of an output with the events of their bodies. -/
def loadedFrom (o : Output) (bodies : List String) : List Loaded :=
  List.zipWith Loaded.mk o.feeds (bodies.map eventsIn)

/-- What is inside the events that the feeds keep is identified, and no alarm is put there. -/
def KeepsIdentified (o : Output) (bodies : List String) : Prop :=
  ∀ l ∈ loadedFrom o bodies, Filter.KeepsIdentified l.feed l.events

instance (o : Output) (bodies : List String) : Decidable (KeepsIdentified o bodies) :=
  inferInstanceAs (Decidable (∀ l ∈ loadedFrom o bodies, Filter.KeepsIdentified l.feed l.events))

/-- A calendar is the same as an earlier one: it has the same text and the same tag, and where it is
served, a client that names the tag of the earlier one is told that nothing has changed. -/
structure Unchanged (m m' : Merged) : Prop where
  calendar : m'.calendar = m.calendar
  etag : m'.etag = m.etag
  answer : ∀ (s : Session) (r : Request) (key : String),
    (Dictionary.ofList s.servedCalendars).get? key = some m' → r.method = "GET" →
      r.route s.hasMetrics = .file (some (key.toList ++ ".ics".toList)) →
        r.header? "if-none-match" = some m.etag →
          (s.request r).1.status = 304 ∧ (s.request r).1.body = ""

/-- Of any two merges of the output from these bodies the second changes nothing. -/
def IsStable (o : Output) (bodies : List String) : Prop :=
  ∀ (tools tools' : Tools) (purpose purpose' : Purpose) (m m' : Merged),
    MergesTo tools purpose o bodies m → MergesTo tools' purpose' o bodies m' → Unchanged m m'

/-! ## The events of a merge -/

theorem outcomeOf_toOption (body : String) :
    (Merge.outcomeOf (.ok body)).toOption.getD [] = eventsIn body := by
  simp only [eventsIn, Merge.outcomeOf]
  cases Calendar.events? body <;> rfl

/-- A merge from bodies is made of the events that are read from them. -/
theorem MergesTo.eq_assemble {tools : Tools} {purpose : Purpose} {o : Output}
    {bodies : List String} {m : Merged} (hm : MergesTo tools purpose o bodies m) :
    m = Merge.assemble tools.issue o (loadedFrom o bodies) := by
  obtain ⟨events, later, houtcomes, hlength, hassemble⟩ := mergeRun_finished_ok _ _ _ _ _ hm
  have hread : bodies.map eventsIn = events ++ later.map fun r => r.toOption.getD [] := by
    have hblocks := congrArg (List.map fun r => r.toOption.getD []) houtcomes
    rw [List.map_map, List.map_append, List.map_map] at hblocks
    rw [← List.map_congr_left fun body _ => outcomeOf_toOption body]
    exact hblocks.trans (congrArg (· ++ _) (List.map_id events))
  -- There may be more bodies than feeds; those are left out on both sides.
  have hzip : loadedFrom o bodies = List.zipWith Loaded.mk o.feeds events := by
    calc loadedFrom o bodies
      _ = List.zipWith Loaded.mk (o.feeds ++ []) (events ++ later.map _) := by
          rw [loadedFrom, hread, List.append_nil]
      _ = List.zipWith Loaded.mk o.feeds events := by
          rw [List.zipWith_append hlength.symm, List.zipWith_nil_left, List.append_nil]
  rw [hassemble, hzip]

/-- A merge from bodies that can all be read succeeds. -/
theorem mergesTo_assemble (tools : Tools) (purpose : Purpose) {o : Output} {bodies : List String}
    (hlength : bodies.length = o.feeds.length)
    (hread : ∀ body ∈ bodies, (Calendar.events? body).isOk = true) :
    MergesTo tools purpose o bodies (Merge.assemble tools.issue o (loadedFrom o bodies)) := by
  have houtcomes : (bodies.map fun body => Merge.outcomeOf (.ok body)) =
      (bodies.map eventsIn).map .ok := by
    rw [List.map_map]
    apply List.map_congr_left
    intro body hbody
    have hok := hread body hbody
    simp only [Merge.outcomeOf, Function.comp_apply, eventsIn]
    cases hevents : Calendar.events? body with
    | error e =>
        rw [hevents] at hok
        cases hok
    | ok events => rfl
  unfold MergesTo
  rw [houtcomes]
  exact (mergeRun_of_ok tools purpose o _ (by rw [List.length_map, hlength])).2

theorem identified_of_mem_loadedFrom {o : Output} {bodies : List String}
    (hevents : EventsIdentified bodies) {l : Loaded} (hl : l ∈ loadedFrom o bodies) :
    ∀ e ∈ l.events, e.Identified := by
  obtain ⟨i, hi, rfl⟩ := List.getElem_of_mem hl
  simp only [loadedFrom, List.getElem_zipWith, List.getElem_map]
  exact hevents _ (List.getElem_mem _)

/-- The feeds keep identified what is inside the events of the bodies just if all components of the
calendar are identified. -/
theorem keepsIdentified_iff {o : Output} {bodies : List String}
    (hevents : EventsIdentified bodies) :
    KeepsIdentified o bodies ↔
      ∀ e ∈ (loadedFrom o bodies).flatMap Loaded.kept, e.Everywhere Identified := by
  rw [List.forall_mem_flatMap]
  exact forall₂_congr fun l hl =>
    (Filter.everywhere_pass_iff l.feed (identified_of_mem_loadedFrom hevents hl)).symm

/-! ## Two merges -/

theorem assemble_of_identified (issue issue' : Issue) (o : Output) (loaded : List Loaded)
    (hloaded : ∀ e ∈ loaded.flatMap Loaded.kept, e.Everywhere Identified) :
    Merge.assemble issue o loaded = Merge.assemble issue' o loaded := by
  simp only [Merge.assemble, Calendar.write_of_identified issue issue' _ _ _ hloaded]

/-- A client that names the tag of the calendar that is served gets no calendar. -/
theorem request_of_tag {s : Session} {r : Request} (hmethod : r.method = "GET") {key : String}
    (hroute : r.route s.hasMetrics = .file (some (key.toList ++ ".ics".toList))) {m : Merged}
    (hget : (Dictionary.ofList s.servedCalendars).get? key = some m)
    (hetag : m.etag = Merge.etagOf m.calendar) (hknown : r.header? "if-none-match" = some m.etag) :
    (s.request r).1.status = 304 ∧ (s.request r).1.body = "" := by
  obtain ⟨hstatus, hbody, _⟩ := request_of_get? hmethod hroute hget
  rw [hstatus, hbody, Http.calendarResponse_of_tag _ hetag hknown]
  exact ⟨rfl, rfl⟩

theorem isStable_of_keepsIdentified {o : Output} {bodies : List String}
    (hevents : EventsIdentified bodies) (hkeeps : KeepsIdentified o bodies) :
    IsStable o bodies := by
  intro tools tools' purpose purpose' m m' hm hm'
  have hloaded := (keepsIdentified_iff hevents).mp hkeeps
  have hsame : m' = m := by
    rw [hm.eq_assemble, hm'.eq_assemble]
    exact assemble_of_identified _ _ o _ hloaded
  have hetag : m.etag = Merge.etagOf m.calendar := by
    rw [hm.eq_assemble]
    rfl
  subst hsame
  refine ⟨rfl, rfl, ?_⟩
  intro s r key hget hmethod hroute hknown
  exact request_of_tag hmethod hroute hget hetag hknown

/-- If other values are handed out, only merges that need none have the same text. -/
theorem keepsIdentified_of_calendar_eq {o : Output} {bodies : List String}
    (hevents : EventsIdentified bodies) {tools tools' : Tools} {purpose purpose' : Purpose}
    {m m' : Merged} (hm : MergesTo tools purpose o bodies m)
    (hm' : MergesTo tools' purpose' o bodies m') (hapart : tools.issue.Apart tools'.issue)
    (hcalendar : m'.calendar = m.calendar) : KeepsIdentified o bodies := by
  rw [hm.eq_assemble, hm'.eq_assemble] at hcalendar
  exact (keepsIdentified_iff hevents).mpr ((Calendar.write_eq_iff hapart _ _ _).mp hcalendar.symm)

/-- Feeds that have not changed leave the tag of their calendar as it was. The events in the bodies
have identifiers and time stamps. If the events that are kept have identified components inside them
only and are given no alarms, any two merges from the bodies give the same calendar and the same tag,
and a client that comes back with the tag is told that nothing has changed. Otherwise the calendars
differ as soon as what is handed out differs. -/
theorem unchanged_bodies_keep_tag (o : Output) (bodies : List String)
    (hevents : EventsIdentified bodies) :
    (KeepsIdentified o bodies → IsStable o bodies) ∧
      ∀ (tools tools' : Tools) (purpose purpose' : Purpose) (m m' : Merged),
        MergesTo tools purpose o bodies m → MergesTo tools' purpose' o bodies m' →
          tools.issue.Apart tools'.issue → ¬KeepsIdentified o bodies →
            m'.calendar ≠ m.calendar := by
  refine ⟨isStable_of_keepsIdentified hevents, ?_⟩
  intro tools tools' purpose purpose' m m' hm hm' hapart hnot hcalendar
  exact hnot (keepsIdentified_of_calendar_eq hevents hm hm' hapart hcalendar)

theorem identified_alarm_is_stable :
    let feed : Feed := ⟨"rota", "https://rota", [⟨"first", "", .firstOfDay, false, []⟩],
      [⟨"mark", "SUMMARY", .append, "!", []⟩]⟩
    let o : Output := ⟨"Team", "team.ics", 15, [feed]⟩
    let body := "BEGIN:VCALENDAR\r\nBEGIN:VEVENT\r\nUID:a\r\nDTSTAMP:20240101T000000Z\r\n" ++
      ("DTSTART:20240102\r\nBEGIN:VALARM\r\nUID:b\r\nDTSTAMP:20240101T000000Z\r\n" ++
        "END:VALARM\r\nEND:VEVENT\r\nEND:VCALENDAR\r\n")
    EventsIdentified [body] ∧ KeepsIdentified o [body] ∧ IsStable o [body] ∧
      (eventsIn body).length = 1 ∧ ∀ tools purpose, ∃ m, MergesTo tools purpose o [body] m := by
  intro feed o body
  have hcheck : EventsIdentified [body] ∧ KeepsIdentified o [body] ∧ (eventsIn body).length = 1 ∧
      ∀ b ∈ [body], (Calendar.events? b).isOk = true := by decide +kernel
  obtain ⟨hevents, hkeeps, hlength, hread⟩ := hcheck
  refine ⟨hevents, hkeeps, (unchanged_bodies_keep_tag o [body] hevents).1 hkeeps, hlength, ?_⟩
  intro tools purpose
  have hfeeds : [body].length = o.feeds.length := rfl
  exact ⟨_, mergesTo_assemble tools purpose hfeeds hread⟩

/-- A merge that needs something handed out is not stable. -/
theorem not_isStable {o : Output} {bodies : List String} (hlength : bodies.length = o.feeds.length)
    (hread : ∀ body ∈ bodies, (Calendar.events? body).isOk = true)
    (hevents : EventsIdentified bodies) (hnot : ¬KeepsIdentified o bodies) {tools tools' : Tools}
    (hapart : tools.issue.Apart tools'.issue) : ¬IsStable o bodies := by
  intro hstable
  have hm := mergesTo_assemble tools .bootstrap hlength hread
  have hm' := mergesTo_assemble tools' .refresh hlength hread
  have hcalendar := (hstable tools tools' .bootstrap .refresh _ _ hm hm').calendar
  exact hnot (keepsIdentified_of_calendar_eq hevents hm hm' hapart hcalendar)

/-- An alarm of the feed or of a modifier has neither identifier nor time stamp. -/
theorem alarms_are_not_stable :
    let feed : Feed := ⟨"rota", "https://rota", [], []⟩
    let alarmed : Feed := { feed with modifiers := [⟨"soon", "", .addAlarm, "-PT15M", []⟩] }
    let body (inside : String) := "BEGIN:VCALENDAR\r\nBEGIN:VEVENT\r\nUID:a\r\n" ++
      ("DTSTAMP:20240101T000000Z\r\n" ++ inside ++ "END:VEVENT\r\nEND:VCALENDAR\r\n")
    let bare := body ""
    let nested := body "BEGIN:VALARM\r\nEND:VALARM\r\n"
    EventsIdentified [bare] ∧ ¬IsStable ⟨"Team", "team.ics", 15, [alarmed]⟩ [bare] ∧
      EventsIdentified [nested] ∧ ¬IsStable ⟨"Team", "team.ics", 15, [feed]⟩ [nested] := by
  intro feed alarmed body bare nested
  let first : Tools := ⟨⟨"20240501T120000Z", fun _ => "first"⟩, "1ms"⟩
  let later : Tools := ⟨⟨"20240501T121500Z", fun _ => "later"⟩, "1ms"⟩
  have hidentifier : (Calendar.writePlain "UID" "first").length =
      (Calendar.writePlain "UID" "later").length ∧
        Calendar.writePlain "UID" "first" ≠ Calendar.writePlain "UID" "later" := by decide +kernel
  have hapart : first.issue.Apart later.issue :=
    ⟨by decide +kernel, by decide +kernel, fun _ => hidentifier.1, fun _ => hidentifier.2⟩
  have hbare : EventsIdentified [bare] := by decide +kernel
  have hnested : EventsIdentified [nested] := by decide +kernel
  refine ⟨hbare, ?_, hnested, ?_⟩
  · exact not_isStable rfl (by decide +kernel) hbare (by decide +kernel) hapart
  · exact not_isStable rfl (by decide +kernel) hnested (by decide +kernel) hapart

end Almanac.Service
