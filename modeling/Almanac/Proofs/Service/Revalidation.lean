import Almanac.Proofs.Calendar.RoundTrip
import Almanac.Proofs.Http.TagList
import Almanac.Proofs.Service.Overlap
import Almanac.Proofs.Service.Routing

/-!
# Revalidation

A client that has read a calendar comes back with its tag, alone or among others, after any
number of starts and refreshes. What it is told depends on the calendar that is in the cache
by then, and on nothing in between.
-/

namespace Almanac.Service

open Config (Output)
open Http (NamedTag Request fieldOf)
open Merge (Merged)

/-- The request asks for the calendar of a key. -/
structure AsksFor (hasMetrics : Bool) (key : String) (r : Request) : Prop where
  method_eq : r.method = "GET"
  route_eq : r.route hasMetrics = .file (some (key.toList ++ ".ics".toList))

/-- The calendar that is served under a key. -/
def Session.calendarOf? (s : Session) (key : String) : Option Merged :=
  (Dictionary.ofList s.servedCalendars).get? key

namespace Traffic.Sound

variable {tools : Nat → Tools} {hasMetrics : Bool} {t : Traffic} {key : String} {m : Merged}

/-- What is served under a key was last put into the cache of an output of this key. -/
theorem put_of_calendarOf (ht : t.Sound tools hasMetrics)
    (hm : t.session.calendarOf? key = some m) :
    (∃ i o e, outputOf? i t.log = some o ∧ o.key = key ∧ lastPut? i t.log = some e ∧
        e.merged = m) ∧
      m.etag = Merge.etagOf m.calendar := by
  obtain ⟨i, o, e, ho, hkey, he, rfl⟩ :=
    ht.reflects.mem_servedCalendars.mp (Dictionary.mem_of_get?_ofList hm)
  obtain ⟨_, _, hmerge⟩ := ht.isMergeOf_of_lastPut (List.append_nil t.log).symm he
  exact ⟨⟨i, o, e, ho, hkey, he, rfl⟩, hmerge.2⟩

/-- A key that is served stays served. -/
theorem exists_calendarOf_play (ht : t.Sound tools hasMetrics)
    (hm : t.session.calendarOf? key = some m) (moves : List Move) :
    ∃ m', (t.play moves).session.calendarOf? key = some m' := by
  obtain ⟨⟨i, o, _, ho, rfl, _⟩, _⟩ := ht.put_of_calendarOf hm
  have hlater := ht.play moves
  have ho' := outputOf?_play moves ho
  obtain ⟨e', he'⟩ := hlater.reflects.put_of_output ho'
  have hmem := hlater.reflects.mem_servedCalendars.mpr ⟨i, o, e', ho', rfl, he', rfl⟩
  cases hget : (t.play moves).session.calendarOf? o.key with
  | some m' => exact ⟨m', rfl⟩
  | none => exact absurd rfl (Dictionary.get?_ofList_eq_none hget _ hmem)

/-- A calendar that a client got is the one that was served under the key. -/
theorem calendarOf_of_status (ht : t.Sound tools hasMetrics) {r : Request}
    (hr : AsksFor hasMetrics key r) (hstatus : (t.session.request r).1.status = 200) :
    ∃ m, t.session.calendarOf? key = some m ∧ (t.session.request r).1.body = m.calendar ∧
      ∀ value, ("etag", value) ∈ (t.session.request r).1.headers ↔ value = m.etag := by
  have hroute := hr.route_eq
  rw [← ht.reflects.hasMetrics_eq] at hroute
  cases hm : t.session.calendarOf? key with
  | none =>
      have hmissing : (t.session.request r).1.status = 404 := by
        refine (request_of_missing hr.method_eq hroute fun other m hfile hmem => ?_).1
        obtain rfl : key = other := String.toList_inj.mp (List.append_cancel_right hfile)
        exact Dictionary.get?_ofList_eq_none hm _ hmem rfl
      rw [hmissing] at hstatus
      cases hstatus
  | some m =>
      obtain ⟨hanswer, hetag⟩ := answeredFrom_of_get? hr.method_eq hroute hm
      rcases hanswer with ⟨_, hbody⟩ | ⟨hnot, _⟩
      · exact ⟨m, rfl, hbody, hetag⟩
      · rw [hnot] at hstatus
        cases hstatus

/-- A client that names tags is answered by whether the current one is among them. -/
theorem answer_to_tags (ht : t.Sound tools hasMetrics) (hm : t.session.calendarOf? key = some m)
    {r : Request} (hr : AsksFor hasMetrics key r) {named : List NamedTag} (hne : named ≠ [])
    (hfield : r.header? "if-none-match" = some (fieldOf named)) :
    let answer := (t.session.request r).1
    (answer.status = 304 ∧ answer.body = "" ↔ m.etag ∈ named.map NamedTag.tag) ∧
      (m.etag ∉ named.map NamedTag.tag → answer.status = 200 ∧ answer.body = m.calendar) := by
  have hroute := hr.route_eq
  rw [← ht.reflects.hasMetrics_eq] at hroute
  obtain ⟨hstatus, hbody, _⟩ := request_of_get? hr.method_eq hroute hm
  have hcurrent := Http.isNotModified_of_field hne hfield m
  intro answer
  simp only [answer, hstatus, hbody, Http.calendarResponse]
  by_cases hmem : m.etag ∈ named.map NamedTag.tag
  · rw [if_pos (hcurrent.mpr hmem)]
    exact ⟨⟨fun _ => hmem, fun _ => ⟨rfl, rfl⟩⟩, fun hnot => absurd hmem hnot⟩
  · rw [if_neg (fun h => hmem (hcurrent.mp h))]
    exact ⟨⟨fun h => absurd h.1 (by simp), fun h => absurd h hmem⟩, fun _ => ⟨rfl, rfl⟩⟩

end Traffic.Sound

/-- Revalidation is exact over whole runs. A client got a calendar with a tag; then outputs were
started and refreshed in whatever order, with whatever outcomes. Whoever asks for the calendar now
is answered from the one that was last put into a cache of the key, with its tag, the only one. A
client that names tags, the old one among them, gets nothing just if the current tag is among those
that it names, and else the current calendar; if it names no tag but the old one, it gets nothing
just if the current tag is the old one. The tag is still the old one just if the text is, unless two
different texts have the same first half of their digests. -/
theorem revalidation_is_exact (tools : Nat → Tools) (sinks : List Sink) (hasMetrics : Bool)
    (moves later : List Move) {key : String} {r : Request} (hr : AsksFor hasMetrics key r)
    {etag : String} :
    let t := (Traffic.quiet tools sinks hasMetrics).play moves
    let first := (t.session.request r).1
    let now := t.play later
    first.status = 200 → ("etag", etag) ∈ first.headers →
      ∃ m, now.session.calendarOf? key = some m ∧
        (∃ i o e, outputOf? i now.log = some o ∧ o.key = key ∧ lastPut? i now.log = some e ∧
          e.merged = m) ∧
        ((Merge.fingerprint m.calendar = Merge.fingerprint first.body →
            m.calendar = first.body) →
          (m.etag = etag ↔ m.calendar = first.body)) ∧
        ∀ q : Request, AsksFor hasMetrics key q →
          let answer := (now.session.request q).1
          AnsweredFrom m answer ∧
            ∀ named : List NamedTag, q.header? "if-none-match" = some (fieldOf named) →
              etag ∈ named.map NamedTag.tag →
                (answer.status = 304 ∧ answer.body = "" ↔ m.etag ∈ named.map NamedTag.tag) ∧
                (m.etag ∉ named.map NamedTag.tag →
                  answer.status = 200 ∧ answer.body = m.calendar) ∧
                ((∀ n ∈ named, n.tag = etag) →
                  (answer.status = 304 ∧ answer.body = "" ↔ m.etag = etag)) := by
  intro t first now hstatus htag
  have ht : t.Sound tools hasMetrics := (Traffic.Sound.quiet tools sinks hasMetrics).play moves
  have hnow : now.Sound tools hasMetrics := ht.play later
  obtain ⟨old, hold, hbody, hetag⟩ := ht.calendarOf_of_status hr hstatus
  obtain rfl := (hetag etag).mp htag
  obtain ⟨m, hm⟩ := ht.exists_calendarOf_play hold later
  obtain ⟨hput, hm'⟩ := hnow.put_of_calendarOf hm
  refine ⟨m, hm, hput, ?_, ?_⟩
  · intro hcollide
    rw [hm', (ht.put_of_calendarOf hold).2, Merge.etagOf_eq_iff, ← hbody]
    exact ⟨hcollide, fun heq => congrArg Merge.fingerprint heq⟩
  · intro q hq answer
    have hroute := hq.route_eq
    rw [← hnow.reflects.hasMetrics_eq] at hroute
    refine ⟨answeredFrom_of_get? hq.method_eq hroute hm, fun named hfield hnamed => ?_⟩
    have hne : named ≠ [] := by
      rintro rfl
      cases hnamed
    obtain ⟨hiff, hother⟩ := hnow.answer_to_tags hm hq hne hfield
    refine ⟨hiff, hother, fun honly => hiff.trans ?_⟩
    constructor
    · intro hmem
      obtain ⟨n, hn, heq⟩ := List.mem_map.mp hmem
      rw [← heq, honly n hn]
    · intro heq
      rw [heq]
      exact hnamed

/-! ## Two calendars of one output -/

/-- A request for the calendar of the output. -/
def teamRequest (headers : List (String × String)) : Request := ⟨"GET", "/team.ics", headers⟩

theorem asksFor_teamRequest (headers : List (String × String)) :
    AsksFor false team.key (teamRequest headers) := by
  refine ⟨rfl, ?_⟩
  have hpath : (teamRequest headers).path? = some "/team.ics".toList := by
    have htarget : (teamRequest []).path? = some "/team.ics".toList := by decide +kernel
    simpa only [Request.path?, teamRequest] using htarget
  rw [Request.route, hpath]
  decide +kernel

theorem header?_teamRequest (field : String) :
    (teamRequest [("if-none-match", field)]).header? "if-none-match" = some field := by
  have hname : "if-none-match".toList.map Char.toLower = "if-none-match".toList := by decide
  have hfind : (teamRequest [("if-none-match", field)]).headers.find?
      (fun h => h.1.toList.map Char.toLower == "if-none-match".toList) =
        some ("if-none-match", field) := List.find?_cons_of_pos (beq_iff_eq.mpr hname)
  rw [Request.header?, hfind, Option.map_some]

/-- The output has been started with an empty calendar. -/
def teamStarted : Traffic :=
  (Traffic.quiet (fun _ => teamTools) [] false).play [.start team, .arrive 0 (.ok [])]

/-- A refresh has brought an event since. -/
def teamRefreshed : Traffic := teamStarted.play [.refresh 0, .arrive 1 (.ok [teamEvent])]

theorem calendarOf_of_served {s : Session} {key : String} {m : Merged}
    (hserved : s.servedCalendars = [(key, m)]) : s.calendarOf? key = some m := by
  simp [Session.calendarOf?, hserved, Dictionary.ofList, Dictionary.get?_set]

theorem calendarOf_teamStarted :
    teamStarted.session.calendarOf? team.key = some (teamCalendar []) :=
  calendarOf_of_served rfl

theorem calendarOf_teamRefreshed :
    teamRefreshed.session.calendarOf? team.key = some (teamCalendar [teamEvent]) :=
  calendarOf_of_served rfl

/-- A client that names no tag gets the calendar. -/
theorem request_teamStarted :
    (teamStarted.session.request (teamRequest [])).1.status = 200 ∧
      ("etag", (teamCalendar []).etag) ∈
        (teamStarted.session.request (teamRequest [])).1.headers := by
  have hasks := asksFor_teamRequest []
  obtain ⟨hstatus, _, hetag⟩ :=
    request_of_get? (s := teamStarted.session) hasks.method_eq hasks.route_eq
      calendarOf_teamStarted
  have hnone : (teamRequest []).header? "if-none-match" = none := rfl
  rw [Http.calendarResponse, Http.isNotModified, hnone] at hstatus
  exact ⟨hstatus, (hetag _).mpr rfl⟩

theorem etag_teamCalendar_ne : (teamCalendar [teamEvent]).etag ≠ (teamCalendar []).etag := by
  intro heq
  have hprint := (Merge.etagOf_eq_iff _ _).mp heq
  simp only [Merge.fingerprint, Calendar.toList_write] at hprint
  revert hprint
  decide +kernel

theorem weak_old_tag_gets_current_calendar :
    let q := teamRequest [("if-none-match", fieldOf [.of true (teamCalendar []).calendar])]
    AsksFor false team.key (teamRequest []) ∧ AsksFor false team.key q ∧
      (teamStarted.session.request (teamRequest [])).1.status = 200 ∧
      (teamRefreshed.session.request q).1.status = 200 ∧
      (teamRefreshed.session.request q).1.body = (teamCalendar [teamEvent]).calendar ∧
      (teamCalendar [teamEvent]).calendar ≠
        (teamStarted.session.request (teamRequest [])).1.body := by
  intro q
  have hasks := asksFor_teamRequest []
  have hq : AsksFor false team.key q := asksFor_teamRequest _
  obtain ⟨hstatus, htag⟩ := request_teamStarted
  obtain ⟨m, hm, _, hsame, hanswers⟩ :=
    revalidation_is_exact (fun _ => teamTools) [] false [.start team, .arrive 0 (.ok [])]
      [.refresh 0, .arrive 1 (.ok [teamEvent])] hasks hstatus htag
  obtain rfl : m = teamCalendar [teamEvent] :=
    Option.some.inj (hm.symm.trans calendarOf_teamRefreshed)
  obtain ⟨_, hnamed⟩ := hanswers q hq
  obtain ⟨_, hother, _⟩ :=
    hnamed [.of true (teamCalendar []).calendar] (header?_teamRequest _)
      (List.mem_singleton_self _)
  obtain ⟨hcode, hbody⟩ := hother fun hmem => etag_teamCalendar_ne (List.mem_singleton.mp hmem)
  refine ⟨hasks, hq, hstatus, hcode, hbody, fun heq => ?_⟩
  exact etag_teamCalendar_ne ((hsame fun _ => heq).mpr heq)

/-- A client that names the current tag besides the old one gets nothing, though the current tag is
not the old one. -/
theorem current_tag_besides_old_one :
    let named : List NamedTag :=
      [.of false (teamCalendar []).calendar, .of false (teamCalendar [teamEvent]).calendar]
    let answer := (teamRefreshed.session.request
      (teamRequest [("if-none-match", fieldOf named)])).1
    (teamStarted.session.request (teamRequest [])).1.status = 200 ∧
      ("etag", (teamCalendar []).etag) ∈
        (teamStarted.session.request (teamRequest [])).1.headers ∧
      (teamCalendar []).etag ∈ named.map NamedTag.tag ∧
      teamRefreshed.session.calendarOf? team.key = some (teamCalendar [teamEvent]) ∧
      answer.status = 304 ∧ answer.body = "" ∧
      (teamCalendar [teamEvent]).etag ≠ (teamCalendar []).etag := by
  intro named answer
  obtain ⟨hstatus, htag⟩ := request_teamStarted
  have hsound : teamRefreshed.Sound (fun _ => teamTools) false :=
    ((Traffic.Sound.quiet (fun _ => teamTools) [] false).play _).play _
  have hne : named ≠ [] := List.cons_ne_nil _ _
  obtain ⟨hiff, _⟩ := hsound.answer_to_tags calendarOf_teamRefreshed
    (asksFor_teamRequest [("if-none-match", fieldOf named)]) hne
    (header?_teamRequest _)
  obtain ⟨hcode, hbody⟩ := hiff.mpr (List.mem_cons_of_mem _ (List.mem_singleton_self _))
  exact ⟨hstatus, htag, List.mem_cons_self, calendarOf_teamRefreshed, hcode, hbody,
    etag_teamCalendar_ne⟩

end Almanac.Service
