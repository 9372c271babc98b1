import Almanac.Http.Router

/-!
# Answers from a calendar

A request that reads and whose file stands for a calendar is answered from that
calendar alone: its text or nothing, and its tag.
-/

namespace Almanac.Http

open Merge (Merged)

theorem etag_mem_calendarHeaders (file : List Char) (m : Merged) (value : String) :
    ("etag", value) ∈ calendarHeaders file m ↔ value = m.etag := by
  unfold calendarHeaders
  split <;> simp

theorem etag_not_mem_sharingHeaders (r : Request) (value : String) :
    ("etag", value) ∉ sharingHeaders r := by
  simp [sharingHeaders, echoed]

/-- The answer to a GET for a calendar: status and text are those of the calendar's own response,
and the only tag among the headers is that of the calendar. -/
theorem respond_calendar (calendars : Calendars) (hasMetrics : Bool) (r : Request)
    (file : List Char) (m : Merged) (hmethod : r.method = "GET")
    (hroute : r.route hasMetrics = .file (some file)) (hlookup : lookup calendars file = some m) :
    let a := respond calendars hasMetrics r
    a.status = (calendarResponse r file m).status ∧ a.body = (calendarResponse r file m).body ∧
      ∀ value, ("etag", value) ∈ a.headers ↔ value = m.etag := by
  have hheaders : (calendarResponse r file m).headers = calendarHeaders file m := by
    unfold calendarResponse
    split <;> rfl
  have hinner : serve calendars r (.file (some file)) = calendarResponse r file m := by
    simp only [serve, hlookup]
  simp only [respond, hroute, hmethod, hinner]
  refine ⟨rfl, rfl, fun value => ?_⟩
  simp [List.mem_mergeSort, hheaders, etag_mem_calendarHeaders, etag_not_mem_sharingHeaders,
    Route.isShared, Route.tellsLength, Route.isKnown]

/-- The file of a name stands for the calendar of that name. -/
theorem lookup_of_get? {calendars : Calendars} {key : String} {m : Merged}
    (hget : calendars.get? key = some m) :
    lookup calendars (key.toList ++ ".ics".toList) = some m := by
  have hkey : calendarKey? (key.toList ++ ".ics".toList) = some key := by
    rw [calendarKey?, Text.dropSuffix?_eq_some_iff.mpr rfl, Option.map_some, String.ofList_toList]
  rw [lookup, hkey]
  exact hget

/-- A request that is answered from a calendar reads, and its file stands for the calendar. -/
theorem of_served? {calendars : Calendars} {hasMetrics : Bool} {r : Request} {file : List Char}
    {m : Merged} (hserved : served? calendars hasMetrics r = some (file, m)) :
    (r.method = "GET" ∨ r.method = "HEAD") ∧ r.route hasMetrics = .file (some file) ∧
      lookup calendars file = some m := by
  unfold served? at hserved
  split at hserved
  next hreads =>
    split at hserved
    next other hroute =>
      obtain ⟨m', hlookup, heq⟩ := Option.map_eq_some_iff.mp hserved
      obtain ⟨rfl, rfl⟩ := Prod.mk.injEq .. ▸ heq
      exact ⟨by simpa using hreads, hroute, hlookup⟩
    next => cases hserved
  next => cases hserved

/-- The answer to a request that reads a calendar: status and text are those of the calendar's own
response, the text left out if only headers are asked for. -/
theorem respond_of_served? {calendars : Calendars} {hasMetrics : Bool} {r : Request}
    {file : List Char} {m : Merged} (hserved : served? calendars hasMetrics r = some (file, m)) :
    (respond calendars hasMetrics r).status = (calendarResponse r file m).status ∧
      (respond calendars hasMetrics r).body =
        if r.method = "HEAD" then "" else (calendarResponse r file m).body := by
  obtain ⟨hmethod, hroute, hlookup⟩ := of_served? hserved
  have hinner : serve calendars r (.file (some file)) = calendarResponse r file m := by
    simp only [serve, hlookup]
  rcases hmethod with hmethod | hmethod <;>
    simp [respond, hroute, hmethod, hinner, Route.isKnown]

/-- The calendar of a file is under the name of the file. -/
theorem exists_get?_of_lookup {calendars : Calendars} {file : List Char} {m : Merged}
    (hlookup : lookup calendars file = some m) : ∃ key, calendars.get? key = some m := by
  obtain ⟨key, _, hget⟩ := Option.bind_eq_some_iff.mp hlookup
  exact ⟨key, hget⟩

/-- A file that stands for no calendar is not there. -/
theorem respond_missing (calendars : Calendars) (hasMetrics : Bool) (r : Request)
    (file : List Char) (hmethod : r.method = "GET")
    (hroute : r.route hasMetrics = .file (some file)) (hlookup : lookup calendars file = none) :
    (respond calendars hasMetrics r).status = 404 ∧ (respond calendars hasMetrics r).body = "" := by
  have hinner : serve calendars r (.file (some file)) = bare 404 := by
    simp only [serve, hlookup]
  simp only [respond, hroute, hmethod, hinner]
  exact ⟨rfl, rfl⟩

theorem calendarResponse_status (r : Request) (file : List Char) (m : Merged) :
    (calendarResponse r file m).status = 200 ∧ (calendarResponse r file m).body = m.calendar ∨
      (calendarResponse r file m).status = 304 ∧ (calendarResponse r file m).body = "" := by
  unfold calendarResponse
  split
  · exact .inr ⟨rfl, rfl⟩
  · exact .inl ⟨rfl, rfl⟩

theorem calendarResponse_status_iff (r : Request) (file : List Char) (m : Merged) :
    (calendarResponse r file m).status = 304 ↔ isNotModified r m = true := by
  unfold calendarResponse
  split <;> simp [*]

end Almanac.Http
