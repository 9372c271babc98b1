import Almanac.Proofs.Http.CutTags
import Almanac.Proofs.Service.Revalidation

/-!
# Conditional requests

A client that asks for a calendar under the condition that it has none of the tags that it lists
is answered by the first line of its list. A tag of the list counts only if it is on this line,
and a tag on this line that has a star between two commas counts as any tag.
-/

namespace Almanac.Service

open Http (EntityTag HasLoneStar ListItem Names Request served? tagList)
open Merge (Merged)

namespace Traffic.Sound

variable {tools : Nat → Tools} {hasMetrics : Bool} {t : Traffic} {q : Request} {file : List Char}
  {m : Merged}

/-- What is served as a calendar has the tag of its text. -/
theorem etag_of_served? (ht : t.Sound tools hasMetrics)
    (hserved : served? (Dictionary.ofList t.session.servedCalendars) t.session.hasMetrics q =
      some (file, m)) : m.etag = Merge.etagOf m.calendar := by
  obtain ⟨_, _, hlookup⟩ := Http.of_served? hserved
  obtain ⟨key, hget⟩ := Http.exists_get?_of_lookup hlookup
  exact (ht.put_of_calendarOf hget).2

/-- The first line of a list decides. -/
theorem status_of_lists (ht : t.Sound tools hasMetrics)
    (hserved : served? (Dictionary.ofList t.session.servedCalendars) t.session.hasMetrics q =
      some (file, m)) {first : List ListItem} (hfirst : first ≠ [])
    {more : List (List ListItem)}
    (hlines : q.headerLines "if-none-match" = (first :: more).map tagList) :
    (t.session.request q).1.status = 304 ↔ Names first m.etag ∨ HasLoneStar first := by
  have hstatus : (t.session.request q).1.status = (Http.calendarResponse q file m).status :=
    (Http.respond_of_served? hserved).1
  rw [hstatus, Http.calendarResponse_status_iff,
    Http.isNotModified_of_lists (ht.etag_of_served? hserved) hfirst hlines]

end Traffic.Sound

/-- The answer to a request for a calendar has nothing or the calendar. A star as the whole field
gets nothing. A list of tags, on however many lines, gets nothing just if the first line has the tag
of the calendar, or a tag with a lone star. So the answer is what the whole list says just if the
first line has the tag, or if there is a lone star on it just when another line has the tag. -/
theorem conditional_get_reads_first_line (tools : Nat → Tools) (sinks : List Sink)
    (hasMetrics : Bool) (moves : List Move) {q : Request} {file : List Char} {m : Merged} :
    let t := (Traffic.quiet tools sinks hasMetrics).play moves
    let answer := (t.session.request q).1
    served? (Dictionary.ofList t.session.servedCalendars) t.session.hasMetrics q = some (file, m) →
      (answer.status = 304 ∧ answer.body = "" ∨
        answer.status = 200 ∧ answer.body = if q.method = "HEAD" then "" else m.calendar) ∧
      (q.field? "if-none-match" = some "*" → answer.status = 304) ∧
      ∀ (first : List ListItem) (more : List (List ListItem)), first ≠ [] →
        (∀ line ∈ more, line ≠ []) →
          q.headerLines "if-none-match" = (first :: more).map tagList →
            q.field? "if-none-match" = some (tagList (first ++ more.flatten)) ∧
            (answer.status = 304 ↔ Names first m.etag ∨ HasLoneStar first) ∧
            ((answer.status = 304 ↔ Names (first ++ more.flatten) m.etag) ↔
              Names first m.etag ∨ (HasLoneStar first ↔ Names more.flatten m.etag)) := by
  intro t answer hserved
  have ht : t.Sound tools hasMetrics := (Traffic.Sound.quiet tools sinks hasMetrics).play moves
  obtain ⟨hstatus, hbody⟩ := Http.respond_of_served? hserved
  refine ⟨?_, fun hstar => ?_, ?_⟩
  · rcases Http.calendarResponse_status q file m with ⟨hcode, htext⟩ | ⟨hcode, htext⟩
    · exact .inr ⟨hstatus.trans hcode, by rw [← htext]; exact hbody⟩
    · exact .inl ⟨hstatus.trans hcode, hbody.trans (by rw [htext, ite_self])⟩
  · exact hstatus.trans
      ((Http.calendarResponse_status_iff q file m).mpr (Http.isNotModified_of_star hstar m))
  · intro first more hfirst hmore hlines
    have hread := ht.status_of_lists hserved hfirst hlines
    refine ⟨Http.field?_of_lists hfirst hmore hlines, hread, ?_⟩
    rw [hread, Http.names_append]
    tauto

/-! ## Lists that one output is asked with -/

theorem headerLines_teamRequest (lines : List String) :
    (teamRequest (lines.map fun line => ("if-none-match", line))).headerLines "if-none-match" =
      lines := by
  have hname : "if-none-match".toList.map Char.toLower = "if-none-match".toList := by decide
  rw [Request.headerLines, teamRequest, List.filter_eq_self.mpr, List.map_map]
  · exact List.map_id lines
  · intro header hheader
    obtain ⟨line, _, rfl⟩ := List.mem_map.mp hheader
    exact beq_iff_eq.mpr hname

/-- The output is asked for its empty calendar. -/
theorem served?_teamRequest (headers : List (String × String)) :
    served? (Dictionary.ofList teamStarted.session.servedCalendars)
      teamStarted.session.hasMetrics (teamRequest headers) =
        some (team.key.toList ++ ".ics".toList, teamCalendar []) := by
  have hasks := asksFor_teamRequest headers
  have hlookup := Http.lookup_of_get? calendarOf_teamStarted
  have hroute : (teamRequest headers).route teamStarted.session.hasMetrics =
      .file (some (team.key.toList ++ ".ics".toList)) := hasks.route_eq
  simp only [served?, hroute, hlookup, Option.map_some]
  rfl

/-- A tag with a comma, and behind it the weak form of the current tag, on one line. -/
theorem weak_tag_behind_comma_is_found :
    let items : List ListItem := [EntityTag.alone ⟨false, "a,b".toList, by simp⟩,
      (EntityTag.of true (teamCalendar []).calendar).alone]
    let q := teamRequest [("if-none-match", tagList items)]
    q.field? "if-none-match" = some (tagList items) ∧ Names items (teamCalendar []).etag ∧
      (teamStarted.session.request q).1.status = 304 := by
  intro items q
  have hnamed : Names items (teamCalendar []).etag :=
    ⟨EntityTag.of true (teamCalendar []).calendar, by simp [items, EntityTag.alone],
      EntityTag.quoted_of true _⟩
  obtain ⟨_, _, hlists⟩ := conditional_get_reads_first_line (fun _ => teamTools) [] false
    [.start team, .arrive 0 (.ok [])] (served?_teamRequest [("if-none-match", tagList items)])
  obtain ⟨hfield, hread, _⟩ := hlists items [] (by simp [items]) (by simp)
    (headerLines_teamRequest [tagList items])
  exact ⟨by simpa using hfield, hnamed, hread.mpr (.inl hnamed)⟩

/-- A tag with a lone star is not the current one, but gets nothing. The current tag on a second
line gets the calendar. -/
theorem star_in_tag_and_second_line :
    let starred : List ListItem := [EntityTag.alone ⟨false, "a,*,b".toList, by simp⟩]
    let stale : List ListItem := [EntityTag.alone ⟨false, "stale".toList, by simp⟩]
    let current : List ListItem := [(EntityTag.of false (teamCalendar []).calendar).alone]
    let q := teamRequest [("if-none-match", tagList starred)]
    let p := teamRequest [("if-none-match", tagList stale), ("if-none-match", tagList current)]
    (q.field? "if-none-match" = some (tagList starred) ∧ ¬Names starred (teamCalendar []).etag ∧
        (teamStarted.session.request q).1.status = 304) ∧
      p.field? "if-none-match" = some (tagList (stale ++ current)) ∧
        Names (stale ++ current) (teamCalendar []).etag ∧
        (teamStarted.session.request p).1.status ≠ 304 := by
  intro starred stale current q p
  have hsound : teamStarted.Sound (fun _ => teamTools) false :=
    (Traffic.Sound.quiet (fun _ => teamTools) [] false).play _
  have hq : q.headerLines "if-none-match" = [starred].map tagList :=
    headerLines_teamRequest [tagList starred]
  have hp : p.headerLines "if-none-match" = [stale, current].map tagList :=
    headerLines_teamRequest [tagList stale, tagList current]
  refine ⟨⟨?_, ?_, ?_⟩, ?_, ?_, ?_⟩
  · simpa using Http.field?_of_lists (by simp [starred]) (by simp) hq
  · exact Http.not_names_alone (c := ',') (by decide) (by decide) _
  · refine (hsound.status_of_lists (served?_teamRequest _) (List.cons_ne_nil _ _) hq).mpr (.inr ?_)
    exact ⟨_, List.mem_cons_self, ['a'], ['b'], rfl⟩
  · simpa using Http.field?_of_lists (by simp [stale]) (by simp [current]) hp
  · exact (Http.names_append _ _ _).mpr
      (.inr ((Http.names_alone _ _).mpr (EntityTag.quoted_of false _)))
  · have hread := hsound.status_of_lists (served?_teamRequest _) (List.cons_ne_nil _ _) hp
    refine fun hstatus => (hread.mp hstatus).elim ?_ ?_
    · exact Http.not_names_alone (c := 's') (by decide) (by decide) _
    · rintro ⟨tag, htag, hstar⟩
      obtain rfl := List.mem_singleton.mp htag
      exact absurd (hstar.subset List.mem_cons_self) (by decide)

end Almanac.Service
