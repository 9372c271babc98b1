import Almanac.Service.Cycle

/-!
# Runs of a merge

A run of a merge is determined by what its fetches return, one after the other.
It tells which feeds were asked, what happened meanwhile, and where the merge
stands afterwards. The main statement says that a run asks for the feeds in order
up to the first that fails: without a failure its calendar holds the events of
each feed, filtered on their own, one block after the other; with one it names
that feed, and nothing has been filtered.
-/

namespace Almanac.Service

open Calendar (Component)
open Config (Feed Output)
open Merge (Loaded Merged MergeFailure Outcome)

/-- A stretch of a merge. -/
structure Run where
  /-- The feeds whose fetches have ended, in order. -/
  asked : List Feed
  effects : List Effect
  /-- Where the merge stands afterwards. -/
  final : Progress

/-- The stretch in which the next fetches return these outcomes. A merge that has ended asks for
nothing more. -/
def Progress.follow (tools : Tools) : List Outcome → Progress → Run
  | outcome :: outcomes, .waiting c =>
    let step := c.resume tools outcome
    let rest := step.1.follow tools outcomes
    ⟨c.current :: rest.asked, step.2 ++ rest.effects, rest.final⟩
  | _, p => ⟨[], [], p⟩

/-- A merge from its beginning. -/
def mergeRun (tools : Tools) (purpose : Purpose) (o : Output) (outcomes : List Outcome) : Run :=
  let start := begin tools purpose o
  let rest := start.1.follow tools outcomes
  ⟨rest.asked, start.2 ++ rest.effects, rest.final⟩

/-- The effect belongs to the filtering of a feed: a report of the filter, or the count of the
events that it kept. -/
def Effect.isFiltering : Effect → Bool
  | .count name _ => name == "feed_events_kept_total"
  | .report r => r.topic == "filter"
  | .measure _ | .notify _ => false

/-! ## Single steps of a run -/

@[simp] theorem proceed_cons (tools : Tools) (purpose : Purpose) (o : Output)
    (loaded : List Loaded) (feed : Feed) (feeds : List Feed) :
    proceed tools purpose o loaded (feed :: feeds) =
      (.waiting ⟨purpose, o, loaded, feed, feeds⟩, []) := rfl

theorem resume_ok (tools : Tools) (c : Cycle) (events : List Component) :
    c.resume tools (.ok events) =
      ((proceed tools c.purpose c.output (c.loaded ++ [⟨c.current, events⟩]) c.rest).1,
        .report (loadedReport c.output ⟨c.current, events⟩) ::
          (proceed tools c.purpose c.output (c.loaded ++ [⟨c.current, events⟩]) c.rest).2) := rfl

theorem resume_error (tools : Tools) (c : Cycle) (e : Merge.FeedError) :
    c.resume tools (.error e) =
      (.finished (.error ⟨c.current.name, e⟩),
        failureEffects c.output ⟨c.current.name, e⟩ ++
          closingEffects c.output c.purpose (.error ⟨c.current.name, e⟩)) := rfl

@[simp] theorem follow_nil (tools : Tools) (p : Progress) : p.follow tools [] = ⟨[], [], p⟩ := by
  cases p <;> rfl

@[simp] theorem follow_finished (tools : Tools) (outcomes : List Outcome)
    (r : Except MergeFailure Merged) :
    (Progress.finished r).follow tools outcomes = ⟨[], [], .finished r⟩ := by
  cases outcomes <;> rfl

theorem follow_waiting (tools : Tools) (c : Cycle) (outcome : Outcome) (outcomes : List Outcome) :
    (Progress.waiting c).follow tools (outcome :: outcomes) =
      ⟨c.current :: ((c.resume tools outcome).1.follow tools outcomes).asked,
        (c.resume tools outcome).2 ++ ((c.resume tools outcome).1.follow tools outcomes).effects,
        ((c.resume tools outcome).1.follow tools outcomes).final⟩ := rfl

/-- One more outcome matters only to a merge that still waits. -/
theorem follow_append_final (tools : Tools) (first second : List Outcome) (p : Progress) :
    (p.follow tools (first ++ second)).final =
      ((p.follow tools first).final.follow tools second).final := by
  induction first generalizing p with
  | nil => simp
  | cons outcome first ih =>
      cases p with
      | finished r => simp
      | waiting c =>
          rw [List.cons_append, follow_waiting, follow_waiting]
          exact ih _

theorem mergeRun_append_final (tools : Tools) (purpose : Purpose) (o : Output)
    (first second : List Outcome) :
    (mergeRun tools purpose o (first ++ second)).final =
      ((mergeRun tools purpose o first).final.follow tools second).final :=
  follow_append_final tools first second _

/-! ## Whole runs -/

/-- Without a failure every feed is asked, and the calendar is made of all feeds, those that had
been fetched before and those that follow. -/
theorem follow_proceed_of_ok (tools : Tools) (purpose : Purpose) (o : Output)
    (loaded : List Loaded) (feeds : List Feed) (events : List (List Component))
    (hlength : events.length = feeds.length) :
    let r := (proceed tools purpose o loaded feeds).1.follow tools (events.map .ok)
    r.asked = feeds ∧ r.final = .finished (.ok (Merge.assemble tools.issue o
      (loaded ++ List.zipWith Loaded.mk feeds events))) := by
  induction feeds generalizing loaded events with
  | nil =>
      obtain rfl := List.length_eq_zero_iff.mp hlength
      simp [proceed]
  | cons feed feeds ih =>
      cases events with
      | nil => simp at hlength
      | cons block events =>
          have hrest := ih (loaded ++ [⟨feed, block⟩]) events (by simpa using hlength)
          simp only [proceed_cons, List.map_cons, follow_waiting, resume_ok]
          refine ⟨congrArg (feed :: ·) hrest.1, ?_⟩
          rw [hrest.2]
          simp

/-- A failure ends the run. Its effects are the reports of the feeds before it and the announcement
of the failure. -/
theorem follow_proceed_of_error (tools : Tools) (purpose : Purpose) (o : Output)
    (loaded : List Loaded) (before : List Feed) (feed : Feed) (after : List Feed)
    (events : List (List Component)) (hlength : events.length = before.length)
    (e : Merge.FeedError) (later : List Outcome) :
    (proceed tools purpose o loaded (before ++ feed :: after)).1.follow tools
        (events.map .ok ++ .error e :: later) =
      ⟨before ++ [feed],
        (List.zipWith Loaded.mk before events).map (fun l => .report (loadedReport o l)) ++
          (failureEffects o ⟨feed.name, e⟩ ++ closingEffects o purpose (.error ⟨feed.name, e⟩)),
        .finished (.error ⟨feed.name, e⟩)⟩ := by
  induction before generalizing loaded events with
  | nil =>
      obtain rfl := List.length_eq_zero_iff.mp hlength
      simp [follow_waiting, resume_error]
  | cons first before ih =>
      cases events with
      | nil => simp at hlength
      | cons block events =>
          -- What has been loaded grows on the way, and plays no part in how the run ends.
          have hrest := ih (loaded ++ [⟨first, block⟩]) events (by simpa using hlength)
          simp only [List.cons_append, proceed_cons, List.map_cons, follow_waiting, resume_ok]
          rw [hrest]
          cases before <;> simp

theorem not_isFiltering_of_error (o : Output) (purpose : Purpose) (loaded : List Loaded)
    (e : MergeFailure) (x : Effect)
    (hx : x ∈ openingEffects o purpose ++ .count "merge_runs_total" 1 ::
      (loaded.map (fun l => .report (loadedReport o l)) ++
        (failureEffects o e ++ closingEffects o purpose (.error e)))) :
    x.isFiltering = false := by
  simp only [List.mem_append, List.mem_cons, List.mem_map] at hx
  rcases hx with hx | rfl | ⟨l, _, rfl⟩ | hx | hx
  · cases purpose <;> simp [openingEffects, message] at hx
    · subst x; rfl
    · rcases hx with rfl | rfl <;> rfl
  · rfl
  · rfl
  · simp only [failureEffects, message, List.mem_cons, List.not_mem_nil, or_false] at hx
    rcases hx with rfl | rfl | rfl <;> rfl
  · cases purpose <;> simp [closingEffects, message] at hx
    rcases hx with rfl | rfl | rfl <;> rfl

/-- Every list of outcomes either has no failure or has a first one. -/
theorem all_ok_or_first_error (outcomes : List Outcome) :
    (∃ events : List (List Component), outcomes = events.map .ok) ∨
      ∃ (events : List (List Component)) (e : Merge.FeedError) (later : List Outcome),
        outcomes = events.map .ok ++ .error e :: later := by
  induction outcomes with
  | nil => exact .inl ⟨[], rfl⟩
  | cons outcome outcomes ih =>
      cases outcome with
      | error e => exact .inr ⟨[], e, outcomes, rfl⟩
      | ok block =>
          rcases ih with ⟨events, rfl⟩ | ⟨events, e, later, rfl⟩
          · exact .inl ⟨block :: events, rfl⟩
          · exact .inr ⟨block :: events, e, later, rfl⟩

/-- A merge that ends with a calendar has been given all feeds, and the calendar is made of them. -/
theorem follow_proceed_finished_ok (tools : Tools) (purpose : Purpose) (o : Output)
    (loaded : List Loaded) (feeds : List Feed) (outcomes : List Outcome) (m : Merged)
    (hfinal : ((proceed tools purpose o loaded feeds).1.follow tools outcomes).final =
      .finished (.ok m)) :
    ∃ (events : List (List Component)) (later : List Outcome),
      outcomes = events.map .ok ++ later ∧ events.length = feeds.length ∧
        m = Merge.assemble tools.issue o (loaded ++ List.zipWith Loaded.mk feeds events) := by
  induction feeds generalizing loaded outcomes with
  | nil =>
      simp only [proceed, follow_finished] at hfinal
      obtain rfl := Except.ok.inj (Progress.finished.inj hfinal)
      exact ⟨[], outcomes, by simp⟩
  | cons feed feeds ih =>
      cases outcomes with
      | nil => simp at hfinal
      | cons outcome outcomes =>
          cases outcome with
          | error e => simp [follow_waiting, resume_error] at hfinal
          | ok block =>
              rw [proceed_cons, follow_waiting, resume_ok] at hfinal
              obtain ⟨events, later, rfl, hlength, rfl⟩ := ih _ outcomes hfinal
              exact ⟨block :: events, later, by simp, by simp [hlength], by simp⟩

theorem mergeRun_finished_ok (tools : Tools) (purpose : Purpose) (o : Output)
    (outcomes : List Outcome) (m : Merged)
    (hfinal : (mergeRun tools purpose o outcomes).final = .finished (.ok m)) :
    ∃ (events : List (List Component)) (later : List Outcome),
      outcomes = events.map .ok ++ later ∧ events.length = o.feeds.length ∧
        m = Merge.assemble tools.issue o (List.zipWith Loaded.mk o.feeds events) :=
  follow_proceed_finished_ok tools purpose o [] o.feeds outcomes m hfinal

theorem mergeRun_of_ok (tools : Tools) (purpose : Purpose) (o : Output)
    (events : List (List Component)) (hlength : events.length = o.feeds.length) :
    let r := mergeRun tools purpose o (events.map .ok)
    r.asked = o.feeds ∧ r.final = .finished (.ok (Merge.assemble tools.issue o
      (List.zipWith Loaded.mk o.feeds events))) :=
  follow_proceed_of_ok tools purpose o [] o.feeds events hlength

/-- A run with a failure, when the feeds before it are told by their number. -/
theorem mergeRun_of_error (tools : Tools) (purpose : Purpose) (o : Output)
    (events : List (List Component)) (e : Merge.FeedError) (later : List Outcome)
    (hlength : (events.map .ok ++ .error e :: later : List Outcome).length = o.feeds.length) :
    ∃ feed, o.feeds[events.length]? = some feed ∧
      mergeRun tools purpose o (events.map .ok ++ .error e :: later) =
        ⟨o.feeds.take (events.length + 1),
          openingEffects o purpose ++ .count "merge_runs_total" 1 ::
            ((List.zipWith Loaded.mk (o.feeds.take events.length) events).map
                (fun l => .report (loadedReport o l)) ++
              (failureEffects o ⟨feed.name, e⟩ ++
                closingEffects o purpose (.error ⟨feed.name, e⟩))),
          .finished (.error ⟨feed.name, e⟩)⟩ := by
  have hlt : events.length < o.feeds.length := by
    rw [← hlength]
    simp
  have hbefore : events.length = (o.feeds.take events.length).length := by
    rw [List.length_take]
    omega
  have hfeeds : o.feeds = o.feeds.take events.length ++
      o.feeds[events.length] :: o.feeds.drop (events.length + 1) := by
    rw [← List.drop_eq_getElem_cons hlt, List.take_append_drop]
  refine ⟨o.feeds[events.length], List.getElem?_eq_getElem hlt, ?_⟩
  have hrest := follow_proceed_of_error tools purpose o [] (o.feeds.take events.length)
    o.feeds[events.length] (o.feeds.drop (events.length + 1)) events hbefore e later
  rw [← hfeeds] at hrest
  have hwaits : (proceed tools purpose o [] o.feeds).2 = [] := by
    cases hcases : o.feeds with
    | nil => simp [hcases] at hlt
    | cons first rest => rfl
  simp only [mergeRun, begin, hrest, hwaits, List.take_succ_eq_append_getElem hlt,
    List.append_assoc, List.cons_append, List.nil_append]

theorem follow_proceed_eq_loadAll (tools : Tools) (purpose : Purpose) (o : Output)
    (fetch : Feed → Outcome) (loaded : List Loaded) (feeds : List Feed) :
    ((proceed tools purpose o loaded feeds).1.follow tools (feeds.map fetch)).final =
      .finished ((Merge.loadAll fetch feeds).map fun more =>
        Merge.assemble tools.issue o (loaded ++ more)) := by
  induction feeds generalizing loaded with
  | nil => simp [proceed, Merge.loadAll, Except.map]
  | cons feed feeds ih =>
      rw [proceed_cons, List.map_cons, follow_waiting]
      cases hfetch : fetch feed with
      | error e => simp [resume_error, Merge.loadAll, hfetch, Except.map]
      | ok block =>
          simp only [resume_ok, ih, Merge.loadAll, hfetch]
          cases Merge.loadAll fetch feeds <;> simp [Except.map]

/-- A run in which every feed is fetched alike is the merge of the output. -/
theorem mergeRun_eq_merge (tools : Tools) (purpose : Purpose) (o : Output)
    (fetch : Feed → Outcome) :
    (mergeRun tools purpose o (o.feeds.map fetch)).final =
      .finished (Merge.merge tools.issue fetch o) := by
  have hrun := follow_proceed_eq_loadAll tools purpose o fetch [] o.feeds
  have hmerge : Merge.merge tools.issue fetch o = (Merge.loadAll fetch o.feeds).map fun more =>
      Merge.assemble tools.issue o ([] ++ more) := by
    unfold Merge.merge
    cases Merge.loadAll fetch o.feeds <;> rfl
  rw [hmerge]
  exact hrun

theorem names_zipWith (feeds : List Feed) (events : List (List Component))
    (hlength : events.length = feeds.length) :
    (List.zipWith Loaded.mk feeds events).map (·.feed.name) = feeds.map (·.name) := by
  induction feeds generalizing events with
  | nil => simp
  | cons feed feeds ih =>
      cases events with
      | nil => simp at hlength
      | cons block events =>
          have hrest := ih events (by simpa using hlength)
          rw [List.zipWith_cons_cons, List.map_cons, List.map_cons, hrest]

theorem assemble_zipWith (issue : Calendar.Issue) (o : Output) (events : List (List Component))
    (hlength : events.length = o.feeds.length) :
    let kept := (List.zipWith Filter.pass o.feeds events).flatten
    let description := " ".intercalate (o.feeds.map (·.name))
    Merge.assemble issue o (List.zipWith Loaded.mk o.feeds events) =
      ⟨Calendar.write issue o.name description kept, description, kept.length,
        Merge.etagOf (Calendar.write issue o.name description kept)⟩ := by
  have hkept : (List.zipWith Loaded.mk o.feeds events).flatMap Loaded.kept =
      (List.zipWith Filter.pass o.feeds events).flatten := by
    rw [List.flatMap_def, List.map_zipWith]
    rfl
  simp only [Merge.assemble, Merge.describe, hkept, names_zipWith o.feeds events hlength]

/-- Merging is concatenation up to the first failure. A run asks for the feeds in their order. It
gives a calendar exactly if no fetch fails; the events of the calendar are then those that each feed
keeps of its own events, one block after the other, and its description names all feeds. Otherwise
the run ends with the first feed that fails, no feed after it is asked, and nothing is filtered. -/
theorem merge_concatenates_up_to_first_failure (tools : Tools) (purpose : Purpose) (o : Output)
    (outcomes : List Outcome) (hlength : outcomes.length = o.feeds.length) :
    let r := mergeRun tools purpose o outcomes
    ((∃ m, r.final = .finished (.ok m)) ↔ ∀ outcome ∈ outcomes, ∃ events, outcome = .ok events) ∧
      (∀ events : List (List Component), outcomes = events.map .ok →
        let kept := (List.zipWith Filter.pass o.feeds events).flatten
        let description := " ".intercalate (o.feeds.map (·.name))
        let calendar := Calendar.write tools.issue o.name description kept
        r.asked = o.feeds ∧
          r.final = .finished (.ok ⟨calendar, description, kept.length, Merge.etagOf calendar⟩)) ∧
      ∀ (events : List (List Component)) (e : Merge.FeedError) (later : List Outcome),
        outcomes = events.map .ok ++ .error e :: later →
          ∃ feed, o.feeds[events.length]? = some feed ∧
            r.asked = o.feeds.take (events.length + 1) ∧
            r.final = .finished (.error ⟨feed.name, e⟩) ∧
            ∀ effect ∈ r.effects, effect.isFiltering = false := by
  refine ⟨?_, ?_, ?_⟩
  · rcases all_ok_or_first_error outcomes with ⟨events, rfl⟩ | ⟨events, e, later, rfl⟩
    · have hrun := (mergeRun_of_ok tools purpose o events (by simpa using hlength)).2
      refine ⟨fun _ outcome houtcome => ?_, fun _ => ⟨_, hrun⟩⟩
      obtain ⟨block, _, rfl⟩ := List.mem_map.mp houtcome
      exact ⟨block, rfl⟩
    · obtain ⟨feed, _, hrun⟩ := mergeRun_of_error tools purpose o events e later hlength
      refine ⟨fun ⟨m, hm⟩ => ?_, fun hall => ?_⟩
      · rw [hrun] at hm
        cases hm
      · obtain ⟨block, hblock⟩ := hall (.error e) (by simp)
        cases hblock
  · rintro events rfl
    have hevents : events.length = o.feeds.length := by simpa using hlength
    have hrun := mergeRun_of_ok tools purpose o events hevents
    simp only [assemble_zipWith tools.issue o events hevents] at hrun
    exact hrun
  · rintro events e later rfl
    obtain ⟨feed, hfeed, hrun⟩ := mergeRun_of_error tools purpose o events e later hlength
    refine ⟨feed, hfeed, ?_, ?_, ?_⟩
    · rw [hrun]
    · rw [hrun]
    · rw [hrun]
      intro effect heffect
      exact not_isFiltering_of_error o purpose _ _ effect heffect

theorem merge_stops_at_second_feed :
    let tools : Tools := ⟨⟨"20240101T000000Z", toString⟩, "1ms"⟩
    let o : Output := ⟨"Team", "team.ics", 15,
      [⟨"rota", "https://rota", [], []⟩, ⟨"club", "https://club", [], []⟩,
        ⟨"home", "https://home", [], []⟩]⟩
    let outcomes : List Outcome := [.ok [], .error .transport, .ok []]
    outcomes.length = o.feeds.length ∧
      (mergeRun tools .refresh o outcomes).asked = o.feeds.take 2 ∧
      (mergeRun tools .refresh o outcomes).final = .finished (.error ⟨"club", .transport⟩) := by
  intro tools o outcomes
  have hlength : outcomes.length = o.feeds.length := rfl
  obtain ⟨feed, hfeed, hasked, hfinal, _⟩ :=
    (merge_concatenates_up_to_first_failure tools .refresh o outcomes hlength).2.2 [[]] .transport
      [.ok []] rfl
  obtain rfl := Option.some.inj hfeed
  exact ⟨hlength, hasked, hfinal⟩

end Almanac.Service
