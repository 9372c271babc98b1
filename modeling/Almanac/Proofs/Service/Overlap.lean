import Almanac.Proofs.Service.Lifetimes

/-!
# Refreshes that overlap

Nothing keeps two refreshes of a station from overlapping, and each puts its calendar into
the cache when it ends. The calendar that is served is the one that was put there last, so
it can be older than another that was there before: its refresh began earlier and took
longer. That is the only way in which an old calendar comes back.
-/

namespace Almanac.Service

open Config (Output)
open Merge (Merged MergeFailure Outcome)

/-- The refresh of one flight begins before that of another, and ends after it. -/
def Encloses (station outer inner : Nat) (log : List Happening) : Prop :=
  ∃ o o' e e', [.launched outer (some station) o, .launched inner (some station) o',
    .refreshed inner station (.ok e), .refreshed outer station (.ok e')].Sublist log

/-- No refresh of the station begins before those that began earlier have ended. -/
def OneAfterAnother (station : Nat) (log : List Happening) : Prop :=
  ∀ before k o after, log = before ++ .launched k (some station) o :: after →
    ∀ j o', .launched j (some station) o' ∈ before → ∃ r, .refreshed j station r ∈ before

/-- Old calendars never come back: what is served is never the calendar of a flight that began
before another whose calendar was in the cache already. -/
def NeverOlder (station : Nat) (log : List Happening) : Prop :=
  ∀ before e after, log = before ++ .served station e :: after →
    ∀ s r e', (s, e) ∈ puts station before → (r, e') ∈ puts station before → ¬s < r

/-! ## Puts -/

theorem put?_eq_map_putBy? (station : Nat) (h : Happening) :
    h.put? station = (h.putBy? station).map Prod.snd := by
  cases h with
  | started k i o e => by_cases hi : i = station <;> simp [Happening.put?, Happening.putBy?, hi]
  | refreshed k i r =>
      cases r with
      | ok e => by_cases hi : i = station <;> simp [Happening.put?, Happening.putBy?, hi]
      | error failure => rfl
  | _ => rfl

theorem lastPut?_eq_puts (station : Nat) (log : List Happening) :
    lastPut? station log = (puts station log).getLast?.map Prod.snd := by
  rw [lastPut?, puts, ← List.getLast?_map, List.map_filterMap]
  exact congrArg (fun f => (log.filterMap f).getLast?) (funext (put?_eq_map_putBy? station))

theorem putBy?_cases {station k : Nat} {e : Edition} {h : Happening}
    (hput : h.putBy? station = some (k, e)) :
    (∃ o, h = .started k station o e) ∨ h = .refreshed k station (.ok e) := by
  unfold Happening.putBy? at hput
  split at hput
  next k' i o e' =>
    split at hput
    next hi =>
      obtain ⟨rfl, rfl⟩ := Prod.mk.inj (Option.some.inj hput)
      exact .inl ⟨o, by rw [hi]⟩
    next => cases hput
  next k' i e' =>
    split at hput
    next hi =>
      obtain ⟨rfl, rfl⟩ := Prod.mk.inj (Option.some.inj hput)
      exact .inr (by rw [hi])
    next => cases hput
  next => cases hput

theorem edition?_of_putBy? {station k : Nat} {e : Edition} {h : Happening}
    (hput : h.putBy? station = some (k, e)) : h.edition? = some e := by
  rcases putBy?_cases hput with ⟨o, rfl⟩ | rfl <;> rfl

/-- The last put of a log, with nothing put into the cache of the station after it. -/
theorem exists_last_put {station : Nat} {log : List Happening} {e : Edition}
    (hlast : lastPut? station log = some e) :
    ∃ earlier h later k, log = earlier ++ h :: later ∧ h.putBy? station = some (k, e) ∧
      puts station later = [] := by
  rw [lastPut?_eq_puts, Option.map_eq_some_iff] at hlast
  obtain ⟨⟨k, e'⟩, hget, rfl⟩ := hlast
  obtain ⟨front, hfront⟩ := List.getLast?_eq_some_iff.mp hget
  obtain ⟨first, second, rfl, _, hsecond⟩ := List.filterMap_eq_append_iff.mp hfront
  obtain ⟨skipped, h, later, rfl, _, hput, hlater⟩ := List.filterMap_eq_cons_iff.mp hsecond
  exact ⟨first ++ skipped, h, later, k, by simp, hput, hlater⟩

/-! ## Order in the log -/

theorem mem_of_turns {k : Nat} {station : Option Nat} {log : List Happening}
    (hturns : turns k log = [.begins station]) : ∃ o, .launched k station o ∈ log := by
  have hmem : Turn.begins station ∈ turns k log := by simp [hturns]
  obtain ⟨h, hh, hturn⟩ := List.mem_filterMap.mp hmem
  cases h with
  | launched j station' o =>
      simp only [Happening.turn?, Option.ite_none_right_eq_some, Option.some.injEq,
        Turn.begins.injEq] at hturn
      obtain ⟨rfl, rfl⟩ := hturn
      exact ⟨o, hh⟩
  | started | failed | refreshed => simp [Happening.turn?] at hturn
  | _ => cases hturn

/-- A refresh of which a log tells no more than the beginning has not ended. -/
theorem not_refreshed_of_turns {k station : Nat} {begun : Option Nat} {log : List Happening}
    (hturns : turns k log = [.begins begun]) (r : Except MergeFailure Edition) :
    .refreshed k station r ∉ log := by
  intro hmem
  have hends : Turn.ends (some station) ∈ turns k log :=
    List.mem_filterMap.mpr ⟨_, hmem, if_pos rfl⟩
  rw [hturns] at hends
  simp at hends

namespace Traffic.Orderly

variable {t : Traffic}

/-- Of two flights the one with the smaller number is launched first. -/
theorem launched_earlier (ht : t.Orderly none) {before after : List Happening} {s r : Nat}
    {station station' : Option Nat} {o o' : Output}
    (hlog : t.log = before ++ .launched r station' o' :: after)
    (hs : .launched s station o ∈ t.log) (hlt : s < r) : .launched s station o ∈ before := by
  have hpairs : (launches t.log).Pairwise (· < ·) := by
    rw [ht.launches_eq]
    exact List.pairwise_lt_range
  rw [hlog, launches, List.filterMap_append] at hpairs
  have hrest := (List.pairwise_cons.mp (List.pairwise_append.mp hpairs).2.1).1
  rw [hlog] at hs
  rcases List.mem_append.mp hs with hmem | hmem
  · exact hmem
  · rcases List.mem_cons.mp hmem with heq | hmem
    · obtain ⟨rfl, _⟩ := Happening.launched.inj heq
      exact absurd hlt (Nat.lt_irrefl _)
    · have hlater : r < s := hrest s (List.mem_filterMap.mpr ⟨_, hmem, rfl⟩)
      exact absurd hlt (Nat.lt_asymm hlater)

/-- A flight that puts its calendar into a cache was launched before. -/
theorem launched_before_put (ht : t.Orderly none) {before after : List Happening} {h : Happening}
    (hlog : t.log = before ++ h :: after) {station k : Nat} {e : Edition}
    (hput : h.putBy? station = some (k, e)) :
    (∃ o o', h = .started k station o e ∧ .launched k none o' ∈ before) ∨
      ∃ o, h = .refreshed k station (.ok e) ∧ .launched k (some station) o ∈ before := by
  rcases putBy?_cases hput with ⟨o, rfl⟩ | rfl
  · obtain ⟨o', hmem⟩ := mem_of_turns (ht.begun_before_end hlog (if_pos rfl)).1
    exact .inl ⟨o, o', rfl, hmem⟩
  · obtain ⟨o, hmem⟩ := mem_of_turns (ht.begun_before_end hlog (if_pos rfl)).1
    exact .inr ⟨o, rfl, hmem⟩

/-- No calendar is put into caches twice. -/
theorem put_unique (ht : t.Orderly none) {earlier later rest : List Happening} {g h : Happening}
    (hlog : t.log = earlier ++ g :: later ++ rest) {station s k : Nat} {e : Edition}
    (hg : g.putBy? station = some (k, e)) (hlater : puts station later = [])
    (hmem : h ∈ earlier ++ g :: later) (hh : h.putBy? station = some (s, e)) : h = g := by
  have hpairs := ht.editions_lt
  rw [hlog, editions, List.filterMap_append, List.filterMap_append] at hpairs
  have hfirst := (List.pairwise_append.mp (List.pairwise_append.mp hpairs).1).2.2
  rcases List.mem_append.mp hmem with hmem | hmem
  · have hlt : e.number < e.number :=
      hfirst e (List.mem_filterMap.mpr ⟨h, hmem, edition?_of_putBy? hh⟩) e
        (List.mem_filterMap.mpr ⟨g, List.mem_cons_self, edition?_of_putBy? hg⟩)
    exact absurd hlt (Nat.lt_irrefl _)
  · rcases List.mem_cons.mp hmem with rfl | hmem
    · rfl
    · have hput : (s, e) ∈ puts station later := List.mem_filterMap.mpr ⟨h, hmem, hh⟩
      rw [hlater] at hput
      cases hput

end Traffic.Orderly

/-! ## What comes back -/

section Served

variable {t : Traffic} {tools : Nat → Tools} {hasMetrics : Bool} {before after : List Happening}
  {station s r : Nat} {e e' : Edition}

/-- A put into the cache of a station comes from its start or from a later refresh. -/
theorem output_of_put (hsound : t.Sound tools hasMetrics) {h : Happening}
    (hlog : t.log = before ++ h :: after) (hput : h.putBy? station = some (s, e)) :
    ∃ o, outputOf? station (before ++ [h]) = some o := by
  have hjustified := hsound.justified before h after hlog
  rcases putBy?_cases hput with ⟨o, rfl⟩ | rfl
  · refine ⟨o, ?_⟩
    rw [outputOf?_append, hjustified.1, Option.none_or]
    exact if_pos rfl
  · obtain ⟨o, ho, _⟩ := hjustified
    exact ⟨o, outputOf?_append_of_some ho _⟩

/-- What is served was put into the cache last, so another calendar that was there was put there
before. -/
theorem puts_of_served (hsound : t.Sound tools hasMetrics) (ht : t.Orderly none)
    (hlog : t.log = before ++ .served station e :: after) (hs : (s, e) ∈ puts station before)
    (hr : (r, e') ∈ puts station before) (hne : s ≠ r) :
    ∃ front h' d h later, before = front ++ h' :: (d ++ h :: later) ∧
      h'.putBy? station = some (r, e') ∧ h.putBy? station = some (s, e) := by
  have hlast : lastPut? station before = some e := hsound.justified before _ after hlog
  obtain ⟨earlier, g, later, k, rfl, hg, hlater⟩ := exists_last_put hlast
  obtain ⟨h, hmem, hh⟩ := List.mem_filterMap.mp hs
  obtain rfl := ht.put_unique hlog hg hlater hmem hh
  obtain ⟨h', hmem', hh'⟩ := List.mem_filterMap.mp hr
  rcases List.mem_append.mp hmem' with hmem' | hmem'
  · obtain ⟨front, d, rfl⟩ := List.append_of_mem hmem'
    exact ⟨front, h', d, h, later, by simp, hh', hh⟩
  · rcases List.mem_cons.mp hmem' with rfl | hmem'
    · obtain ⟨rfl, _⟩ := Prod.mk.inj (Option.some.inj (hh.symm.trans hh'))
      exact absurd rfl hne
    · have hput : (r, e') ∈ puts station later := List.mem_filterMap.mpr ⟨h', hmem', hh'⟩
      rw [hlater] at hput
      cases hput

/-- Of two flights the earlier one puts its calendar into the cache after the later one: both are
refreshes, and the later one happens as a whole while the earlier one is under way. -/
theorem refreshes_of_puts (hsound : t.Sound tools hasMetrics) (ht : t.Orderly none)
    {front d rest : List Happening} {h' h : Happening}
    (hlog : t.log = front ++ h' :: (d ++ h :: rest)) (hr : h'.putBy? station = some (r, e'))
    (hs : h.putBy? station = some (s, e)) (hlt : s < r) :
    h' = .refreshed r station (.ok e') ∧ h = .refreshed s station (.ok e) ∧
      ∃ a b c o o', front =
        (a ++ .launched s (some station) o :: b) ++ .launched r (some station) o' :: c := by
  have hlater : t.log = (front ++ h' :: d) ++ h :: rest := by simp [hlog]
  obtain ⟨o, rfl, hbegun⟩ : ∃ o, h = .refreshed s station (.ok e) ∧
      .launched s (some station) o ∈ front ++ h' :: d := by
    rcases ht.launched_before_put hlater hs with ⟨o, o', rfl, _⟩ | hrefreshed
    · -- A start would have been the first to put something there.
      obtain ⟨o'', hknown⟩ := output_of_put hsound hlog hr
      have hold := outputOf?_append_of_some hknown d
      have hnew := (hsound.justified _ _ _ hlater).1
      rw [List.append_assoc, List.singleton_append, hnew] at hold
      cases hold
    · exact hrefreshed
  have hsplit : ∀ station' o', .launched r station' o' ∈ front → ∃ a b c,
      front = (a ++ .launched s (some station) o :: b) ++ .launched r station' o' :: c := by
    intro station' o' hmem
    obtain ⟨p, c, rfl⟩ := List.append_of_mem hmem
    have hmem : .launched s (some station) o ∈ t.log := by
      rw [hlater]
      exact List.mem_append_left _ hbegun
    rw [List.append_assoc, List.cons_append] at hlog
    obtain ⟨a, b, rfl⟩ := List.append_of_mem (ht.launched_earlier hlog hmem hlt)
    exact ⟨a, b, c, rfl⟩
  rcases ht.launched_before_put hlog hr with ⟨o₁, o', rfl, hstart⟩ | ⟨o', rfl, hrefresh⟩
  · -- A refresh of the station cannot have begun before its start has ended.
    obtain ⟨a, b, c, rfl⟩ := hsplit none o' hstart
    have hknown := ht.station_known a s station o _ (by
      rw [hlog, List.append_assoc, List.append_assoc, List.cons_append])
    have hold := outputOf?_append_of_some hknown
      (.launched s (some station) o :: b ++ .launched r none o' :: c)
    have hnew := (hsound.justified _ _ _ hlog).1
    rw [List.append_assoc] at hnew
    rw [hnew] at hold
    cases hold
  · obtain ⟨a, b, c, hfront⟩ := hsplit (some station) o' hrefresh
    exact ⟨rfl, rfl, a, b, c, o, o', hfront⟩

/-- If the calendar of an earlier flight is served after that of a later one was in the cache, the
later one was a refresh that happened as a whole while the earlier one was under way. -/
theorem split_of_older (hsound : t.Sound tools hasMetrics) (ht : t.Orderly none)
    (hlog : t.log = before ++ .served station e :: after) (hs : (s, e) ∈ puts station before)
    (hr : (r, e') ∈ puts station before) (hlt : s < r) :
    ∃ a b c d rest o o', before =
      a ++ .launched s (some station) o :: (b ++ .launched r (some station) o' :: (c ++
        .refreshed r station (.ok e') :: (d ++ .refreshed s station (.ok e) :: rest))) := by
  obtain ⟨front, h', d, h, later, rfl, hh', hh⟩ :=
    puts_of_served hsound ht hlog hs hr (Nat.ne_of_lt hlt)
  rw [List.append_assoc, List.cons_append, List.append_assoc, List.cons_append] at hlog
  obtain ⟨rfl, rfl, a, b, c, o, o', rfl⟩ := refreshes_of_puts hsound ht hlog hh' hh hlt
  exact ⟨a, b, c, d, later, o, o', by simp⟩

end Served

/-- However the refreshes of a station overlap, flights are numbered in the order in which they
begin, and the calendar that is served is the one that was put into the cache last. If the calendar
of an earlier flight is served after that of a later one was in the cache, both flights are
refreshes of the station, and the earlier one was under way from before the beginning of the later
one until after its end. So nothing of the kind happens if refreshes follow one after another. -/
theorem old_calendar_returns_only_by_overlap (tools : Nat → Tools) (sinks : List Sink)
    (hasMetrics : Bool) (moves : List Move) (station : Nat) :
    let t := (Traffic.quiet tools sinks hasMetrics).play moves
    launches t.log = List.range t.flights.length ∧
      (∀ before e after, t.log = before ++ .served station e :: after →
        (puts station before).getLast?.map Prod.snd = some e ∧
          ∀ s r e', (s, e) ∈ puts station before → (r, e') ∈ puts station before → s < r →
            Encloses station s r before) ∧
      (OneAfterAnother station t.log → NeverOlder station t.log) := by
  intro t
  have hsound : t.Sound tools hasMetrics := (Traffic.Sound.quiet tools sinks hasMetrics).play moves
  have ht : t.Orderly none :=
    (Traffic.Orderly.quiet tools sinks hasMetrics).play
      (Traffic.Sound.quiet tools sinks hasMetrics) moves
  refine ⟨ht.launches_eq, ?_, ?_⟩
  · intro before e after hlog
    refine ⟨?_, ?_⟩
    · rw [← lastPut?_eq_puts]
      exact hsound.justified before _ after hlog
    · intro s r e' hs hr hlt
      obtain ⟨a, b, c, d, rest, o, o', rfl⟩ := split_of_older hsound ht hlog hs hr hlt
      refine ⟨o, o', e', e, ?_⟩
      apply List.sublist_append_of_sublist_right
      simp
  · intro horder before e after hlog s r e' hs hr hlt
    obtain ⟨a, b, c, d, rest, o, o', rfl⟩ := split_of_older hsound ht hlog hs hr hlt
    have hbegins : t.log = (a ++ .launched s (some station) o :: b) ++
        .launched r (some station) o' :: (c ++ .refreshed r station (.ok e') ::
          (d ++ .refreshed s station (.ok e) :: rest) ++ .served station e :: after) := by
      simp [hlog]
    have hends : t.log = (a ++ .launched s (some station) o :: b ++
        .launched r (some station) o' :: (c ++ .refreshed r station (.ok e') :: d)) ++
          .refreshed s station (.ok e) :: (rest ++ .served station e :: after) := by
      simp [hlog]
    -- The earlier refresh has ended before the later one begins, but it ends after it.
    obtain ⟨result, hended⟩ := horder _ r o' _ hbegins s o (by simp)
    have hturns := (ht.begun_before_end hends (if_pos rfl)).1
    exact not_refreshed_of_turns hturns result (List.mem_append_left _ hended)

/-! ## Two refreshes -/

/-- An output with one feed. -/
def team : Output := ⟨"Team", "team.ics", 15, [⟨"rota", "https://rota", [], []⟩]⟩

/-- What is handed out to every merge. -/
def teamTools : Tools := ⟨⟨"20240501T120000Z", fun _ => "id"⟩, "1ms"⟩

/-- An event of the feed. -/
def teamEvent : Calendar.Component := ⟨"VEVENT", ∅, ∅, []⟩

/-- The calendar of the output. -/
def teamCalendar (events : List Calendar.Component) : Merged :=
  Merge.assemble teamTools.issue team [⟨⟨"rota", "https://rota", [], []⟩, events⟩]

/-- The output is started with an empty calendar, and two refreshes begin. -/
def twoRefreshes (moves : List Move) : Traffic :=
  (Traffic.quiet (fun _ => teamTools) [] false).play
    ([.start team, .arrive 0 (.ok []), .refresh 0, .refresh 0] ++ moves)

/-- The log if the refresh that begins first ends last. -/
theorem log_slow_refresh :
    (twoRefreshes [.arrive 2 (.ok [teamEvent]), .serve 0, .arrive 1 (.ok []), .serve 0]).log =
      [.launched 0 none team, .fetched 0 (.ok []), .started 0 0 team ⟨1, teamCalendar []⟩,
        .launched 1 (some 0) team, .launched 2 (some 0) team, .fetched 2 (.ok [teamEvent]),
        .refreshed 2 0 (.ok ⟨2, teamCalendar [teamEvent]⟩),
        .served 0 ⟨2, teamCalendar [teamEvent]⟩, .fetched 1 (.ok []),
        .refreshed 1 0 (.ok ⟨3, teamCalendar []⟩)] ++ .served 0 ⟨3, teamCalendar []⟩ :: [] :=
  rfl

/-- The refresh that begins first ends last: its empty calendar is served after the calendar with
an event that the other one had put into the cache. -/
theorem slow_refresh_brings_old_back :
    let t := twoRefreshes [.arrive 2 (.ok [teamEvent]), .serve 0, .arrive 1 (.ok []), .serve 0]
    (teamCalendar [teamEvent]).eventCount = 1 ∧ (teamCalendar []).eventCount = 0 ∧
      .served 0 ⟨2, teamCalendar [teamEvent]⟩ ∈ t.log ∧
      t.log.getLast? = some (.served 0 ⟨3, teamCalendar []⟩) ∧ ¬NeverOlder 0 t.log := by
  intro t
  have hlog := log_slow_refresh
  refine ⟨by decide +kernel, by decide +kernel, ?_, ?_, ?_⟩
  · rw [hlog]
    simp
  · rw [hlog]
    rfl
  · intro hnever
    refine hnever _ _ [] hlog 1 2 ⟨2, teamCalendar [teamEvent]⟩ ?_ ?_ (by decide)
    · simp [puts, Happening.putBy?]
    · simp [puts, Happening.putBy?]

end Almanac.Service
