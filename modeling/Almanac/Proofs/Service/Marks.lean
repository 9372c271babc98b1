import Almanac.Proofs.Service.Overlap

/-!
# Marks on caches

A cache has one mark for all refreshes of its station: each of them puts it on when it begins
and takes it off when it ends. So the mark tells which of the two happened last. A marked
station is being refreshed; one without a mark may be refreshed too, if another refresh has
ended meanwhile.
-/

namespace Almanac.Service

open Config (Output)
open Merge (Merged MergeFailure Outcome)

/-- The mark that a happening leaves on the cache of a station. -/
def Happening.mark? (station : Nat) : Happening → Option Bool
  | .launched _ i _ => if i = some station then some true else none
  | .started _ i _ _ => if i = station then some false else none
  | .refreshed _ i _ => if i = station then some false else none
  | _ => none

/-- The mark that was last left on the cache of a station. -/
def lastMark? (station : Nat) (log : List Happening) : Option Bool :=
  (log.filterMap (Happening.mark? station)).getLast?

@[simp] theorem lastMark?_append (station : Nat) (log : List Happening) (h : Happening) :
    lastMark? station (log ++ [h]) = (h.mark? station).or (lastMark? station log) := by
  unfold lastMark?
  cases hmark : h.mark? station <;> simp [hmark]

/-- A refresh of the station has begun and has not ended. -/
def Traffic.IsRefreshing (t : Traffic) (station : Nat) : Prop :=
  ∃ (k : Nat) (f : Flight), t.flights[k]? = some (some f) ∧ f.station = some station

/-- Another refresh of the station has ended since the refresh of this flight began. -/
def EndedSince (station flight : Nat) (log : List Happening) : Prop :=
  ∃ a o b j r c, log =
    a ++ .launched flight (some station) o :: (b ++ .refreshed j station r :: c) ∧ j ≠ flight

/-! ## Marks of a world -/

/-- Every cache has the mark that the log tells of. -/
def World.Marked (w : World) (log : List Happening) : Prop :=
  ∀ i : Nat, w.caches[i]?.map Cache.refreshing = lastMark? i log

namespace World.Marked

variable {w : World} {log : List Happening}

theorem of_caches_eq (hw : w.Marked log) {w' : World} (hcaches : w'.caches = w.caches) :
    w'.Marked log := by
  intro i
  rw [hcaches]
  exact hw i

theorem note (hw : w.Marked log) (h : Happening) (hmark : ∀ i, h.mark? i = none) :
    w.Marked (log ++ [h]) := by
  intro i
  rw [lastMark?_append, hmark, Option.none_or]
  exact hw i

/-- One cache gets a mark. -/
theorem updateCache (hw : w.Marked log) {i : Nat} (hi : i < w.caches.length) (mark : Bool)
    {f : Cache → Cache} (hf : ∀ cache, (f cache).refreshing = mark) (h : Happening)
    (hmark : ∀ j, h.mark? j = if i = j then some mark else none) :
    (w.updateCache i f).Marked (log ++ [h]) := by
  intro j
  rw [lastMark?_append, hmark, ← hw j]
  simp only [World.updateCache, List.getElem?_modify]
  by_cases hj : i = j
  · subst j
    rw [List.getElem?_eq_getElem hi]
    simp [hf]
  · cases w.caches[j]? <;> simp [hj]

/-- A new cache has no mark. -/
theorem openCache (hw : w.Marked log) (flight : Nat) (o : Output) (e : Edition) :
    ({ w with caches := w.caches ++ [.ofEdition e] } : World).Marked
      (log ++ [.started flight w.caches.length o e]) := by
  intro j
  rw [lastMark?_append, ← hw j]
  simp only [getElem?_snoc, Happening.mark?]
  by_cases hj : j = w.caches.length
  · simp [hj, Cache.ofEdition]
  · rw [if_neg hj, if_neg (Ne.symm hj), Option.none_or]

end World.Marked

/-! ## Marks of a traffic -/

namespace Traffic

/-- The caches have the marks that the log tells of. -/
def Marked (t : Traffic) : Prop := t.session.world.Marked t.log

namespace Marked

variable {t : Traffic} {tools : Nat → Tools} {hasMetrics : Bool}

theorem conclude (ht : t.Marked) (hs : t.session.Reflects tools hasMetrics t.log) (k : Nat)
    {station : Option Nat} {o : Output}
    (hstation : ∀ i, station = some i → outputOf? i t.log = some o)
    (r : Except MergeFailure Merged) : (t.conclude k station o r).Marked := by
  cases station with
  | none =>
      cases r with
      | ok m =>
          have hopened := World.Marked.openCache ht k o ⟨t.session.world.merges, m⟩
          rw [← hs.length_eq] at hopened
          exact hopened
      | error failure => exact World.Marked.note ht _ fun _ => rfl
  | some i =>
      have hi : i < t.session.world.caches.length :=
        hs.length_eq ▸ hs.lt_length_of_output (hstation i rfl)
      have hclosed : (t.session.closeRefresh i r).world = t.session.world.closeRefresh i r := by
        simp only [Session.closeRefresh, hs.cacheOf?_of_output (hstation i rfl)]
      have hmarked : ∀ r', (t.session.closeRefresh i r).world.Marked
          (t.log ++ [.refreshed k i r']) := by
        intro r'
        rw [hclosed]
        refine World.Marked.updateCache ht hi false (fun cache => ?_) _ fun _ => rfl
        cases r <;> rfl
      cases r with
      | ok m => exact hmarked _
      | error failure => exact hmarked _

theorem advance (ht : t.Marked) (hs : t.session.Reflects tools hasMetrics t.log) (k : Nat)
    {station : Option Nat} {o : Output}
    (hstation : ∀ i, station = some i → outputOf? i t.log = some o)
    (step : Progress × List Effect) : (t.advance k station o step).Marked := by
  have hsettled : ({ t with session := { t.session with
      world := (t.session.world.settleStep step).2 } } : Traffic).Marked :=
    World.Marked.of_caches_eq ht (World.settleStep_caches _ step)
  obtain ⟨p, effects⟩ := step
  cases p with
  | waiting c => exact hsettled
  | finished r => exact hsettled.conclude (hs.world _ (by simp) (by simp)) k hstation r

/-- A flight begins, and the mark that it leaves is there already. -/
theorem launch (hs : t.session.Reflects tools hasMetrics t.log) {station : Option Nat} {o : Output}
    (hmarked : t.session.world.Marked (t.log ++ [.launched t.flights.length station o]))
    (purpose : Purpose) (hstation : ∀ i, station = some i → outputOf? i t.log = some o) :
    (t.launch station purpose o).Marked := by
  have hboarded : (Traffic.note { t with flights := t.flights ++ [none] }
      (.launched t.flights.length station o)).Marked := hmarked
  have hreflects := hs.note (.launched t.flights.length station o) (fun _ => rfl) fun _ => rfl
  exact hboarded.advance hreflects _ (fun i hi => outputOf?_append_of_some (hstation i hi) _) _

/-- The mark is put on when a refresh begins, before its first step. -/
theorem refresh (ht : t.Marked) (hs : t.session.Reflects tools hasMetrics t.log) (i : Nat) :
    (t.move (.refresh i)).Marked := by
  simp only [Traffic.move]
  split
  next o ho =>
    rw [hs.output_eq] at ho
    have hopened : (t.session.openRefresh i).world =
        t.session.world.updateCache i Cache.opened := by
      simp only [Session.openRefresh, hs.cacheOf?_of_output ho]
    refine Marked.launch (t := { t with session := t.session.openRefresh i })
      (hs.openRefresh i) ?_ .refresh fun j hj => ?_
    · simp only [hopened]
      apply World.Marked.updateCache ht (hs.length_eq ▸ hs.lt_length_of_output ho) true
      · exact fun _ => rfl
      · intro j
        simp [Happening.mark?]
    · obtain rfl := Option.some.inj hj
      exact ho
  next => exact ht

theorem arrive (ht : t.Marked) (hsound : t.Sound tools hasMetrics) (k : Nat) (outcome : Outcome) :
    (t.move (.arrive k outcome)).Marked := by
  simp only [Traffic.move]
  split
  next f hf =>
    have hfetched : (Traffic.note { t with flights := t.flights.set k none }
        (.fetched k outcome)).Marked := World.Marked.note ht _ fun _ => rfl
    have hreflects := hsound.reflects.note (.fetched k outcome) (fun _ => rfl) fun _ => rfl
    have houtput := (hsound.underWay k f hf).output_eq
    exact hfetched.advance hreflects k (fun i hi => outputOf?_append_of_some (houtput i hi) _) _
  next => exact ht

theorem move (ht : t.Marked) (hsound : t.Sound tools hasMetrics) (m : Move) :
    (t.move m).Marked := by
  cases m with
  | start o =>
      apply Marked.launch hsound.reflects _ .bootstrap
      · exact fun _ hnone => by cases hnone
      · exact World.Marked.note ht _ fun _ => rfl
  | refresh i => exact ht.refresh hsound.reflects i
  | arrive k outcome => exact ht.arrive hsound k outcome
  | serve i =>
      simp only [Traffic.move]
      split
      next e _ => exact World.Marked.note ht _ fun _ => rfl
      next => exact ht
  | get r =>
      have hanswered : (t.session.request r).2.world.Marked t.log :=
        World.Marked.of_caches_eq ht (World.applyAll_caches _ _)
      exact hanswered.note _ fun _ => rfl

theorem play (ht : t.Marked) (hsound : t.Sound tools hasMetrics) (moves : List Move) :
    (t.play moves).Marked := by
  induction moves generalizing t with
  | nil => exact ht
  | cons m moves ih => exact ih (ht.move hsound m) (hsound.move m)

end Marked

end Traffic

/-! ## What a mark tells -/

theorem cache?_eq {s : Session} {tools : Nat → Tools} {hasMetrics : Bool} {log : List Happening}
    (hs : s.Reflects tools hasMetrics log) (i : Nat) : s.cache? i = s.world.caches[i]? := by
  rw [Session.cache?, hs.cacheOf?_eq]
  split
  next => rfl
  next hnot => exact (List.getElem?_eq_none (hs.length_eq ▸ Nat.le_of_not_lt hnot)).symm

theorem mark?_eq_some_true {station : Nat} {h : Happening} (hmark : h.mark? station = some true) :
    ∃ k o, h = .launched k (some station) o := by
  cases h <;> simp only [Happening.mark?] at hmark
  case launched k i o =>
    split at hmark
    next hi => exact ⟨k, o, by rw [hi]⟩
    next => cases hmark
  case started => split at hmark <;> cases hmark
  case refreshed => split at hmark <;> cases hmark
  all_goals cases hmark

theorem mark?_eq_some_false {station : Nat} {h : Happening}
    (hmark : h.mark? station = some false) :
    (∃ k o e, h = .started k station o e) ∨ ∃ k r, h = .refreshed k station r := by
  cases h <;> simp only [Happening.mark?] at hmark
  case launched => split at hmark <;> cases hmark
  case started k i o e =>
    split at hmark
    next hi => exact .inl ⟨k, o, e, by rw [hi]⟩
    next => cases hmark
  case refreshed k i r =>
    split at hmark
    next hi => exact .inr ⟨k, r, by rw [hi]⟩
    next => cases hmark
  all_goals cases hmark

/-- The happening that left the last mark, with none after it. -/
theorem exists_last_mark {station : Nat} {log : List Happening} {mark : Bool}
    (hlast : lastMark? station log = some mark) :
    ∃ before h after, log = before ++ h :: after ∧ h.mark? station = some mark ∧
      ∀ g ∈ after, g.mark? station = none := by
  obtain ⟨front, hfront⟩ := List.getLast?_eq_some_iff.mp hlast
  obtain ⟨first, second, rfl, _, hsecond⟩ := List.filterMap_eq_append_iff.mp hfront
  obtain ⟨skipped, h, after, rfl, _, hmark, hafter⟩ := List.filterMap_eq_cons_iff.mp hsecond
  exact ⟨first ++ skipped, h, after, by simp, hmark, List.filterMap_eq_nil_iff.mp hafter⟩

section Marks

variable {t : Traffic} {tools : Nat → Tools} {hasMetrics : Bool} {station : Nat}

/-- A refresh that ends leaves a mark. -/
theorem mark?_of_turn {k : Nat} {h : Happening} (hturn : h.turn? k = some (.ends (some station))) :
    h.mark? station = some false := by
  cases h with
  | refreshed j i r =>
      simp only [Happening.turn?, Option.ite_none_right_eq_some, Option.some.injEq,
        Turn.ends.injEq] at hturn
      exact if_pos hturn.2
  | launched | started | failed => simp [Happening.turn?] at hturn
  | _ => cases hturn

/-- The refresh that put the mark on has not ended. -/
theorem isRefreshing_of_mark (ht : t.Orderly none)
    (hlast : lastMark? station t.log = some true) : t.IsRefreshing station := by
  obtain ⟨before, h, after, hlog, hmark, hafter⟩ := exists_last_mark hlast
  obtain ⟨k, o, rfl⟩ := mark?_eq_some_true hmark
  have hturns : turns k t.log = turns k before ++ .begins (some station) :: turns k after := by
    simp [hlog, turns, Happening.turn?]
  have hfit := ht.fits k
  rw [hturns] at hfit
  rcases hfit.of_begins with ⟨f, hf, hstation⟩ | hends
  · exact ⟨k, f, hf, hstation⟩
  · -- Its end would have left another mark.
    obtain ⟨g, hg, hturn⟩ := List.mem_filterMap.mp hends
    have hnone := hafter g hg
    rw [mark?_of_turn hturn] at hnone
    cases hnone

/-- A refresh is under way without a mark: another one has taken it off. -/
theorem endedSince_of_unmarked (hsound : t.Sound tools hasMetrics) (ht : t.Orderly none)
    (hlast : lastMark? station t.log = some false) {k : Nat} {f : Flight}
    (hf : t.flights[k]? = some (some f)) (hstation : f.station = some station) :
    EndedSince station k t.log := by
  have hturns := ht.turns_of_flight hf
  rw [hstation] at hturns
  obtain ⟨o, hlaunched⟩ := mem_of_turns hturns
  obtain ⟨before, h, after, hlog, hmark, hafter⟩ := exists_last_mark hlast
  have hbefore : .launched k (some station) o ∈ before := by
    rw [hlog] at hlaunched
    rcases List.mem_append.mp hlaunched with hmem | hmem
    · exact hmem
    · rcases List.mem_cons.mp hmem with rfl | hmem
      · simp [Happening.mark?] at hmark
      · have hnone := hafter _ hmem
        simp [Happening.mark?] at hnone
  obtain ⟨a, b, rfl⟩ := List.append_of_mem hbefore
  rcases mark?_eq_some_false hmark with ⟨j, o', e, rfl⟩ | ⟨j, r, rfl⟩
  · -- The station was known when the refresh began, so it was not started after that.
    have hknown := ht.station_known a k station o (b ++ .started j station o' e :: after) (by
      rw [hlog, List.append_assoc, List.cons_append])
    have hnew := (hsound.justified _ _ _ hlog).1
    rw [outputOf?_append_of_some hknown] at hnew
    cases hnew
  · refine ⟨a, o, b, j, r, after, by rw [hlog, List.append_assoc, List.cons_append], ?_⟩
    rintro rfl
    have hended : .refreshed j station r ∈ t.log := by simp [hlog]
    exact not_refreshed_of_turns hturns r hended

/-- While refreshes follow one after another, none ends during another. -/
theorem not_endedSince (ht : t.Orderly none) (horder : OneAfterAnother station t.log) {k : Nat}
    {f : Flight} (hf : t.flights[k]? = some (some f)) : ¬EndedSince station k t.log := by
  rintro ⟨a, o, b, j, r, c, hlog, hne⟩
  have hturns := ht.turns_of_flight hf
  have hend : t.log = (a ++ .launched k (some station) o :: b) ++ .refreshed j station r :: c := by
    rw [hlog, List.append_assoc, List.cons_append]
  obtain ⟨hbegun, hlater⟩ := ht.begun_before_end hend (k := j) (if_pos rfl)
  obtain ⟨o', hmem⟩ := mem_of_turns hbegun
  rcases List.mem_append.mp hmem with hmem | hmem
  · -- The other refresh began first, so it had ended before this one began.
    obtain ⟨r', hended⟩ := horder a k o _ hlog j o' hmem
    exact not_refreshed_of_turns hbegun r' (List.mem_append_left _ hended)
  · rcases List.mem_cons.mp hmem with heq | hmem
    · exact hne (Happening.launched.inj heq).1
    · -- It began later, when this one had not ended.
      obtain ⟨p, q, rfl⟩ := List.append_of_mem hmem
      have hsplit : t.log = (a ++ .launched k (some station) o :: p) ++
          .launched j (some station) o' :: (q ++ .refreshed j station r :: c) := by
        simp [hlog]
      obtain ⟨r', hended⟩ := horder _ j o' _ hsplit k o (by simp)
      apply not_refreshed_of_turns hturns r'
      rw [hsplit]
      exact List.mem_append_left _ hended

end Marks

/-- However the refreshes of a station overlap, its cache is marked if and only if the last of
their beginnings and ends was a beginning. So a marked station is being refreshed; if one without a
mark is being refreshed too, another of its refreshes has ended since. The mark is exact as long as
refreshes follow one after another. -/
theorem mark_tells_last_turn (tools : Nat → Tools) (sinks : List Sink) (hasMetrics : Bool)
    (moves : List Move) (station : Nat) :
    let t := (Traffic.quiet tools sinks hasMetrics).play moves
    ∀ cache, t.session.cache? station = some cache →
      (cache.refreshing = true ↔ lastMark? station t.log = some true) ∧
      (cache.refreshing = true → t.IsRefreshing station) ∧
      (cache.refreshing = false → ∀ (k : Nat) (f : Flight), t.flights[k]? = some (some f) →
        f.station = some station → EndedSince station k t.log) ∧
      (OneAfterAnother station t.log → (cache.refreshing = true ↔ t.IsRefreshing station)) := by
  intro t cache hcache
  have hquiet := Traffic.Sound.quiet tools sinks hasMetrics
  have hsound : t.Sound tools hasMetrics := hquiet.play moves
  have ht : t.Orderly none := (Traffic.Orderly.quiet tools sinks hasMetrics).play hquiet moves
  have hmarked : t.Marked := Traffic.Marked.play (fun _ => rfl) hquiet moves
  rw [cache?_eq hsound.reflects] at hcache
  have hlast : lastMark? station t.log = some cache.refreshing := by
    rw [← hmarked station, hcache, Option.map_some]
  have hexact : cache.refreshing = true ↔ lastMark? station t.log = some true := by
    rw [hlast, Option.some.injEq]
  have hended : cache.refreshing = false → ∀ (k : Nat) (f : Flight),
      t.flights[k]? = some (some f) → f.station = some station → EndedSince station k t.log :=
    fun hunmarked k f hf hstation =>
      endedSince_of_unmarked hsound ht (hlast.trans (congrArg some hunmarked)) hf hstation
  refine ⟨hexact, fun hmark => isRefreshing_of_mark ht (hexact.mp hmark), hended, fun horder => ?_⟩
  constructor
  · exact fun hmark => isRefreshing_of_mark ht (hexact.mp hmark)
  · rintro ⟨k, f, hf, hstation⟩
    by_contra hnot
    have hunmarked := Bool.eq_false_of_not_eq_true hnot
    exact not_endedSince ht horder hf (hended hunmarked k f hf hstation)

/-- Two refreshes have begun, and the first of them ends: the second is still under way, but the
cache has no mark any more. -/
theorem first_end_takes_mark_off :
    let t := twoRefreshes [.arrive 1 (.ok [])]
    t.IsRefreshing 0 ∧ ∃ cache, t.session.cache? 0 = some cache ∧ cache.refreshing = false := by
  intro t
  refine ⟨⟨2, ⟨some 0, ⟨.refresh, team, [], ⟨"rota", "https://rota", [], []⟩, []⟩⟩, ?_, rfl⟩, ?_⟩
  · rfl
  · exact ⟨_, rfl, rfl⟩

end Almanac.Service
