import Almanac.Proofs.Service.Traffic

/-!
# Sessions that reflect a log

A session reflects a log if its stations are those that the log has started, each with
a cache and a served name of its own, and if each cache holds the calendar that was
last put into it. Every operation of a traffic keeps a session in step with its log.
-/

namespace Almanac.Service

open Config (Output)
open Merge (Merged MergeFailure Outcome)

/-! ## One more happening -/

@[simp] theorem lastPut?_append (station : Nat) (log : List Happening) (h : Happening) :
    lastPut? station (log ++ [h]) = (h.put? station).or (lastPut? station log) := by
  unfold lastPut?
  cases hput : h.put? station <;> simp [hput]

@[simp] theorem outputOf?_append (station : Nat) (log : List Happening) (h : Happening) :
    outputOf? station (log ++ [h]) = (outputOf? station log).or (h.output? station) := by
  simp [outputOf?, List.findSome?_append]

@[simp] theorem arrivals_append (flight : Nat) (log : List Happening) (h : Happening) :
    arrivals flight (log ++ [h]) = arrivals flight log ++ (h.arrival? flight).toList := by
  cases harrival : h.arrival? flight <;> simp [arrivals, harrival]

/-! ## What a step leaves alone -/

namespace World

@[simp] theorem apply_caches (w : World) (effect : Effect) :
    (w.apply effect).caches = w.caches := by
  cases effect <;> rfl

@[simp] theorem apply_tools (w : World) (effect : Effect) : (w.apply effect).tools = w.tools := by
  cases effect <;> rfl

@[simp] theorem applyAll_caches (w : World) (effects : List Effect) :
    (w.applyAll effects).caches = w.caches := by
  induction effects generalizing w with
  | nil => rfl
  | cons effect effects ih => exact (ih (w.apply effect)).trans (w.apply_caches effect)

@[simp] theorem applyAll_tools (w : World) (effects : List Effect) :
    (w.applyAll effects).tools = w.tools := by
  induction effects generalizing w with
  | nil => rfl
  | cons effect effects ih => exact (ih (w.apply effect)).trans (w.apply_tools effect)

@[simp] theorem countMerge_caches (w : World) (p : Progress) :
    (w.countMerge p).caches = w.caches := by
  unfold countMerge
  split <;> rfl

@[simp] theorem countMerge_tools (w : World) (p : Progress) :
    (w.countMerge p).tools = w.tools := by
  unfold countMerge
  split <;> rfl

@[simp] theorem settleStep_caches (w : World) (step : Progress × List Effect) :
    (w.settleStep step).2.caches = w.caches := by
  simp [settleStep]

@[simp] theorem settleStep_tools (w : World) (step : Progress × List Effect) :
    (w.settleStep step).2.tools = w.tools := by
  simp [settleStep]

end World

theorem getElem?_snoc {α : Type} (list : List α) (a : α) (i : Nat) :
    (list ++ [a])[i]? = if i = list.length then some a else list[i]? := by
  rw [List.getElem?_append]
  split
  next hlt => rw [if_neg (Nat.ne_of_lt hlt)]
  next hnot =>
    split
    next heq => simp [heq]
    next hne =>
      rw [List.getElem?_eq_none (by omega : list.length ≤ i)]
      exact List.getElem?_eq_none (by simp only [List.length_singleton]; omega)

/-! ## Reflection -/

/-- The session and the log tell the same about stations, their outputs and their calendars. -/
structure Session.Reflects (tools : Nat → Tools) (hasMetrics : Bool) (s : Session)
    (log : List Happening) : Prop where
  tools_eq : s.world.tools = tools
  hasMetrics_eq : s.hasMetrics = hasMetrics
  length_eq : s.stations.length = s.world.caches.length
  cache_eq : ∀ (i : Nat) (st : Station), s.stations[i]? = some st → st.cache = some i
  served_eq : s.served = s.stations.mapIdx fun i st => ⟨st.output.key, i⟩
  output_eq : ∀ i, s.output? i = outputOf? i log
  edition_eq : ∀ i : Nat, s.world.caches[i]?.map Cache.current = lastPut? i log

namespace Session.Reflects

variable {tools : Nat → Tools} {hasMetrics : Bool} {s : Session} {log : List Happening}

theorem cacheOf?_eq (hs : s.Reflects tools hasMetrics log) (i : Nat) :
    s.cacheOf? i = if i < s.stations.length then some i else none := by
  unfold cacheOf?
  split
  next hlt =>
    rw [List.getElem?_eq_getElem hlt]
    exact hs.cache_eq i _ (List.getElem?_eq_getElem hlt)
  next hnot => rw [List.getElem?_eq_none (Nat.le_of_not_lt hnot)]; rfl

theorem edition?_eq (hs : s.Reflects tools hasMetrics log) (i : Nat) :
    s.edition? i = lastPut? i log := by
  rw [← hs.edition_eq i, edition?, cache?, hs.cacheOf?_eq]
  split
  next => rfl
  next hnot =>
    rw [List.getElem?_eq_none (hs.length_eq ▸ Nat.le_of_not_lt hnot)]
    rfl

theorem lt_length_of_output (hs : s.Reflects tools hasMetrics log) {i : Nat} {o : Output}
    (ho : outputOf? i log = some o) : i < s.stations.length := by
  rw [← hs.output_eq i, output?, Option.map_eq_some_iff] at ho
  obtain ⟨st, hst, _⟩ := ho
  exact (List.getElem?_eq_some_iff.mp hst).1

theorem cacheOf?_of_output (hs : s.Reflects tools hasMetrics log) {i : Nat} {o : Output}
    (ho : outputOf? i log = some o) : s.cacheOf? i = some i := by
  rw [hs.cacheOf?_eq, if_pos (hs.lt_length_of_output ho)]

/-- A station that has been started has a calendar. -/
theorem put_of_output (hs : s.Reflects tools hasMetrics log) {i : Nat} {o : Output}
    (ho : outputOf? i log = some o) : ∃ e, lastPut? i log = some e := by
  have hi := hs.lt_length_of_output ho
  rw [hs.length_eq] at hi
  exact ⟨_, (hs.edition_eq i).symm.trans (congrArg (Option.map Cache.current)
    (List.getElem?_eq_getElem hi))⟩

/-- The calendars under the names of the stations are those that were last put into the caches. -/
theorem mem_servedCalendars (hs : s.Reflects tools hasMetrics log) {key : String} {m : Merged} :
    (key, m) ∈ s.servedCalendars ↔ ∃ i o e,
      outputOf? i log = some o ∧ o.key = key ∧ lastPut? i log = some e ∧ e.merged = m := by
  simp only [Session.servedCalendars, hs.served_eq, List.mem_filterMap, List.mem_mapIdx]
  constructor
  · rintro ⟨_, ⟨i, hi, rfl⟩, hentry⟩
    obtain ⟨cache, hcache, hpair⟩ := Option.map_eq_some_iff.mp hentry
    obtain ⟨rfl, rfl⟩ := Prod.mk.inj hpair
    refine ⟨i, s.stations[i].output, cache.current, ?_, rfl, ?_, rfl⟩
    · rw [← hs.output_eq, Session.output?, List.getElem?_eq_getElem hi]
      rfl
    · rw [← hs.edition_eq, hcache]
      rfl
  · rintro ⟨i, o, e, ho, rfl, he, rfl⟩
    have hi := hs.lt_length_of_output ho
    rw [← hs.output_eq, Session.output?, List.getElem?_eq_getElem hi] at ho
    obtain rfl := Option.some.inj ho
    rw [← hs.edition_eq] at he
    obtain ⟨cache, hcache, rfl⟩ := Option.map_eq_some_iff.mp he
    refine ⟨_, ⟨i, hi, rfl⟩, ?_⟩
    rw [hcache]
    rfl

/-- A happening that starts nothing and puts nothing into a cache. -/
theorem note (hs : s.Reflects tools hasMetrics log) (h : Happening)
    (hput : ∀ i, h.put? i = none) (houtput : ∀ i, h.output? i = none) :
    s.Reflects tools hasMetrics (log ++ [h]) where
  tools_eq := hs.tools_eq
  hasMetrics_eq := hs.hasMetrics_eq
  length_eq := hs.length_eq
  cache_eq := hs.cache_eq
  served_eq := hs.served_eq
  output_eq i := by rw [outputOf?_append, houtput, Option.or_none, hs.output_eq]
  edition_eq i := by rw [lastPut?_append, hput, Option.none_or, hs.edition_eq]

/-- The world may change as long as its caches stay. -/
theorem world (hs : s.Reflects tools hasMetrics log) (w : World) (htools : w.tools = s.world.tools)
    (hcaches : w.caches = s.world.caches) :
    ({ s with world := w } : Session).Reflects tools hasMetrics log where
  tools_eq := htools.trans hs.tools_eq
  hasMetrics_eq := hs.hasMetrics_eq
  length_eq := hs.length_eq.trans (congrArg List.length hcaches.symm)
  cache_eq := hs.cache_eq
  served_eq := hs.served_eq
  output_eq := hs.output_eq
  edition_eq i := by rw [← hs.edition_eq i, ← hcaches]

/-- A cache may change as long as its calendar stays. -/
theorem updateCache (hs : s.Reflects tools hasMetrics log) (c : Nat) (f : Cache → Cache)
    (hf : ∀ cache, (f cache).current = cache.current) :
    ({ s with world := s.world.updateCache c f } : Session).Reflects tools hasMetrics log where
  tools_eq := hs.tools_eq
  hasMetrics_eq := hs.hasMetrics_eq
  length_eq := hs.length_eq.trans (List.length_modify f s.world.caches c).symm
  cache_eq := hs.cache_eq
  served_eq := hs.served_eq
  output_eq := hs.output_eq
  edition_eq i := by
    rw [← hs.edition_eq i]
    simp only [World.updateCache, List.getElem?_modify]
    cases s.world.caches[i]? with
    | none => rfl
    | some cache => by_cases hc : c = i <;> simp [hc, hf]

theorem openRefresh (hs : s.Reflects tools hasMetrics log) (i : Nat) :
    (s.openRefresh i).Reflects tools hasMetrics log := by
  unfold Session.openRefresh
  split
  next c _ => exact hs.updateCache c Cache.opened fun _ => rfl
  next => exact hs

theorem closeRefresh_error (hs : s.Reflects tools hasMetrics log) (flight i : Nat)
    (failure : MergeFailure) :
    (s.closeRefresh i (.error failure)).Reflects tools hasMetrics
      (log ++ [.refreshed flight i (.error failure)]) := by
  have hclosed : (s.closeRefresh i (.error failure)).Reflects tools hasMetrics log := by
    unfold Session.closeRefresh
    split
    next c _ => exact hs.updateCache c _ fun _ => rfl
    next => exact hs
  exact hclosed.note _ (fun _ => rfl) fun _ => rfl

/-- A successful refresh of a station puts its calendar into the cache of that station. -/
theorem closeRefresh_ok (hs : s.Reflects tools hasMetrics log) (flight i : Nat) (m : Merged)
    (hi : i < s.stations.length) :
    (s.closeRefresh i (.ok m)).Reflects tools hasMetrics
      (log ++ [.refreshed flight i (.ok ⟨s.world.merges, m⟩)]) := by
  have hcache : s.cacheOf? i = some i := by rw [hs.cacheOf?_eq, if_pos hi]
  have hclosed : s.closeRefresh i (.ok m) =
      { s with world := s.world.closeRefresh i (.ok m) } := by
    simp only [Session.closeRefresh, hcache]
  rw [hclosed]
  exact
    { tools_eq := hs.tools_eq
      hasMetrics_eq := hs.hasMetrics_eq
      length_eq := hs.length_eq.trans (List.length_modify _ s.world.caches i).symm
      cache_eq := hs.cache_eq
      served_eq := hs.served_eq
      output_eq := fun j => by
        rw [outputOf?_append, ← hs.output_eq j]
        exact (Option.or_none).symm
      edition_eq := fun j => by
        rw [lastPut?_append, ← hs.edition_eq j]
        simp only [World.closeRefresh, World.updateCache, List.getElem?_modify, Happening.put?]
        -- The cache of this station gets the calendar, the others keep theirs.
        by_cases hj : i = j
        · subst j
          rw [List.getElem?_eq_getElem (hs.length_eq ▸ hi)]
          simp [Cache.closed]
        · cases s.world.caches[j]? <;> simp [hj] }

/-- A start gives the output the next station, whose cache holds the first calendar. -/
theorem openStation (hs : s.Reflects tools hasMetrics log) (flight : Nat) (o : Output)
    (m : Merged) :
    (s.openStation o m).Reflects tools hasMetrics
      (log ++ [.started flight s.stations.length o ⟨s.world.merges, m⟩]) where
  tools_eq := hs.tools_eq
  hasMetrics_eq := hs.hasMetrics_eq
  length_eq := by simp [Session.openStation, hs.length_eq]
  cache_eq i st hst := by
    simp only [Session.openStation, getElem?_snoc] at hst
    split at hst
    next hi =>
      obtain rfl := Option.some.inj hst
      rw [hi, hs.length_eq]
    next => exact hs.cache_eq i st hst
  served_eq := by
    simp only [Session.openStation, List.mapIdx_concat, ← hs.served_eq, hs.length_eq]
  output_eq i := by
    have hi := hs.output_eq i
    rw [outputOf?_append, ← hi]
    simp only [Session.output?, Session.openStation, getElem?_snoc, Happening.output?]
    by_cases hlast : i = s.stations.length
    · simp [hlast]
    · rw [if_neg hlast, if_neg (Ne.symm hlast), Option.or_none]
  edition_eq i := by
    rw [lastPut?_append, ← hs.edition_eq i]
    simp only [Session.openStation, getElem?_snoc, Happening.put?, hs.length_eq]
    by_cases hlast : i = s.world.caches.length
    · simp [hlast, Cache.ofEdition]
    · rw [if_neg hlast, if_neg (Ne.symm hlast), Option.none_or]

end Session.Reflects

end Almanac.Service
