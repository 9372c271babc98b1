import Almanac.Proofs.Service.Mirror

/-!
# Lifetimes of flights

Every flight is launched once and ends once at most, and flights are numbered in the order
in which they are launched. Calendars are numbered in the order in which their merges end.
So the log tells which of two flights began first, which of two calendars was put into a
cache last, and by which flight.
-/

namespace Almanac.Service

open Config (Output)
open Merge (Merged MergeFailure Outcome)

/-- The beginning or the end of a flight, for a start or for the refresh of a station. -/
inductive Turn where
  | begins (station : Option Nat)
  | ends (station : Option Nat)
deriving DecidableEq

namespace Happening

/-- The number of the flight that is launched. -/
def launch? : Happening → Option Nat
  | .launched k _ _ => some k
  | _ => none

/-- The flight of this number begins or ends. -/
def turn? (flight : Nat) : Happening → Option Turn
  | .launched k station _ => if k = flight then some (.begins station) else none
  | .started k _ _ _ => if k = flight then some (.ends none) else none
  | .failed k _ _ => if k = flight then some (.ends none) else none
  | .refreshed k i _ => if k = flight then some (.ends (some i)) else none
  | _ => none

/-- The calendar that is put into a cache. -/
def edition? : Happening → Option Edition
  | .started _ _ _ e => some e
  | .refreshed _ _ (.ok e) => some e
  | _ => none

/-- The flight that puts its calendar into the cache of a station, and the calendar. -/
def putBy? (station : Nat) : Happening → Option (Nat × Edition)
  | .started k i _ e => if i = station then some (k, e) else none
  | .refreshed k i (.ok e) => if i = station then some (k, e) else none
  | _ => none

end Happening

/-- The flights that were launched, in order. -/
def launches (log : List Happening) : List Nat := log.filterMap Happening.launch?

/-- The beginning and the end of a flight, in order. -/
def turns (flight : Nat) (log : List Happening) : List Turn :=
  log.filterMap (Happening.turn? flight)

/-- The calendars that were put into caches, in order. -/
def editions (log : List Happening) : List Edition := log.filterMap Happening.edition?

/-- The calendars that were put into the cache of a station, in order, each with its flight. -/
def puts (station : Nat) (log : List Happening) : List (Nat × Edition) :=
  log.filterMap (Happening.putBy? station)

/-- What the log tells of a flight, and what stands at its place: nothing before its beginning, the
flight while it is under way, and a gap after its end. -/
def TurnsFit : Option (Option Flight) → List Turn → Prop
  | none, turns => turns = []
  | some (some f), turns => turns = [.begins f.station]
  | some none, turns => ∃ station, turns = [.begins station, .ends station]

theorem TurnsFit.of_ends {place : Option (Option Flight)} {first second : List Turn}
    {station : Option Nat} (hfit : TurnsFit place (first ++ .ends station :: second)) :
    first = [.begins station] ∧ second = [] := by
  cases place with
  | none => simp [TurnsFit] at hfit
  | some flight =>
      cases flight with
      | some f => cases first <;> simp [TurnsFit] at hfit
      | none =>
          obtain ⟨other, hturns⟩ := hfit
          match first, hturns with
          | [], hturns => simp at hturns
          | [turn], hturns =>
              obtain ⟨rfl, rfl, rfl⟩ : turn = .begins other ∧ station = other ∧ second = [] := by
                simpa using hturns
              exact ⟨rfl, rfl⟩
          | _ :: _ :: _, hturns => simp at hturns

/-- A flight that has begun is under way, or ends later. -/
theorem TurnsFit.of_begins {place : Option (Option Flight)} {first second : List Turn}
    {station : Option Nat} (hfit : TurnsFit place (first ++ .begins station :: second)) :
    (∃ f, place = some (some f) ∧ f.station = station) ∨ .ends station ∈ second := by
  cases place with
  | none => simp [TurnsFit] at hfit
  | some flight =>
      cases flight with
      | some f =>
          left
          cases first with
          | nil => exact ⟨f, rfl, (Turn.begins.inj (List.cons.inj hfit).1).symm⟩
          | cons turn first => simp [TurnsFit] at hfit
      | none =>
          right
          obtain ⟨other, hturns⟩ := hfit
          match first, hturns with
          | [], hturns =>
              obtain ⟨rfl, rfl⟩ : station = other ∧ second = [.ends other] := by
                simpa using hturns
              exact List.mem_singleton_self _
          | [turn], hturns => simp at hturns
          | _ :: _ :: _, hturns => simp at hturns

/-! ## One more happening -/

@[simp] theorem launches_append (log : List Happening) (h : Happening) :
    launches (log ++ [h]) = launches log ++ h.launch?.toList := by
  cases hlaunch : h.launch? <;> simp [launches, hlaunch]

@[simp] theorem turns_append (flight : Nat) (log : List Happening) (h : Happening) :
    turns flight (log ++ [h]) = turns flight log ++ (h.turn? flight).toList := by
  cases hturn : h.turn? flight <;> simp [turns, hturn]

@[simp] theorem editions_append (log : List Happening) (h : Happening) :
    editions (log ++ [h]) = editions log ++ h.edition?.toList := by
  cases hedition : h.edition? <;> simp [editions, hedition]

/-- A happening of a longer log is the last one, or stands in the log before. -/
theorem split_of_snoc {log before after : List Happening} {last h : Happening}
    (hlog : log ++ [last] = before ++ h :: after) :
    (before = log ∧ h = last) ∨ ∃ rest, log = before ++ h :: rest := by
  rcases List.eq_nil_or_concat after with rfl | ⟨rest, g, rfl⟩
  · obtain ⟨rfl, heq⟩ := List.append_inj' hlog rfl
    exact .inl ⟨rfl, (List.cons.inj heq).1.symm⟩
  · rw [List.concat_eq_append, ← List.cons_append, ← List.append_assoc] at hlog
    exact .inr ⟨rest, (List.append_inj' hlog rfl).1⟩

/-! ## Orderly traffics -/

/-- Flights and calendars are numbered in order, and the log tells of each flight what its place
shows, but for one that has begun and that nobody waits for at the moment. -/
structure Traffic.Orderly (t : Traffic) (loose : Option (Nat × Option Nat)) : Prop where
  launches_eq : launches t.log = List.range t.flights.length
  turns_fit : ∀ k : Nat, (∀ station, loose ≠ some (k, station)) →
    TurnsFit t.flights[k]? (turns k t.log)
  loose_fit : ∀ k station, loose = some (k, station) →
    t.flights[k]? = some none ∧ turns k t.log = [.begins station]
  station_known : ∀ before k i o after, t.log = before ++ .launched k (some i) o :: after →
    outputOf? i before = some o
  editions_lt : (editions t.log).Pairwise fun e e' => e.number < e'.number
  editions_le : ∀ e ∈ editions t.log, e.number ≤ t.session.world.merges

namespace Traffic.Orderly

variable {t : Traffic} {loose : Option (Nat × Option Nat)}

/-- Between moves the log tells of every flight what its place shows. -/
theorem fits (ht : t.Orderly none) (k : Nat) : TurnsFit t.flights[k]? (turns k t.log) :=
  ht.turns_fit k fun _ hnone => by cases hnone

theorem turns_of_flight (ht : t.Orderly none) {k : Nat} {f : Flight}
    (hf : t.flights[k]? = some (some f)) : turns k t.log = [.begins f.station] := by
  have hfit := ht.fits k
  rw [hf] at hfit
  exact hfit

/-- The session may change as long as no calendar loses its number. -/
theorem session (ht : t.Orderly loose) (s : Session)
    (hmerges : t.session.world.merges ≤ s.world.merges) :
    ({ t with session := s } : Traffic).Orderly loose :=
  { ht with editions_le := fun e he => Nat.le_trans (ht.editions_le e he) hmerges }

/-- A happening that neither launches a flight nor ends one. -/
theorem note (ht : t.Orderly loose) (h : Happening) (hturn : ∀ k, h.turn? k = none)
    (hlaunch : h.launch? = none) (hedition : h.edition? = none) :
    (t.note h).Orderly loose where
  launches_eq := by simp [Traffic.note, hlaunch, ht.launches_eq]
  turns_fit k hk := by
    have hfit := ht.turns_fit k hk
    simpa [Traffic.note, hturn] using hfit
  loose_fit k station hk := by
    have hfit := ht.loose_fit k station hk
    simpa [Traffic.note, hturn] using hfit
  station_known before k i o after hlog := by
    rcases split_of_snoc hlog with ⟨rfl, rfl⟩ | ⟨rest, hrest⟩
    · cases hlaunch
    · exact ht.station_known before k i o rest hrest
  editions_lt := by simpa [Traffic.note, hedition] using ht.editions_lt
  editions_le e he := by
    simp only [Traffic.note, editions_append, hedition, Option.toList_none, List.append_nil] at he
    exact ht.editions_le e he

/-- A flight is launched; nobody waits for it yet. -/
theorem board (ht : t.Orderly none) (station : Option Nat) (o : Output)
    (hstation : ∀ i, station = some i → outputOf? i t.log = some o) :
    (Traffic.note { t with flights := t.flights ++ [none] }
      (.launched t.flights.length station o)).Orderly (some (t.flights.length, station)) where
  launches_eq := by
    simp [Traffic.note, Happening.launch?, ht.launches_eq, List.range_succ]
  turns_fit k hk := by
    have hne : k ≠ t.flights.length := fun heq => hk station (by rw [heq])
    have hfit := ht.fits k
    simpa [Traffic.note, Happening.turn?, getElem?_snoc, hne, Ne.symm hne] using hfit
  loose_fit k other hk := by
    obtain ⟨rfl, rfl⟩ := Prod.mk.inj (Option.some.inj hk)
    have hfit := ht.fits t.flights.length
    rw [List.getElem?_eq_none (Nat.le_refl _)] at hfit
    have hturns : turns t.flights.length t.log = [] := hfit
    simp [Traffic.note, Happening.turn?, hturns]
  station_known before k i o' after hlog := by
    rcases split_of_snoc hlog with ⟨rfl, heq⟩ | ⟨rest, hrest⟩
    · obtain ⟨_, hi, rfl⟩ := Happening.launched.inj heq
      exact hstation i hi.symm
    · exact ht.station_known before k i o' rest hrest
  editions_lt := by simpa [Traffic.note, Happening.edition?] using ht.editions_lt
  editions_le e he := by
    simp only [Traffic.note, editions_append, Happening.edition?, Option.toList_none,
      List.append_nil] at he
    exact ht.editions_le e he

/-- A flight that waits is taken out of its place. -/
theorem take (ht : t.Orderly none) {k : Nat} {f : Flight}
    (hf : t.flights[k]? = some (some f)) :
    ({ t with flights := t.flights.set k none } : Traffic).Orderly (some (k, f.station)) where
  launches_eq := by simpa using ht.launches_eq
  turns_fit j hj := by
    have hne : k ≠ j := fun heq => hj f.station (by rw [heq])
    have hfit := ht.fits j
    simpa [List.getElem?_set_ne hne] using hfit
  loose_fit j station hj := by
    obtain ⟨rfl, rfl⟩ := Prod.mk.inj (Option.some.inj hj)
    have hlt : k < t.flights.length := (List.getElem?_eq_some_iff.mp hf).1
    exact ⟨by simp [hlt], ht.turns_of_flight hf⟩
  station_known := ht.station_known
  editions_lt := ht.editions_lt
  editions_le := ht.editions_le

/-- A flight takes its place, and waits there. -/
theorem settle {k : Nat} {station : Option Nat} (ht : t.Orderly (some (k, station))) (c : Cycle) :
    ({ t with flights := t.flights.set k (some ⟨station, c⟩) } : Traffic).Orderly none where
  launches_eq := by simpa using ht.launches_eq
  turns_fit j _ := by
    by_cases hj : k = j
    · subst j
      obtain ⟨hplace, hturns⟩ := ht.loose_fit k station rfl
      have hlt : k < t.flights.length := (List.getElem?_eq_some_iff.mp hplace).1
      rw [List.getElem?_set_self hlt]
      exact hturns
    · have hfit := ht.turns_fit j fun other heq => hj (Prod.mk.inj (Option.some.inj heq)).1
      simpa [List.getElem?_set_ne hj] using hfit
  loose_fit _ _ hnone := by cases hnone
  station_known := ht.station_known
  editions_lt := ht.editions_lt
  editions_le := ht.editions_le

/-- A flight ends. Its calendar, if it has one, is the latest. -/
theorem finish {k : Nat} {station : Option Nat} (ht : t.Orderly (some (k, station)))
    (h : Happening) (hturn : ∀ j, h.turn? j = if k = j then some (.ends station) else none)
    (hlaunch : h.launch? = none)
    (hedition : ∀ e, h.edition? = some e → e.number ≤ t.session.world.merges ∧
      ∀ e' ∈ editions t.log, e'.number < e.number) :
    (t.note h).Orderly none where
  launches_eq := by simp [Traffic.note, hlaunch, ht.launches_eq]
  turns_fit j _ := by
    by_cases hj : k = j
    · subst j
      obtain ⟨hplace, hturns⟩ := ht.loose_fit k station rfl
      rw [show (t.note h).flights[k]? = some none from hplace]
      exact ⟨station, by simp [Traffic.note, hturn, hturns]⟩
    · have hfit := ht.turns_fit j fun other heq => hj (Prod.mk.inj (Option.some.inj heq)).1
      simpa [Traffic.note, hturn, hj] using hfit
  loose_fit _ _ hnone := by cases hnone
  station_known before j i o after hlog := by
    rcases split_of_snoc hlog with ⟨rfl, rfl⟩ | ⟨rest, hrest⟩
    · cases hlaunch
    · exact ht.station_known before j i o rest hrest
  editions_lt := by
    simp only [Traffic.note, editions_append]
    refine List.pairwise_append.mpr ⟨ht.editions_lt, ?_, fun e' he' e he => ?_⟩
    · cases h.edition? <;> simp
    · exact (hedition e (Option.mem_toList.mp he)).2 e' he'
  editions_le e he := by
    simp only [Traffic.note, editions_append, List.mem_append, Option.mem_toList] at he
    exact he.elim (ht.editions_le e) fun hnew => (hedition e hnew).1

theorem conclude {k : Nat} {station : Option Nat} (ht : t.Orderly (some (k, station)))
    (o : Output) (r : Except MergeFailure Merged)
    (hlatest : ∀ m, r = .ok m → ∀ e ∈ editions t.log, e.number < t.session.world.merges) :
    (t.conclude k station o r).Orderly none := by
  have hclosed : ∀ s : Session, s.world.merges = t.session.world.merges →
      ({ t with session := s } : Traffic).Orderly (some (k, station)) :=
    fun s hs => ht.session s (Nat.le_of_eq hs.symm)
  have hmerges : ∀ i, (t.session.closeRefresh i r).world.merges = t.session.world.merges := by
    intro i
    unfold Session.closeRefresh
    split <;> rfl
  cases r with
  | ok m =>
      cases station with
      | none =>
          refine (hclosed (t.session.openStation o m) rfl).finish _ (fun _ => rfl) rfl
            fun e he => ?_
          obtain rfl := Option.some.inj he
          exact ⟨Nat.le_refl _, hlatest m rfl⟩
      | some i =>
          refine (hclosed _ (hmerges i)).finish _ (fun _ => rfl) rfl fun e he => ?_
          obtain rfl := Option.some.inj he
          exact ⟨Nat.le_of_eq (hmerges i).symm, hlatest m rfl⟩
  | error failure =>
      cases station with
      | none => exact ht.finish _ (fun _ => rfl) rfl fun _ hnone => by cases hnone
      | some i =>
          exact (hclosed _ (hmerges i)).finish _ (fun _ => rfl) rfl fun _ hnone => by cases hnone

/-- A step of a flight that nobody waits for. -/
theorem advance {k : Nat} {station : Option Nat} (ht : t.Orderly (some (k, station))) (o : Output)
    (step : Progress × List Effect) : (t.advance k station o step).Orderly none := by
  obtain ⟨p, effects⟩ := step
  have happlied := (t.session.world.sameWork_applyAll effects).merges_eq
  cases p with
  | waiting c => exact (ht.session _ (Nat.le_of_eq happlied.symm)).settle c
  | finished r =>
      -- The merge that has just ended has a number above those of all before.
      have hmerges : ∀ m, r = .ok m →
          (t.session.world.settleStep (.finished r, effects)).2.merges =
            t.session.world.merges + 1 := by
        rintro m rfl
        exact congrArg (· + 1) happlied
      have hle : t.session.world.merges ≤
          (t.session.world.settleStep (.finished r, effects)).2.merges := by
        cases r with
        | ok m => exact (hmerges m rfl).symm ▸ Nat.le_succ _
        | error failure => exact Nat.le_of_eq happlied.symm
      refine Traffic.Orderly.conclude (ht.session _ hle) o r fun m hm e he => ?_
      exact Nat.lt_of_le_of_lt (ht.editions_le e he) ((hmerges m hm).symm ▸ Nat.lt_succ_self _)

theorem launch (ht : t.Orderly none) (station : Option Nat) (purpose : Purpose) (o : Output)
    (hstation : ∀ i, station = some i → outputOf? i t.log = some o) :
    (t.launch station purpose o).Orderly none :=
  (ht.board station o hstation).advance o _

theorem arrive (ht : t.Orderly none) (k : Nat) (outcome : Outcome) :
    (t.move (.arrive k outcome)).Orderly none := by
  simp only [Traffic.move]
  split
  next f hf => exact ((ht.take hf).note _ (fun _ => rfl) rfl rfl).advance f.cycle.output _
  next => exact ht

theorem quiet (tools : Nat → Tools) (sinks : List Sink) (hasMetrics : Bool) :
    (quiet tools sinks hasMetrics).Orderly none where
  launches_eq := rfl
  turns_fit k _ := rfl
  loose_fit k station hnone := by cases hnone
  station_known before k i o after hlog := by simp [Traffic.quiet] at hlog
  editions_lt := .nil
  editions_le e he := by cases he

theorem move (ht : t.Orderly none) {tools : Nat → Tools} {hasMetrics : Bool}
    (hsound : t.Sound tools hasMetrics) (m : Move) : (t.move m).Orderly none := by
  cases m with
  | start o => exact ht.launch none .bootstrap o fun i hi => by cases hi
  | refresh i =>
      simp only [Traffic.move]
      split
      next o ho =>
        have hmerges : (t.session.openRefresh i).world.merges = t.session.world.merges := by
          unfold Session.openRefresh
          split <;> rfl
        refine (ht.session _ (Nat.le_of_eq hmerges.symm)).launch (some i) .refresh o fun j hj => ?_
        obtain rfl := Option.some.inj hj
        rw [← hsound.reflects.output_eq]
        exact ho
      next => exact ht
  | arrive k outcome => exact ht.arrive k outcome
  | serve i =>
      simp only [Traffic.move]
      split
      next e _ => exact ht.note (.served i e) (fun _ => rfl) rfl rfl
      next => exact ht
  | get r =>
      have hmerges : (t.session.request r).2.world.merges = t.session.world.merges :=
        (t.session.world.sameWork_applyAll _).merges_eq
      exact (ht.session _ (Nat.le_of_eq hmerges.symm)).note _ (fun _ => rfl) rfl rfl

theorem play (ht : t.Orderly none) {tools : Nat → Tools} {hasMetrics : Bool}
    (hsound : t.Sound tools hasMetrics) (moves : List Move) : (t.play moves).Orderly none := by
  induction moves generalizing t with
  | nil => exact ht
  | cons m moves ih => exact ih (ht.move hsound m) (hsound.move m)

/-! ## Reading a log -/

/-- A flight that ends has begun before, for the same station, and does not end again. -/
theorem begun_before_end (ht : t.Orderly none) {before after : List Happening} {h : Happening}
    (hlog : t.log = before ++ h :: after) {k : Nat} {station : Option Nat}
    (hturn : h.turn? k = some (.ends station)) :
    turns k before = [.begins station] ∧ turns k after = [] := by
  have hturns : turns k t.log = turns k before ++ .ends station :: turns k after := by
    simp [hlog, turns, hturn]
  have hfit := ht.fits k
  rw [hturns] at hfit
  exact hfit.of_ends

end Traffic.Orderly

end Almanac.Service
