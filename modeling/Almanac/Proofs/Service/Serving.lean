import Almanac.Proofs.Dictionary
import Almanac.Proofs.Http.Answer
import Almanac.Proofs.Service.Reflection

/-!
# What is served

However the merges of a traffic overlap, a station serves the calendar of its last
successful merge, whole. The invariant ties each flight to a run of its own: a flight
stands where its merge stands when it is given just what has arrived for the flight.
-/

namespace Almanac.Service

open Config (Output)
open Http (Request Response)
open Merge (Merged MergeFailure Outcome)

/-- The purpose of a flight for a station, or for a start. -/
def Flight.purposeFor : Option Nat → Purpose
  | none => .bootstrap
  | some _ => .refresh

/-- A merge for this purpose that is given just what has arrived for the flight ends like this. -/
def EndsWith (tools : Nat → Tools) (log : List Happening) (flight : Nat) (purpose : Purpose)
    (o : Output) (r : Except MergeFailure Merged) : Prop :=
  ∃ n, (mergeRun (tools n) purpose o (arrivals flight log)).final = .finished r

/-- The answer is made from this calendar: its text, or nothing if the client has it already, and
its tag, the only one. -/
def AnsweredFrom (m : Merged) (a : Response) : Prop :=
  (a.status = 200 ∧ a.body = m.calendar ∨ a.status = 304 ∧ a.body = "") ∧
    ∀ value, ("etag", value) ∈ a.headers ↔ value = m.etag

/-- What the log before a happening says about it. -/
def Happening.Justified (tools : Nat → Tools) (hasMetrics : Bool) (log : List Happening) :
    Happening → Prop
  | .launched .. | .fetched .. => True
  | .started flight i o e =>
    outputOf? i log = none ∧ EndsWith tools log flight .bootstrap o (.ok e.merged)
  | .failed flight o failure => EndsWith tools log flight .bootstrap o (.error failure)
  | .refreshed flight i r =>
    ∃ o, outputOf? i log = some o ∧ EndsWith tools log flight .refresh o (r.map Edition.merged)
  | .served i e => lastPut? i log = some e
  | .answered r a =>
    ∀ (file : List Char) (key : String), r.method = "GET" →
      r.route hasMetrics = .file (some file) → Http.calendarKey? file = some key →
      (∃ i o e, outputOf? i log = some o ∧ o.key = key ∧ lastPut? i log = some e ∧
          AnsweredFrom e.merged a) ∨
        (∀ i o, outputOf? i log = some o → o.key ≠ key) ∧ a.status = 404 ∧ a.body = ""

/-- A flight waits where a merge waits that is given just what has arrived for the flight. -/
structure Flight.UnderWay (f : Flight) (log : List Happening) (flight : Nat) : Prop where
  purpose_eq : f.cycle.purpose = Flight.purposeFor f.station
  output_eq : ∀ i, f.station = some i → outputOf? i log = some f.cycle.output
  run_eq : ∀ tools, (mergeRun tools f.cycle.purpose f.cycle.output (arrivals flight log)).final =
    .waiting f.cycle

/-- The session reflects the log, every flight is under way, and every happening is justified. -/
structure Traffic.Sound (tools : Nat → Tools) (hasMetrics : Bool) (t : Traffic) : Prop where
  reflects : t.session.Reflects tools hasMetrics t.log
  fresh : ∀ k, t.flights.length ≤ k → arrivals k t.log = []
  underWay : ∀ (k : Nat) (f : Flight), t.flights[k]? = some (some f) → f.UnderWay t.log k
  justified : ∀ before h after, t.log = before ++ h :: after →
    h.Justified tools hasMetrics before

/-! ## Steps of a cycle -/

theorem waiting_of_proceed {tools : Tools} {purpose : Purpose} {o : Output}
    {loaded : List Merge.Loaded} {feeds : List Config.Feed} {c : Cycle}
    (hwaits : (proceed tools purpose o loaded feeds).1 = .waiting c) :
    c.purpose = purpose ∧ c.output = o ∧
      ∀ other, (proceed other purpose o loaded feeds).1 = .waiting c := by
  cases feeds with
  | nil => simp [proceed] at hwaits
  | cons feed feeds =>
      obtain rfl := Progress.waiting.inj hwaits
      exact ⟨rfl, rfl, fun _ => rfl⟩

theorem waiting_of_resume {tools : Tools} {cycle c : Cycle} {outcome : Outcome}
    (hwaits : (cycle.resume tools outcome).1 = .waiting c) :
    c.purpose = cycle.purpose ∧ c.output = cycle.output ∧
      ∀ other, (cycle.resume other outcome).1 = .waiting c := by
  cases outcome with
  | error e => simp [resume_error] at hwaits
  | ok events => exact waiting_of_proceed hwaits

namespace Traffic.Sound

variable {tools : Nat → Tools} {hasMetrics : Bool} {t : Traffic}

/-! ## Changes of one part -/

/-- Something happens, and the session changes with it. Whatever arrives arrives for a flight that
nobody waits for. -/
theorem note (ht : t.Sound tools hasMetrics) (s : Session) (h : Happening)
    (hs : s.Reflects tools hasMetrics (t.log ++ [h]))
    (harrival : ∀ k outcome, h.arrival? k = some outcome → t.flights[k]? = some none)
    (hjustified : h.Justified tools hasMetrics t.log) :
    (note { t with session := s } h).Sound tools hasMetrics where
  reflects := hs
  fresh k hk := by
    simp only [Traffic.note, arrivals_append, ht.fresh k hk, List.nil_append]
    cases hnone : h.arrival? k with
    | none => rfl
    | some outcome =>
        have hsome := harrival k outcome hnone
        rw [List.getElem?_eq_none (show t.flights.length ≤ k from hk)] at hsome
        cases hsome
  underWay k f hf := by
    have hflight := ht.underWay k f hf
    have hnone : h.arrival? k = none := by
      cases hcases : h.arrival? k with
      | none => rfl
      | some outcome =>
          have hsome := harrival k outcome hcases
          rw [show t.flights[k]? = some (some f) from hf] at hsome
          cases hsome
    refine ⟨hflight.purpose_eq, fun i hi => ?_, fun tools => ?_⟩
    · simp only [Traffic.note, outputOf?_append, hflight.output_eq i hi, Option.some_or]
    · simp only [Traffic.note, arrivals_append, hnone, Option.toList_none, List.append_nil]
      exact hflight.run_eq tools
  justified before g after hlog := by
    -- Either this is the new happening, or one that was there before.
    rcases List.append_eq_append_iff.mp hlog with ⟨rest, rfl, hrest⟩ | ⟨rest, hfront, hrest⟩
    · cases rest with
      | nil =>
          obtain ⟨rfl, _⟩ := List.cons.inj hrest
          simpa using hjustified
      | cons first rest => simp at hrest
    · cases rest with
      | nil =>
          obtain ⟨rfl, _⟩ := List.cons.inj hrest
          have hbefore : t.log = before := by simpa using hfront
          exact hbefore ▸ hjustified
      | cons first rest =>
          obtain ⟨rfl, _⟩ := List.cons.inj hrest
          exact ht.justified before g rest hfront

theorem session (ht : t.Sound tools hasMetrics) (s : Session)
    (hs : s.Reflects tools hasMetrics t.log) :
    ({ t with session := s } : Traffic).Sound tools hasMetrics :=
  ⟨hs, ht.fresh, ht.underWay, ht.justified⟩

theorem setFlight (ht : t.Sound tools hasMetrics) (k : Nat) (f? : Option Flight)
    (hf : ∀ f, f? = some f → f.UnderWay t.log k) :
    ({ t with flights := t.flights.set k f? } : Traffic).Sound tools hasMetrics where
  reflects := ht.reflects
  fresh j hj := ht.fresh j (by simpa using hj)
  underWay j f hj := by
    rw [List.getElem?_set] at hj
    split at hj
    next heq =>
      subst j
      split at hj
      next => exact hf f (Option.some.inj hj)
      next => cases hj
    next => exact ht.underWay j f hj
  justified := ht.justified

/-! ## Steps of a flight -/

theorem conclude (ht : t.Sound tools hasMetrics) (k : Nat) (station : Option Nat) (o : Output)
    (r : Except MergeFailure Merged)
    (hstation : ∀ i, station = some i → outputOf? i t.log = some o)
    (hends : EndsWith tools t.log k (Flight.purposeFor station) o r) :
    (t.conclude k station o r).Sound tools hasMetrics := by
  cases r with
  | ok m =>
      cases station with
      | none =>
          refine ht.note _ _ (ht.reflects.openStation k o m) (fun _ _ hnone => by cases hnone)
            ⟨?_, hends⟩
          rw [← ht.reflects.output_eq, Session.output?, List.getElem?_eq_none (Nat.le_refl _)]
          rfl
      | some i =>
          have hi := ht.reflects.lt_length_of_output (hstation i rfl)
          exact ht.note _ _ (ht.reflects.closeRefresh_ok k i m hi) (fun _ _ hnone => by cases hnone)
            ⟨o, hstation i rfl, hends⟩
  | error failure =>
      cases station with
      | none =>
          exact ht.note t.session _ (ht.reflects.note _ (fun _ => rfl) fun _ => rfl)
            (fun _ _ hnone => by cases hnone) hends
      | some i =>
          exact ht.note _ _ (ht.reflects.closeRefresh_error k i failure)
            (fun _ _ hnone => by cases hnone) ⟨o, hstation i rfl, hends⟩

/-- A step that brings a flight to where its merge stands keeps the traffic sound. -/
theorem advance (ht : t.Sound tools hasMetrics) (k : Nat) (station : Option Nat) (o : Output)
    (hstation : ∀ i, station = some i → outputOf? i t.log = some o)
    (step : Tools → Progress × List Effect)
    (hstep : ∀ tools, (mergeRun tools (Flight.purposeFor station) o (arrivals k t.log)).final =
      (step tools).1)
    (hwaits : ∀ tools c, (step tools).1 = .waiting c →
      c.purpose = Flight.purposeFor station ∧ c.output = o ∧
        ∀ other, (step other).1 = .waiting c) :
    (t.advance k station o (step t.session.world.nextTools)).Sound tools hasMetrics := by
  have hsettled : ({ t with session := { t.session with
      world := (t.session.world.settleStep (step t.session.world.nextTools)).2 } } :
        Traffic).Sound tools hasMetrics :=
    ht.session _ (ht.reflects.world _ (by simp) (by simp))
  have hfinal : (t.session.world.settleStep (step t.session.world.nextTools)).1 =
      (step t.session.world.nextTools).1 := rfl
  simp only [Traffic.advance, hfinal]
  split
  next c hc =>
    obtain ⟨hpurpose, houtput, hsame⟩ := hwaits _ c hc
    refine hsettled.setFlight k _ fun f hf => ?_
    obtain rfl := Option.some.inj hf
    refine ⟨hpurpose, fun i hi => ?_, fun other => ?_⟩
    · rw [houtput]
      exact hstation i hi
    · rw [hpurpose, houtput]
      exact (hstep other).trans (hsame other)
  next r hr =>
    refine hsettled.conclude k station o r hstation ⟨t.session.world.merges, ?_⟩
    rw [← ht.reflects.tools_eq]
    exact (hstep _).trans hr

/-- A flight gets the next number. -/
theorem board (ht : t.Sound tools hasMetrics) (station : Option Nat) (o : Output) :
    (Traffic.note { t with flights := t.flights ++ [none] }
      (.launched t.flights.length station o)).Sound tools hasMetrics := by
  have hopened : ({ t with flights := t.flights ++ [none] } : Traffic).Sound tools hasMetrics :=
    { reflects := ht.reflects
      fresh := fun k hk => ht.fresh k (by simp at hk; omega)
      underWay := fun k f hf => by
        rw [getElem?_snoc] at hf
        split at hf
        next => cases hf
        next => exact ht.underWay k f hf
      justified := ht.justified }
  exact hopened.note t.session (.launched t.flights.length station o)
    (ht.reflects.note _ (fun _ => rfl) fun _ => rfl) (fun _ _ hnone => by cases hnone) trivial

/-- A flight begins with nothing arrived. -/
theorem launch (ht : t.Sound tools hasMetrics) (station : Option Nat) (o : Output)
    (hstation : ∀ i, station = some i → outputOf? i t.log = some o) :
    (t.launch station (Flight.purposeFor station) o).Sound tools hasMetrics := by
  refine (ht.board station o).advance t.flights.length station o (fun i hi => ?_)
    (fun tools => begin tools (Flight.purposeFor station) o) (fun tools => ?_) fun tools c hc =>
      waiting_of_proceed hc
  · simp only [Traffic.note, outputOf?_append, hstation i hi, Option.some_or]
  · have hnothing : arrivals t.flights.length (t.log ++ [.launched t.flights.length station o]) =
        [] := by
      rw [arrivals_append, ht.fresh _ (Nat.le_refl _)]
      rfl
    simp only [Traffic.note, hnothing, mergeRun, follow_nil]

/-- What a flight waits for has been fetched, and nobody waits for the flight. -/
theorem fetch (ht : t.Sound tools hasMetrics) {k : Nat} {f : Flight}
    (hf : t.flights[k]? = some (some f)) (outcome : Outcome) :
    (Traffic.note { t with flights := t.flights.set k none } (.fetched k outcome)).Sound tools
      hasMetrics := by
  have hclosed := ht.setFlight k none fun f hnone => by cases hnone
  have hlt : k < t.flights.length := (List.getElem?_eq_some_iff.mp hf).1
  refine hclosed.note t.session (.fetched k outcome)
    (ht.reflects.note _ (fun _ => rfl) fun _ => rfl) (fun j other hj => ?_) trivial
  simp only [Happening.arrival?] at hj
  split at hj
  next heq =>
    subst heq
    simp [hlt]
  next => cases hj

/-- The feed that a flight waits for has arrived. -/
theorem arrive (ht : t.Sound tools hasMetrics) (k : Nat) (outcome : Outcome) :
    (t.move (.arrive k outcome)).Sound tools hasMetrics := by
  simp only [Traffic.move]
  split
  next f hf =>
    have hflight := ht.underWay k f hf
    refine (ht.fetch hf outcome).advance k f.station f.cycle.output (fun i hi => ?_)
      (fun tools => f.cycle.resume tools outcome) (fun tools => ?_) fun tools c hc => ?_
    · simp only [Traffic.note, outputOf?_append, hflight.output_eq i hi, Option.some_or]
    · have harrived : arrivals k (t.log ++ [.fetched k outcome]) =
          arrivals k t.log ++ [outcome] := by
        rw [arrivals_append]
        simp [Happening.arrival?]
      simp only [Traffic.note, harrived, mergeRun_append_final, ← hflight.purpose_eq,
        hflight.run_eq, follow_waiting, follow_nil]
    · rw [← hflight.purpose_eq]
      exact waiting_of_resume hc
  next => exact ht

/-! ## Readings -/

theorem serve (ht : t.Sound tools hasMetrics) (i : Nat) :
    (t.move (.serve i)).Sound tools hasMetrics := by
  simp only [Traffic.move]
  split
  next e he =>
    refine ht.note t.session (.served i e) (ht.reflects.note _ (fun _ => rfl) fun _ => rfl)
      (fun _ _ hnone => by cases hnone) ?_
    rw [ht.reflects.edition?_eq] at he
    exact he
  next => exact ht

theorem get (ht : t.Sound tools hasMetrics) (r : Request) :
    (t.move (.get r)).Sound tools hasMetrics := by
  refine ht.note (t.session.request r).2 (.answered r (t.session.request r).1) ?_
    (fun _ _ hnone => by cases hnone) ?_
  · exact (ht.reflects.world _ (World.applyAll_tools _ _) (World.applyAll_caches _ _)).note _
      (fun _ => rfl) fun _ => rfl
  · intro file key hmethod hroute hkey
    have hlookup : ∀ calendars : Http.Calendars,
        Http.lookup calendars file = calendars.get? key := by
      intro calendars
      simp only [Http.lookup, hkey, Option.bind_some]
    rw [← ht.reflects.hasMetrics_eq] at hroute
    cases hget : (Dictionary.ofList t.session.servedCalendars).get? key with
    | some m =>
        left
        obtain ⟨i, o, e, ho, hkey, he, rfl⟩ :=
          ht.reflects.mem_servedCalendars.mp (Dictionary.mem_of_get?_ofList hget)
        have hanswer := Http.respond_calendar _ t.session.hasMetrics r file e.merged hmethod hroute
          ((hlookup _).trans hget)
        refine ⟨i, o, e, ho, hkey, he, ?_, hanswer.2.2⟩
        have hresponse : (t.session.request r).1 = Http.respond
            (Dictionary.ofList t.session.servedCalendars) t.session.hasMetrics r := rfl
        rw [hresponse, hanswer.1, hanswer.2.1]
        exact Http.calendarResponse_status r file e.merged
    | none =>
        right
        refine ⟨fun i o ho hsame => ?_, Http.respond_missing _ t.session.hasMetrics r file hmethod
          hroute ((hlookup _).trans hget)⟩
        obtain ⟨e, he⟩ := ht.reflects.put_of_output ho
        exact Dictionary.get?_ofList_eq_none hget (key, e.merged)
          (ht.reflects.mem_servedCalendars.mpr ⟨i, o, e, ho, hsame, he, rfl⟩) rfl

/-! ## Whole traffics -/

theorem quiet (tools : Nat → Tools) (sinks : List Sink) (hasMetrics : Bool) :
    (quiet tools sinks hasMetrics).Sound tools hasMetrics where
  reflects :=
    { tools_eq := rfl
      hasMetrics_eq := rfl
      length_eq := rfl
      cache_eq := fun i st hst => by simp [Traffic.quiet, Session.ofOutputs] at hst
      served_eq := rfl
      output_eq := fun i => rfl
      edition_eq := fun i => rfl }
  fresh k _ := rfl
  underWay k f hf := by simp [Traffic.quiet] at hf
  justified before h after hlog := by simp [Traffic.quiet] at hlog

theorem move (ht : t.Sound tools hasMetrics) (m : Move) : (t.move m).Sound tools hasMetrics := by
  cases m with
  | start o => exact ht.launch none o fun i hi => by cases hi
  | refresh i =>
      simp only [Traffic.move]
      split
      next o ho =>
        refine (ht.session _ (ht.reflects.openRefresh i)).launch (some i) o fun j hj => ?_
        obtain rfl := Option.some.inj hj
        rw [← ht.reflects.output_eq]
        exact ho
      next => exact ht
  | arrive k outcome => exact ht.arrive k outcome
  | serve i => exact ht.serve i
  | get r => exact ht.get r

theorem play (ht : t.Sound tools hasMetrics) (moves : List Move) :
    (t.play moves).Sound tools hasMetrics := by
  induction moves generalizing t with
  | nil => exact ht
  | cons m moves ih => exact ih (ht.move m)

end Traffic.Sound

/-! ## Results in the log -/

/-- The calendar, with its number, is the whole result of one merge of the output, and its tag is
the one of its text. -/
def Edition.IsMergeOf (e : Edition) (tools : Nat → Tools) (log : List Happening) (o : Output) :
    Prop :=
  (∃ flight purpose, EndsWith tools log flight purpose o (.ok e.merged)) ∧
    e.merged.etag = Merge.etagOf e.merged.calendar

theorem EndsWith.append {tools : Nat → Tools} {log : List Happening} {flight : Nat}
    {purpose : Purpose} {o : Output} {r : Except MergeFailure Merged}
    (hends : EndsWith tools log flight purpose o r) (later : List Happening) :
    EndsWith tools (log ++ later) flight purpose o r := by
  obtain ⟨n, hn⟩ := hends
  refine ⟨n, ?_⟩
  have harrivals : arrivals flight (log ++ later) = arrivals flight log ++ arrivals flight later :=
    List.filterMap_append
  rw [harrivals, mergeRun_append_final, hn, follow_finished]

theorem EndsWith.isMergeOf {tools : Nat → Tools} {log : List Happening} {flight : Nat}
    {purpose : Purpose} {o : Output} {e : Edition}
    (hends : EndsWith tools log flight purpose o (.ok e.merged)) : e.IsMergeOf tools log o := by
  refine ⟨⟨flight, purpose, hends⟩, ?_⟩
  obtain ⟨n, hn⟩ := hends
  obtain ⟨events, later, _, _, hassembled⟩ := mergeRun_finished_ok _ _ _ _ _ hn
  rw [hassembled]
  rfl

theorem outputOf?_append_of_some {i : Nat} {o : Output} {log : List Happening}
    (ho : outputOf? i log = some o) (later : List Happening) :
    outputOf? i (log ++ later) = some o := by
  rw [outputOf?] at ho
  rw [outputOf?, List.findSome?_append, ho, Option.some_or]

/-- What was last put into a cache is the result of a merge of the output of its station. -/
theorem Traffic.Sound.isMergeOf_of_lastPut {tools : Nat → Tools} {hasMetrics : Bool} {t : Traffic}
    (ht : t.Sound tools hasMetrics) {before after : List Happening} (hlog : t.log = before ++ after)
    {i : Nat} {e : Edition} (hput : lastPut? i before = some e) :
    ∃ o, outputOf? i before = some o ∧ e.IsMergeOf tools before o := by
  obtain ⟨h, hmem, hh⟩ := List.mem_filterMap.mp (List.mem_of_getLast? hput)
  obtain ⟨earlier, later, rfl⟩ := List.append_of_mem hmem
  -- Only an end of a merge puts a calendar into a cache, and ends are justified by the log.
  have hjustified := ht.justified earlier h (later ++ after) (by simp [hlog])
  cases h with
  | started k j o e' =>
      simp only [Happening.put?, Option.ite_none_right_eq_some, Option.some.injEq] at hh
      obtain ⟨rfl, rfl⟩ := hh
      obtain ⟨hnew, hends⟩ := hjustified
      refine ⟨o, ?_, (hends.append _).isMergeOf⟩
      rw [outputOf?] at hnew
      simp [outputOf?, hnew, Happening.output?]
  | refreshed k j r =>
      cases r with
      | error failure => cases hh
      | ok e' =>
          simp only [Happening.put?, Option.ite_none_right_eq_some, Option.some.injEq] at hh
          obtain ⟨rfl, rfl⟩ := hh
          obtain ⟨o, ho, hends⟩ := hjustified
          exact ⟨o, outputOf?_append_of_some ho _, (hends.append _).isMergeOf⟩
  | _ => cases hh

/-! ## One more move -/

theorem Traffic.advance_log (t : Traffic) (flight : Nat) (station : Option Nat) (o : Output)
    (step : Progress × List Effect) :
    ∃ last : List Happening, last.length ≤ 1 ∧
      (t.advance flight station o step).log = t.log ++ last := by
  simp only [Traffic.advance]
  split
  next => exact ⟨[], by simp, by simp⟩
  next r _ =>
    cases r <;> cases station <;> exact ⟨[_], Nat.le_refl 1, rfl⟩

/-- Only the last happening of a move can put something into a cache. -/
theorem Traffic.move_log (t : Traffic) (m : Move) :
    ∃ calm last : List Happening, (∀ i, lastPut? i (t.log ++ calm) = lastPut? i t.log) ∧
      last.length ≤ 1 ∧ (t.move m).log = t.log ++ calm ++ last := by
  have hlaunch : ∀ (u : Traffic) (station : Option Nat) (purpose : Purpose) (o : Output),
      u.log = t.log → ∃ calm last : List Happening,
        (∀ i, lastPut? i (t.log ++ calm) = lastPut? i t.log) ∧ last.length ≤ 1 ∧
          (u.launch station purpose o).log = t.log ++ calm ++ last := by
    intro u station purpose o hlog
    obtain ⟨last, hlength, hlast⟩ := Traffic.advance_log _ u.flights.length station o
      (begin u.session.world.nextTools purpose o)
    exact ⟨[.launched u.flights.length station o], last, fun i => by simp [Happening.put?], hlength,
      hlast.trans (by simp [Traffic.note, hlog])⟩
  have hstays : ∃ calm last : List Happening,
      (∀ i, lastPut? i (t.log ++ calm) = lastPut? i t.log) ∧ last.length ≤ 1 ∧
        t.log = t.log ++ calm ++ last := ⟨[], [], by simp, by simp, by simp⟩
  cases m with
  | start o => exact hlaunch t none .bootstrap o rfl
  | refresh i =>
      simp only [Traffic.move]
      split
      next o _ => exact hlaunch _ (some i) .refresh o rfl
      next => exact hstays
  | arrive k outcome =>
      simp only [Traffic.move]
      split
      next f _ =>
        obtain ⟨last, hlength, hlast⟩ := Traffic.advance_log _ k f.station f.cycle.output
          (f.cycle.resume t.session.world.nextTools outcome)
        exact ⟨[.fetched k outcome], last, fun i => by simp [Happening.put?], hlength, hlast⟩
      next => exact hstays
  | serve i =>
      simp only [Traffic.move]
      split
      next e _ =>
        exact ⟨[.served i e], [], fun i => by simp [Happening.put?], by simp, by simp [note]⟩
      next => exact hstays
  | get r =>
      exact ⟨[.answered r (t.session.request r).1], [], fun i => by simp [Happening.put?], by simp,
        by simp [move, note]⟩

/-- A move whose last happening puts nothing into a cache leaves all calendars as they are. -/
theorem Traffic.Sound.edition?_move {tools : Nat → Tools} {hasMetrics : Bool} {t : Traffic}
    (ht : t.Sound tools hasMetrics) (m : Move) {h : Happening}
    (hlast : (t.move m).log.getLast? = some h) (hput : ∀ i, h.put? i = none) (i : Nat) :
    (t.move m).session.edition? i = t.session.edition? i := by
  rw [(ht.move m).reflects.edition?_eq, ht.reflects.edition?_eq]
  obtain ⟨calm, last, hcalm, hlength, hlog⟩ := t.move_log m
  rw [hlog, ← hcalm i]
  match last, hlength with
  | [], _ => rw [List.append_nil]
  | [g], _ =>
      rw [hlog] at hlast
      obtain rfl : g = h := by simpa using hlast
      rw [lastPut?_append, hput, Option.none_or]

/-- However starts, refreshes, arrivals of feeds, readings and requests follow each other: a reading
gives the calendar that was last put into the cache of its station, a station always has one, a
refresh that fails leaves it the very same, and the answer to a request for a calendar is made from
such a calendar alone. Every one of these calendars is the whole result of one merge of its
output. -/
theorem serves_last_successful_merge (tools : Nat → Tools) (sinks : List Sink) (hasMetrics : Bool)
    (moves : List Move) :
    let t := (Traffic.quiet tools sinks hasMetrics).play moves
    (∀ i o, outputOf? i t.log = some o →
        ∃ e, t.session.edition? i = some e ∧ lastPut? i t.log = some e ∧
          e.IsMergeOf tools t.log o) ∧
      (∀ before i e after, t.log = before ++ .served i e :: after →
        lastPut? i before = some e ∧
          ∃ o, outputOf? i before = some o ∧ e.IsMergeOf tools before o) ∧
      (∀ move flight i failure,
        (t.move move).log.getLast? = some (.refreshed flight i (.error failure)) →
          ∀ j, (t.move move).session.edition? j = t.session.edition? j) ∧
      ∀ before r a after, t.log = before ++ .answered r a :: after →
        ∀ (file : List Char) (key : String), r.method = "GET" →
          r.route hasMetrics = .file (some file) → Http.calendarKey? file = some key →
          (∃ i o e, outputOf? i before = some o ∧ o.key = key ∧ lastPut? i before = some e ∧
              e.IsMergeOf tools before o ∧ AnsweredFrom e.merged a) ∨
            (∀ i o, outputOf? i before = some o → o.key ≠ key) ∧ a.status = 404 ∧ a.body = "" := by
  intro t
  have ht : t.Sound tools hasMetrics := (Traffic.Sound.quiet tools sinks hasMetrics).play moves
  refine ⟨?_, ?_, ?_, ?_⟩
  · intro i o ho
    obtain ⟨e, he⟩ := ht.reflects.put_of_output ho
    obtain ⟨o', ho', hmerge⟩ := ht.isMergeOf_of_lastPut (by simp : t.log = t.log ++ []) he
    obtain rfl := Option.some.inj (ho'.symm.trans ho)
    exact ⟨e, (ht.reflects.edition?_eq i).trans he, he, hmerge⟩
  · intro before i e after hlog
    have hput : lastPut? i before = some e := ht.justified before _ after hlog
    exact ⟨hput, ht.isMergeOf_of_lastPut hlog hput⟩
  · intro move flight i failure hlast
    exact ht.edition?_move move hlast fun _ => rfl
  · intro before r a after hlog file key hmethod hroute hkey
    rcases ht.justified before _ after hlog file key hmethod hroute hkey with
      ⟨i, o, e, ho, hkey, hput, hanswer⟩ | hmissing
    · obtain ⟨o', ho', hmerge⟩ := ht.isMergeOf_of_lastPut hlog hput
      obtain rfl := Option.some.inj (ho'.symm.trans ho)
      exact .inl ⟨i, o', e, ho, hkey, hput, hmerge, hanswer⟩
    · exact .inr hmissing

end Almanac.Service
