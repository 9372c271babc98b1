import Almanac.Proofs.Filter.Records

/-!
# Events that are dropped

A date check raises its mark only when it hits, and the first hit keeps the event. So an
event that is dropped leaves the watermark as it was, and the events after it fare as if
it had never been there.
-/

namespace Almanac.Filter

open Config (Feed Rule)
open Calendar (Component)

/-- The feed keeps the event at this position. -/
def keepsAt (feed : Feed) (events : List Component) (w : Watermark) (i : Nat) : Bool :=
  (fates feed events w)[i]?.any Option.isSome

/-- The list without what stands at certain positions. -/
def omitting {α : Type} (gone : Nat → Bool) : List α → List α
  | [] => []
  | a :: rest =>
    if gone 0 then omitting (fun i => gone (i + 1)) rest
    else a :: omitting (fun i => gone (i + 1)) rest

/-- The events that the feed keeps, as they were before its modifiers. -/
def survivors (feed : Feed) (events : List Component) : List Component :=
  omitting (fun i => !keepsAt feed events ∅ i) events

@[simp] theorem keepsAt_zero (feed : Feed) (event : Component) (events : List Component)
    (w : Watermark) :
    keepsAt feed (event :: events) w 0 = (passEvent feed event w).1.isSome := rfl

@[simp] theorem keepsAt_succ (feed : Feed) (event : Component) (events : List Component)
    (w : Watermark) (i : Nat) :
    keepsAt feed (event :: events) w (i + 1) =
      keepsAt feed events (passEvent feed event w).2 i := rfl

/-! ## Misses -/

theorem ext_mark {w w' : Watermark} (hmark : ∀ u, w.mark u = w'.mark u) : w = w' := by
  have hinj : Function.Injective (Option.map Int.ofNat) :=
    Option.map_injective fun _ _ heq => Int.ofNat.inj heq
  cases w
  cases w'
  obtain rfl := hinj (hmark .day)
  obtain rfl := hinj (hmark .month)
  obtain rfl := hmark .year
  rfl

/-- A number that does not lie above a mark does not raise it. -/
theorem raiseBy_eq_self {mark n? : Option Int} (hbelow : n?.any (isAbove mark) = false) :
    raiseBy mark n? = mark := by
  cases n? with
  | none => rfl
  | some n =>
      rw [Option.any_some] at hbelow
      simp [raiseBy, raise, hbelow]

/-- A rule that does not hit raises no mark. -/
theorem hits_of_miss {rule : Rule} {event : Component} {w : Watermark}
    (hmiss : (hits rule event w).1 = false) : (hits rule event w).2 = w := by
  apply ext_mark
  intro u
  by_cases hcheck : rule.check = u.check
  · obtain ⟨hhit, hmark⟩ := hits_of_check u rule event w hcheck
    rw [hmark]
    exact raiseBy_eq_self (hhit.symm.trans hmiss)
  · exact hits_mark_of_ne u rule event w hcheck

theorem anyHits_of_miss {rules : List Rule} {event : Component} {w : Watermark}
    (hmiss : (anyHits rules event w).1 = false) : (anyHits rules event w).2 = w := by
  induction rules generalizing w with
  | nil => rfl
  | cons rule rules ih =>
      unfold anyHits at hmiss ⊢
      split at hmiss
      next => cases hmiss
      next w' hw' =>
        have hsame : w' = w := by
          have hfirst := hits_of_miss (congrArg Prod.fst hw')
          rwa [hw'] at hfirst
        rw [ih hmiss, hsame]

theorem keeps_of_miss {rules : List Rule} {event : Component} {w : Watermark}
    (hmiss : (keeps rules event w).1 = false) : (keeps rules event w).2 = w := by
  unfold keeps at hmiss ⊢
  split at hmiss
  next => cases hmiss
  next hsome =>
    rw [if_neg hsome]
    exact anyHits_of_miss hmiss

/-! ## One event of a feed -/

/-- The modifiers do not decide whether an event is kept when it is met. -/
theorem passEvent_isSome (feed : Feed) (event : Component) (w : Watermark) :
    (passEvent feed event w).1.isSome = (keeps feed.rules event w).1 := by
  unfold passEvent
  split
  next hdropped => rw [hdropped]; rfl
  next hkept => rw [hkept]; rfl

theorem passEvent_of_dropped {feed : Feed} {event : Component} {w : Watermark}
    (hdropped : (passEvent feed event w).1 = none) : passEvent feed event w = (none, w) := by
  have hmiss : (keeps feed.rules event w).1 = false := by
    rw [← passEvent_isSome, hdropped]
    rfl
  have hsame := keeps_of_miss hmiss
  unfold passEvent
  split
  next w' hw' =>
    rw [hw'] at hsame
    exact congrArg (Prod.mk none) hsame
  next hkept =>
    rw [hkept] at hmiss
    cases hmiss

theorem passEvent_of_no_modifiers {feed : Feed} (hmodifiers : feed.modifiers = [])
    {event kept : Component} {w : Watermark} (hkept : (passEvent feed event w).1 = some kept) :
    kept = event := by
  unfold passEvent at hkept
  split at hkept
  next => cases hkept
  next =>
    rw [hmodifiers] at hkept
    exact (Option.some.inj hkept).symm

/-! ## All events -/

/-- Without any of the events that it drops a feed is passed over alike. -/
theorem passFrom_omitting (feed : Feed) (gone : Nat → Bool) (events : List Component)
    (w : Watermark)
    (hgone : ∀ i < events.length, gone i = true → keepsAt feed events w i = false) :
    passFrom feed (omitting gone events) w = passFrom feed events w := by
  induction events generalizing gone w with
  | nil => rfl
  | cons event events ih =>
      have hrest := ih (fun i => gone (i + 1)) (passEvent feed event w).2 fun i hi hgo =>
        hgone (i + 1) (Nat.succ_lt_succ hi) hgo
      unfold omitting
      split
      next hfirst =>
        have hdropped : (passEvent feed event w).1 = none := by
          have hnot := hgone 0 (Nat.zero_lt_succ _) hfirst
          rw [keepsAt_zero] at hnot
          simpa using hnot
        -- The event is gone from one list, and in the other it leaves the watermark alone.
        rw [passEvent_of_dropped hdropped] at hrest
        simp only [passFrom, passEvent_of_dropped hdropped, hrest, Option.toList_none,
          List.nil_append]
      next => simp only [passFrom, hrest]

/-- A feed without modifiers gives the events that it keeps as they are. -/
theorem passFrom_of_no_modifiers {feed : Feed} (hmodifiers : feed.modifiers = [])
    (events : List Component) (w : Watermark) :
    (passFrom feed events w).1 = omitting (fun i => !keepsAt feed events w i) events := by
  induction events generalizing w with
  | nil => rfl
  | cons event events ih =>
      cases hfate : (passEvent feed event w).1 with
      | none => simp [passFrom, omitting, hfate, ih]
      | some kept =>
          obtain rfl := passEvent_of_no_modifiers hmodifiers hfate
          simp [passFrom, omitting, hfate, ih]

theorem pass_survivors (feed : Feed) (events : List Component) :
    pass feed (survivors feed events) = pass feed events :=
  congrArg Prod.fst (passFrom_omitting feed _ events ∅ fun _ _ hgone => by simpa using hgone)

/-- Dropped events leave no trace. If no rule keeps an event the watermark stays as it was. So a
feed gives the same when any of the events that it drops are taken out of its list, and when only
those are left that it keeps; and a feed without modifiers gives what it has given once more. -/
theorem dropped_events_leave_no_trace (feed : Feed) (events : List Component) :
    (∀ (rules : List Rule) (event : Component) (w : Watermark),
        (keeps rules event w).1 = false → (keeps rules event w).2 = w) ∧
      pass feed events = (fates feed events ∅).reduceOption ∧
      (∀ gone : Nat → Bool,
        (∀ i < events.length, gone i = true → keepsAt feed events ∅ i = false) →
          pass feed (omitting gone events) = pass feed events) ∧
      pass feed (survivors feed events) = pass feed events ∧
      (feed.modifiers = [] → pass feed (pass feed events) = pass feed events) := by
  refine ⟨fun rules event w hmiss => keeps_of_miss hmiss, passFrom_eq_fates feed events ∅, ?_,
    pass_survivors feed events, ?_⟩
  · intro gone hgone
    exact congrArg Prod.fst (passFrom_omitting feed gone events ∅ hgone)
  · intro hmodifiers
    have hsurvivors : pass feed events = survivors feed events :=
      passFrom_of_no_modifiers hmodifiers events ∅
    rw [hsurvivors, pass_survivors, hsurvivors]

end Almanac.Filter
