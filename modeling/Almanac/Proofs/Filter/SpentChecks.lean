import Almanac.Proofs.Filter.Insertion
import Almanac.Proofs.Filter.Rewritten

/-!
# Guards behind rules of their kind

The rules of a feed and the guards of its modifiers share one watermark. Where all rules are date
checks of one kind, an event is kept because one of them has raised the mark to the part of the
date that the event has. A guard of the same kind reads the same part again and finds it no
longer above the mark. So it misses, unless a modifier before it has moved the start of the event,
and neither the modifier that it guards nor those behind are ever applied.
-/

namespace Almanac.Filter

open Config (Feed Modifier Rule)
open Calendar (Component)

/-- The feed has rules, and all of them are checks of this part. -/
structure ChecksOnly (u : DatePart) (feed : Feed) : Prop where
  nonempty : feed.rules ≠ []
  check_eq : ∀ rule ∈ feed.rules, rule.check = u.check

/-- The event has no part of this kind that lies above the mark. -/
def Spent (u : DatePart) (event : Component) (w : Watermark) : Prop :=
  (u.ofEvent? event).any (isAbove (w.mark u)) = false

/-! ## Rules -/

section Rules

variable {u : DatePart} {event : Component} {w : Watermark}

/-- Whether a check hits or not, the part that it has read is spent. -/
theorem spent_of_check {rule : Rule} (hcheck : rule.check = u.check) (event : Component)
    (w : Watermark) : Spent u event (hits rule event w).2 := by
  unfold Spent
  rw [(hits_of_check u rule event w hcheck).2]
  cases u.ofEvent? event with
  | none => rfl
  | some n =>
      have hraised := isAbove_raise (w.mark u) n n
      exact Bool.eq_false_iff.mpr fun habove => Int.lt_irrefl n (hraised.mp habove).2

namespace Spent

/-- What is spent stays so. -/
theorem hits (hspent : Spent u event w) (rule : Rule) : Spent u event (hits rule event w).2 := by
  by_cases hcheck : rule.check = u.check
  · exact spent_of_check hcheck event w
  · unfold Spent
    rw [hits_mark_of_ne u rule event w hcheck]
    exact hspent

theorem anyHits (hspent : Spent u event w) (rules : List Rule) :
    Spent u event (anyHits rules event w).2 := by
  induction rules generalizing w with
  | nil => exact hspent
  | cons rule rules ih =>
      have hfirst := hspent.hits rule
      unfold Filter.anyHits
      split
      next w' hw' => rwa [hw'] at hfirst
      next w' hw' =>
        rw [hw'] at hfirst
        exact ih hfirst

/-- A check that is tried after its part has been spent misses, and with it all guards of a
modifier. -/
theorem allHit (hspent : Spent u event w) (rules : List Rule) :
    Spent u event (allHit rules event w).2 ∧
      ((∃ rule ∈ rules, rule.check = u.check) → (Filter.allHit rules event w).1 = false) := by
  induction rules generalizing w with
  | nil =>
      refine ⟨hspent, ?_⟩
      rintro ⟨rule, hrule, _⟩
      cases hrule
  | cons rule rules ih =>
      have hfirst := hspent.hits rule
      have hmiss : rule.check = u.check → (Filter.hits rule event w).1 = false := fun hcheck =>
        (hits_of_check u rule event w hcheck).1.trans hspent
      unfold Filter.allHit
      split
      next w' hw' =>
        rw [hw'] at hfirst hmiss
        obtain ⟨hafter, hlater⟩ := ih hfirst
        refine ⟨hafter, ?_⟩
        rintro ⟨guard, hguard, hcheck⟩
        rcases List.mem_cons.mp hguard with rfl | hguard
        · exact absurd (hmiss hcheck) (Bool.noConfusion ·)
        · exact hlater ⟨guard, hguard, hcheck⟩
      next w' hw' =>
        rw [hw'] at hfirst
        exact ⟨hfirst, fun _ => rfl⟩

end Spent

/-- The rules of such a feed spend the part of every event, be it kept or not. -/
theorem ChecksOnly.spent {feed : Feed} (hfeed : ChecksOnly u feed) (event : Component)
    (w : Watermark) : Spent u event (keeps feed.rules event w).2 := by
  obtain ⟨hnonempty, hchecks⟩ := hfeed
  cases hrules : feed.rules with
  | nil => exact absurd hrules hnonempty
  | cons rule rules =>
      have hcheck : rule.check = u.check := hchecks rule (hrules ▸ List.mem_cons_self)
      have hfirst := spent_of_check hcheck event w
      unfold keeps Filter.anyHits
      rw [List.isEmpty_cons, if_neg Bool.false_ne_true]
      split
      next w' hw' => rwa [hw'] at hfirst
      next w' hw' =>
        rw [hw'] at hfirst
        exact hfirst.anyHits rules

end Rules

/-! ## Modifiers -/

section Modifiers

variable {u : DatePart} {event : Component} {w : Watermark}

/-- A modifier that does not set the start leaves the date alone. -/
theorem startDay?_modify {m : Modifier} (hstart : ¬Targets m "DTSTART") (event : Component) :
    (modify m event).startDay? = event.startDay? := by
  unfold Component.startDay?
  rw [get?_modify, if_neg hstart]

theorem Spent.modify (hspent : Spent u event w) {m : Modifier} (hstart : ¬Targets m "DTSTART") :
    Spent u (modify m event) w := by
  unfold Spent DatePart.ofEvent?
  rw [startDay?_modify hstart]
  exact hspent

/-- A modifier with a guard for a part that has been spent is never applied. So it does not matter
what it would do, nor what stands behind it. -/
theorem Spent.modifyAll (hspent : Spent u event w) {before : List Modifier} {m : Modifier}
    (hstart : ∀ m' ∈ before, ¬Targets m' "DTSTART")
    (hguard : ∃ guard ∈ m.guards, guard.check = u.check) (after : List Modifier) :
    (modifyAll (before ++ m :: after) event w).applied ≤ before.length ∧
      ∀ (m' : Modifier) (after' : List Modifier), m'.guards = m.guards →
        Filter.modifyAll (before ++ m' :: after') event w =
          Filter.modifyAll (before ++ m :: after) event w := by
  induction before generalizing event w with
  | nil =>
      have hmiss := (hspent.allHit m.guards).2 hguard
      have hstops (m' : Modifier) (after' : List Modifier) (hguards : m'.guards = m.guards) :
          Filter.modifyAll (m' :: after') event w =
            ⟨0, event, (Filter.allHit m.guards event w).2⟩ := by
        unfold Filter.modifyAll
        rw [hguards]
        split
        next w' hw' =>
          rw [hw'] at hmiss
          cases hmiss
        next w' hw' => rw [hw']
      refine ⟨?_, fun m' after' hguards =>
        (hstops m' after' hguards).trans (hstops m after rfl).symm⟩
      exact Nat.le_of_eq (congrArg Modified.applied (hstops m after rfl))
  | cons first before ih =>
      obtain ⟨hfirst, hrest⟩ := List.forall_mem_cons.mp hstart
      have hafter := (hspent.allHit first.guards).1
      simp only [List.cons_append, Filter.modifyAll]
      -- If the first one applies, the part is still spent on what it makes of the event.
      split
      next w' hw' =>
        rw [hw'] at hafter
        obtain ⟨happlied, hsame⟩ := ih (hafter.modify hfirst) hrest
        refine ⟨Nat.succ_le_succ happlied, fun m' after' hguards => ?_⟩
        rw [hsame m' after' hguards]
      next => exact ⟨Nat.zero_le _, fun _ _ _ => rfl⟩

end Modifiers

/-! ## Feeds -/

/-- What has been treated was kept, and its modifiers have worked with the watermark that the rules
had left. -/
theorem kept_of_mem_treated {feed : Feed} {events : List Component} {w : Watermark}
    {t : Component × Modified} (ht : t ∈ treated feed events w) :
    ∃ w', (keeps feed.rules t.1 w').1 = true ∧
      t.2 = modifyAll feed.modifiers t.1 (keeps feed.rules t.1 w').2 := by
  induction events generalizing w with
  | nil => cases ht
  | cons event events ih =>
      unfold treated at ht
      split at ht
      next => exact ih ht
      next w' hw' =>
        rcases List.mem_cons.mp ht with rfl | ht
        · exact ⟨w, by rw [hw'], by rw [hw']⟩
        · exact ih ht

/-- Modifiers that do the same to every event that the rules keep do the same to the feed. -/
theorem treated_congr {feed : Feed} {modifiers : List Modifier}
    (hsame : ∀ event w, modifyAll modifiers event (keeps feed.rules event w).2 =
      modifyAll feed.modifiers event (keeps feed.rules event w).2)
    (events : List Component) (w : Watermark) :
    treated { feed with modifiers := modifiers } events w = treated feed events w := by
  induction events generalizing w with
  | nil => rfl
  | cons event events ih =>
      have hfirst := hsame event w
      simp only [treated]
      split
      next w' hw' => exact ih w'
      next w' hw' =>
        rw [hw'] at hfirst
        rw [hfirst, ih]

/-- A guard behind a rule of its kind is dead. Where all rules of a feed are date checks of one
kind, a modifier that has a guard of this kind is never applied to any event, and neither is one
behind it, as long as no modifier before it sets the start. Each event that is kept is what
modifiers before the guarded one make of it, so the feed gives the same whatever that modifier would
do, and whatever modifiers stand behind it. -/
theorem guard_behind_rule_of_its_kind_is_dead (u : DatePart) (feed : Feed)
    (hrules : ChecksOnly u feed) (before after : List Modifier) (m : Modifier)
    (hmodifiers : feed.modifiers = before ++ m :: after)
    (hguard : ∃ guard ∈ m.guards, guard.check = u.check)
    (hstart : ∀ m' ∈ before, ¬Targets m' "DTSTART") (events : List Component) :
    pass feed events = (treated feed events ∅).map (fun t => t.2.event) ∧
      (∀ t ∈ treated feed events ∅, t.2.applied ≤ before.length ∧
        t.2.event = modified (before.take t.2.applied) t.1) ∧
      ∀ (m' : Modifier) (after' : List Modifier), m'.guards = m.guards →
        pass { feed with modifiers := before ++ m' :: after' } events = pass feed events := by
  have hdead (event : Component) (w : Watermark) :=
    (hrules.spent event w).modifyAll hstart hguard after
  refine ⟨passFrom_eq_treated feed events ∅, fun t ht => ?_, fun m' after' hguards => ?_⟩
  · obtain ⟨w, _, hmodified⟩ := kept_of_mem_treated ht
    have happlied : t.2.applied ≤ before.length := by
      rw [hmodified, hmodifiers]
      exact (hdead t.1 w).1
    have hevent := event_of_mem_treated ht
    rw [hmodifiers, List.take_append_of_le_length happlied] at hevent
    exact ⟨happlied, hevent⟩
  · let other : Feed := { feed with modifiers := before ++ m' :: after' }
    have htreated : treated other events ∅ = treated feed events ∅ := by
      refine treated_congr (fun event w => ?_) events ∅
      rw [hmodifiers, (hdead event w).2 m' after' hguards]
    have hother := passFrom_eq_treated other events ∅
    rw [htreated] at hother
    exact hother.trans (passFrom_eq_treated feed events ∅).symm

/-- The first event of each day is marked; that it is the first is never written, and no alarm is
added. -/
theorem first_of_day_is_not_guarded_again :
    let first : Rule := ⟨"first", "", .firstOfDay, false, []⟩
    let mark : Modifier := ⟨"mark", "SUMMARY", .append, "!", []⟩
    let name : Modifier := ⟨"name", "SUMMARY", .append, " (first)", [first]⟩
    let remind : Modifier := ⟨"remind", "", .addAlarm, "-PT5M", []⟩
    let feed : Feed := ⟨"rota", "https://rota", [first], [mark, name, remind]⟩
    let starting (value : String) : Component :=
      ((Component.ofKind Calendar.eventKind).setValue "DTSTART" value).setValue "SUMMARY" "Tea"
    let events := [starting "20240103", starting "20240103", starting "20240105"]
    ChecksOnly .day feed ∧
      (pass feed events).map (fun event => (event.value? "SUMMARY", event.children.length)) =
        [(some "Tea!", 0), (some "Tea!", 0)] ∧
      pass { feed with modifiers := [mark, { name with action := .replace }] } events =
        pass feed events := by
  intro first mark name remind feed starting events
  have hrules : ChecksOnly .day feed := ⟨by decide, by decide⟩
  obtain ⟨_, _, hsame⟩ := guard_behind_rule_of_its_kind_is_dead .day feed hrules [mark] [remind]
    name rfl ⟨first, List.mem_cons_self, rfl⟩ (by decide) events
  exact ⟨hrules, by decide +kernel, hsame { name with action := .replace } [] rfl⟩

/-- A modifier that moves the start gives the guard a later day to read. -/
example :
    let first : Rule := ⟨"first", "", .firstOfDay, false, []⟩
    let feed : Feed := ⟨"rota", "https://rota", [first],
      [⟨"move", "DTSTART", .replace, "20240104", []⟩, ⟨"name", "SUMMARY", .append, "!", [first]⟩]⟩
    let event := (Component.ofKind Calendar.eventKind).setValue "DTSTART" "20240103"
    (pass feed [event]).map (fun event => event.value? "SUMMARY") = [some "!"] := by
  decide +kernel

end Almanac.Filter
