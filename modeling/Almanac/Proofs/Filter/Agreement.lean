import Almanac.Proofs.Filter.Comparing
import Almanac.Proofs.Filter.Dropped

/-!
# Feeds that keep the same events

Two passes over the same events drift apart where the guards of one of them raise marks. As
long as both agree on the marks that the rules look at, an event is kept in both or in
neither, and they still agree on those marks afterwards.
-/

namespace Almanac.Filter

open Config (Check Feed Modifier Rule)
open Calendar (Component)

/-- One of the rules reads this part. -/
def ReadsPart (rules : List Rule) (u : DatePart) : Prop := ∃ rule ∈ rules, rule.check = u.check

/-- The watermarks have the same marks for these parts. -/
def AgreeOn (parts : DatePart → Prop) (w w' : Watermark) : Prop :=
  ∀ u, parts u → w.mark u = w'.mark u

/-- No date check is used both by a rule of the feed and by a guard of its modifiers. -/
def ChecksApart (feed : Feed) : Prop :=
  ∀ rule ∈ feed.rules, rule.check.isFirstOf = true →
    ∀ m ∈ feed.modifiers, ∀ guard ∈ m.guards, guard.check ≠ rule.check

instance (feed : Feed) : Decidable (ChecksApart feed) :=
  inferInstanceAs (Decidable (∀ rule ∈ feed.rules, rule.check.isFirstOf = true →
    ∀ m ∈ feed.modifiers, ∀ guard ∈ m.guards, guard.check ≠ rule.check))

namespace AgreeOn

variable {parts : DatePart → Prop} {w₁ w₂ w₃ : Watermark}

theorem symm (hagree : AgreeOn parts w₁ w₂) : AgreeOn parts w₂ w₁ :=
  fun u hu => (hagree u hu).symm

theorem trans (hfirst : AgreeOn parts w₁ w₂) (hsecond : AgreeOn parts w₂ w₃) :
    AgreeOn parts w₁ w₃ :=
  fun u hu => (hfirst u hu).trans (hsecond u hu)

end AgreeOn

theorem isFirstOf_check (u : DatePart) : u.check.isFirstOf = true := by
  cases u <;> rfl

/-- A check that reads no part of a date. -/
theorem isFirstOf_eq_false {check : Check} (hcheck : ∀ u : DatePart, check ≠ u.check) :
    check.isFirstOf = false := by
  cases check with
  | firstOfDay => exact absurd rfl (hcheck .day)
  | firstOfMonth => exact absurd rfl (hcheck .month)
  | firstOfYear => exact absurd rfl (hcheck .year)
  | _ => rfl

/-! ## Rules -/

section Rules

variable {parts : DatePart → Prop} {w w' : Watermark}

/-- A rule that looks at marks on which two watermarks agree does the same with both. -/
theorem hits_agree (rule : Rule) (event : Component) (hagree : AgreeOn parts w w')
    (hparts : ∀ u : DatePart, rule.check = u.check → parts u) :
    (hits rule event w).1 = (hits rule event w').1 ∧
      AgreeOn parts (hits rule event w).2 (hits rule event w').2 := by
  by_cases hdate : ∃ u : DatePart, rule.check = u.check
  · obtain ⟨u, hu⟩ := hdate
    obtain ⟨hhit, _⟩ := hits_of_check u rule event w hu
    obtain ⟨hhit', _⟩ := hits_of_check u rule event w' hu
    refine ⟨?_, fun v hv => ?_⟩
    · rw [hhit, hhit', hagree u (hparts u hu)]
    · by_cases hcheck : rule.check = v.check
      · rw [(hits_of_check v rule event w hcheck).2, (hits_of_check v rule event w' hcheck).2,
          hagree v hv]
      · rw [hits_mark_of_ne v rule event w hcheck, hits_mark_of_ne v rule event w' hcheck,
          hagree v hv]
  · have hcomparing : ∀ u : DatePart, rule.check ≠ u.check := fun u hu => hdate ⟨u, hu⟩
    refine ⟨hits_of_comparing (isFirstOf_eq_false hcomparing) event w w', fun v hv => ?_⟩
    rw [hits_mark_of_ne v rule event w (hcomparing v),
      hits_mark_of_ne v rule event w' (hcomparing v), hagree v hv]

theorem anyHits_agree (rules : List Rule) (event : Component) (hagree : AgreeOn parts w w')
    (hparts : ∀ u, ReadsPart rules u → parts u) :
    (anyHits rules event w).1 = (anyHits rules event w').1 ∧
      AgreeOn parts (anyHits rules event w).2 (anyHits rules event w').2 := by
  induction rules generalizing w w' with
  | nil => exact ⟨rfl, hagree⟩
  | cons rule rules ih =>
      obtain ⟨hhit, hafter⟩ := hits_agree rule event hagree fun u hu =>
        hparts u ⟨rule, List.mem_cons_self, hu⟩
      have hrest := ih hafter fun u hu => by
        obtain ⟨other, hother, hcheck⟩ := hu
        exact hparts u ⟨other, List.mem_cons_of_mem _ hother, hcheck⟩
      unfold anyHits
      generalize hits rule event w = first at hhit hafter hrest
      generalize hits rule event w' = first' at hhit hafter hrest
      obtain ⟨hit, w₁⟩ := first
      obtain ⟨hit', w₁'⟩ := first'
      obtain rfl : hit = hit' := hhit
      cases hit with
      | true => exact ⟨rfl, hafter⟩
      | false => exact hrest

theorem keeps_agree (rules : List Rule) (event : Component) (hagree : AgreeOn parts w w')
    (hparts : ∀ u, ReadsPart rules u → parts u) :
    (keeps rules event w).1 = (keeps rules event w').1 ∧
      AgreeOn parts (keeps rules event w).2 (keeps rules event w').2 := by
  unfold keeps
  split
  · exact ⟨rfl, hagree⟩
  · exact anyHits_agree rules event hagree hparts

end Rules

/-! ## Feeds -/

/-- A mark that no guard looks at is left as the rules have left it. -/
theorem passEvent_mark (u : DatePart) (feed : Feed) (event : Component) (w : Watermark)
    (hguards : ∀ m ∈ feed.modifiers, ∀ guard ∈ m.guards, guard.check ≠ u.check) :
    (passEvent feed event w).2.mark u = (keeps feed.rules event w).2.mark u := by
  unfold passEvent
  split
  next w' hw' => rw [hw']
  next w' hw' =>
    rw [hw']
    exact modifyAll_mark u feed.modifiers event w' hguards

/-- No guard looks at a part that the rules read. -/
theorem ChecksApart.guard_check_ne {feed : Feed} (hapart : ChecksApart feed) {u : DatePart}
    (hu : ReadsPart feed.rules u) :
    ∀ m ∈ feed.modifiers, ∀ guard ∈ m.guards, guard.check ≠ u.check := by
  obtain ⟨rule, hrule, hcheck⟩ := hu
  rw [← hcheck]
  exact hapart rule hrule (hcheck ▸ isFirstOf_check u)

/-- Guards that have no check in common with the rules leave the marks of the rules alone. -/
theorem passEvent_agree {feed : Feed} (hapart : ChecksApart feed) (event : Component)
    (w : Watermark) :
    AgreeOn (ReadsPart feed.rules) (passEvent feed event w).2 (keeps feed.rules event w).2 :=
  fun u hu => passEvent_mark u feed event w (hapart.guard_check_ne hu)

/-- Feeds with the same rules, whose guards leave the marks of these rules alone, keep the same
events. -/
theorem keepsAt_eq {feed feed' : Feed} (hrules : feed.rules = feed'.rules)
    (hapart : ChecksApart feed) (hapart' : ChecksApart feed') (events : List Component)
    {w w' : Watermark} (hagree : AgreeOn (ReadsPart feed.rules) w w') (i : Nat) :
    keepsAt feed events w i = keepsAt feed' events w' i := by
  induction events generalizing w w' i with
  | nil => rfl
  | cons event events ih =>
      obtain ⟨hkept, hafter⟩ := keeps_agree feed.rules event hagree fun _ hu => hu
      cases i with
      | zero => rw [keepsAt_zero, keepsAt_zero, passEvent_isSome, passEvent_isSome, hkept, hrules]
      | succ i =>
          -- Each pass agrees with its rules alone, and these agree with each other.
          have hfirst := passEvent_agree hapart event w
          have hsecond := passEvent_agree hapart' event w'
          rw [← hrules] at hsecond
          rw [keepsAt_succ, keepsAt_succ]
          exact ih (hfirst.trans (hafter.trans hsecond.symm)) i

/-- Modifiers do not decide which events are kept, whatever they rewrite, as long as their guards
have no date check in common with the rules. So the feed without its modifiers gives the events
that the feed keeps, as they were. -/
theorem modifiers_do_not_decide (feed : Feed) (hapart : ChecksApart feed)
    (events : List Component) :
    let bare : Feed := { feed with modifiers := [] }
    pass feed events = (fates feed events ∅).reduceOption ∧
      (∀ i, keepsAt feed events ∅ i = keepsAt bare events ∅ i) ∧
      pass bare events = survivors feed events := by
  intro bare
  have hbare : ChecksApart bare := by
    intro rule _ _ m hm
    cases hm
  have hrules : feed.rules = bare.rules := rfl
  have hpositions : keepsAt feed events ∅ = keepsAt bare events ∅ := by
    funext i
    exact keepsAt_eq hrules hapart hbare events (fun _ _ => rfl) i
  refine ⟨passFrom_eq_fates feed events ∅, fun i => congrFun hpositions i, ?_⟩
  unfold survivors
  rw [hpositions]
  exact passFrom_of_no_modifiers rfl events ∅

theorem month_guard_does_not_decide :
    let feed : Feed := ⟨"rota", "https://rota", [⟨"first", "", .firstOfDay, false, []⟩],
      [⟨"move", "DTSTART", .replace, "20240131", [⟨"month", "", .firstOfMonth, false, []⟩]⟩]⟩
    let starting (value : String) : Component :=
      (Component.ofKind Calendar.eventKind).setValue "DTSTART" value
    let events := [starting "20240103", starting "20240101", starting "20240205"]
    ChecksApart feed ∧ keepsAt feed events ∅ 2 = true ∧
      keepsAt { feed with modifiers := [] } events ∅ 2 = true := by
  intro feed starting events
  have hapart : ChecksApart feed := by decide
  have hkept : keepsAt { feed with modifiers := [] } events ∅ 2 = true := by decide
  exact ⟨hapart, ((modifiers_do_not_decide feed hapart events).2.1 2).trans hkept, hkept⟩

end Almanac.Filter
