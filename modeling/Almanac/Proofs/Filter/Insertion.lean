import Almanac.Proofs.Filter.Agreement

/-!
# One more rule

A rule that is added to a feed may hit before the others are tried, so that a date check
which raised its mark before is not even reached. The two passes drift apart from there on,
but in one direction only: a mark of the larger feed never lies above the same mark of the
smaller one. Whatever fires in the smaller feed therefore fires in the larger one too.
-/

namespace Almanac.Filter

open Config (Feed Rule)
open Calendar (Component)

/-- On these parts, whatever lies above the mark of the second watermark lies above that of the
first. -/
def BelowOn (parts : DatePart → Prop) (low high : Watermark) : Prop :=
  ∀ u, parts u → ∀ n, isAbove (high.mark u) n = true → isAbove (low.mark u) n = true

/-- The feed with one more rule. -/
def withRule (feed : Feed) (position : Nat) (added : Rule) : Feed :=
  { feed with rules := feed.rules.insertIdx position added }

/-! ## Marks that rise -/

/-- A number lies above a mark that has been raised if it lies above the mark and above what has
raised it. -/
theorem isAbove_raise (mark : Option Int) (n k : Int) :
    isAbove (raise mark n) k = true ↔ isAbove mark k = true ∧ n < k := by
  cases mark with
  | none => simp [raise, isAbove]
  | some m =>
      by_cases habove : m < n
      · have hraised : raise (some m) n = some n := by simp [raise, isAbove, habove]
        rw [hraised]
        simp only [isAbove, decide_eq_true_eq]
        omega
      · have hsame : raise (some m) n = some m := by simp [raise, isAbove, habove]
        rw [hsame]
        simp only [isAbove, decide_eq_true_eq]
        omega

theorem isAbove_raiseBy (mark n? : Option Int) (k : Int) :
    isAbove (raiseBy mark n?) k = true ↔ isAbove mark k = true ∧ ∀ n, n? = some n → n < k := by
  cases n? with
  | none => simp [raiseBy]
  | some n => simp [raiseBy, isAbove_raise]

/-- What a rule leaves of a mark. -/
theorem mark_hits (u : DatePart) (rule : Rule) (event : Component) (w : Watermark) :
    (hits rule event w).2.mark u = raiseBy (w.mark u) (u.reading? rule event) := by
  unfold DatePart.reading?
  split
  next hcheck => exact (hits_of_check u rule event w hcheck).2
  next hcheck => exact hits_mark_of_ne u rule event w hcheck

namespace BelowOn

variable {parts : DatePart → Prop} {low high : Watermark}

/-- A rule that is tried on both sides raises both marks. -/
theorem after_hits (hbelow : BelowOn parts low high) (rule : Rule) (event : Component) :
    BelowOn parts (hits rule event low).2 (hits rule event high).2 := by
  intro u hu n hn
  rw [mark_hits, isAbove_raiseBy] at hn ⊢
  exact ⟨hbelow u hu n hn.1, hn.2⟩

/-- Rules that are tried on the higher side alone raise its marks further. -/
theorem after_anyHits_high (hbelow : BelowOn parts low high) (rules : List Rule)
    (event : Component) :
    BelowOn parts low (anyHits rules event high).2 := by
  induction rules generalizing high with
  | nil => exact hbelow
  | cons rule rules ih =>
      have hraised : BelowOn parts low (hits rule event high).2 := by
        intro u hu n hn
        rw [mark_hits, isAbove_raiseBy] at hn
        exact hbelow u hu n hn.1
      unfold anyHits
      split
      next w' hw' => rwa [hw'] at hraised
      next w' hw' =>
        rw [hw'] at hraised
        exact ih hraised

/-- A rule that is tried on the lower side alone may raise any mark but these. -/
theorem after_hits_low (hbelow : BelowOn parts low high) {rule : Rule}
    (hother : ∀ u, parts u → rule.check ≠ u.check) (event : Component) :
    BelowOn parts (hits rule event low).2 high := by
  intro u hu n hn
  rw [hits_mark_of_ne u rule event low (hother u hu)]
  exact hbelow u hu n hn

/-- What hits on the higher side hits on the lower one. -/
theorem hit_low (hbelow : BelowOn parts low high) {rule : Rule} {event : Component}
    (hparts : ∀ u : DatePart, rule.check = u.check → parts u)
    (hhit : (hits rule event high).1 = true) : (hits rule event low).1 = true := by
  by_cases hdate : ∃ u : DatePart, rule.check = u.check
  · obtain ⟨u, hu⟩ := hdate
    rw [(hits_of_check u rule event _ hu).1, Option.any_eq_true] at hhit ⊢
    obtain ⟨n, hn, habove⟩ := hhit
    exact ⟨n, hn, hbelow u (hparts u hu) n habove⟩
  · have hcomparing := isFirstOf_eq_false fun u hu => hdate ⟨u, hu⟩
    rwa [hits_of_comparing hcomparing event low high]

end BelowOn

/-! ## Rules tried in order -/

/-- Of two verdicts on an event, each with the marks that it leaves: the lower side keeps what the
higher one keeps, and stays below it. -/
structure KeepsBelow (parts : DatePart → Prop) (low high : Bool × Watermark) : Prop where
  kept : high.1 = true → low.1 = true
  below : BelowOn parts low.2 high.2

section Rules

variable {parts : DatePart → Prop} {low high : Watermark}

/-- A rule that is tried first on both sides. -/
theorem anyHits_cons_below {rule : Rule} {rules rules' : List Rule} {event : Component}
    (hbelow : BelowOn parts low high) (hparts : ∀ u : DatePart, rule.check = u.check → parts u)
    (hrest : ∀ {low high : Watermark}, BelowOn parts low high →
      KeepsBelow parts (anyHits rules' event low) (anyHits rules event high)) :
    KeepsBelow parts (anyHits (rule :: rules') event low) (anyHits (rule :: rules) event high) := by
  have hhit : (hits rule event high).1 = true → (hits rule event low).1 = true :=
    hbelow.hit_low hparts
  have hafter := hbelow.after_hits rule event
  have hnext := hrest hafter
  have hahead := hafter.after_anyHits_high rules event
  simp only [anyHits]
  generalize hits rule event low = first at hhit hafter hnext hahead
  generalize hits rule event high = first' at hhit hafter hnext hahead
  obtain ⟨hit, w⟩ := first
  obtain ⟨hit', w'⟩ := first'
  -- The lower side stops with the higher one, or before it, or both go on.
  cases hit' with
  | true =>
      obtain rfl : hit = true := hhit rfl
      exact ⟨id, hafter⟩
  | false =>
      cases hit with
      | true => exact ⟨fun _ => rfl, hahead⟩
      | false => exact hnext

/-- The same rules keep on the lower side what they keep on the higher one. -/
theorem anyHits_below (rules : List Rule) (event : Component) (hbelow : BelowOn parts low high)
    (hparts : ∀ u, ReadsPart rules u → parts u) :
    KeepsBelow parts (anyHits rules event low) (anyHits rules event high) := by
  induction rules generalizing low high with
  | nil => exact ⟨id, hbelow⟩
  | cons rule rules ih =>
      refine anyHits_cons_below hbelow (fun u hu => hparts u ⟨rule, List.mem_cons_self, hu⟩)
        fun hbelow => ih hbelow fun u hu => ?_
      obtain ⟨other, hother, hcheck⟩ := hu
      exact hparts u ⟨other, List.mem_cons_of_mem _ hother, hcheck⟩

/-- A rule that is tried first on the lower side alone, and reads none of these parts. -/
theorem anyHits_cons_added (rules : List Rule) (added : Rule) (event : Component)
    (hbelow : BelowOn parts low high) (hparts : ∀ u, ReadsPart rules u → parts u)
    (hother : ∀ u, parts u → added.check ≠ u.check) :
    KeepsBelow parts (anyHits (added :: rules) event low) (anyHits rules event high) := by
  have hafter := hbelow.after_hits_low hother event
  rw [anyHits.eq_2]
  split
  next w hw =>
    rw [hw] at hafter
    exact ⟨fun _ => rfl, hafter.after_anyHits_high rules event⟩
  next w hw =>
    rw [hw] at hafter
    exact anyHits_below rules event hafter hparts

theorem anyHits_insertIdx (rules : List Rule) (position : Nat) (added : Rule) (event : Component)
    (hbelow : BelowOn parts low high) (hparts : ∀ u, ReadsPart rules u → parts u)
    (hother : ∀ u, parts u → added.check ≠ u.check) :
    KeepsBelow parts (anyHits (rules.insertIdx position added) event low)
      (anyHits rules event high) := by
  induction rules generalizing position low high with
  | nil =>
      cases position with
      | zero => exact anyHits_cons_added [] added event hbelow hparts hother
      | succ position => exact ⟨id, hbelow⟩
  | cons rule rules ih =>
      cases position with
      | zero => exact anyHits_cons_added (rule :: rules) added event hbelow hparts hother
      | succ position =>
          refine anyHits_cons_below hbelow (fun u hu => hparts u ⟨rule, List.mem_cons_self, hu⟩)
            fun hbelow => ih position hbelow fun u hu => ?_
          obtain ⟨other, hmem, hcheck⟩ := hu
          exact hparts u ⟨other, List.mem_cons_of_mem _ hmem, hcheck⟩

theorem keeps_insertIdx {rules : List Rule} (hrules : rules ≠ []) (position : Nat) (added : Rule)
    (event : Component) (hbelow : BelowOn (ReadsPart rules) low high)
    (hother : ∀ u, ReadsPart rules u → added.check ≠ u.check) :
    KeepsBelow (ReadsPart rules) (keeps (rules.insertIdx position added) event low)
      (keeps rules event high) := by
  have hlarger : rules.insertIdx position added ≠ [] := by
    cases rules with
    | nil => exact absurd rfl hrules
    | cons rule rules => cases position <;> simp
  simp only [keeps, List.isEmpty_iff, hrules, hlarger, if_false]
  exact anyHits_insertIdx rules position added event hbelow (fun _ hu => hu) hother

end Rules

/-! ## Feeds -/

/-- A feed keeps what another one keeps, from the same marks or lower ones, if its rules do so for
every event and the guards of both leave these marks alone. -/
theorem keepsAt_of_below (feed feed' : Feed) {parts : DatePart → Prop}
    (hguards : ∀ u, parts u → ∀ m ∈ feed.modifiers, ∀ guard ∈ m.guards, guard.check ≠ u.check)
    (hguards' : ∀ u, parts u → ∀ m ∈ feed'.modifiers, ∀ guard ∈ m.guards, guard.check ≠ u.check)
    (hkeeps : ∀ (event : Component) {low high : Watermark}, BelowOn parts low high →
      KeepsBelow parts (keeps feed'.rules event low) (keeps feed.rules event high))
    (events : List Component) {low high : Watermark} (hbelow : BelowOn parts low high) (i : Nat)
    (hkept : keepsAt feed events high i = true) : keepsAt feed' events low i = true := by
  induction events generalizing low high i with
  | nil => cases hkept
  | cons event events ih =>
      obtain ⟨hfirst, hafter⟩ := hkeeps event hbelow
      cases i with
      | zero =>
          rw [keepsAt_zero, passEvent_isSome] at hkept ⊢
          exact hfirst hkept
      | succ i =>
          rw [keepsAt_succ] at hkept ⊢
          refine ih (fun u hu n hn => ?_) i hkept
          rw [passEvent_mark u feed event high (hguards u hu)] at hn
          rw [passEvent_mark u feed' event low (hguards' u hu)]
          exact hafter u hu n hn

/-- The feed with one more rule keeps what the feed keeps, from the same marks or lower ones. -/
theorem keepsAt_withRule {feed : Feed} (hrules : feed.rules ≠ []) (hapart : ChecksApart feed)
    (position : Nat) {added : Rule}
    (hother : ∀ u, ReadsPart feed.rules u → added.check ≠ u.check) (events : List Component)
    {low high : Watermark} (hbelow : BelowOn (ReadsPart feed.rules) low high) (i : Nat)
    (hkept : keepsAt feed events high i = true) :
    keepsAt (withRule feed position added) events low i = true := by
  -- Both feeds have the same guards, and these leave the marks of the smaller one's rules alone.
  have hguards : ∀ u, ReadsPart feed.rules u →
      ∀ m ∈ feed.modifiers, ∀ guard ∈ m.guards, guard.check ≠ u.check :=
    fun u hu => hapart.guard_check_ne hu
  refine keepsAt_of_below feed (withRule feed position added) hguards hguards
    (fun event _ _ hbelow => ?_) events hbelow i hkept
  exact keeps_insertIdx hrules position added event hbelow hother

/-- One more rule loses no event. Where the guards of a feed have no date check in common with its
rules, every event that the feed keeps is kept as well when a rule is put in anywhere among the
others, be it a comparing rule or a date check that the others do not use. -/
theorem added_rule_loses_no_event (feed : Feed) (hrules : feed.rules ≠ [])
    (hapart : ChecksApart feed) (position : Nat) (added : Rule)
    (hadded : added.check.isFirstOf = true → ∀ rule ∈ feed.rules, rule.check ≠ added.check)
    (events : List Component) :
    let larger := withRule feed position added
    pass feed events = (fates feed events ∅).reduceOption ∧
      pass larger events = (fates larger events ∅).reduceOption ∧
      ∀ i, keepsAt feed events ∅ i = true → keepsAt larger events ∅ i = true := by
  intro larger
  have hother : ∀ u, ReadsPart feed.rules u → added.check ≠ u.check := by
    rintro u ⟨rule, hrule, hcheck⟩ heq
    exact hadded (heq ▸ isFirstOf_check u) rule hrule (hcheck.trans heq.symm)
  exact ⟨passFrom_eq_fates feed events ∅, passFrom_eq_fates larger events ∅,
    keepsAt_withRule hrules hapart position hother events fun _ _ _ hn => hn⟩

theorem added_month_rule_loses_no_event :
    let feed : Feed := ⟨"rota", "https://rota",
      [⟨"late", "SUMMARY", .contains, false, ["late"]⟩, ⟨"first", "", .firstOfDay, false, []⟩],
      [⟨"move", "DTSTART", .replace, "20240131", [⟨"month", "", .firstOfMonth, false, []⟩]⟩]⟩
    let added : Rule := ⟨"month", "", .firstOfMonth, false, []⟩
    let starting (value : String) : Component :=
      (Component.ofKind Calendar.eventKind).setValue "DTSTART" value
    let events := [starting "20240305", starting "20240103", starting "20240107"]
    feed.rules ≠ [] ∧ ChecksApart feed ∧
      (added.check.isFirstOf = true → ∀ rule ∈ feed.rules, rule.check ≠ added.check) ∧
      keepsAt feed events ∅ 2 = true ∧ keepsAt (withRule feed 1 added) events ∅ 2 = true := by
  intro feed added starting events
  have hrules : feed.rules ≠ [] := by decide
  have hapart : ChecksApart feed := by decide
  have hadded : added.check.isFirstOf = true →
      ∀ rule ∈ feed.rules, rule.check ≠ added.check := by decide
  have hkept : keepsAt feed events ∅ 2 = true := by decide
  exact ⟨hrules, hapart, hadded, hkept,
    (added_rule_loses_no_event feed hrules hapart 1 added hadded events).2.2 2 hkept⟩

/-- A date check that the rules use already may lose an event: it fires where another rule has kept
the event without raising the mark. -/
example :
    let feed : Feed := ⟨"rota", "https://rota",
      [⟨"late", "SUMMARY", .contains, false, ["late"]⟩, ⟨"first", "", .firstOfDay, false, []⟩], []⟩
    let starting (value summary : String) : Component :=
      ((Component.ofKind Calendar.eventKind).setValue "DTSTART" value).setValue "SUMMARY" summary
    let events := [starting "20240105" "late", starting "20240103" "early"]
    keepsAt feed events ∅ 1 = true ∧
      keepsAt (withRule feed 0 ⟨"again", "", .firstOfDay, false, []⟩) events ∅ 1 = false := by
  decide

end Almanac.Filter
