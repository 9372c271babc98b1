import Almanac.Proofs.Filter.Comparing
import Almanac.Proofs.Text.Lowering

/-!
# Rules that ignore case

A comparing rule that ignores case compares the lower-case forms of whole texts. Texts that
are equal have equal forms, so an `EQUALS` rule hits more when it ignores case, and its
negation less. A text that contains another need not contain its form: a capital sigma that
ends a word in the rule may stand inside a word of the event. Where the sigmas of a value
end words in both or in neither, `CONTAINS` behaves as `EQUALS` does.
-/

namespace Almanac.Filter

open Config (Check Rule)
open Calendar (Component)
open Text (OccursAlike)

/-- The rule with another check, taking account of case or not. -/
def asking (rule : Rule) (check : Check) (caseSensitive : Bool) : Rule :=
  { rule with check := check, caseSensitive := caseSensitive }

/-- If values of the rule occur in its property, then one of them occurs alike. -/
def ReadsAlike (rule : Rule) (event : Component) : Prop :=
  ∀ text, event.value? rule.field = some text →
    (∃ v ∈ rule.values, Text.hasInfix v.toList text.toList = true) →
      ∃ v ∈ rule.values, OccursAlike v.toList text.toList

/-! ## Wider rules -/

/-- If one rule finds a value wherever another does, it hits wherever that one does, and the other
way round for negations. -/
theorem hits_of_finds (rule wider : Rule) (event : Component) (w : Watermark)
    (hcheck : wider.check = rule.check)
    (hfield : wider.field = rule.field) (hcomparing : rule.check.isFirstOf = false)
    (hfinds : ∀ text, event.value? rule.field = some text →
      rule.values.any (finds rule text) = true → wider.values.any (finds wider text) = true) :
    (isNegation rule.check = false → (hits rule event w).1 = true →
        (hits wider event w).1 = true) ∧
      (isNegation rule.check = true → (hits wider event w).1 = true →
        (hits rule event w).1 = true) := by
  rw [hits_comparing hcomparing, hits_comparing (hcheck ▸ hcomparing), hcheck, hfield]
  cases htext : event.value? rule.field with
  | none => exact ⟨fun _ => id, fun _ => id⟩
  | some text =>
      have hwider := hfinds text htext
      simp only [Option.any_some]
      refine ⟨fun hplain => ?_, fun hnegation => ?_⟩
      · rw [hplain, Bool.bne_false, Bool.bne_false]
        exact hwider
      · rw [hnegation, Bool.bne_true, Bool.bne_true, Bool.not_eq_true', Bool.not_eq_true']
        exact fun hnone => Bool.eq_false_iff.mpr fun hsome => by
          rw [hwider hsome] at hnone
          cases hnone

/-! ## One rule, asked both ways -/

/-- Equal texts stay equal. -/
theorem finds_whole {rule : Rule} {check : Check} (hcheck : check = .equals ∨ check = .notEquals)
    {text : String} (hfound : rule.values.any (finds (asking rule check true) text) = true) :
    rule.values.any (finds (asking rule check false) text) = true := by
  obtain ⟨v, hv, hfound⟩ := List.any_eq_true.mp hfound
  have heq : text = v := by
    rcases hcheck with rfl | rfl <;> simpa [finds, asking, Rule.transform] using hfound
  refine List.any_eq_true.mpr ⟨v, hv, ?_⟩
  rcases hcheck with rfl | rfl <;> simp [finds, asking, heq]

/-- A part that keeps its sigmas stays a part. -/
theorem finds_part {rule : Rule} {event : Component} (halike : ReadsAlike rule event)
    {check : Check} (hcheck : check = .contains ∨ check = .notContains) {text : String}
    (htext : event.value? rule.field = some text)
    (hfound : rule.values.any (finds (asking rule check true) text) = true) :
    rule.values.any (finds (asking rule check false) text) = true := by
  have hoccurs : ∃ v ∈ rule.values, Text.hasInfix v.toList text.toList = true := by
    obtain ⟨v, hv, hfound⟩ := List.any_eq_true.mp hfound
    refine ⟨v, hv, ?_⟩
    rcases hcheck with rfl | rfl <;> simpa [finds, asking, Rule.transform] using hfound
  obtain ⟨v, hv, hv'⟩ := halike text htext hoccurs
  refine List.any_eq_true.mpr ⟨v, hv, ?_⟩
  have hlower := Text.hasInfix_lower hv'
  rcases hcheck with rfl | rfl <;>
    simpa [finds, asking, Rule.transform, Text.lowerString] using hlower

theorem readsAlike_of_not_mem {rule : Rule} (hsigma : ∀ v ∈ rule.values, 'Σ' ∉ v.toList)
    (event : Component) : ReadsAlike rule event := by
  rintro text - ⟨v, hv, hoccurs⟩
  exact ⟨v, hv, Text.occursAlike_of_not_mem (hsigma v hv) hoccurs⟩

/-- To ignore case only widens a match. A rule that compares whole texts hits without regard to case
whenever it hits with regard to it, and its negation hits with regard to case whenever it hits
without. The same holds of a rule that looks for a part of the text, if a value that occurs in the
text occurs there with each capital sigma at the end of a word just if it ends a word of the value;
values without capital sigmas occur like this wherever they do. -/
theorem ignoring_case_widens (rule : Rule) (event : Component) (w : Watermark) :
    let hitsWhen (check : Check) (caseSensitive : Bool) : Bool :=
      (hits (asking rule check caseSensitive) event w).1
    (hitsWhen .equals true = true → hitsWhen .equals false = true) ∧
      (hitsWhen .notEquals false = true → hitsWhen .notEquals true = true) ∧
      (ReadsAlike rule event →
        (hitsWhen .contains true = true → hitsWhen .contains false = true) ∧
          (hitsWhen .notContains false = true → hitsWhen .notContains true = true)) ∧
      ((∀ v ∈ rule.values, 'Σ' ∉ v.toList) → ReadsAlike rule event) := by
  intro hitsWhen
  have hwhole {check : Check} (hcheck : check = .equals ∨ check = .notEquals) :=
    hits_of_finds (asking rule check true) (asking rule check false) event w rfl rfl
      (by rcases hcheck with rfl | rfl <;> rfl) fun _ _ hfound => finds_whole hcheck hfound
  have hpart (halike : ReadsAlike rule event) {check : Check}
      (hcheck : check = .contains ∨ check = .notContains) :=
    hits_of_finds (asking rule check true) (asking rule check false) event w rfl rfl
      (by rcases hcheck with rfl | rfl <;> rfl) fun _ htext hfound =>
        finds_part halike hcheck htext hfound
  refine ⟨(hwhole (.inl rfl)).1 rfl, (hwhole (.inr rfl)).2 rfl, fun halike => ⟨?_, ?_⟩,
    fun hsigma => readsAlike_of_not_mem hsigma event⟩
  · exact (hpart halike (.inl rfl)).1 rfl
  · exact (hpart halike (.inr rfl)).2 rfl

/-- A value that ends in a capital sigma occurs at the end of a word. -/
theorem sigma_at_word_end_keeps_match :
    let rule : Rule := ⟨"street", "LOCATION", .contains, true, ["ΟΔΟΣ"]⟩
    let event := (Component.ofKind Calendar.eventKind).setValue "LOCATION" "Η ΟΔΟΣ 5"
    ReadsAlike rule event ∧ (hits (asking rule .contains true) event ∅).1 = true ∧
      (hits (asking rule .contains false) event ∅).1 = true := by
  intro rule event
  have halike : ReadsAlike rule event := by
    rintro text htext -
    obtain rfl : "Η ΟΔΟΣ 5" = text := Option.some.inj htext
    refine ⟨"ΟΔΟΣ", List.mem_singleton_self _, "Η ".toList, " 5".toList, rfl, ?_⟩
    rw [← Text.lowerWithin_eq_lower_iff]
    decide +kernel
  have hhit : (hits (asking rule .contains true) event ∅).1 = true := by decide +kernel
  exact ⟨halike, hhit, ((ignoring_case_widens rule event ∅).2.2.1 halike).1 hhit⟩

/-- A value that ends in a capital sigma is found inside a word, but not without regard to case: its
own sigma ends a word, and that of the text does not. -/
theorem sigma_inside_word_loses_match :
    let rule : Rule := ⟨"letters", "SUMMARY", .contains, true, ["ΑΣ"]⟩
    let event := (Component.ofKind Calendar.eventKind).setValue "SUMMARY" "ΑΣΑ"
    (hits (asking rule .contains true) event ∅).1 = true ∧
      (hits (asking rule .contains false) event ∅).1 = false ∧
      (hits (asking rule .notContains false) event ∅).1 = true ∧
      (hits (asking rule .notContains true) event ∅).1 = false := by
  decide +kernel

end Almanac.Filter
