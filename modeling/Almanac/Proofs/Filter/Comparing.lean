import Almanac.Filter.Evaluation

/-!
# Comparing rules

A rule whose check is no date check looks for its values in one property of the event. All
that such a rule can do is told once: it fails where the event lacks the property, and else
hits if a value is found there, or for a negation if none is. The watermark plays no part.
-/

namespace Almanac.Filter

open Config (Check Rule)
open Calendar (Component)

/-- The value is found in the text, in the way of the rule: as a part of it, or as the whole. -/
def finds (rule : Rule) (text v : String) : Bool :=
  match rule.check with
  | .contains | .notContains =>
    Text.hasInfix (rule.transform v).toList (rule.transform text).toList
  | _ => rule.transform text == rule.transform v

/-- The check hits if nothing is found. -/
def isNegation : Check → Bool
  | .notContains | .notEquals => true
  | _ => false

/-- A comparing rule can be evaluated on an event that has the property, and leaves the watermark
alone. It hits if a value is found, or for a negation if none is. -/
theorem evaluate_comparing {rule : Rule} (hcheck : rule.check.isFirstOf = false)
    (event : Component) (w : Watermark) :
    evaluate rule event w =
      match event.value? rule.field with
      | some text => .ok (rule.values.any (finds rule text) != isNegation rule.check, w)
      | none => .error (.missingField rule.field) := by
  unfold evaluate
  cases hkind : rule.check with
  | firstOfDay | firstOfMonth | firstOfYear =>
      rw [hkind] at hcheck
      cases hcheck
  | contains | notContains =>
      unfold containsAny fieldText finds
      rw [hkind]
      cases event.value? rule.field with
      | none => rfl
      | some text => simp [isNegation, bind, Except.bind, pure, Except.pure]
  | equals | notEquals =>
      unfold equalsAny fieldText finds
      rw [hkind]
      cases event.value? rule.field with
      | none => rfl
      | some text => simp [isNegation, bind, Except.bind, pure, Except.pure]

theorem hits_comparing {rule : Rule} (hcheck : rule.check.isFirstOf = false) (event : Component)
    (w : Watermark) :
    (hits rule event w).1 = (event.value? rule.field).any fun text =>
      rule.values.any (finds rule text) != isNegation rule.check := by
  rw [hits, evaluate_comparing hcheck]
  cases event.value? rule.field <;> rfl

/-- A comparing rule pays no attention to marks. -/
theorem hits_of_comparing {rule : Rule} (hcheck : rule.check.isFirstOf = false)
    (event : Component) (w w' : Watermark) :
    (hits rule event w).1 = (hits rule event w').1 := by
  rw [hits_comparing hcheck, hits_comparing hcheck]

end Almanac.Filter
